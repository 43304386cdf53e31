import ScriptBundle.Bundle.Template
import ScriptBundle.Payload.Basic

namespace ScriptBundle

/-- A bundle with its payloads taken out: its text with a mark for each of them, and the modules by
their names as spelled. -/
structure Contents where
  text : List Char
  modules : List (String × String)

namespace Contents

/-- What stands before and behind the first occurrence of a text. -/
def splitAtFirst? (part : List Char) : List Char → Option (List Char × List Char)
  | [] => if part.isEmpty then some ([], []) else none
  | c :: text =>
    if part.isPrefixOf (c :: text) then some ([], (c :: text).drop part.length)
    else (splitAtFirst? part text).map fun (before, behind) => (c :: before, behind)

def splitAtLast? (part text : List Char) : Option (List Char × List Char) :=
  (splitAtFirst? part.reverse text.reverse).map fun (behind, before) =>
    (before.reverse, behind.reverse)

/-- What stands at the start of a registration, between its literals, and at its end. -/
def registrationStart : List Char :=
  (Template.indentation ++ Template.registerFunction ++ "(\"").toList

def literalSeparator : List Char := "\", \"".toList

def registrationEnd : List Char := "\")".toList

/-- The name and the payload in a line, if it is a registration. -/
def registered? (line : List Char) : Option (List Char × List Char) := do
  guard (registrationStart.isPrefixOf line)
  let inner := line.drop registrationStart.length
  guard (registrationEnd.isSuffixOf inner)
  splitAtLast? literalSeparator (inner.take (inner.length - registrationEnd.length))

def payloadMark : List Char := "<payload>".toList

/-- Take registrations off the front of a text, a line at a time. -/
def takeRegistrations : Nat → List Char → Contents
  | 0, text => ⟨text, []⟩
  | lines + 1, text =>
    let line := text.takeWhile (· ≠ '\n')
    match registered? line with
    | none => ⟨text, []⟩
    | some (name, payload) =>
      match Payload.decode (String.ofList payload) with
      | .error _ => ⟨text, []⟩
      | .ok source =>
        let behind := text.drop line.length
        let rest := takeRegistrations lines (behind.drop 1)
        ⟨registrationStart ++ name ++ literalSeparator ++ payloadMark ++ registrationEnd
            ++ behind.take 1 ++ rest.text,
          (String.ofList name, source) :: rest.modules⟩

/-- Read a text. One without the opening is no bundle and has no modules. -/
def ofBundle (text : String) : Contents :=
  let part := Template.opening.toList
  match splitAtFirst? part text.toList with
  | none => ⟨text.toList, []⟩
  | some (before, behind) =>
    let rest := takeRegistrations (behind.length + 1) behind
    ⟨before ++ part ++ rest.text, rest.modules⟩

end Contents

end ScriptBundle
