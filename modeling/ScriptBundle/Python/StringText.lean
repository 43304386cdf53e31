import ScriptBundle.Python.Token
import ScriptBundle.Text.CharacterName

/-!
# The text of string literals

`StringText.decode` reads the escapes of a literal's text as written. A fault is given as the number
of characters before it.
-/

namespace ScriptBundle.Python.StringText

open ScriptBundle.Text

/-- What an escape stands for, and how many characters it takes behind the backslash. -/
structure Escape where
  value : List Char
  length : Nat

/-- The number of hexadecimal digits wanted after the letter of an escape. The fault is where the
next digit should stand. -/
def hexValue (wanted : Nat) (text : List Char) : Except Nat Nat :=
  let digits := (text.take wanted).takeWhile (fun c => (hexDigit? c).isSome)
  if digits.length = wanted then .ok (hexNumber digits) else .error digits.length

/-- The character with a given number. A surrogate becomes the replacement character. -/
def character? (code : Nat) : Option Char :=
  if 0xD800 ≤ code ∧ code ≤ 0xDFFF then some '\uFFFD'
  else if code < 0x110000 then some (Char.ofNat code)
  else none

/-- A character by its number in `wanted` hexadecimal digits, behind the letter of the escape. -/
def numbered (wanted : Nat) (text : List Char) : Except Nat Escape :=
  match hexValue wanted text with
  | .error n => .error (n + 1)
  | .ok code =>
    match character? code with
    | some c => .ok ⟨[c], wanted + 1⟩
    | none => .error (wanted + 1)

/-- A character by its name in braces, behind the letter of the escape. -/
def named (text : List Char) : Except Nat Escape :=
  match text with
  | '{' :: inner =>
    let name := inner.takeWhile (· ≠ '}')
    if name.length = inner.length then .error 2
    else
      match characterNamed? name with
      | some c => .ok ⟨[c], name.length + 3⟩
      | none => .error 2
  | [] => .error 1
  | _ => .error 2

/-- The escape behind a backslash. An unknown escape stands for itself with the backslash; bytes
know no characters by number or name. -/
def escape (isBytes : Bool) : List Char → Except Nat Escape
  | [] => .error 0
  | '\r' :: '\n' :: _ => .ok ⟨[], 2⟩
  | c :: rest =>
    match c with
    | '\\' | '\'' | '"' => .ok ⟨[c], 1⟩
    | 'a' => .ok ⟨['\x07'], 1⟩
    | 'b' => .ok ⟨['\x08'], 1⟩
    | 'f' => .ok ⟨['\x0c'], 1⟩
    | 'n' => .ok ⟨['\n'], 1⟩
    | 'r' => .ok ⟨['\r'], 1⟩
    | 't' => .ok ⟨['\t'], 1⟩
    | 'v' => .ok ⟨['\x0b'], 1⟩
    | '\n' | '\r' => .ok ⟨[], 1⟩
    | 'x' => numbered 2 rest
    | 'u' => if isBytes then .ok ⟨['\\', c], 1⟩ else numbered 4 rest
    | 'U' => if isBytes then .ok ⟨['\\', c], 1⟩ else numbered 8 rest
    | 'N' => if isBytes then .ok ⟨['\\', c], 1⟩ else named rest
    | _ =>
      if '0' ≤ c ∧ c ≤ '7' then
        let digits := c :: (rest.take 2).takeWhile (fun c => '0' ≤ c && c ≤ '7')
        let code := digits.foldl (fun n d => 8 * n + (d.toNat - '0'.toNat)) 0
        .ok ⟨[Char.ofNat code], digits.length⟩
      else .ok ⟨['\\', c], 1⟩

/-- Text with its escapes read, `offset` characters into the literal's text. -/
def unescape (isBytes : Bool) (offset : Nat) : List Char → Except Nat (List Char)
  | [] => .ok []
  | c :: rest =>
    if c = '\\' then
      match escape isBytes rest with
      | .error n => .error (offset + 1 + n)
      | .ok e => do
        let behind ← unescape isBytes (offset + 1 + e.length) (rest.drop e.length)
        .ok (e.value ++ behind)
    else do
      let behind ← unescape isBytes (offset + 1) rest
      .ok (c :: behind)
termination_by text => text.length
decreasing_by all_goals (simp only [List.length_drop, List.length_cons]; omega)

/-- The characters of a text literal, or of bytes one for each byte. -/
def decode (form : StringForm) (text : List Char) : Except Nat (List Char) :=
  let isBytes := form.flavour = .bytes
  match if isBytes then text.findIdx? (fun c => 128 ≤ c.toNat) else none with
  | some n => .error n
  | none => if form.raw then .ok text else unescape isBytes 0 text

/-- What the first character of text between replacement fields stands for, and how many characters
behind it belong to it. Doubled braces are single ones outside format specifications. A backslash
at the end of the text, or before a brace, stands for itself. -/
def partEscape (form : StringForm) (inSpec : Bool) (c : Char) (rest : List Char) :
    Except Nat Escape :=
  if c = '\\' && !form.raw then
    match rest with
    | [] | '{' :: _ | '}' :: _ => .ok ⟨[c], 0⟩
    | _ => escape false rest
  else if (c = '{' || c = '}') && !inSpec then .ok ⟨[c], 1⟩
  else .ok ⟨[c], 0⟩

/-- The characters of text between replacement fields, `offset` characters into it. -/
def decodePart (form : StringForm) (inSpec : Bool) (offset : Nat) :
    List Char → Except Nat (List Char)
  | [] => .ok []
  | c :: rest =>
    match partEscape form inSpec c rest with
    | .error n => .error (offset + 1 + n)
    | .ok e => do
      let behind ← decodePart form inSpec (offset + 1 + e.length) (rest.drop e.length)
      .ok (e.value ++ behind)
termination_by text => text.length
decreasing_by simp only [List.length_drop, List.length_cons]; omega

end ScriptBundle.Python.StringText
