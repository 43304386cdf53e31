namespace ScriptBundle.Text

/-- A place in a text as people count. -/
structure Position where
  line : Nat
  column : Nat
  deriving DecidableEq, Repr

namespace Position

def step (p : Position) (c : Char) : Position :=
  if c = '\n' then ⟨p.line + 1, 1⟩ else ⟨p.line, p.column + 1⟩

def behind (text : List Char) : Position := text.foldl step ⟨1, 1⟩

end Position

/-- The start of a text that takes a given number of bytes, if no character straddles its end. -/
def takeBytes? : Nat → List Char → Option (List Char)
  | 0, _ => some []
  | _ + 1, [] => none
  | n + 1, c :: rest =>
    if c.utf8Size ≤ n + 1 then (takeBytes? (n + 1 - c.utf8Size) rest).map (c :: ·) else none
termination_by _ text => text.length

/-- The place of a byte offset. An offset inside a character, or behind the end, is taken for the
end of the text. -/
def Position.ofByte (text : List Char) (offset : Nat) : Position :=
  Position.behind ((takeBytes? offset text).getD text)

end ScriptBundle.Text
