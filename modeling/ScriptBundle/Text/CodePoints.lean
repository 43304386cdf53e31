/-!
# Sets of code points

`CodePoints` is a set of code points given by its maximal ranges in increasing order. Tables of
Unicode properties are written in rows of text, one item per range in hexadecimal (`41-5a` or
`aa`), and read by `CodePoints.ofRows`.
-/

namespace ScriptBundle.Text

/-- The value of a hexadecimal digit in either case. -/
def hexDigit? (c : Char) : Option Nat :=
  if '0' ≤ c ∧ c ≤ '9' then some (c.toNat - '0'.toNat)
  else if 'a' ≤ c ∧ c ≤ 'f' then some (c.toNat - 'a'.toNat + 10)
  else if 'A' ≤ c ∧ c ≤ 'F' then some (c.toNat - 'A'.toNat + 10)
  else none

/-- The number that a run of hexadecimal digits stands for; other characters are passed over. -/
def hexNumber (digits : List Char) : Nat :=
  digits.foldl (fun n c => match hexDigit? c with
    | some d => 16 * n + d
    | none => n) 0

/-- The pieces of a text between separators, in order. -/
def pieces (separator : Char) (text : List Char) : List (List Char) :=
  text.foldr (fun c done =>
    if c = separator then [] :: done
    else match done with
      | piece :: rest => (c :: piece) :: rest
      | [] => [[c]]) [[]]

theorem pieces_ne_nil (separator : Char) (text : List Char) : pieces separator text ≠ [] := by
  cases text with
  | nil => simp [pieces]
  | cons c rest =>
    simp only [pieces, List.foldr_cons]
    split
    · simp
    · split <;> simp

/-- The items of a table that is written in rows, with blanks between the items of a row. -/
def rowItems (table : List String) : List (List Char) :=
  table.flatMap fun row => pieces ' ' row.toList

/-- A set of code points: its ranges, both ends included, in increasing order. -/
structure CodePoints where
  ranges : Array (Nat × Nat)

namespace CodePoints

def ofRows (table : List String) : CodePoints where
  ranges := (rowItems table).foldl (fun done item =>
    match pieces '-' item with
    | [only] => if only.isEmpty then done else done.push (hexNumber only, hexNumber only)
    | low :: high :: _ => done.push (hexNumber low, hexNumber high)
    | [] => done) #[]

/-- Look for `point` in the ranges from position `low` up to, not including, `high`. -/
def search (ranges : Array (Nat × Nat)) (point : Nat) : Nat → Nat → Nat → Bool
  | 0, _, _ => false
  | steps + 1, low, high =>
    if low < high then
      let middle := (low + high) / 2
      match ranges[middle]? with
      | none => false
      | some (first, last) =>
        if point < first then search ranges point steps low middle
        else if last < point then search ranges point steps (middle + 1) high
        else true
    else false

/-- Whether a code point lies in the set. The ranges are in order, so halving finds it. -/
def contains (set : CodePoints) (point : Nat) : Bool :=
  search set.ranges point (set.ranges.size + 1) 0 set.ranges.size

end CodePoints

end ScriptBundle.Text
