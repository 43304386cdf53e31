namespace ScriptBundle.Shell.Arithmetic

/-- A computation that takes characters off an expression, or fails. -/
abbrev Reader := StateT (List Char) Option

def blanks : Reader Unit := modify fun text => text.dropWhile Char.isWhitespace

/-- Take a sign, if it comes next. -/
def eat (sign : List Char) : Reader Bool := do
  blanks
  let text ← get
  if sign.isPrefixOf text then
    set (text.drop sign.length)
    return true
  else return false

/-- A sign between operands: its text, how strongly it binds and what it does. -/
structure Operator where
  sign : List Char
  strength : Nat
  apply : Int → Int → Option Int

/-- One for what holds, zero for what does not. -/
def ofTruth (b : Bool) : Option Int := some (if b then 1 else 0)

/-- The operators. One that starts with another comes before it. -/
def operators : List Operator := [
  ⟨['|', '|'], 1, fun a b => ofTruth (a ≠ 0 || b ≠ 0)⟩,
  ⟨['&', '&'], 2, fun a b => ofTruth (a ≠ 0 && b ≠ 0)⟩,
  ⟨['=', '='], 3, fun a b => ofTruth (a = b)⟩,
  ⟨['!', '='], 3, fun a b => ofTruth (a ≠ b)⟩,
  ⟨['<', '='], 4, fun a b => ofTruth (a ≤ b)⟩,
  ⟨['>', '='], 4, fun a b => ofTruth (b ≤ a)⟩,
  ⟨['<'], 4, fun a b => ofTruth (a < b)⟩,
  ⟨['>'], 4, fun a b => ofTruth (b < a)⟩,
  ⟨['+'], 5, fun a b => some (a + b)⟩,
  ⟨['-'], 5, fun a b => some (a - b)⟩,
  ⟨['*'], 6, fun a b => some (a * b)⟩,
  ⟨['/'], 6, fun a b => if b = 0 then none else some (Int.tdiv a b)⟩,
  ⟨['%'], 6, fun a b => if b = 0 then none else some (Int.tmod a b)⟩]

/-- The operator that comes next, if it binds at least so strongly. -/
def operator? (least : Nat) : Reader (Option Operator) := do
  blanks
  let text ← get
  match operators.find? fun o => o.sign.isPrefixOf text with
  | some o =>
    if least ≤ o.strength then
      set (text.drop o.sign.length)
      return some o
    else return none
  | none => return none

mutual

def operand (value : List Char → Int) : Nat → Reader Int
  | 0 => failure
  | depth + 1 => do
    blanks
    if ← eat ['('] then
      let n ← expression value 1 depth
      guard (← eat [')'])
      return n
    else if ← eat ['-'] then return -(← operand value depth)
    else if ← eat ['+'] then operand value depth
    else if ← eat ['!'] then return if (← operand value depth) = 0 then 1 else 0
    else
      let text ← get
      let word := text.takeWhile fun c => c.isAlphanum || c = '_'
      guard (!word.isEmpty)
      set (text.drop word.length)
      match (String.ofList word).toNat? with
      | some n => return n
      | none => return value word

/-- An expression of operators that bind at least so strongly. -/
def expression (value : List Char → Int) (least : Nat) : Nat → Reader Int
  | 0 => failure
  | depth + 1 => do
    let first ← operand value depth
    further value least depth first

/-- The rest of an expression behind its start. -/
def further (value : List Char → Int) (least : Nat) : Nat → Int → Reader Int
  | 0, _ => failure
  | depth + 1, left => do
    match ← operator? least with
    | none => return left
    | some o =>
      let right ← expression value (o.strength + 1) depth
      let n ← (o.apply left right : Option Int)
      further value least depth n

end

/-- The value of an expression. An empty one is zero. -/
def evaluate (value : List Char → Int) (text : List Char) : Option Int :=
  let text := text.dropWhile Char.isWhitespace
  if text.isEmpty then some 0
  else
    match (do
      let n ← expression value 1 (3 * text.length + 8)
      blanks
      return n : Reader Int).run text with
    | some (n, []) => some n
    | _ => none

end ScriptBundle.Shell.Arithmetic
