import ScriptBundle.Python.Grammar.Expression

namespace ScriptBundle.Python

open Reading

/-- A number without an imaginary part, possibly signed. -/
def Expr.isReal : Expr → Bool
  | .constant _ (.number form _) => form ≠ .imaginary
  | .unary _ _ operand => operand.isReal
  | _ => false

def Expr.isImaginary : Expr → Bool
  | .constant _ (.number form _) => form = .imaginary
  | _ => false

namespace Rules

variable (G : Rules)

/-- A sequence pattern behind its first element. -/
def sequencePatternRest (first : Pattern) (pos : Nat) (closer : Option Symbol) :
    Reading Pattern := do
  let closed ← match closer with
    | some s => atSymbol s
    | none => pure false
  unless closed do expectSymbol .comma
  let others ← listOf (.sequencePattern closer) (G.pattern true)
  match closer with
  | some s => expectSymbol s
  | none => pure ()
  return .sequence pos (first :: others)

/-- The patterns of a `case`. A star needs a sequence around it. -/
def patterns : Reading Pattern := do
  let p ← here
  let first ← G.pattern true
  if ← atSymbol .comma then G.sequencePatternRest first p none
  else if first.isStar then refuseAt first.pos
  else return first

/-- What is known about the entries of a mapping pattern, latest first. -/
structure EntriesRead where
  keys : List Expr := []
  patterns : List Pattern := []
  rest : Option String := none

/-- An entry of a mapping pattern. The rest comes last. -/
def mappingEntry (s : EntriesRead) : Reading EntriesRead := do
  let p ← here
  if ← eatSymbol .doubleStar then
    let name ← identifier
    if s.rest.isSome then refuseAt p
    return { s with rest := some name }
  let key ← G.closedPattern false
  let key ← match key with
    | .value _ e => pure e
    | .singleton q c => pure (.constant q c)
    | other => refuseAt other.pos
  expectSymbol .colon
  let pattern ← G.pattern false
  if s.rest.isSome then refuseAt p
  return { s with keys := key :: s.keys, patterns := pattern :: s.patterns }

def mappingPattern : Reading Pattern := do
  let p ← here
  expectSymbol .lbrace
  let (s, _) ← sequence .mappingPattern G.mappingEntry {}
  expectSymbol .rbrace
  return .mapping p s.keys.reverse s.patterns.reverse s.rest

/-- A starred name. The underscore binds nothing. -/
def starPattern : Reading Pattern := do
  let p ← here
  expectSymbol .star
  let name ← identifier
  return .star p (if name = "_" then none else some name)

/-- A pattern in parentheses, or a sequence pattern in brackets. -/
def bracketedPattern : Reading Pattern := do
  let p ← here
  let isList ← atSymbol .lsqb
  let closer : Symbol := if isList then .rsqb else .rpar
  bump
  match ← peek with
  | .newline | .symbol .colon => refuse
  | _ => pure ()
  if ← eatSymbol closer then return .sequence p []
  let first ← G.pattern true
  if isList || (← atSymbol .comma) then G.sequencePatternRest first p (some closer)
  else
    expectSymbol closer
    return first

/-- A dotted name behind its first name, as long as points follow. -/
def dottedValue (pos : Nat) : Nat → Expr → Reading Expr
  | 0, _ => throw .tooDeep
  | fuel + 1, e => do
    if ← eatSymbol .dot then dottedValue pos fuel (.member pos e (← identifier)) else return e

/-- A constant, a name to bind or a dotted name. -/
def simplePattern : Reading Pattern := do
  let p ← here
  let (kind, next, _) ← peek3
  match kind with
  | .keyword .«None» => bump; return .singleton p .none
  | .keyword .«True» => bump; return .singleton p .true
  | .keyword .«False» => bump; return .singleton p .false
  | .string _ _ | .replacementStart _ => return .value p (← G.strings)
  | .number form text => bump; return .value p (.constant p (.number form text))
  | _ =>
    let signed := match kind, next with
      | .symbol .plus, .number _ _ | .symbol .minus, .number _ _ => true
      | _, _ => false
    if signed then
      bump
      let operand ← G.operand .sign .plain
      if kind = .symbol .plus then refuseAt p
      return .value p (.unary p .minus operand.expr)
    else if next = .symbol .dot then
      let name ← identifier
      return .value p (← dottedValue p (← rounds) (.name p name))
    else
      let name ← identifier
      return .capture p (if name = "_" then none else some name)

/-- What is known about the arguments of a class pattern, latest first. -/
structure ClassArgumentsRead where
  patterns : List Pattern := []
  names : List String := []
  named : List Pattern := []

/-- An argument of a class pattern. Named ones come last. -/
def classArgument (s : ClassArgumentsRead) : Reading ClassArgumentsRead := do
  let p ← here
  let pattern ← G.pattern false
  if ← eatSymbol .equal then
    match pattern with
    | .capture _ (some name) =>
      let value ← G.pattern false
      return { s with names := name :: s.names, named := value :: s.named }
    | other => refuseAt other.pos
  else if s.names.isEmpty then return { s with patterns := pattern :: s.patterns }
  else refuseAt p

def classPatternRest (cls : Pattern) (pos : Nat) : Reading Pattern := do
  let cls ← match cls with
    | .capture q (some name) => pure (Expr.name q name)
    | .value q e =>
      match e with
      | .member _ _ _ => pure e
      | _ => refuseAt q
    | other => refuseAt other.pos
  expectSymbol .lpar
  let (s, _) ← sequence .classPattern G.classArgument {}
  expectSymbol .rpar
  return .class pos cls s.patterns.reverse s.names.reverse s.named.reverse

def complexRest (real : Pattern) (pos : Nat) : Reading Pattern := do
  let op : BinaryOp := if ← eatSymbol .plus then .add else .sub
  if op = .sub then expectSymbol .minus
  match real with
  | .value q left =>
    if !left.isReal then refuseAt q
    match ← G.closedPattern false with
    | .value r right =>
      if !right.isImaginary then refuseAt r
      return .value pos (.binary pos op left right)
    | other => refuseAt other.pos
  | other => refuseAt other.pos

/-- A pattern without alternatives and binding. -/
def closedPatternRule (allowStar : Bool) : Reading Pattern := do
  let p ← here
  let first ← match ← peek with
    | .symbol .lbrace => G.mappingPattern
    | .symbol .star =>
      let star ← starPattern
      if allowStar then pure star else refuseAt p
    | .symbol .lpar | .symbol .lsqb => G.bracketedPattern
    | _ => G.simplePattern
  let first ← if ← atSymbol .lpar then G.classPatternRest first p else pure first
  if (← atSymbol .plus) || (← atSymbol .minus) then G.complexRest first p else return first

/-- A pattern with its alternatives and the name to bind it to. -/
def patternRule (allowStar : Bool) : Reading Pattern := do
  let p ← here
  let first ← G.closedPattern allowStar
  let all ← if ← atSymbol .vbar then
      if first.isStar then refuseAt first.pos
      let others ← whileAt (· = .symbol .vbar) do
        bump
        G.closedPattern false
      pure (.or p (first :: others))
    else pure first
  if ← eatKeyword .«as» then
    if all.isStar then refuseAt all.pos
    return .as p all (← identifier)
  else return all

end Rules

end ScriptBundle.Python
