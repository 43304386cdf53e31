import ScriptBundle.Python.Syntax

/-!
# Reading tokens

`Reading α` reads an `α` off a list of tokens or stops at the first fault. The grammar looks at the
kinds of tokens alone; faults name a token by its number, and so do the nodes that are read.
-/

namespace ScriptBundle.Python

inductive Fault
  /-- The token with this number does not fit. -/
  | token (number : Nat)
  /-- A line ends before the token with this number although a bracket is open. -/
  | lineEnd (number : Nat)
  /-- The token with this number is at fault, so many characters behind its start. -/
  | inside (number offset : Nat)
  /-- The grammar is nested deeper than the tokens can be; no source gets here. -/
  | tooDeep
  deriving DecidableEq, Repr

/-- How the items of a `with` statement are written. -/
inductive WithForm
  | bare | parenthesized | expression
  deriving DecidableEq, Repr

inductive ListKind
  | module | block | elif | except | assignTargets | typeParameters | importNames
  | importFromNames (parens : Bool)
  | slices | listElements | setElements | dictElements
  | tupleElements (parens : Bool)
  | sequencePattern (closer : Option Symbol)
  | mappingPattern | classPattern | arguments | deleteTargets | identifiers
  | parameters (isLambda : Bool)
  | withItems (form : WithForm)
  | replacement (inSpec : Bool)
  deriving DecidableEq, Repr

structure Cursor where
  rest : List Token
  /-- The number of the next token. -/
  number : Nat
  /-- The number of all tokens. -/
  total : Nat
  /-- The lists that reading is in the middle of. -/
  lists : List ListKind := []
  /-- An unclosed bracket was found, and the next token is the end of the line it stands in. -/
  cutOff : Bool := false

/-- Read off tokens, or stop at a fault. -/
abbrev Reading := StateT Cursor (Except Fault)

namespace Kind

/-- Names, and the words that can serve as names. -/
def isName : Kind → Bool
  | .name _ => true
  | .keyword k => k.isSoft
  | _ => false

def startsExpr : Kind → Bool
  | .name _ | .number _ _ | .string _ _ | .replacementStart _ => true
  | .keyword k => k.isSoft || match k with
    | .«None» | .«True» | .«False» | .«lambda» | .«await» | .«not» | .«yield» => true
    | _ => false
  | .symbol s => match s with
    | .minus | .plus | .tilde | .star | .doubleStar | .lpar | .lbrace | .lsqb | .ellipsis => true
    | _ => false
  | _ => false

/-- Tokens that can start a statement without a block. -/
def startsSimple (kind : Kind) : Bool :=
  kind.startsExpr || match kind with
    | .keyword k => match k with
      | .«pass» | .«return» | .«break» | .«continue» | .«global» | .«nonlocal» | .«assert»
      | .«del» | .«raise» | .«import» | .«from» => true
      | _ => false
    | _ => false

/-- Tokens that can start a statement with a block. -/
def startsCompound : Kind → Bool
  | .keyword k => match k with
    | .«match» | .«if» | .«with» | .«while» | .«for» | .«def» | .«class» | .«try» | .«async» => true
    | _ => false
  | .symbol s => s = .atSign
  | _ => false

def endsSequence : Kind → Bool
  | .newline | .endOfFile | .dedent => true
  | .symbol s => match s with
    | .semi | .colon | .rbrace | .rsqb | .rpar | .equal | .exclamation => true
    | _ => false
  | .keyword k => match k with
    | .«else» | .«as» | .«from» | .«for» | .«async» | .«in» => true
    | _ => false
  | _ => false

def startsPattern : Kind → Bool
  | .name _ | .number _ _ | .string _ _ | .replacementStart _ => true
  | .keyword k => k.isSoft || match k with
    | .«None» | .«True» | .«False» => true
    | _ => false
  | .symbol s => match s with
    | .star | .minus | .lpar | .lsqb | .lbrace => true
    | _ => false
  | _ => false

/-- Tokens that can start a key of a mapping pattern, or its rest. -/
def startsMappingPattern : Kind → Bool
  | .symbol s => s = .doubleStar || s = .minus
  | kind => kind.startsPattern

/-- The name that a token can serve as. -/
def word? : Kind → Option Word
  | .name word => some word
  | .keyword k => if k.isSoft then some k.word else none
  | _ => none

end Kind

namespace ListKind

/-- Tokens that can start an item of a list. -/
def startsItem (list : ListKind) (kind : Kind) : Bool :=
  match list with
  | module | block => kind.startsSimple || kind.startsCompound
  | elif => kind = .keyword .«elif»
  | except => kind = .keyword .«except»
  | assignTargets => kind = .symbol .equal
  | typeParameters => match kind with
    | .name _ | .keyword _ => true
    | .symbol s => s = .star || s = .doubleStar
    | _ => false
  | importNames | identifiers => kind.isName
  | importFromNames _ => kind.isName || kind = .symbol .star
  | slices => kind.startsExpr || kind = .symbol .colon
  | listElements | setElements | tupleElements _ | dictElements | arguments | deleteTargets
  | withItems _ => kind.startsExpr
  | sequencePattern _ => kind.startsPattern || kind = .symbol .plus
  | mappingPattern => kind.startsMappingPattern || kind = .symbol .star
  | classPattern => kind.startsPattern
  | parameters _ => kind.isName || match kind with
    | .symbol s => s = .star || s = .doubleStar || s = .slash
    | _ => false
  | replacement _ => match kind with
    | .replacementText _ _ _ => true
    | .symbol s => s = .lbrace
    | _ => false

/-- Tokens that end a list as it should end. -/
def ends (list : ListKind) (kind : Kind) : Bool :=
  match list with
  | module => kind = .endOfFile
  | block => kind = .dedent
  | elif => kind = .keyword .«else»
  | except => kind = .keyword .«finally» || kind = .keyword .«else»
  | assignTargets | importNames | deleteTargets | identifiers =>
    kind = .newline || kind = .symbol .semi
  | importFromNames _ => kind = .newline || kind = .symbol .semi || kind = .symbol .rpar
  | typeParameters | slices | listElements => kind = .symbol .rsqb
  | setElements | dictElements | mappingPattern => kind = .symbol .rbrace
  | tupleElements parens => if parens then kind = .symbol .rpar else kind.endsSequence
  | sequencePattern none => kind = .symbol .colon || kind = .keyword .«if»
  | sequencePattern (some closer) => kind = .symbol closer
  | classPattern | arguments => kind = .symbol .rpar
  | parameters isLambda => kind = .symbol (if isLambda then .colon else .rpar)
  | withItems form => kind = .symbol (if form = .parenthesized then .rpar else .colon)
  | replacement inSpec => if inSpec then kind = .symbol .rbrace else match kind with
    | .replacementEnd _ => true
    | _ => false

/-- Tokens that show a list to be cut off. -/
def cutsOff (list : ListKind) (kind : Kind) : Bool :=
  match list with
  | typeParameters =>
    kind = .newline || kind = .symbol .colon || kind = .symbol .equal || kind = .symbol .lpar
  | parameters _ => kind = .symbol .arrow || kind.startsCompound
  | withItems .parenthesized => kind = .symbol .colon
  | replacement _ => kind = .newline
  | _ => false

/-- Whether a comma may stand behind the last item. -/
def allowsTrailingComma : ListKind → Bool
  | slices | tupleElements _ | setElements | listElements | dictElements | sequencePattern _
  | mappingPattern | classPattern | arguments | deleteTargets | parameters _
  | typeParameters => true
  | importFromNames parens => parens
  | withItems form => form ≠ .bare
  | _ => false

end ListKind

namespace Reading

def peek : Reading Kind := do
  let c ← get
  return match c.rest with
    | t :: _ => if c.cutOff then .newline else t.kind
    | [] => .endOfFile

def peek3 : Reading (Kind × Kind × Kind) := do
  let c ← get
  let kind (n : Nat) : Kind := match c.rest[n]? with
    | some t => t.kind
    | none => .endOfFile
  return (← peek, kind 1, kind 2)

def here : Reading Nat := return (← get).number

def refuse {α : Type} : Reading α := do
  let c ← get
  throw (if c.cutOff then .lineEnd c.number else .token c.number)

def refuseAt {α : Type} (number : Nat) : Reading α := throw (.token number)

/-- Pass over the next token. The last token, the end of the file, stays. -/
def bump : Reading Unit := modify fun c =>
  match c.rest with
  | _ :: t :: rest => { c with rest := t :: rest, number := c.number + 1, cutOff := false }
  | _ => { c with cutOff := false }

def at? (kind : Kind) : Reading Bool := return (← peek) = kind

/-- Pass over the next token if it is of a given kind. -/
def eat (kind : Kind) : Reading Bool := do
  if ← at? kind then
    bump
    return true
  else return false

/-- Pass over a token of a given kind, or stop. -/
def expect (kind : Kind) : Reading Unit := do
  unless ← eat kind do refuse

def atSymbol (s : Symbol) : Reading Bool := at? (.symbol s)

def eatSymbol (s : Symbol) : Reading Bool := eat (.symbol s)

def expectSymbol (s : Symbol) : Reading Unit := expect (.symbol s)

def atKeyword (k : Keyword) : Reading Bool := at? (.keyword k)

def eatKeyword (k : Keyword) : Reading Bool := eat (.keyword k)

def expectKeyword (k : Keyword) : Reading Unit := expect (.keyword k)

def atExpr : Reading Bool := return (← peek).startsExpr

def word : Reading Word := do
  match (← peek).word? with
  | some word =>
    bump
    return word
  | none => refuse

def identifier : Reading String := return (← word).text

/-- Bounds the rounds of a loop that takes a token each round. -/
def rounds : Reading Nat := do
  let c ← get
  return c.total - c.number + 2

/-- Whether the next token belongs to a list that reading is in the middle of. -/
def belongsOutside : Reading Bool := do
  let kind ← peek
  return (← get).lists.any fun list => list.startsItem kind || list.ends kind || list.cutsOff kind

/-- Take an unclosed bracket to end with the line before the next token, if that is in no other
bracket. Inside a string over several lines, lines do not end. -/
def cutOff : Reading Unit := modify fun c =>
  match c.rest with
  | t :: _ =>
    let stays := match t.kind with
      | .symbol s => s.isCloser
      | .replacementText form _ _ | .replacementStart form | .replacementEnd form => form.triple
      | _ => false
    { c with cutOff := t.lineEnd.isSome && t.nesting = 1 && !stays }
  | [] => c

/-- Read with one more list around. -/
def within {α : Type} (list : ListKind) (read : Reading α) : Reading α := do
  let outer := (← get).lists
  modify fun c => { c with lists := list :: c.lists }
  let a ← read
  modify fun c => { c with lists := outer }
  return a

/-- Rounds of `sequence`. `trailing` is the number of the comma just passed. -/
def sequenceLoop {σ : Type} (list : ListKind) (item : σ → Reading σ) :
    Nat → σ → Option Nat → Reading (σ × Option Nat)
  | 0, _, _ => throw .tooDeep
  | fuel + 1, s, trailing => do
    if list.startsItem (← peek) then
      let s ← item s
      let comma ← here
      if ← eatSymbol .comma then
        sequenceLoop list item fuel s (some comma)
      else
        let kind ← peek
        if list.ends kind then return (s, none)
        else if list.startsItem kind then refuse
        else if ← belongsOutside then
          cutOff
          return (s, none)
        else refuse
    else
      let kind ← peek
      if list.ends kind then return (s, trailing)
      else if ← belongsOutside then
        cutOff
        return (s, trailing)
      else refuse

/-- Items separated by commas, folded from `init`; the answer says whether a comma follows the last
one. -/
def sequence {σ : Type} (list : ListKind) (item : σ → Reading σ) (init : σ) :
    Reading (σ × Bool) := do
  let (s, trailing) ← within list (do sequenceLoop list item (← rounds) init none)
  match trailing with
  | some comma => if list.allowsTrailingComma then return (s, true) else refuseAt comma
  | none => return (s, false)

def listOf {α : Type} (list : ListKind) (item : Reading α) : Reading (List α) := do
  let (items, _) ← sequence list (fun done => return (← item) :: done) []
  return items.reverse

def seriesLoop {α : Type} (list : ListKind) (item : Reading α) : Nat → List α → Reading (List α)
  | 0, _ => throw .tooDeep
  | fuel + 1, done => do
    let kind ← peek
    if list.startsItem kind then seriesLoop list item fuel ((← item) :: done)
    else if list.ends kind then return done.reverse
    else if ← belongsOutside then
      cutOff
      return done.reverse
    else refuse

/-- Items that follow one another up to the end of their list. -/
def series {α : Type} (list : ListKind) (item : Reading α) : Reading (List α) :=
  within list (do seriesLoop list item (← rounds) [])

def whileAtLoop {α : Type} (test : Kind → Bool) (item : Reading α) :
    Nat → List α → Reading (List α)
  | 0, _ => throw .tooDeep
  | fuel + 1, done => do
    if test (← peek) then whileAtLoop test item fuel ((← item) :: done)
    else return done.reverse

/-- Items as long as the next token passes a test. -/
def whileAt {α : Type} (test : Kind → Bool) (item : Reading α) : Reading (List α) := do
  whileAtLoop test item (← rounds) []

/-- Try a reading; if it faults, go back to where it started. -/
def attempt {α : Type} (read : Reading α) : Reading (Option α) := fun c =>
  match read c with
  | .ok (a, c) => .ok (some a, c)
  | .error _ => .ok (none, c)

def rewind (point : Cursor) : Reading Unit := set point

end Reading

end ScriptBundle.Python
