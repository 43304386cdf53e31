import ScriptBundle.Python.Grammar.Pattern

namespace ScriptBundle.Python

open Reading

def augmentedOp? : Kind → Option BinaryOp
  | .symbol s => match s with
    | .plusEqual => some .add
    | .minusEqual => some .sub
    | .starEqual => some .mul
    | .atEqual => some .matMul
    | .slashEqual => some .div
    | .doubleSlashEqual => some .floorDiv
    | .percentEqual => some .mod
    | .doubleStarEqual => some .pow
    | .leftShiftEqual => some .shiftLeft
    | .rightShiftEqual => some .shiftRight
    | .vbarEqual => some .bitOr
    | .circumflexEqual => some .bitXor
    | .amperEqual => some .bitAnd
    | _ => none
  | _ => none

/-- Whether a `match` is a statement by the two tokens behind it. Where it may be either, nothing is
said. -/
def matchIsStatement? (first second : Kind) : Option Bool :=
  match first with
  | .keyword k => match k with
    | .«not» => some (second ≠ .keyword .«in»)
    | .«await» | .«yield» | .«lambda» | .«None» | .«True» | .«False» => some true
    | k => some k.isSoft
  | .name _ | .number _ _ | .string _ _ | .replacementStart _ => some true
  | .symbol s => match s with
    | .lbrace | .tilde | .ellipsis => some true
    | .lpar | .lsqb | .star | .plus | .minus => none
    | _ => some false
  | _ => some false

/-- Whether `as` stands between an opening parenthesis, which comes first, and its partner, in no
other bracket. `depth` counts the brackets open. -/
def bindsInParentheses : List Token → Nat → Bool
  | [], _ => false
  | t :: rest, depth =>
    match t.kind with
    | .symbol .lpar | .symbol .lsqb | .symbol .lbrace => bindsInParentheses rest (depth + 1)
    | .symbol .rpar | .symbol .rsqb | .symbol .rbrace =>
      if depth ≤ 1 then false else bindsInParentheses rest (depth - 1)
    | .keyword .«as» => depth = 1 || bindsInParentheses rest depth
    | .newline | .endOfFile => false
    | _ => bindsInParentheses rest depth

namespace Rules

variable (G : Rules)

/-! ## Statements without blocks -/

def dottedName : Reading DottedName := do
  let first ← word
  let others ← whileAt (· = .symbol .dot) do
    bump
    word
  return ⟨first, others⟩

def aliasBinding : Reading (Option String) := do
  if ← eatKeyword .«as» then some <$> identifier else return none

def moduleAlias : Reading (Alias DottedName) := do
  let name ← dottedName
  return ⟨name, ← aliasBinding⟩

def memberAlias : Reading (Alias Member) := do
  if ← eatSymbol .star then return ⟨.star, none⟩
  let name ← word
  return ⟨.name name, ← aliasBinding⟩

def importRest : Reading SimpleStmt := do
  let names ← listOf .importNames moduleAlias
  if names.isEmpty then refuse
  return .import names

/-- The points before the module of a from-import. -/
def leadingPoints : Nat → Nat → Reading Nat
  | 0, _ => throw .tooDeep
  | fuel + 1, level => do
    if ← eatSymbol .dot then leadingPoints fuel (level + 1)
    else if ← eatSymbol .ellipsis then leadingPoints fuel (level + 3)
    else return level

/-- A from-import behind its word. A star stands alone, without parentheses. -/
def fromRest : Reading SimpleStmt := do
  let level ← leadingPoints (← rounds) 0
  let module ← if (← peek).isName then some <$> dottedName
    else if level = 0 then refuse
    else pure none
  expectKeyword .«import»
  let p ← here
  let parens ← eatSymbol .lpar
  let names ← listOf (.importFromNames parens) memberAlias
  if names.isEmpty then refuse
  if names.any (·.target = .star) && (1 < names.length || parens) then refuseAt p
  if parens then expectSymbol .rpar
  return .importFrom level module names

def deleteTarget : Reading Expr := do
  let e ← G.conditional .starredConditional
  refuseIf e.expr.badDeletion?
  return e.expr

/-- An expression list that is no tuple without parentheses. -/
def singleExpression : Reading Expr := do
  let e ← G.expressionList .plain
  match e.expr with
  | .tuple q _ false => refuseAt q
  | _ => return e.expr

def raiseRest : Reading SimpleStmt := do
  match ← peek with
  | .newline | .symbol .semi => return .raise none none
  | _ =>
    let exception ← G.singleExpression
    let cause ← if ← eatKeyword .«from» then some <$> G.singleExpression else pure none
    return .raise (some exception) cause

def assertRest : Reading SimpleStmt := do
  let test ← G.conditional .plain
  let message ← if ← eatSymbol .comma then some <$> G.required .plain else pure none
  return .assert test.expr message

def nameList : Reading (List String) := do
  let names ← listOf .identifiers identifier
  if names.isEmpty then refuse
  return names

def typeDefault (context : ExprContext) : Reading (Option Expr) := do
  if ← eatSymbol .equal then some <$> G.required context else return none

def typeParameter : Reading TypeParameter := do
  if ← eatSymbol .star then
    let name ← identifier
    return .tuple name (← G.typeDefault .starredBitwiseOr)
  else if ← eatSymbol .doubleStar then
    let name ← identifier
    return .parameters name (← G.typeDefault .plain)
  else
    let name ← identifier
    let bound ← if ← eatSymbol .colon then some <$> G.required .plain else pure none
    return .variable name bound (← G.typeDefault .plain)

/-- Type parameters, if there are any. Empty brackets hold none. -/
def typeParameters : Reading (List TypeParameter) := do
  if ← eatSymbol .lsqb then
    let parameters ← listOf .typeParameters G.typeParameter
    if parameters.isEmpty then refuse
    expectSymbol .rsqb
    return parameters
  else return []

def typeAliasRest : Reading SimpleStmt := do
  let name ← identifier
  let parameters ← G.typeParameters
  expectSymbol .equal
  let value ← G.conditional .plain
  return .typeAlias name parameters value.expr

/-- Values of a chain of assignments, latest first. -/
def assignValues : Reading (List Expr) :=
  series .assignTargets do
    expectSymbol .equal
    return (← G.expressionList .yieldOrStarred).expr

/-- An assignment behind its first target. All targets are looked at once all values are read. -/
def assignRest (target : Expr) : Reading SimpleStmt := do
  expectSymbol .equal
  let first ← G.expressionList .yieldOrStarred
  let more ← if ← atSymbol .equal then G.assignValues else pure []
  let all := target :: first.expr :: more
  let targets := all.dropLast
  refuseIf (badTargets? targets)
  return .assign targets (all.getLastD first.expr)

/-- Targets of annotated and augmented assignments. -/
def isSingleTarget : Expr → Bool
  | .name _ _ | .member _ _ _ | .subscript _ _ _ => true
  | _ => false

def annotatedRest (target : Expr) : Reading SimpleStmt := do
  expectSymbol .colon
  unless isSingleTarget target do refuseAt target.pos
  let annotation ← G.conditional .plain
  let value ← if ← eatSymbol .equal then
      if ← atExpr then pure (some (← G.expressionList .yieldOrStarred).expr) else refuse
    else pure none
  return .annotated target annotation.expr value

/-- An expression, or the assignment that it starts. -/
def expressionStatement : Reading SimpleStmt := do
  let e ← G.expressionList .yieldOrStarred
  let kind ← peek
  if kind = .symbol .equal then G.assignRest e.expr
  else if kind = .symbol .colon then G.annotatedRest e.expr
  else
    match augmentedOp? kind with
    | some op =>
      bump
      unless isSingleTarget e.expr do refuseAt e.expr.pos
      let value ← G.expressionList .yieldOrStarred
      return .augmented e.expr op value.expr
    | none => return .expression e.expr

def simpleStatement : Reading SimpleStmt := do
  let (kind, first, second) ← peek3
  match kind with
  | .keyword k =>
    match k with
    | .«return» =>
      bump
      if ← atExpr then return .return (some (← G.expressionList .starredBitwiseOr).expr)
      else return .return none
    | .«import» => bump; importRest
    | .«from» => bump; fromRest
    | .«pass» => bump; return .pass
    | .«continue» => bump; return .continue
    | .«break» => bump; return .break
    | .«raise» => bump; G.raiseRest
    | .«del» =>
      bump
      let targets ← listOf .deleteTargets G.deleteTarget
      if targets.isEmpty then refuse
      return .delete targets
    | .«assert» => bump; G.assertRest
    | .«global» => bump; return .global (← nameList)
    | .«nonlocal» => bump; return .nonlocal (← nameList)
    | .«type» =>
      if first.isName && (second = .symbol .lsqb || second = .symbol .equal) then
        bump
        G.typeAliasRest
      else G.expressionStatement
    | _ => G.expressionStatement
  | _ => G.expressionStatement

def spannedSimple : Reading Stmt := do
  let p ← here
  let s ← G.simpleStatement
  return .simple ⟨p, ← here⟩ s

/-- A statement without a block, at the start of a line or behind a semicolon. Another statement
follows only behind a semicolon or a line end. -/
def singleSimple : Reading Stmt := do
  let s ← G.spannedSimple
  let semicolon ← eatSymbol .semi
  unless ← eat .newline do
    let kind ← peek
    if (!semicolon && kind.startsSimple) || kind.startsCompound && !kind.startsSimple then refuse
  return s

/-! ## Blocks -/

/-- Further statements of a block on one line, latest first in `done`. -/
def lineLoop : Nat → List Stmt → Reading (List Stmt)
  | 0, _ => throw .tooDeep
  | fuel + 1, done => do
    let s ← G.spannedSimple
    let done := s :: done
    if ← eatSymbol .semi then
      if (← peek).startsSimple then lineLoop fuel done else return done.reverse
    else if (← peek).startsSimple then refuse
    else return done.reverse

/-- A block behind its colon: statements on the same line, or an indented block. -/
def block : Reading (List Stmt) := do
  let line ← here
  if ← eat .newline then
    match ← peek with
    | .indent =>
      bump
      let statements ← series .block G.statement
      expect .dedent
      return statements
    | .dedent | .endOfFile => refuseAt line
    | _ => refuse
  else if (← peek).startsSimple then
    let statements ← G.lineLoop (← rounds) []
    expect .newline
    return statements
  else refuse

def colonBlock : Reading (List Stmt) := do
  expectSymbol .colon
  G.block

def elseClauses : Reading (List (ClauseHeader × List Stmt)) := do
  if ← eatKeyword .«else» then return [(.else, ← G.colonBlock)] else return []

/-! ## Statements with blocks -/

def ifRest : Reading (Header × List Stmt × List (ClauseHeader × List Stmt)) := do
  let test ← G.namedExpression .plain
  let body ← G.colonBlock
  let elifs ← within .elif (whileAt (· = .keyword .«elif») do
    bump
    let test ← G.namedExpression .plain
    return (.elif test.expr, ← G.colonBlock))
  return (.if test.expr, body, elifs ++ (← G.elseClauses))

def whileRest : Reading (Header × List Stmt × List (ClauseHeader × List Stmt)) := do
  let test ← G.namedExpression .plain
  let body ← G.colonBlock
  return (.while test.expr, body, ← G.elseClauses)

def forRest (isAsync : Bool) :
    Reading (Header × List Stmt × List (ClauseHeader × List Stmt)) := do
  let target ← G.expressionList .loopTarget
  refuseIf target.expr.badTarget?
  expectKeyword .«in»
  let iterable ← G.expressionList .starredBitwiseOr
  let body ← G.colonBlock
  return (.for isAsync target.expr iterable.expr, body, ← G.elseClauses)

/-- An `except` with its block, its first token, and whether it handles groups. -/
def exceptClause : Reading ((ClauseHeader × List Stmt) × Nat × Bool) := do
  let p ← here
  expectKeyword .«except»
  let group ← eatSymbol .star
  let exception ← if ← atExpr then
      let e ← G.expressionList .plain
      match e.expr with
      | .tuple q _ false => if ← atKeyword .«as» then refuseAt q
      | _ => pure ()
      pure (some e.expr)
    else if group || (← atKeyword .«as») then refuse
    else pure none
  let name ← if ← eatKeyword .«as» then some <$> identifier else pure none
  return ((.except group exception name, ← G.colonBlock), p, group)

/-- A `try` behind its word. It has handlers of one sort or a `finally`. -/
def tryRest : Reading (Header × List Stmt × List (ClauseHeader × List Stmt)) := do
  let body ← G.colonBlock
  let handlers ← within .except (whileAt (· = .keyword .«except») G.exceptClause)
  match handlers with
  | (_, _, group) :: others =>
    refuseIf ((others.find? fun (_, _, other) => other ≠ group).map (·.2.1))
  | [] => pure ()
  let otherwise ← G.elseClauses
  let last ← if ← eatKeyword .«finally» then pure [(.finally, ← G.colonBlock)]
    else if handlers.isEmpty then refuse
    else pure []
  return (.try, body, handlers.map (·.1) ++ otherwise ++ last)

def withTarget : Reading (Option Expr) := do
  if ← eatKeyword .«as» then
    let target ← G.conditional .starredConditional
    refuseIf target.expr.badTarget?
    return some target.expr
  else return none

def withItem : Reading (Expr × Option Expr) := do
  let e ← G.conditional .plain
  return (e.expr, ← G.withTarget)

/-- An item between parentheses that may turn out to be those of an expression. -/
def parenthesizedWithItem : Reading (Parsed × Option Expr) := do
  let p ← here
  let e ← G.namedExpression .yieldOrStarred
  let e ← if ← atComprehension then G.generatorRest e p else pure e
  return (e, ← G.withTarget)

/-- An expression that is no item of a `with` outside parentheses. -/
def needsParentheses (e : Parsed) : Bool :=
  !e.parens && match e.expr with
    | .named _ _ _ | .starred _ _ | .yield _ _ | .yieldFrom _ _ => true
    | _ => false

/-- Items of a `with` in parentheses, or nothing if the parentheses belong to an expression. -/
def parenthesizedWithItems : Reading (Option (List (Expr × Option Expr))) := do
  expectSymbol .lpar
  let items ← listOf (.withItems .parenthesized) G.parenthesizedWithItem
  let found := some (items.map fun (e, target) => (e.expr, target))
  if items.any (·.2.isSome) then
    refuseIf ((items.find? fun (e, _) => needsParentheses e).map (·.1.expr.pos))
    expectSymbol .rpar
    return found
  else
    let (kind, next, _) ← peek3
    if kind = .symbol .rpar && (next = .symbol .colon || next = .newline) && !items.isEmpty &&
        !items.any (fun (e, _) => needsParentheses e) then
      bump
      return found
    else return none

/-- The items of a `with`. Parentheses with a binding inside are those of the items. -/
def withItems : Reading (List (Expr × Option Expr)) := do
  unless ← atExpr do refuse
  if ← atSymbol .lpar then
    let start ← get
    let found ← if bindsInParentheses start.rest 0 then G.parenthesizedWithItems
      else Option.join <$> attempt G.parenthesizedWithItems
    match found with
    | some items => return items
    | none =>
      rewind start
      listOf (.withItems .expression) G.withItem
  else listOf (.withItems .bare) G.withItem

def withRest (isAsync : Bool) :
    Reading (Header × List Stmt × List (ClauseHeader × List Stmt)) := do
  let items ← G.withItems
  return (.with isAsync items, ← G.colonBlock, [])

def functionRest (isAsync : Bool) (decorators : List Expr) :
    Reading (Header × List Stmt × List (ClauseHeader × List Stmt)) := do
  let name ← identifier
  let typeParameters ← G.typeParameters
  expectSymbol .lpar
  let parameters ← G.parameters false
  expectSymbol .rpar
  let returns ← if ← eatSymbol .arrow then
      if ← atExpr then some <$> G.singleExpression else refuse
    else pure none
  return (.function isAsync decorators name typeParameters parameters returns, ← G.colonBlock, [])

def classRest (decorators : List Expr) :
    Reading (Header × List Stmt × List (ClauseHeader × List Stmt)) := do
  let name ← identifier
  let typeParameters ← G.typeParameters
  let arguments ← if ← atSymbol .lpar then
      let (arguments, generator) ← G.arguments
      refuseIf generator
      pure arguments
    else pure []
  return (.class decorators name typeParameters arguments, ← G.colonBlock, [])

/-- The subject of a `match`. A single one is not unpacked. -/
def matchSubject : Reading Expr := do
  let p ← here
  let e ← G.namedExpression .starredBitwiseOr
  if ← atSymbol .comma then
    return (← tupleRest e.expr p false (G.namedExpression .starredBitwiseOr)).expr
  else if e.isBareStarred then refuseAt e.expr.pos
  else return e.expr

def caseClause : Reading (ClauseHeader × List Stmt) := do
  expectKeyword .«case»
  let pattern ← G.patterns
  let guard ← if ← eatKeyword .«if» then
      if ← atExpr then pure (some (← G.namedExpression .plain).expr) else refuse
    else pure none
  return (.case pattern guard, ← G.colonBlock)

def matchCases : Reading (List (ClauseHeader × List Stmt)) := do
  expect .newline
  expect .indent
  unless ← atKeyword .«case» do refuse
  let cases ← whileAt (· = .keyword .«case») G.caseClause
  expect .dedent
  return cases

def matchRest : Reading (Header × List Stmt × List (ClauseHeader × List Stmt)) := do
  let subject ← G.matchSubject
  expectSymbol .colon
  return (.match subject, [], ← G.matchCases)

/-- A subject that is followed by a colon, or by a line end and cases. -/
def subjectOfMatch : Reading Unit := do
  let _ ← G.matchSubject
  let (kind, next, second) ← peek3
  unless kind = .symbol .colon || kind = .newline && next = .indent && second = .keyword .«case» do
    refuse

/-- A statement that starts with the word `match`. -/
def matchStatement : Reading (Option (Header × List Stmt × List (ClauseHeader × List Stmt))) := do
  let (_, first, second) ← peek3
  let start ← get
  let isStatement ← match matchIsStatement? first second with
    | some b => pure b
    | none =>
      bump
      let found ← attempt G.subjectOfMatch
      rewind start
      pure found.isSome
  if isStatement then
    bump
    some <$> G.matchRest
  else return none

def decorators : Reading (List Expr) :=
  whileAt (· = .symbol .atSign) do
    bump
    let e ← G.namedExpression .plain
    expect .newline
    return e.expr

def compoundStatement :
    Reading (Option (Header × List Stmt × List (ClauseHeader × List Stmt))) := do
  match ← peek with
  | .keyword k =>
    match k with
    | .«if» => bump; some <$> G.ifRest
    | .«for» => bump; some <$> G.forRest false
    | .«while» => bump; some <$> G.whileRest
    | .«def» => bump; some <$> G.functionRest false []
    | .«class» => bump; some <$> G.classRest []
    | .«try» => bump; some <$> G.tryRest
    | .«with» => bump; some <$> G.withRest false
    | .«async» =>
      bump
      if ← eatKeyword .«def» then some <$> G.functionRest true []
      else if ← eatKeyword .«with» then some <$> G.withRest true
      else if ← eatKeyword .«for» then some <$> G.forRest true
      else refuse
    | .«match» => G.matchStatement
    | _ => return none
  | .symbol .atSign =>
    let decorators ← G.decorators
    let (kind, next, _) ← peek3
    match kind with
    | .keyword .«async» =>
      if next = .keyword .«def» then
        bump
        bump
        some <$> G.functionRest true decorators
      else refuse
    | .keyword .«def» => bump; some <$> G.functionRest false decorators
    | .keyword .«class» => bump; some <$> G.classRest decorators
    | _ => refuse
  | _ => return none

def statementRule : Reading Stmt := do
  let p ← here
  match ← G.compoundStatement with
  | some (header, body, clauses) => return .compound ⟨p, ← here⟩ header body clauses
  | none => G.singleSimple

end Rules

end ScriptBundle.Python
