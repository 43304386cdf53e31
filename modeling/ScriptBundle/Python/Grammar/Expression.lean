import ScriptBundle.Python.Grammar.Rules
import ScriptBundle.Python.StringText

namespace ScriptBundle.Python

open Reading

/-! ## Targets -/

mutual

/-- The first token of the first part of an expression that cannot be assigned to. -/
def Expr.badTarget? : Expr → Option Nat
  | .starred _ value => value.badTarget?
  | .list _ elements | .tuple _ elements _ => badTargets? elements
  | .name _ _ | .member _ _ _ | .subscript _ _ _ => none
  | e => some e.pos

/-- The same for the first of several expressions. -/
def badTargets? : List Expr → Option Nat
  | [] => none
  | e :: rest => e.badTarget?.or (badTargets? rest)

end

mutual

/-- The first token of the first part of an expression that cannot be deleted. -/
def Expr.badDeletion? : Expr → Option Nat
  | .list _ elements | .tuple _ elements _ => badDeletions? elements
  | .name _ _ | .member _ _ _ | .subscript _ _ _ => none
  | e => some e.pos

/-- The same for the first of several expressions. -/
def badDeletions? : List Expr → Option Nat
  | [] => none
  | e :: rest => e.badDeletion?.or (badDeletions? rest)

end

/-- Stop at the token, if one is given. -/
def refuseIf (number : Option Nat) : Reading Unit :=
  match number with
  | some n => refuseAt n
  | none => pure ()

/-! ## Operators -/

inductive Operator
  | boolean (op : BooleanOp)
  | compare (op : CompareOp)
  | binary (op : BinaryOp)
  deriving DecidableEq, Repr

def compareOp? (kind next : Kind) : Option CompareOp :=
  match kind with
  | .symbol .equalEqual => some .eq
  | .symbol .notEqual => some .ne
  | .symbol .less => some .lt
  | .symbol .lessEqual => some .le
  | .symbol .greater => some .gt
  | .symbol .greaterEqual => some .ge
  | .keyword .«in» => some .isIn
  | .keyword .«is» => if next = .keyword .«not» then some .isNot else some .is
  | .keyword .«not» => if next = .keyword .«in» then some .notIn else none
  | _ => none

def operator? (kind next : Kind) : Option Operator :=
  match kind with
  | .keyword .«and» => some (.boolean .and)
  | .keyword .«or» => some (.boolean .or)
  | .symbol .plus => some (.binary .add)
  | .symbol .minus => some (.binary .sub)
  | .symbol .star => some (.binary .mul)
  | .symbol .atSign => some (.binary .matMul)
  | .symbol .slash => some (.binary .div)
  | .symbol .doubleSlash => some (.binary .floorDiv)
  | .symbol .percent => some (.binary .mod)
  | .symbol .doubleStar => some (.binary .pow)
  | .symbol .leftShift => some (.binary .shiftLeft)
  | .symbol .rightShift => some (.binary .shiftRight)
  | .symbol .vbar => some (.binary .bitOr)
  | .symbol .circumflex => some (.binary .bitXor)
  | .symbol .amper => some (.binary .bitAnd)
  | _ => (compareOp? kind next).map .compare

namespace Operator

def precedence : Operator → Precedence
  | boolean .or => .or
  | boolean .and => .and
  | compare _ => .comparison
  | binary op => match op with
    | .bitOr => .bitOr
    | .bitXor => .bitXor
    | .bitAnd => .bitAnd
    | .shiftLeft | .shiftRight => .shift
    | .add | .sub => .additive
    | .mul | .matMul | .div | .mod | .floorDiv => .multiplicative
    | .pow => .power

/-- Whether an operator is left to what stands outside an operand of the given precedence. Powers
group to the right, all else to the left. -/
def isOutside (op : Operator) (outer : Precedence) : Bool :=
  if op.precedence = .power then op.precedence < outer else op.precedence ≤ outer

end Operator

def unaryOp? : Kind → Option UnaryOp
  | .symbol .minus => some .minus
  | .symbol .plus => some .plus
  | .symbol .tilde => some .invert
  | .keyword .«not» => some .not
  | _ => none

/-- Pass over the one or two tokens of a comparison. -/
def bumpCompareOp (op : CompareOp) : Reading Unit := do
  bump
  if op = .isNot || op = .notIn then bump

namespace Rules

variable (G : Rules)

/-! ## Lists of expressions -/

/-- An expression that binds a name, or one that need not be in parentheses. -/
def namedExpression (context : ExprContext) : Reading Parsed := do
  let e ← G.conditional context
  if ← eatSymbol .colonEqual then
    match e.expr with
    | .name p _ =>
      let value ← G.conditional .plain
      return ⟨.named p e.expr value.expr, false⟩
    | _ => refuseAt e.expr.pos
  else return e

def tupleRest (first : Expr) (pos : Nat) (parens : Bool) (item : Reading Parsed) :
    Reading Parsed := do
  unless (← peek).endsSequence do expectSymbol .comma
  let elements ← listOf (.tupleElements parens) (return (← item).expr)
  if parens then expectSymbol .rpar
  return ⟨.tuple pos (first :: elements) parens, false⟩

/-- An expression, or several with commas between them. -/
def expressionList (context : ExprContext) : Reading Parsed := do
  let p ← here
  let e ← G.conditional context
  if ← atSymbol .comma then tupleRest e.expr p false (G.conditional context) else return e

/-- An expression behind a star that takes no more than bitwise operators. -/
def bitwiseOrExpression : Reading Parsed := do
  let e ← G.conditional .plain
  if e.parens then return e
  match e.expr with
  | .compare p _ _ _ | .boolean p _ _ | .unary p .not _ | .conditional p _ _ _ | .lambda p _ _ =>
    refuseAt p
  | _ => return e

/-! ## Comprehensions -/

def comprehensionClause : Reading ComprehensionClause := do
  let isAsync ← eatKeyword .«async»
  expectKeyword .«for»
  let target ← G.expressionList .loopTarget
  refuseIf target.expr.badTarget?
  expectKeyword .«in»
  let iterable ← G.operand .lowest .plain
  let conditions ← whileAt (· = .keyword .«if») do
    bump
    return (← G.operand .lowest .plain).expr
  return .mk isAsync target.expr iterable.expr conditions

/-- Whether a comprehension goes on behind its element. -/
def atComprehension : Reading Bool :=
  return (← peek) = .keyword .«for» || (← peek) = .keyword .«async»

def comprehensionClauses : Reading (List ComprehensionClause) :=
  whileAt (fun k => k = .keyword .«for» || k = .keyword .«async») G.comprehensionClause

/-- A generator behind its element. The element is not unpacked. -/
def generatorRest (element : Parsed) (pos : Nat) : Reading Parsed := do
  if element.isBareStarred then refuseAt element.expr.pos
  return ⟨.comprehension pos .generator element.expr none (← G.comprehensionClauses), false⟩

/-! ## Strings -/

inductive Literal
  | text (value : List Char)
  | bytes (value : List Char)
  | interpolated (template : Bool) (parts : List Part)

/-- A conversion of a replacement field, behind its mark. No blank stands before it. -/
def conversion (mark : Nat) : Reading String := do
  let c ← get
  match c.rest with
  | t :: _ =>
    match ← peek with
    | .name word =>
      if c.cutOff || t.start ≠ mark then throw (.inside (c.number - 1) 1)
      if word.text = "s" || word.text = "r" || word.text = "a" then
        bump
        return word.text
      else refuse
    | _ => refuse
  | [] => refuse

/-- Where the next token ends. -/
def nextStop : Reading Nat := return ((← get).rest.head?.map Token.stop).getD 0

mutual

/-- Stretches of text and replacement fields; `depth` bounds specifications inside one another. -/
def parts (inSpec : Bool) : Nat → Reading (List Part)
  | 0 => throw .tooDeep
  | depth + 1 => series (.replacement inSpec) (part depth)

def part : Nat → Reading Part
  | depth => do
    match ← peek with
    | .replacementText form text inSpec =>
      match StringText.decodePart form inSpec 0 text with
      | .ok value =>
        bump
        return .text value
      | .error n => throw (.inside (← here) n)
    | _ => field depth

/-- A replacement field. A lambda needs parentheses. -/
def field : Nat → Reading Part
  | depth => do
    expectSymbol .lbrace
    let value ← G.expressionList .yieldOrStarred
    match value.expr with
    | .lambda p _ _ => unless value.parens do refuseAt p
    | _ => pure ()
    let debug ← eatSymbol .equal
    let mark ← nextStop
    let converted ← if ← eatSymbol .exclamation then some <$> conversion mark else pure none
    let spec ← if ← eatSymbol .colon then some <$> parts true depth else pure none
    expectSymbol .rbrace
    return .field value.expr debug converted spec

end

def literal : Reading Literal := do
  match ← peek with
  | .string form text =>
    match StringText.decode form text with
    | .ok value =>
      bump
      return if form.flavour = .bytes then .bytes value else .text value
    | .error n => throw (.inside (← here) (form.opening + n))
  | .replacementStart form =>
    bump
    let c ← get
    let parts ← G.parts false (c.total - c.number + 2)
    match ← peek with
    | .replacementEnd _ =>
      bump
      return .interpolated (form.flavour = .template) parts
    | _ => refuse
  | _ => refuse

/-- The value of a row of literals. Bytes go only with bytes, and templates only with templates. -/
def joinLiterals (pos : Nat) (literals : List Literal) : Reading Expr := do
  let isBytes : Literal → Bool
    | .bytes _ => true
    | _ => false
  let isTemplate : Literal → Bool
    | .interpolated template _ => template
    | _ => false
  let isInterpolated : Literal → Bool
    | .interpolated _ _ => true
    | _ => false
  let characters : Literal → List Char
    | .text value | .bytes value => value
    | .interpolated _ _ => []
  if literals.any isBytes then
    if literals.all isBytes then
      return .constant pos (.bytes ((literals.flatMap characters).map fun c => c.toNat.toUInt8))
    else refuseAt pos
  else if literals.any isTemplate && !literals.all isTemplate then refuseAt pos
  else if literals.any isInterpolated then
    return .interpolated pos (literals.any isTemplate) (literals.flatMap fun
      | .interpolated _ parts => parts
      | other => [.text (characters other)])
  else return .constant pos (.text (literals.flatMap characters))

def strings : Reading Expr := do
  let p ← here
  joinLiterals p (← whileAt (fun
    | .string _ _ | .replacementStart _ => true
    | _ => false) G.literal)

/-! ## Arguments and parameters -/

/-- What is known about the arguments read so far; `done` holds them latest first. -/
structure ArgumentsRead where
  done : List Argument := []
  keyword : Bool := false
  unpacked : Bool := false
  /-- Names of keyword arguments with their tokens, latest first. -/
  names : List (String × Nat) := []
  /-- The first generator without parentheses. -/
  generator : Option Nat := none

/-- One argument. A positional one comes before keywords and unpacked mappings, an unpacked
sequence before unpacked mappings. -/
def argument (s : ArgumentsRead) : Reading ArgumentsRead := do
  if ← eatSymbol .doubleStar then
    let value ← G.conditional .plain
    return { s with done := .unpacked value.expr :: s.done, unpacked := true }
  let p ← here
  let e ← G.namedExpression .starredConditional
  let isGenerator ← atComprehension
  let e ← if isGenerator then G.generatorRest e p else pure e
  let s := if isGenerator then { s with generator := s.generator.or (some p) } else s
  if s.unpacked && !isGenerator && e.isBareStarred then refuseAt e.expr.pos
  if ← eatSymbol .equal then
    match e.expr with
    | .name _ id =>
      let value ← G.conditional .plain
      return { s with
        done := .keyword id value.expr :: s.done, keyword := true, names := (id, p) :: s.names }
    | _ => refuseAt e.expr.pos
  else
    if !e.isBareStarred && (s.unpacked || s.keyword) then refuseAt e.expr.pos
    return { s with done := .positional e.expr :: s.done }

/-- The token of the first name that an earlier one equals. -/
def firstRepeated? : List String → List (String × Nat) → Option Nat
  | _, [] => none
  | seen, (name, p) :: rest => if name ∈ seen then some p else firstRepeated? (name :: seen) rest

/-- Arguments in parentheses. No keyword comes twice, and a generator without parentheses of its own
stands alone. -/
def arguments : Reading (List Argument × Option Nat) := do
  expectSymbol .lpar
  let (s, trailing) ← sequence .arguments G.argument {}
  expectSymbol .rpar
  refuseIf (firstRepeated? [] s.names.reverse)
  if trailing || 1 < s.done.length then refuseIf s.generator
  return (s.done.reverse, s.generator)

/-- What is known about the parameters read so far; `done` holds them latest first. -/
structure ParametersRead where
  done : List Parameter := []
  hasDefault : Bool := false
  slash : Bool := false
  star : Bool := false
  variadic : Bool := false
  keywords : Bool := false
  /-- A name follows the star. -/
  afterStar : Bool := false
  /-- The star, if nothing follows it. -/
  lastStar : Option Nat := none

def required (context : ExprContext) : Reading Expr := do
  if ← atExpr then return (← G.conditional context).expr else refuse

/-- The name of a parameter with its annotation. A lambda has no annotations. -/
def parameterName (isLambda : Bool) (context : ExprContext) :
    Reading (String × Option Expr) := do
  let name ← identifier
  let annotated ← if isLambda then pure false else eatSymbol .colon
  if annotated then return (name, some (← G.required context)) else return (name, none)

def parameter (isLambda : Bool) (s : ParametersRead) : Reading ParametersRead := do
  if s.keywords then refuse
  let p ← here
  match ← peek with
  | .symbol .star =>
    bump
    if (← peek).isName then
      let (name, annotation) ← G.parameterName isLambda .starredBitwiseOr
      if ← atSymbol .equal then refuse
      if s.star || s.variadic then refuseAt p
      let done := .variadic name annotation :: s.done
      return { s with done, variadic := true, lastStar := none }
    else
      if s.star || s.variadic then refuseAt p
      return { s with done := .star :: s.done, star := true, lastStar := some p }
  | .symbol .doubleStar =>
    bump
    let (name, annotation) ← G.parameterName isLambda .plain
    if ← atSymbol .equal then refuse
    if s.star && !s.afterStar then refuseAt p
    let done := .keywords name annotation :: s.done
    return { s with done, keywords := true, lastStar := none }
  | .symbol .slash =>
    bump
    let named := s.done.any fun
      | .slash | .star => false
      | _ => true
    if !named || s.slash || s.star || s.variadic then refuseAt p
    return { s with done := .slash :: s.done, slash := true, lastStar := none }
  | _ =>
    let (name, annotation) ← G.parameterName isLambda .plain
    let default ← if ← eatSymbol .equal then some <$> G.required .plain else pure none
    if default.isNone && s.hasDefault && !s.star && !s.variadic then refuseAt p
    return { s with
      done := .plain name annotation default :: s.done
      hasDefault := s.hasDefault || default.isSome
      afterStar := s.afterStar || s.star
      lastStar := none }

/-- Parameters. A star with nothing behind it asks for a name. -/
def parameters (isLambda : Bool) : Reading (List Parameter) := do
  let (s, _) ← sequence (.parameters isLambda) (G.parameter isLambda) {}
  refuseIf s.lastStar
  return s.done.reverse

def lambda : Reading Parsed := do
  let p ← here
  expectKeyword .«lambda»
  let parameters ← if ← atSymbol .colon then pure [] else G.parameters true
  expectSymbol .colon
  let body ← G.conditional .plain
  return ⟨.lambda p parameters body.expr, false⟩

/-! ## Subscripts -/

def slice : Reading Expr := do
  let p ← here
  let lower ← if ← atExpr then
      let e ← G.namedExpression .starredConditional
      if ← atSymbol .colon then
        if !e.parens then
          match e.expr with
          | .starred q _ | .named q _ _ => refuseAt q
          | _ => pure ()
        pure (some e.expr, false)
      else
        let ended := match ← peek with
          | .newline | .endOfFile | .symbol .comma | .symbol .rsqb => true
          | _ => false
        if ended then pure (some e.expr, true) else refuse
    else pure (none, false)
  match lower with
  | (some e, true) => return e
  | (lower, _) =>
    expectSymbol .colon
    let isEnd : Kind → Bool
      | .newline | .endOfFile | .symbol .comma | .symbol .rsqb => true
      | _ => false
    let next ← peek
    let upper ← if isEnd next || next = .symbol .colon then pure none
      else some <$> G.conditional .plain
    let step ← if ← eatSymbol .colon then
        if isEnd (← peek) then pure none else some <$> G.conditional .plain
      else pure none
    return .slice p lower (upper.map (·.expr)) (step.map (·.expr))

/-- A subscript behind its value, which starts at token `pos`. -/
def subscript (pos : Nat) (value : Expr) : Reading Expr := do
  expectSymbol .lsqb
  let p ← here
  if ← atSymbol .rsqb then refuse
  let first ← G.slice
  let index ← if ← eatSymbol .comma then do
      let others ← listOf .slices G.slice
      pure (.tuple p (first :: others) false)
    else pure (match first with
      | .starred _ _ => .tuple p [first] false
      | _ => first)
  expectSymbol .rsqb
  return .subscript pos value index

/-! ## Displays -/

/-- An opening bracket is not followed by the end of its line. -/
def refuseLineEnd : Reading Unit := do
  match ← peek with
  | .newline | .endOfFile => refuse
  | _ => pure ()

/-- An expression in parentheses, a tuple or a generator. -/
def parenthesized : Reading Parsed := do
  let p ← here
  expectSymbol .lpar
  refuseLineEnd
  if ← eatSymbol .rpar then return ⟨.tuple p [] true, false⟩
  let e ← G.namedExpression .yieldOrStarred
  if ← atSymbol .comma then
    tupleRest e.expr p true (G.namedExpression .starredBitwiseOr)
  else if ← atComprehension then
    let generator ← G.generatorRest e p
    expectSymbol .rpar
    return generator
  else
    match e.expr with
    | .starred q _ => refuseAt q
    | _ => pure ()
    expectSymbol .rpar
    return ⟨e.expr, true⟩

/-- The elements of a list or set behind the first. -/
def elementsRest (list : ListKind) (first : Expr) : Reading (List Expr) := do
  unless (← peek).endsSequence do expectSymbol .comma
  let others ← listOf list (return (← G.namedExpression .starredBitwiseOr).expr)
  return first :: others

def listDisplay : Reading Expr := do
  let p ← here
  expectSymbol .lsqb
  refuseLineEnd
  if ← eatSymbol .rsqb then return .list p []
  let first ← G.namedExpression .starredBitwiseOr
  if ← atComprehension then
    if first.isBareStarred then refuseAt first.expr.pos
    let clauses ← G.comprehensionClauses
    expectSymbol .rsqb
    return .comprehension p .list first.expr none clauses
  else
    let elements ← G.elementsRest .listElements first.expr
    expectSymbol .rsqb
    return .list p elements

def dictItem : Reading DictItem := do
  if ← eatSymbol .doubleStar then return .unpacked (← G.bitwiseOrExpression).expr
  let key ← G.conditional .plain
  expectSymbol .colon
  return .pair key.expr (← G.conditional .plain).expr

def dictRest (pos : Nat) (first : DictItem) : Reading Expr := do
  unless (← peek).endsSequence do expectSymbol .comma
  let others ← listOf .dictElements G.dictItem
  expectSymbol .rbrace
  return .dict pos (first :: others)

/-- A dictionary, a set or a comprehension of either. -/
def braceDisplay : Reading Expr := do
  let p ← here
  expectSymbol .lbrace
  refuseLineEnd
  if ← eatSymbol .rbrace then return .dict p []
  if ← eatSymbol .doubleStar then
    let value ← G.bitwiseOrExpression
    return ← G.dictRest p (.unpacked value.expr)
  let first ← G.namedExpression .starredBitwiseOr
  if ← atComprehension then
    if first.isBareStarred then refuseAt first.expr.pos
    let clauses ← G.comprehensionClauses
    expectSymbol .rbrace
    return .comprehension p .set first.expr none clauses
  else if ← atSymbol .colon then
    if !first.parens then
      match first.expr with
      | .starred q _ | .named q _ _ => refuseAt q
      | _ => pure ()
    bump
    let value ← G.conditional .plain
    if ← atComprehension then
      let clauses ← G.comprehensionClauses
      expectSymbol .rbrace
      return .comprehension p .dict first.expr (some value.expr) clauses
    else G.dictRest p (.pair first.expr value.expr)
  else
    let elements ← G.elementsRest .setElements first.expr
    expectSymbol .rbrace
    return .set p elements

/-! ## Operands -/

def atom : Reading Parsed := do
  let p ← here
  let constant (value : Constant) : Reading Parsed := do
    bump
    return ⟨.constant p value, false⟩
  match ← peek with
  | .number form text => constant (.number form text)
  | .keyword .«None» => constant .none
  | .keyword .«True» => constant .true
  | .keyword .«False» => constant .false
  | .symbol .ellipsis => constant .ellipsis
  | .string _ _ | .replacementStart _ => return ⟨← G.strings, false⟩
  | .symbol .lpar => G.parenthesized
  | .symbol .lsqb => return ⟨← G.listDisplay, false⟩
  | .symbol .lbrace => return ⟨← G.braceDisplay, false⟩
  | _ => return ⟨.name p (← identifier), false⟩

/-- Calls, subscripts and members behind an expression that starts at token `pos`. -/
def trailers (pos : Nat) : Nat → Expr → Reading Expr
  | 0, _ => throw .tooDeep
  | fuel + 1, e => do
    match ← peek with
    | .symbol .lpar =>
      let (arguments, _) ← G.arguments
      trailers pos fuel (.call pos e arguments)
    | .symbol .lsqb => trailers pos fuel (← G.subscript pos e)
    | .symbol .dot =>
      bump
      trailers pos fuel (.member pos e (← identifier))
    | _ => return e

def yieldExpression : Reading Expr := do
  let p ← here
  expectKeyword .«yield»
  if ← eatKeyword .«from» then
    let value ← G.expressionList .plain
    match value.expr with
    | .tuple q _ false => refuseAt q
    | _ => return .yieldFrom p value.expr
  else if ← atExpr then return .yield p (some (← G.expressionList .starredBitwiseOr).expr)
  else return .yield p none

/-- An operand up to its first operator. -/
def operandStart (outer : Precedence) (context : ExprContext) : Reading Parsed := do
  let p ← here
  let kind ← peek
  match unaryOp? kind with
  | some op =>
    bump
    let own : Precedence := if op = .not then .not else .sign
    let operand ← G.operand own context
    if own < outer && (op = .not || outer ≠ .power) then refuseAt p
    return ⟨.unary p op operand.expr, false⟩
  | none =>
    match kind with
    | .symbol .star =>
      bump
      let value ← match context.starred with
        | some .bitwiseOr => G.bitwiseOrExpression
        | _ => G.conditional context
      if 0 < outer || context.starred.isNone then refuseAt p
      return ⟨.starred p value.expr, false⟩
    | .keyword .«await» =>
      bump
      let value ← G.operand .await .plain
      if Precedence.await ≤ outer then refuseAt p
      return ⟨.await p value.expr, false⟩
    | .keyword .«lambda» =>
      let _ ← G.lambda
      refuseAt p
    | .keyword .«yield» =>
      let e ← G.yieldExpression
      if 0 < outer || !context.allowsYield then refuseAt p
      return ⟨e, false⟩
    | _ =>
      let e ← G.atom
      return ⟨← G.trailers p (← rounds) e.expr, e.parens⟩

/-- Further operands of a boolean operation, latest first in `done`. -/
def booleanLoop (op : BooleanOp) (context : ExprContext) : Nat → List Expr → Reading (List Expr)
  | 0, _ => throw .tooDeep
  | fuel + 1, done => do
    let (word, own) : Keyword × Precedence := match op with
      | .and => (.«and», .and)
      | .or => (.«or», .or)
    let operand ← G.operand own context
    if ← eatKeyword word then booleanLoop op context fuel (operand.expr :: done)
    else return (operand.expr :: done).reverse

/-- Further operands of a chain of comparisons, latest first in `done`. -/
def compareLoop (context : ExprContext) : Nat → List CompareOp → List Expr →
    Reading (List CompareOp × List Expr)
  | 0, _, _ => throw .tooDeep
  | fuel + 1, ops, done => do
    let operand ← G.operand .comparison context
    let done := operand.expr :: done
    let (kind, next, _) ← peek3
    match if kind = .keyword .«in» && context.excludesIn then none else compareOp? kind next with
    | some op =>
      bumpCompareOp op
      compareLoop context fuel (op :: ops) done
    | none => return (ops.reverse, done.reverse)

/-- Operators behind an operand that starts at token `pos`, as far as they bind tighter than
`outer`. -/
def operators (outer : Precedence) (context : ExprContext) (pos : Nat) :
    Nat → Parsed → Reading Parsed
  | 0, _ => throw .tooDeep
  | fuel + 1, left => do
    let (kind, next, _) ← peek3
    if kind = .keyword .«in» && context.excludesIn then return left
    match operator? kind next with
    | none => return left
    | some op =>
      if op.isOutside outer then return left
      let e : Expr ← match op with
        | .boolean b => do
          bump
          let others ← G.booleanLoop b context (← rounds) []
          pure (.boolean pos b (left.expr :: others))
        | .compare c => do
          bumpCompareOp c
          let (ops, operands) ← G.compareLoop context (← rounds) [c] []
          pure (.compare pos left.expr ops operands)
        | .binary b => do
          bump
          let right ← G.operand op.precedence context
          pure (.binary pos b left.expr right.expr)
      operators outer context pos fuel { left with expr := e }

/-- An operand with the operators that bind tighter than `outer`. -/
def operandRule (outer : Precedence) (context : ExprContext) : Reading Parsed := do
  let p ← here
  let left ← G.operandStart outer context
  G.operators outer context p (← rounds) left

/-- A lambda, a conditional expression or an operand. -/
def conditionalRule (context : ExprContext) : Reading Parsed := do
  if ← atKeyword .«lambda» then G.lambda
  else
    let p ← here
    let e ← G.operandRule .lowest context
    if ← eatKeyword .«if» then
      let test ← G.operand .lowest .plain
      expectKeyword .«else»
      let otherwise ← G.conditional .plain
      return ⟨.conditional p e.expr test.expr otherwise.expr, false⟩
    else return e

end Rules

end ScriptBundle.Python
