import ScriptBundle.Python.Syntax

/-!
# Trees with other token numbers

Trees are alike if they differ in the numbers of their tokens alone. `Expr.lower`, `Pattern.lower`
and `Stmt.lower` take a fixed number off all of them.
-/

namespace ScriptBundle.Python

variable (n : Nat)

mutual

/-- An expression with its tokens numbered `n` lower. -/
def Expr.lower : Expr → Expr
  | .name p id => .name (p - n) id
  | .constant p value => .constant (p - n) value
  | .interpolated p template parts => .interpolated (p - n) template (lowerParts parts)
  | .boolean p op operands => .boolean (p - n) op (lowerExprs operands)
  | .named p target value => .named (p - n) target.lower value.lower
  | .binary p op left right => .binary (p - n) op left.lower right.lower
  | .unary p op operand => .unary (p - n) op operand.lower
  | .lambda p parameters body => .lambda (p - n) (lowerParameters parameters) body.lower
  | .conditional p body test otherwise =>
    .conditional (p - n) body.lower test.lower otherwise.lower
  | .dict p items => .dict (p - n) (lowerItems items)
  | .set p elements => .set (p - n) (lowerExprs elements)
  | .comprehension p kind element value clauses =>
    .comprehension (p - n) kind element.lower (lowerExpr? value) (lowerClauses clauses)
  | .await p value => .await (p - n) value.lower
  | .yield p value => .yield (p - n) (lowerExpr? value)
  | .yieldFrom p value => .yieldFrom (p - n) value.lower
  | .compare p left ops operands => .compare (p - n) left.lower ops (lowerExprs operands)
  | .call p callee arguments => .call (p - n) callee.lower (lowerArguments arguments)
  | .member p value name => .member (p - n) value.lower name
  | .subscript p value index => .subscript (p - n) value.lower index.lower
  | .starred p value => .starred (p - n) value.lower
  | .list p elements => .list (p - n) (lowerExprs elements)
  | .tuple p elements parens => .tuple (p - n) (lowerExprs elements) parens
  | .slice p lower upper step =>
    .slice (p - n) (lowerExpr? lower) (lowerExpr? upper) (lowerExpr? step)

def lowerExprs : List Expr → List Expr
  | [] => []
  | e :: rest => e.lower :: lowerExprs rest

/-- The same for an expression that may be missing. -/
def lowerExpr? : Option Expr → Option Expr
  | none => none
  | some e => some e.lower

def Part.lower : Part → Part
  | .text value => .text value
  | .field value debug conversion spec => .field value.lower debug conversion (lowerSpec spec)

def lowerParts : List Part → List Part
  | [] => []
  | p :: rest => p.lower :: lowerParts rest

def lowerSpec : Option (List Part) → Option (List Part)
  | none => none
  | some parts => some (lowerParts parts)

def ComprehensionClause.lower : ComprehensionClause → ComprehensionClause
  | .mk isAsync target iterable conditions =>
    .mk isAsync target.lower iterable.lower (lowerExprs conditions)

/-- The same for the clauses of a comprehension. -/
def lowerClauses : List ComprehensionClause → List ComprehensionClause
  | [] => []
  | c :: rest => c.lower :: lowerClauses rest

def Argument.lower : Argument → Argument
  | .positional value => .positional value.lower
  | .keyword name value => .keyword name value.lower
  | .unpacked value => .unpacked value.lower

def lowerArguments : List Argument → List Argument
  | [] => []
  | a :: rest => a.lower :: lowerArguments rest

def Parameter.lower : Parameter → Parameter
  | .plain name hint default => .plain name (lowerExpr? hint) (lowerExpr? default)
  | .variadic name hint => .variadic name (lowerExpr? hint)
  | .keywords name hint => .keywords name (lowerExpr? hint)
  | .slash => .slash
  | .star => .star

def lowerParameters : List Parameter → List Parameter
  | [] => []
  | p :: rest => p.lower :: lowerParameters rest

def DictItem.lower : DictItem → DictItem
  | .pair key value => .pair key.lower value.lower
  | .unpacked value => .unpacked value.lower

def lowerItems : List DictItem → List DictItem
  | [] => []
  | i :: rest => i.lower :: lowerItems rest

end

attribute [simp] Expr.lower Part.lower ComprehensionClause.lower Argument.lower Parameter.lower
  DictItem.lower

@[simp]
theorem lowerExprs_eq (l : List Expr) : lowerExprs n l = l.map (Expr.lower n) := by
  induction l with
  | nil => rfl
  | cons e l ih => rw [lowerExprs, ih, List.map_cons]

@[simp]
theorem lowerExpr?_eq (o : Option Expr) : lowerExpr? n o = o.map (Expr.lower n) := by
  cases o <;> rfl

@[simp]
theorem lowerParts_eq (l : List Part) : lowerParts n l = l.map (Part.lower n) := by
  induction l with
  | nil => rfl
  | cons p l ih => rw [lowerParts, ih, List.map_cons]

@[simp]
theorem lowerSpec_eq (o : Option (List Part)) :
    lowerSpec n o = o.map fun l => l.map (Part.lower n) := by
  cases o with
  | none => rfl
  | some l => rw [lowerSpec, lowerParts_eq, Option.map_some]

@[simp]
theorem lowerClauses_eq (l : List ComprehensionClause) :
    lowerClauses n l = l.map (ComprehensionClause.lower n) := by
  induction l with
  | nil => rfl
  | cons c l ih => rw [lowerClauses, ih, List.map_cons]

@[simp]
theorem lowerArguments_eq (l : List Argument) : lowerArguments n l = l.map (Argument.lower n) := by
  induction l with
  | nil => rfl
  | cons a l ih => rw [lowerArguments, ih, List.map_cons]

@[simp]
theorem lowerParameters_eq (l : List Parameter) :
    lowerParameters n l = l.map (Parameter.lower n) := by
  induction l with
  | nil => rfl
  | cons p l ih => rw [lowerParameters, ih, List.map_cons]

@[simp]
theorem lowerItems_eq (l : List DictItem) : lowerItems n l = l.map (DictItem.lower n) := by
  induction l with
  | nil => rfl
  | cons i l ih => rw [lowerItems, ih, List.map_cons]

@[simp]
theorem Expr.pos_lower (e : Expr) : (e.lower n).pos = e.pos - n := by
  cases e <;> rfl

mutual

/-- A pattern with its tokens numbered `n` lower. -/
def Pattern.lower : Pattern → Pattern
  | .value p e => .value (p - n) (e.lower n)
  | .singleton p c => .singleton (p - n) c
  | .capture p name => .capture (p - n) name
  | .star p name => .star (p - n) name
  | .sequence p patterns => .sequence (p - n) (lowerPatterns patterns)
  | .mapping p keys patterns rest =>
    .mapping (p - n) (keys.map (Expr.lower n)) (lowerPatterns patterns) rest
  | .class p cls patterns names named =>
    .class (p - n) (cls.lower n) (lowerPatterns patterns) names (lowerPatterns named)
  | .or p patterns => .or (p - n) (lowerPatterns patterns)
  | .as p pattern name => .as (p - n) pattern.lower name

def lowerPatterns : List Pattern → List Pattern
  | [] => []
  | p :: rest => p.lower :: lowerPatterns rest

end

attribute [simp] Pattern.lower

@[simp]
theorem lowerPatterns_eq (l : List Pattern) : lowerPatterns n l = l.map (Pattern.lower n) := by
  induction l with
  | nil => rfl
  | cons p l ih => rw [lowerPatterns, ih, List.map_cons]

@[simp]
theorem Pattern.pos_lower (p : Pattern) : (p.lower n).pos = p.pos - n := by
  cases p <;> rfl

@[simp]
theorem Pattern.isStar_lower (p : Pattern) : (p.lower n).isStar = p.isStar := by
  cases p <;> rfl

/-- A type parameter with its tokens numbered `n` lower. -/
def TypeParameter.lower : TypeParameter → TypeParameter
  | .variable name bound default =>
    .variable name (bound.map (Expr.lower n)) (default.map (Expr.lower n))
  | .tuple name default => .tuple name (default.map (Expr.lower n))
  | .parameters name default => .parameters name (default.map (Expr.lower n))

/-- A statement without a block with its tokens numbered `n` lower. -/
def SimpleStmt.lower : SimpleStmt → SimpleStmt
  | .expression value => .expression (value.lower n)
  | .assign targets value => .assign (targets.map (Expr.lower n)) (value.lower n)
  | .augmented target op value => .augmented (target.lower n) op (value.lower n)
  | .annotated target hint value =>
    .annotated (target.lower n) (hint.lower n) (value.map (Expr.lower n))
  | .return value => .return (value.map (Expr.lower n))
  | .raise exception cause => .raise (exception.map (Expr.lower n)) (cause.map (Expr.lower n))
  | .delete targets => .delete (targets.map (Expr.lower n))
  | .assert test message => .assert (test.lower n) (message.map (Expr.lower n))
  | .global names => .global names
  | .nonlocal names => .nonlocal names
  | .import names => .import names
  | .importFrom level module names => .importFrom level module names
  | .typeAlias name parameters value =>
    .typeAlias name (parameters.map (TypeParameter.lower n)) (value.lower n)
  | .pass => .pass
  | .break => .break
  | .continue => .continue

/-- A header with its tokens numbered `n` lower. -/
def Header.lower : Header → Header
  | .if test => .if (test.lower n)
  | .while test => .while (test.lower n)
  | .for isAsync target iterable => .for isAsync (target.lower n) (iterable.lower n)
  | .try => .try
  | .with isAsync items =>
    .with isAsync (items.map fun (e, target) => (e.lower n, target.map (Expr.lower n)))
  | .function isAsync decorators name typeParameters parameters returns =>
    .function isAsync (decorators.map (Expr.lower n)) name
      (typeParameters.map (TypeParameter.lower n)) (parameters.map (Parameter.lower n))
      (returns.map (Expr.lower n))
  | .class decorators name typeParameters arguments =>
    .class (decorators.map (Expr.lower n)) name (typeParameters.map (TypeParameter.lower n))
      (arguments.map (Argument.lower n))
  | .match subject => .match (subject.lower n)

/-- A header of a further clause with its tokens numbered `n` lower. -/
def ClauseHeader.lower : ClauseHeader → ClauseHeader
  | .elif test => .elif (test.lower n)
  | .else => .else
  | .except group exception name => .except group (exception.map (Expr.lower n)) name
  | .finally => .finally
  | .case pattern guard => .case (pattern.lower n) (guard.map (Expr.lower n))

def Span.lower (s : Span) : Span := ⟨s.first - n, s.past - n⟩

mutual

/-- A statement with its tokens numbered `n` lower. -/
def Stmt.lower : Stmt → Stmt
  | .simple span s => .simple (span.lower n) (s.lower n)
  | .compound span header body clauses =>
    .compound (span.lower n) (header.lower n) (lowerBlock body) (lowerBlocks clauses)

def lowerBlock : List Stmt → List Stmt
  | [] => []
  | s :: rest => s.lower :: lowerBlock rest

def lowerBlocks : List (ClauseHeader × List Stmt) → List (ClauseHeader × List Stmt)
  | [] => []
  | (header, body) :: rest => (header.lower n, lowerBlock body) :: lowerBlocks rest

end

attribute [simp] TypeParameter.lower SimpleStmt.lower Header.lower ClauseHeader.lower Stmt.lower

@[simp]
theorem lowerBlock_eq (l : List Stmt) : lowerBlock n l = l.map (Stmt.lower n) := by
  induction l with
  | nil => rfl
  | cons s l ih => rw [lowerBlock, ih, List.map_cons]

/-- A further clause with its tokens numbered `n` lower. -/
def lowerClause (clause : ClauseHeader × List Stmt) : ClauseHeader × List Stmt :=
  (clause.1.lower n, clause.2.map (Stmt.lower n))

@[simp]
theorem lowerBlocks_eq (l : List (ClauseHeader × List Stmt)) :
    lowerBlocks n l = l.map (lowerClause n) := by
  induction l with
  | nil => rfl
  | cons c l ih => rw [lowerBlocks, ih, List.map_cons, lowerBlock_eq]; rfl

end ScriptBundle.Python
