import ScriptBundle.Python.Token

/-!
# Syntax trees

Expressions, patterns and statements of a module. Every node knows the number of its first token;
a statement also knows the number of the token behind it. A compound statement is a header with its
block and the clauses that go on with it, in source order, so that all blocks of a module are
reached the same way.
-/

namespace ScriptBundle.Python

inductive Constant
  | none | true | false | ellipsis
  | number (form : NumberForm) (text : String)
  | text (value : List Char)
  | bytes (value : List UInt8)
  deriving DecidableEq, Repr

inductive BinaryOp
  | add | sub | mul | matMul | div | mod | floorDiv | pow | shiftLeft | shiftRight | bitOr | bitXor
  | bitAnd
  deriving DecidableEq, Repr

inductive UnaryOp
  | invert | not | plus | minus
  deriving DecidableEq, Repr

inductive BooleanOp
  | and | or
  deriving DecidableEq, Repr

inductive CompareOp
  | eq | ne | lt | le | gt | ge | is | isNot | isIn | notIn
  deriving DecidableEq, Repr

inductive ComprehensionKind
  | list | set | dict | generator
  deriving DecidableEq, Repr

mutual

/-- Expressions. `pos` is the number of the first token. -/
inductive Expr
  | name (pos : Nat) (id : String)
  | constant (pos : Nat) (value : Constant)
  /-- A string with replacement fields. -/
  | interpolated (pos : Nat) (template : Bool) (parts : List Part)
  | boolean (pos : Nat) (op : BooleanOp) (operands : List Expr)
  | named (pos : Nat) (target value : Expr)
  | binary (pos : Nat) (op : BinaryOp) (left right : Expr)
  | unary (pos : Nat) (op : UnaryOp) (operand : Expr)
  | lambda (pos : Nat) (parameters : List Parameter) (body : Expr)
  | conditional (pos : Nat) (body test otherwise : Expr)
  | dict (pos : Nat) (items : List DictItem)
  | set (pos : Nat) (elements : List Expr)
  /-- A comprehension over the first expression; a dictionary has a second one. -/
  | comprehension (pos : Nat) (kind : ComprehensionKind) (element : Expr) (value : Option Expr)
      (clauses : List ComprehensionClause)
  | await (pos : Nat) (value : Expr)
  | yield (pos : Nat) (value : Option Expr)
  | yieldFrom (pos : Nat) (value : Expr)
  | compare (pos : Nat) (left : Expr) (ops : List CompareOp) (operands : List Expr)
  | call (pos : Nat) (callee : Expr) (arguments : List Argument)
  | member (pos : Nat) (value : Expr) (name : String)
  | subscript (pos : Nat) (value index : Expr)
  | starred (pos : Nat) (value : Expr)
  | list (pos : Nat) (elements : List Expr)
  | tuple (pos : Nat) (elements : List Expr) (parenthesized : Bool)
  | slice (pos : Nat) (lower upper step : Option Expr)

/-- A stretch of an interpolated string. -/
inductive Part
  | text (value : List Char)
  | field (value : Expr) (debug : Bool) (conversion : Option String) (spec : Option (List Part))

/-- One `for` of a comprehension with its conditions. -/
inductive ComprehensionClause
  | mk (isAsync : Bool) (target iterable : Expr) (conditions : List Expr)

inductive Argument
  | positional (value : Expr)
  | keyword (name : String) (value : Expr)
  | unpacked (value : Expr)

/-- A parameter, or one of the marks that stand among parameters. -/
inductive Parameter
  | plain (name : String) (hint default : Option Expr)
  | variadic (name : String) (hint : Option Expr)
  | keywords (name : String) (hint : Option Expr)
  | slash
  | star

inductive DictItem
  | pair (key value : Expr)
  | unpacked (value : Expr)

end

namespace Expr

/-- The number of an expression's first token, parentheses around the whole not counted. -/
def pos : Expr → Nat
  | name p _ | constant p _ | interpolated p _ _ | boolean p _ _ | named p _ _ | binary p _ _ _
  | unary p _ _ | lambda p _ _ | conditional p _ _ _ | dict p _ | set p _
  | comprehension p _ _ _ _ | await p _ | yield p _ | yieldFrom p _ | compare p _ _ _ | call p _ _
  | member p _ _ | subscript p _ _ | starred p _ | list p _ | tuple p _ _ | slice p _ _ _ => p

end Expr

inductive Pattern
  | value (pos : Nat) (value : Expr)
  | singleton (pos : Nat) (value : Constant)
  /-- A name to bind, or none for the wildcard. -/
  | capture (pos : Nat) (name : Option String)
  | star (pos : Nat) (name : Option String)
  | sequence (pos : Nat) (patterns : List Pattern)
  | mapping (pos : Nat) (keys : List Expr) (patterns : List Pattern) (rest : Option String)
  | «class» (pos : Nat) (cls : Expr) (patterns : List Pattern) (names : List String)
      (named : List Pattern)
  | or (pos : Nat) (patterns : List Pattern)
  | as (pos : Nat) (pattern : Pattern) (name : String)

namespace Pattern

def pos : Pattern → Nat
  | value p _ | singleton p _ | capture p _ | star p _ | sequence p _ | mapping p _ _ _
  | «class» p _ _ _ _ | or p _ | as p _ _ => p

def isStar : Pattern → Bool
  | star _ _ => true
  | _ => false

end Pattern

/-- Names between points. -/
structure DottedName where
  first : Word
  others : List Word
  deriving DecidableEq, Repr

namespace DottedName

def words (name : DottedName) : List Word := name.first :: name.others

/-- The spelling of a dotted name. -/
def text (name : DottedName) : String := ".".intercalate (name.words.map Word.text)

end DottedName

/-- What a from-import asks of its module. -/
inductive Member
  | name (word : Word)
  | star
  deriving DecidableEq, Repr

namespace Member

def name? : Member → Option String
  | name word => some word.text
  | star => none

end Member

/-- Something brought in by an import, with the name to bind it to. -/
structure Alias (α : Type) where
  target : α
  binding : Option String
  deriving DecidableEq, Repr

/-- Type parameters of functions, classes and type aliases. -/
inductive TypeParameter
  | variable (name : String) (bound default : Option Expr)
  | tuple (name : String) (default : Option Expr)
  | parameters (name : String) (default : Option Expr)

/-- Statements without blocks. -/
inductive SimpleStmt
  | expression (value : Expr)
  | assign (targets : List Expr) (value : Expr)
  | augmented (target : Expr) (op : BinaryOp) (value : Expr)
  | annotated (target annotation : Expr) (value : Option Expr)
  | «return» (value : Option Expr)
  | «raise» (exception cause : Option Expr)
  | delete (targets : List Expr)
  | assert (test : Expr) (message : Option Expr)
  | global (names : List String)
  | nonlocal (names : List String)
  | «import» (names : List (Alias DottedName))
  /-- An import from a module, `level` packages up; without a module, from the package itself. -/
  | importFrom (level : Nat) (module : Option DottedName) (names : List (Alias Member))
  | typeAlias (name : String) (parameters : List TypeParameter) (value : Expr)
  | pass
  | «break»
  | «continue»

/-- What opens a compound statement. -/
inductive Header
  | «if» (test : Expr)
  | «while» (test : Expr)
  | «for» (isAsync : Bool) (target iterable : Expr)
  | «try»
  | «with» (isAsync : Bool) (items : List (Expr × Option Expr))
  | function (isAsync : Bool) (decorators : List Expr) (name : String)
      (typeParameters : List TypeParameter) (parameters : List Parameter) (returns : Option Expr)
  | «class» (decorators : List Expr) (name : String) (typeParameters : List TypeParameter)
      (arguments : List Argument)
  | «match» (subject : Expr)

/-- What opens a further block of a compound statement. -/
inductive ClauseHeader
  | «elif» (test : Expr)
  | «else»
  | «except» (group : Bool) (exception : Option Expr) (name : Option String)
  | «finally»
  | «case» (pattern : Pattern) (guard : Option Expr)

/-- The tokens from number `first` up to, not including, number `past`. -/
structure Span where
  first : Nat
  past : Nat
  deriving DecidableEq, Repr

/-- Statements. A `match` has no block of its own, only cases. -/
inductive Stmt
  | simple (span : Span) (statement : SimpleStmt)
  | compound (span : Span) (header : Header) (body : List Stmt)
      (clauses : List (ClauseHeader × List Stmt))

namespace Stmt

def span : Stmt → Span
  | simple s _ | compound s _ _ _ => s

end Stmt

end ScriptBundle.Python
