import ScriptBundle.Python.Grammar.Reading

/-!
# Rules and their contexts

The rules of the grammar call one another in circles. Each rule is written over `Rules`, the rules
as they are one level deeper, and `Python/Module` closes the circle.
-/

namespace ScriptBundle.Python

/-- How much a star before an expression takes. -/
inductive StarReach
  | conditional | bitwiseOr
  deriving DecidableEq, Repr

structure ExprContext where
  starred : Option StarReach := none
  allowsYield : Bool := false
  /-- An `in` belongs to the loop around, not to the expression. -/
  excludesIn : Bool := false
  deriving DecidableEq, Repr

namespace ExprContext

def plain : ExprContext := {}

def starredConditional : ExprContext := { starred := some .conditional }

def starredBitwiseOr : ExprContext := { starred := some .bitwiseOr }

def yieldOrStarred : ExprContext := { starred := some .bitwiseOr, allowsYield := true }

def loopTarget : ExprContext := { starred := some .conditional, excludesIn := true }

end ExprContext

/-- How tightly an operator binds, from 0 upwards. -/
abbrev Precedence := Nat

namespace Precedence

def lowest : Precedence := 0
def or : Precedence := 1
def and : Precedence := 2
def not : Precedence := 3
def comparison : Precedence := 4
def bitOr : Precedence := 5
def bitXor : Precedence := 6
def bitAnd : Precedence := 7
def shift : Precedence := 8
def additive : Precedence := 9
def multiplicative : Precedence := 10
def sign : Precedence := 11
def power : Precedence := 12
def await : Precedence := 13

end Precedence

/-- An expression that was read, with whether it stood in parentheses. -/
structure Parsed where
  expr : Expr
  parens : Bool := false

namespace Parsed

/-- A starred expression outside parentheses. -/
def isBareStarred (e : Parsed) : Bool :=
  !e.parens && match e.expr with
    | .starred _ _ => true
    | _ => false

end Parsed

structure Rules where
  /-- A conditional expression, a lambda or something that binds tighter. -/
  conditional : ExprContext → Reading Parsed
  /-- An operand that operators of the given precedence do not split. -/
  operand : Precedence → ExprContext → Reading Parsed
  statement : Reading Stmt
  /-- A pattern; the flag allows a star. -/
  pattern : Bool → Reading Pattern
  /-- A pattern without alternatives and binding. -/
  closedPattern : Bool → Reading Pattern

end ScriptBundle.Python
