import ScriptBundle.Python.Grammar.Statement
import ScriptBundle.Python.Token.Scan

namespace ScriptBundle.Python

/-- The rules of the grammar, nested so many levels deep. -/
def Rules.upTo : Nat → Rules
  | 0 => ⟨fun _ => throw .tooDeep, fun _ _ => throw .tooDeep, throw .tooDeep,
      fun _ => throw .tooDeep, fun _ => throw .tooDeep⟩
  | depth + 1 => {
      conditional := fun context => (upTo depth).conditionalRule context
      operand := fun outer context => (upTo depth).operandRule outer context
      statement := fun cursor => (upTo depth).statementRule cursor
      pattern := fun allowStar => (upTo depth).patternRule allowStar
      closedPattern := fun allowStar => (upTo depth).closedPatternRule allowStar }

/-- A module: its tokens and the statements read from them. -/
structure Module where
  tokens : List Token
  body : List Stmt

namespace Module

/-- The place of a fault, in characters from the start of the source. -/
def placeOf (tokens : List Token) : Fault → Nat
  | .token n => (tokens[n]?.map Token.start).getD 0
  | .lineEnd n => ((tokens[n]?.bind Token.lineEnd).getD 0)
  | .inside n offset => (tokens[n]?.map Token.start).getD 0 + offset
  | .tooDeep => 0

/-- The statements of a list of tokens. A rule calls another behind a token of its own or once at a
statement's start, so twice as many levels as tokens are never used up. -/
def statements (tokens : List Token) : Except Fault (List Stmt) :=
  let depth := 2 * tokens.length + 16
  ((Reading.series .module (Rules.upTo depth).statement) ⟨tokens, 0, tokens.length, [], false⟩).map
    (·.1)

/-- Read a source. A fault is the place of the first token that does not fit or of the first text
that is no token, whichever comes first. -/
def parse (source : List Char) : Except Nat Module :=
  let scanned := Python.tokens source
  match statements scanned.tokens, scanned.fault with
  | .ok body, none => .ok ⟨scanned.tokens, body⟩
  | .ok _, some place => .error place
  | .error fault, none => .error (placeOf scanned.tokens fault)
  | .error fault, some place => .error (min (placeOf scanned.tokens fault) place)

/-- The places of the first character of some tokens and of the one behind the last. -/
def bounds (m : Module) (span : Span) : Nat × Nat :=
  ((m.tokens[span.first]?.map Token.start).getD 0,
    (m.tokens[span.past - 1]?.map Token.stop).getD 0)

end Module

end ScriptBundle.Python
