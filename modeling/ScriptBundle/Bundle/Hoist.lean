import ScriptBundle.Python.Module

/-!
# Future imports

Imports from `__future__` have to stand at the very top of a script, so those that open an entry
leave its body.
-/

namespace ScriptBundle

open Python

/-- Whether a statement is nothing but a text. -/
def isDocstring : Stmt → Bool
  | .simple _ (.expression (.constant _ (.text _))) => true
  | _ => false

/-- The tokens of a statement that imports from `__future__`. -/
def futureSpan? : Stmt → Option Span
  | .simple span (.importFrom 0 (some name) _) =>
    if name.text = "__future__" then some span else none
  | _ => none

/-- Results at the start of a list, up to the first element that has none. -/
def resultsWhile {α β : Type} (f : α → Option β) : List α → List β
  | [] => []
  | a :: rest =>
    match f a with
    | some b => b :: resultsWhile f rest
    | none => []

def behindDocstring : List Stmt → List Stmt
  | [] => []
  | s :: rest => if isDocstring s then rest else s :: rest

/-- The tokens of the future imports that open a module. -/
def futureSpans (body : List Stmt) : List Span := resultsWhile futureSpan? (behindDocstring body)

/-- A script in two: the statements taken out, and the rest. -/
structure Hoisted where
  statements : List (List Char)
  body : List Char
  deriving DecidableEq, Repr

/-- Take out stretches of a text, given by the places where they start and end, in order. `place`
is that of the text's first character. -/
def takeOut (place : Nat) (text : List Char) : List (Nat × Nat) → Hoisted
  | [] => ⟨[], text⟩
  | (start, stop) :: rest =>
    let before := text.take (start - place)
    let stretch := (text.drop (start - place)).take (stop - start)
    let behind := takeOut stop (text.drop (stop - place)) rest
    ⟨stretch :: behind.statements, before ++ ['p', 'a', 's', 's'] ++ behind.body⟩

/-- Take the future imports that open a script out of it. A source that does not parse stays as it
is. -/
def hoist (source : List Char) : Hoisted :=
  match Module.parse source with
  | .error _ => ⟨[], source⟩
  | .ok module => takeOut 0 source ((futureSpans module.body).map module.bounds)

end ScriptBundle
