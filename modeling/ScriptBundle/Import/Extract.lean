import ScriptBundle.Failure
import ScriptBundle.Python.Module

namespace ScriptBundle

namespace Python

mutual

/-- The statements without blocks in a statement, in source order. -/
def Stmt.simples : Stmt → List (Span × SimpleStmt)
  | .simple span s => [(span, s)]
  | .compound _ _ body clauses => blockSimples body ++ clausesSimples clauses

def blockSimples : List Stmt → List (Span × SimpleStmt)
  | [] => []
  | s :: rest => s.simples ++ blockSimples rest

def clausesSimples : List (ClauseHeader × List Stmt) → List (Span × SimpleStmt)
  | [] => []
  | (_, body) :: rest => blockSimples body ++ clausesSimples rest

end

end Python

open Python

/-- The references of a statement: one for each module of an `import`, one for a from-import. -/
def referencesOf : SimpleStmt → List Reference
  | .import names => names.map fun a => ⟨LogicalPath.ofImport 0 (some a.target.text), []⟩
  | .importFrom level module names =>
    let path := LogicalPath.ofImport level (module.map DottedName.text)
    if path = "" then [] else [⟨path, names.filterMap (·.target.name?)⟩]
  | _ => []

/-- The events of finding the references of a statement. -/
def importEvents : SimpleStmt → List Event
  | .import names => names.map fun a => .foundImport (LogicalPath.ofImport 0 (some a.target.text))
  | .importFrom level module names =>
    let path := LogicalPath.ofImport level (module.map DottedName.text)
    (names.filter (·.target = .star)).map (fun _ => .starImport path) ++
      [if path = "" then .emptyFromImport
        else .foundFromImport path (names.filterMap (·.target.name?))]
  | _ => []

/-- The failure of a source that does not parse, from the number of characters before its fault. -/
def parseFailure (path : String) (source : List Char) (place : Nat) : Failure :=
  .parse path (Text.Position.behind (source.take place)) Failure.syntaxDetail

/-- The references of a source in source order. The path is for the failure. -/
def extractImports (source path : String) : Trial (List Reference) :=
  match Module.parse source.toList with
  | .error place => throw (parseFailure path source.toList place)
  | .ok module => do
    let statements := (blockSimples module.body).map (·.2)
    Trial.ofLogged (Logged.recordAll (statements.flatMap importEvents))
    return statements.flatMap referencesOf

end ScriptBundle
