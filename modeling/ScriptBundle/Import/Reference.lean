import ScriptBundle.Import.LogicalPath

namespace ScriptBundle

/-- An import: the path of a module and the names taken from it. -/
structure Reference where
  path : String
  items : List String := []
  deriving DecidableEq, Repr

namespace Reference

/-- The reference that a dotted name stands for. Leading points go up. -/
def ofDotted (name : String) : Reference :=
  let level := (name.toList.takeWhile (· = '.')).length
  let module := name.toList.drop level
  ⟨LogicalPath.ofImport level (if module.isEmpty then none else some (String.ofList module)), []⟩

/-- Whether a reference starts from the package of its importer. -/
def isRelative (r : Reference) : Bool := LogicalPath.isRelative r.path

/-- The path, with the names behind it in parentheses. -/
def display (r : Reference) : String :=
  if r.items.isEmpty then r.path else r.path ++ " (" ++ ", ".intercalate r.items ++ ")"

end Reference

inductive CandidateKind
  /-- The file of the module. -/
  | moduleFile
  /-- The initializer of the package or of one that it lies in. -/
  | packageInit
  /-- The file of a module named as an item. -/
  | itemModule
  /-- The initializer of a package named as an item. -/
  | itemPackage
  deriving DecidableEq, Repr

namespace CandidateKind

def name : CandidateKind → String
  | moduleFile => "ModuleFile"
  | packageInit => "PackageInit"
  | itemModule => "ItemModule"
  | itemPackage => "ItemPackage"

end CandidateKind

def sourceExtension : String := "py"

def packageInit : String := "__init__"

/-- A place where a module may be, as a path below some base. -/
structure Candidate where
  kind : CandidateKind
  path : String
  deriving DecidableEq, Repr

namespace Candidate

def fileName (c : Candidate) : String := c.path ++ "." ++ sourceExtension

end Candidate

/-- Prefixes of a list, shortest first, the empty one left out. -/
def initialSegments {α : Type} : List α → List (List α)
  | [] => []
  | a :: rest => [a] :: (initialSegments rest).map (a :: ·)

/-- The candidates of a reference in the order in which they are tried. A path that ends in points
names a package and has no file of its own. -/
def Reference.candidates (r : Reference) : List Candidate :=
  let segments := LogicalPath.segments r.path
  let own := if segments.getLast? = some "." ∨ segments.getLast? = some ".." then []
    else [⟨.moduleFile, r.path⟩]
  let inits := (initialSegments segments).map fun up =>
    ⟨.packageInit, LogicalPath.ofSegments up ++ "/" ++ packageInit⟩
  let items := r.items.flatMap fun item =>
    [⟨.itemModule, r.path ++ "/" ++ item⟩,
      ⟨.itemPackage, r.path ++ "/" ++ item ++ "/" ++ packageInit⟩]
  own ++ inits ++ items

end ScriptBundle
