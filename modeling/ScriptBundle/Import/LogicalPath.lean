import ScriptBundle.Text.CodePoints

/-!
# Logical paths

A logical path names a module by segments with slashes between them, without an extension. `.` and
`..` segments lead to a package from inside it. A path in normal form has no empty segment, no `.`
and no `..` behind another segment; the empty path is `.`.
-/

namespace ScriptBundle.LogicalPath

open ScriptBundle.Text

/-- The segments of a path. The empty path has one, which is empty. -/
def segments (path : String) : List String :=
  (pieces '/' path.toList).map String.ofList

def ofSegments (segments : List String) : String := "/".intercalate segments

/-- Follow one more segment from a place given by segments, innermost first. Above the top, `..`
stays. -/
def follow (place : List String) (segment : String) : List String :=
  if segment = "" ∨ segment = "." then place
  else if segment = ".." then
    match place with
    | inner :: outer => if inner = ".." then ".." :: place else outer
    | [] => [".."]
  else segment :: place

/-- The segments of the place that some segments lead to. -/
def normalSegments (segments : List String) : List String :=
  (segments.foldl follow []).reverse

/-- The path written for the place with given segments. -/
def ofNormalSegments (segments : List String) : String :=
  if segments.isEmpty then "." else ofSegments segments

def normalize (path : String) : String := ofNormalSegments (normalSegments (segments path))

/-- The path up to its last slash, empty without one. -/
def directory (path : String) : String := ofSegments (segments path).dropLast

/-- The start of a path for an import `level` packages up: a single point is the package itself. -/
def anchor (level : Nat) : Option String :=
  match level with
  | 0 => none
  | 1 => some "."
  | n + 2 => some (ofSegments (List.replicate (n + 1) ".."))

def slashed (name : String) : String :=
  String.ofList (name.toList.map fun c => if c = '.' then '/' else c)

/-- The path of a module by its dotted name, `level` packages up. -/
def ofImport (level : Nat) (module : Option String) : String :=
  match anchor level, module.map slashed with
  | none, some name => name
  | some up, some name => up ++ "/" ++ name
  | some up, none => up
  | none, none => ""

/-- Whether a path starts with a point, and so names a module by its place. -/
def isRelative (path : String) : Bool := path.toList.head? = some '.'

/-- Whether a path starts with two points. In normal form these lead above every root. -/
def leadsOutside (path : String) : Bool := path.toList.take 2 = ['.', '.']

/-- The path below a logical directory, where the empty directory is the top. -/
def below (base path : String) : String :=
  if base = "" then normalize path else normalize (base ++ "/" ++ path)

end ScriptBundle.LogicalPath
