import ScriptBundle.Text.CodePoints

/-!
# Paths as text

A path is kept as it was written. It stands for components: the root if it starts with a slash, the
working directory if it starts with a single point, then its names; empty segments and later points
stand for nothing. Two texts with the same components are one path.
-/

namespace ScriptBundle.Path

open ScriptBundle.Text

def segments (path : String) : List String :=
  (pieces '/' path.toList).map String.ofList

def isAbsolute (path : String) : Bool := path.toList.head? = some '/'

/-- Segments that stand for something behind the first. -/
def counts (segment : String) : Bool := segment ≠ "" && segment ≠ "."

/-- The components of a path. The root is an empty component. -/
def components (path : String) : List String :=
  match segments path with
  | first :: rest =>
    (if isAbsolute path || first ≠ "" then [first] else []) ++ rest.filter counts
  | [] => []

/-- Drop segments at the end that stand for nothing, but not the first one. -/
def trimSegments : List String → List String
  | [] => []
  | first :: rest => first :: (rest.reverse.dropWhile (!counts ·)).reverse

/-- The text of some segments. The root alone is a slash. -/
def ofSegments (segments : List String) : String :=
  if segments = [""] then "/" else "/".intercalate segments

/-- The path without its last component. The root and the empty path have none. -/
def parent? (path : String) : Option String :=
  let kept := trimSegments (segments path)
  if kept = [""] then none
  else
    match kept.dropLast with
    | [] => some ""
    | above => some (ofSegments (trimSegments above))

/-- A path as seen from a directory. An absolute path stays as it is. -/
def join (directory path : String) : String :=
  if isAbsolute path then path
  else if directory = "" || directory.toList.getLast? = some '/' then directory ++ path
  else directory ++ "/" ++ path

/-- Whether two texts are one path. -/
def same (p q : String) : Bool := components p = components q

/-- Paths in order of first occurrence. -/
def distinct (paths : List String) : List String :=
  paths.foldl (fun done p => if done.any (same p) then done else done ++ [p]) []

end ScriptBundle.Path
