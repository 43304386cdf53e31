import ScriptBundle.Failure
import ScriptBundle.FileSystem.Basic
import ScriptBundle.Import.Record

/-!
# Resolving references

A reference is looked for next to its importer first and then under the search roots. The first
place that has any candidate counts, with all the candidates that it has.
-/

namespace ScriptBundle

/-- The canonical form of a path, or the path itself where nothing is there. -/
def canonicalOrSelf (fs : FileSystem) (path : String) : String :=
  (fs.canonicalize? path).getD path

/-- The directory of an entry. A bare file name lies in the working directory. -/
def entryDirectory (entry : String) : String :=
  match Path.parent? entry with
  | none => "."
  | some above => if above = "" then "." else above

/-- The search roots of an entry: its directory, then extra paths, then those of the interpreter,
each directory once. -/
def searchRoots (fs : FileSystem) (entry : String) (extra interpreter : List String) :
    List String :=
  Path.distinct ((entryDirectory entry :: (extra ++ interpreter)).map (canonicalOrSelf fs))

def readSource (fs : FileSystem) (path : String) : Except Failure String :=
  (fs.readText path).mapError fun e => .read path e.message

def Match.read (fs : FileSystem) (m : Match) : Except Failure Record := do
  return ⟨m.canonical, m.absolute, ← readSource fs m.absolute⟩

/-- What decides where modules are found: a list of search roots. -/
structure Resolver where
  roots : List String
  deriving DecidableEq, Repr

namespace Resolver

/-- A resolver for some roots, which it puts on record. -/
def ofRoots (roots : List String) : Logged Resolver := do
  Logged.record (.searchRoots roots)
  return ⟨roots⟩

/-- The match that a candidate is below a directory with a given logical name, if it is there. -/
def matchAt (fs : FileSystem) (directory base : String) (c : Candidate) : Option Match :=
  let location := Path.join directory c.fileName
  if fs.isFile location then some ⟨LogicalPath.below base c.path, location⟩ else none

/-- The matches in a directory: the candidates that are files, the first for each canonical path. -/
def matchesIn (fs : FileSystem) (directory base : String) (candidates : List Candidate) :
    List Match :=
  (candidates.filterMap (matchAt fs directory base)).foldl
    (fun done m => if done.any (·.canonical = m.canonical) then done else done ++ [m]) []

/-- The events of looking for candidates in a directory. -/
def probingEvents (fs : FileSystem) (directory base : String) (candidates : List Candidate) :
    List Event :=
  candidates.flatMap fun c =>
    .probing c.kind (Path.join directory c.fileName) ::
      match matchAt fs directory base c with
      | some m =>
        if LogicalPath.leadsOutside m.canonical then [.outsideRoots m.absolute m.canonical] else []
      | none => []

def search (fs : FileSystem) (directory base : String) (candidates : List Candidate) :
    Logged (List Match) :=
  ⟨matchesIn fs directory base candidates, probingEvents fs directory base candidates⟩

/-- Look for a reference under the roots in turn. -/
def searchUnder (fs : FileSystem) (reference : Reference) : List String → Logged (List Match)
  | [] => return []
  | root :: rest => do
    let found ← search fs root "" reference.candidates
    if found.isEmpty then searchUnder fs reference rest
    else
      Logged.record (.resolvedInRoot reference root)
      return found

/-- The matches of a reference in an importer, or in the entry where there is none. -/
def resolve (r : Resolver) (fs : FileSystem) (importer : Option Record) (reference : Reference) :
    Logged (List Match) :=
  match importer.bind fun i => (Path.parent? i.absolute).map (i, ·) with
  | none => searchUnder fs reference r.roots
  | some (i, directory) => do
    let found ← search fs directory i.logicalDirectory reference.candidates
    if found.isEmpty then searchUnder fs reference r.roots
    else
      Logged.record (.resolvedRelative reference i.canonical)
      return found

end Resolver

end ScriptBundle
