import ScriptBundle.Import.Extract
import ScriptBundle.Import.Resolve
import ScriptBundle.Import.StandardLibrary

/-!
# The closure of an entry

The modules that an entry reaches through imports, in the order of a depth-first search: a module
comes before the modules that it imports, and these before its next sibling.
-/

namespace ScriptBundle

/-- What becomes of an import that matches nothing. -/
inductive ResolutionMode
  /-- It is left out of the bundle. -/
  | lenient
  /-- It ends the run. -/
  | strict
  deriving DecidableEq, Repr

namespace Registry

theorem size_insert? {r s : Registry} {record : Record} {index : Nat}
    (h : r.insert? record = some (s, index)) : s.size = r.size + 1 := by
  unfold insert? at h
  split at h
  · simp at h
  · simp only [Option.some.injEq, Prod.mk.injEq] at h
    simp [← h.1, size]

end Registry

/-- How modules are collected: from which files, by which resolver, and how strictly. -/
structure Collector where
  files : FileSystem
  resolver : Resolver
  mode : ResolutionMode

namespace Collector

variable (c : Collector)

/-- The matches of a reference. A strict collector wants at least one. -/
def matchesOf (importer : Option Record) (label : String) (reference : Reference) :
    Trial (List Match) := do
  let found ← Trial.ofLogged (c.resolver.resolve c.files importer reference)
  if found.isEmpty then
    match c.mode with
    | .lenient => Trial.record (.leftOut reference label)
    | .strict => throw (.unresolvedImport reference.display label)
  return found

/-- The matches of the imports of a module or of the entry. Modules of the standard library are
left out. -/
def matchesOfImports (importer : Option Record) (label : String) :
    List Reference → Trial (List Match)
  | [] => return []
  | reference :: rest =>
    if isStandardModule reference.path then do
      Trial.record (.skippedStandard reference.path)
      matchesOfImports importer label rest
    else do
      let found ← c.matchesOf importer label reference
      return found ++ (← matchesOfImports importer label rest)

/-- Modules that a run may collect. A module's canonical path is no longer than the path of its
file, and that has fewer than 4096 bytes, so there are not so many. -/
def capacity : Nat := Nat.pow 256 4096

/-- What is left on a stack: its matches and its lists. -/
def leftOn : List (List Match) → Nat
  | [] => 0
  | pending :: stack => pending.length + 1 + leftOn stack

/-- Visit the matches on a stack, top first, and the modules that they reach. -/
def walk (registry : Registry) : List (List Match) → Trial Registry
  | [] => return registry
  | [] :: stack => walk registry stack
  | (m :: pending) :: stack =>
    if registry.contains m.canonical then walk registry (pending :: stack)
    else if _room : registry.size < capacity then do
      let record ← ExceptT.mk (pure (m.read c.files))
      match h : registry.insert? record with
      | none => walk registry (pending :: stack)
      | some (grown, index) => do
        Trial.record (.discovered index record.canonical)
        let imports ← extractImports record.source record.absolute
        let found ← c.matchesOfImports (some record) record.canonical imports
        have := Registry.size_insert? h
        walk grown (found :: pending :: stack)
    else throw (.tooManyModules m.canonical)
termination_by stack =>
  (capacity - registry.size, leftOn stack)
decreasing_by
  all_goals simp only [leftOn, List.length_cons, List.length_nil]
  all_goals first
    | (apply Prod.Lex.right; omega)
    | (apply Prod.Lex.left; omega)

/-- What stands for the importer of names that were asked for. -/
def extraLabel : String := "<extra modules>"

/-- Visit the modules of some names. The names are asked for, so modules of the standard library
count. -/
def walkNames (registry : Registry) : List String → Trial Registry
  | [] => return registry
  | name :: rest => do
    let found ← c.matchesOf none extraLabel (Reference.ofDotted name)
    walkNames (← c.walk registry [found]) rest

/-- The modules that an entry reaches, then those that some names reach. The entry is one of them
only where a module imports it. -/
def closure (entry source : String) (names : List String) : Trial Registry := do
  let imports ← extractImports source entry
  let found ← c.matchesOfImports none entry imports
  let registry ← c.walkNames (← c.walk {} [found]) names
  Trial.record (.closed registry.size)
  return registry

end Collector

end ScriptBundle
