import ScriptBundle.Import.LogicalPath

namespace ScriptBundle

/-- A module file: its path among the modules and its place in the file system. -/
structure Match where
  canonical : String
  absolute : String
  deriving DecidableEq, Repr

structure Record where
  canonical : String
  absolute : String
  source : String
  deriving DecidableEq, Repr

namespace Record

/-- The package that a module lies in, where its own relative imports start. -/
def logicalDirectory (r : Record) : String := LogicalPath.directory r.canonical

end Record

/-- Records with distinct canonical paths, in order of insertion. -/
structure Registry where
  records : List Record := []
  deriving DecidableEq, Repr

namespace Registry

/-- Whether a canonical path is taken. -/
def contains (r : Registry) (canonical : String) : Bool :=
  r.records.any (·.canonical = canonical)

/-- The registry with one more record and the record's index, or nothing if its path is taken. -/
def insert? (r : Registry) (record : Record) : Option (Registry × Nat) :=
  if r.contains record.canonical then none
  else some (⟨r.records ++ [record]⟩, r.records.length)

def get? (r : Registry) (index : Nat) : Option Record := r.records[index]?

def paths (r : Registry) : List String := r.records.map (·.canonical)

def size (r : Registry) : Nat := r.records.length

end Registry

end ScriptBundle
