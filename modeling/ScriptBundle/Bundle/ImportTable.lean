import ScriptBundle.Import.Record
import ScriptBundle.Import.Reference
import ScriptBundle.Payload.Basic

/-!
# The table of a bundle's importer

The importer that a bundle installs looks modules up by dotted name. A registration enters a module,
and an empty package for each package above it that has no entry yet.
-/

namespace ScriptBundle

/-- What the importer has for a dotted name. A package that nothing was registered for has no path
and no payload. -/
structure Importable where
  path : Option String
  payload : Option String
  isPackage : Bool
  deriving DecidableEq, Repr

namespace Importable

/-- A package of which only modules below it are known. -/
def emptyPackage : Importable := ⟨none, none, true⟩

def source (i : Importable) : Except Payload.Fault String :=
  match i.payload with
  | none => .ok ""
  | some payload => Payload.decode payload

end Importable

namespace LogicalPath

def isPackage (path : String) : Bool := (segments path).getLast? = some packageInit

/-- The segments that name the module in an import: a package goes by its directory. -/
def importSegments (path : String) : List String :=
  if isPackage path then (segments path).dropLast else segments path

def dottedName (segments : List String) : String := ".".intercalate segments

end LogicalPath

/-- Entries by dotted name, in the order in which the names first came. -/
structure ImportTable where
  entries : List (String × Importable) := []
  deriving DecidableEq, Repr

namespace ImportTable

def find? (t : ImportTable) (name : String) : Option Importable := t.entries.lookup name

/-- The table with an entry for a name in the place of any other. -/
def set (t : ImportTable) (name : String) (entry : Importable) : ImportTable :=
  if (t.find? name).isSome then
    ⟨t.entries.map fun (n, old) => if n = name then (n, entry) else (n, old)⟩
  else ⟨t.entries ++ [(name, entry)]⟩

/-- The table with an entry for a name that has none. -/
def setDefault (t : ImportTable) (name : String) (entry : Importable) : ImportTable :=
  if (t.find? name).isSome then t else t.set name entry

def register (t : ImportTable) (path payload : String) : ImportTable :=
  let names := LogicalPath.importSegments path
  let above := (initialSegments names.dropLast).foldl
    (fun t package => t.setDefault (LogicalPath.dottedName package) .emptyPackage) t
  above.set (LogicalPath.dottedName names)
    ⟨some path, some payload, LogicalPath.isPackage path⟩

def ofRecords (records : List Record) : ImportTable :=
  records.foldl (fun t r => t.register r.canonical (Payload.encode r.source)) {}

end ImportTable

end ScriptBundle
