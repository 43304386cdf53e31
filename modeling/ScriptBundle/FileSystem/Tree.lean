import ScriptBundle.FileSystem.Edit

namespace ScriptBundle.FileSystem

variable (fs : FileSystem)

def makeLink (path target : String) : Except IoError FileSystem := do
  let place ← fs.locate ⟨false, true⟩ path
  match fs.find? place with
  | some _ => .error .alreadyExists
  | none => .ok (fs.put place (.link target))

/-- Remove a file, a link, or a directory with all that is below it. -/
def remove (path : String) : Except IoError FileSystem := do
  let place ← fs.locate ⟨false, false⟩ path
  .ok { fs with entries := fs.entries.filter fun e => !place.isPrefixOf e.1 }

inductive Item
  | file (content : ByteArray) (executable : Bool)
  | directory
  | link (target : String)

/-- The files behind an attempt that went well. -/
def Attempt.result (a : Attempt) : Except IoError FileSystem := a.outcome.map fun _ => a.files

def makeAbove (path : String) : Except IoError FileSystem :=
  match Path.parent? path with
  | some above => (fs.makeDirectories above).result
  | none => .ok fs

def make (path : String) (item : Item) : Except IoError FileSystem := do
  let fs ← fs.makeAbove path
  match item with
  | .directory => (fs.makeDirectories path).result
  | .link target => fs.makeLink path target
  | .file content executable => do
    let fs ← fs.writeFile path content
    fs.setMode path (if executable then executableMode else plainMode)

end ScriptBundle.FileSystem
