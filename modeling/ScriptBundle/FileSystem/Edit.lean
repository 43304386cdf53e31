import ScriptBundle.FileSystem.Basic

/-!
# Changes to a file system

Each change gives the file system behind it, or the reason why nothing changed. Where several
changes are made in turn, an `Attempt` keeps those made before one of them failed.
-/

namespace ScriptBundle.FileSystem

variable (fs : FileSystem)

/-- Permission bits of a new file, and of an executable one. -/
def plainMode : Nat := 0o644

def executableMode : Nat := 0o755

/-- Put an entry at a location, in the place of what is there. -/
def put (place : Location) (entry : Entry) : FileSystem :=
  if fs.entries.any (·.1 = place) then
    { fs with entries := fs.entries.map fun e => if e.1 = place then (place, entry) else e }
  else { fs with entries := fs.entries ++ [(place, entry)] }

def makeDirectory (path : String) : Except IoError FileSystem := do
  let bare := String.ofList (path.toList.reverse.dropWhile (· = '/')).reverse
  let place ← fs.locate ⟨false, true⟩ (if bare = "" then path else bare)
  match fs.find? place with
  | some _ => .error .alreadyExists
  | none => .ok (fs.put place .directory)

/-- What an attempt to change files leaves behind, and how it ended. -/
structure Attempt where
  files : FileSystem
  outcome : Except IoError Unit := .ok ()

def ensureDirectory (path : String) : Attempt :=
  match fs.makeDirectory path with
  | .ok made => ⟨made, .ok ()⟩
  | .error e => ⟨fs, if fs.isDirectory path then .ok () else .error e⟩

/-- Make a directory and those above it that are missing; at most `depth` of them. -/
def makeDirectoriesUpTo : Nat → String → Attempt
  | 0, _ => ⟨fs, .error .notFound⟩
  | depth + 1, path =>
    if path = "" || (Path.parent? path).isNone then ⟨fs, .ok ()⟩
    else
      match fs.makeDirectory path with
      | .ok made => ⟨made, .ok ()⟩
      | .error .notFound =>
        match Path.parent? path with
        | none => ⟨fs, .ok ()⟩
        | some above =>
          let below := makeDirectoriesUpTo depth above
          match below.outcome with
          | .ok () => below.files.ensureDirectory path
          | .error _ => below
      | .error e => ⟨fs, if fs.isDirectory path then .ok () else .error e⟩

/-- Make a directory and those above it that are missing. -/
def makeDirectories (path : String) : Attempt :=
  fs.makeDirectoriesUpTo ((Path.segments path).length + 1) path

/-- Write a file. A new file gets the plain mode, an existing one keeps its own. A device takes what
is written to it. -/
def writeFile (path : String) (content : ByteArray) : Except IoError FileSystem := do
  if path.toList.getLast? = some '/' then
    let trimmed := (path.toList.reverse.dropWhile (· = '/')).reverse
    let _ ← fs.locate ⟨true, true⟩ (String.ofList trimmed)
    .error .isDirectory
  else
    let place ← fs.locate ⟨true, true⟩ path
    match fs.find? place with
    | some (.file _ mode) => .ok (fs.put place (.file content mode))
    | some (.device _) => .ok fs
    | some _ => .error .isDirectory
    | none => .ok (fs.put place (.file content plainMode))

def setMode (path : String) (mode : Nat) : Except IoError FileSystem := do
  let place ← fs.resolve path
  match fs.find? place with
  | some (.file content _) => .ok (fs.put place (.file content mode))
  | _ => .ok fs

end ScriptBundle.FileSystem
