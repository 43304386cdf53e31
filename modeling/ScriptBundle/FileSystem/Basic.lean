import ScriptBundle.FileSystem.Path

/-!
# A snapshot of a file system

A `FileSystem` lists what there is by location: files, directories, symbolic links and devices. A
path is followed from the working directory, name by name, through links.
-/

namespace ScriptBundle

/-- The names that lead from the root to a place. -/
abbrev Location := List String

/-- What may stand at a location. A device, a pipe or a socket is read and written like a file but
keeps nothing: a reader finds what comes from it, and what is written to it goes elsewhere, which may
be the output of the program that writes. -/
inductive Entry
  | file (content : ByteArray) (mode : Nat)
  | directory
  | link (target : String)
  | device (content : ByteArray)

/-- A snapshot of a file system, with the working directory. -/
structure FileSystem where
  entries : List (Location × Entry) := []
  workingDirectory : Location := []

/-- Why an operation on files fails. -/
inductive IoError
  | notFound | permissionDenied | badExecutable | alreadyExists | notDirectory | isDirectory
  | tooManyLinks | nameTooLong | nulInName | nulInData | notUtf8
  deriving DecidableEq, Repr

namespace IoError

def description : IoError → String
  | notFound => "No such file or directory"
  | badExecutable => "Exec format error"
  | permissionDenied => "Permission denied"
  | alreadyExists => "File exists"
  | notDirectory => "Not a directory"
  | isDirectory => "Is a directory"
  | nameTooLong => "File name too long"
  | tooManyLinks => "Too many levels of symbolic links"
  | nulInName => "file name contained an unexpected NUL byte"
  | nulInData => "nul byte found in provided data"
  | notUtf8 => "stream did not contain valid UTF-8"

/-- The number that the system has for a failure of its own. -/
def number? : IoError → Option Nat
  | notFound => some 2
  | badExecutable => some 8
  | permissionDenied => some 13
  | alreadyExists => some 17
  | notDirectory => some 20
  | isDirectory => some 21
  | nameTooLong => some 36
  | tooManyLinks => some 40
  | nulInName | nulInData | notUtf8 => none

def message (e : IoError) : String :=
  match e.number? with
  | some n => e.description ++ " (os error " ++ toString n ++ ")"
  | none => e.description

end IoError

namespace FileSystem

variable (fs : FileSystem)

/-- What stands at a location. The root is a directory. -/
def find? (place : Location) : Option Entry :=
  if place = [] then some .directory
  else (fs.entries.find? (·.1 = place)).map (·.2)

/-- The names to follow for a path. A slash at the end asks for a directory. -/
def names (path : String) : List String :=
  let all := (Path.segments path).filter (· ≠ "")
  if path.toList.getLast? = some '/' && !all.isEmpty then all ++ ["."] else all

structure LastName where
  /-- A link is followed. -/
  follow : Bool := true
  /-- Nothing need be there. -/
  mayBeMissing : Bool := false

/-- Follow names from a place. `across` goes on with the target of a link and the names behind it,
from the place that the link stands in. -/
def walkAcross (last : LastName)
    (across : Location → String → List String → Except IoError Location) (place : Location) :
    List String → Except IoError Location
  | [] => .ok place
  | name :: rest =>
    match fs.find? place with
    | some .directory =>
      if name = "." then walkAcross last across place rest
      else if name = ".." then walkAcross last across place.dropLast rest
      else if 255 < name.utf8ByteSize then .error .nameTooLong
      else
        match fs.find? (place ++ [name]) with
        | some (.link target) =>
          if rest.isEmpty && !last.follow then .ok (place ++ [name]) else across place target rest
        | some _ => walkAcross last across (place ++ [name]) rest
        | none =>
          if rest.isEmpty && last.mayBeMissing then .ok (place ++ [name]) else .error .notFound
    | some (.file _ _) | some (.device _) => .error .notDirectory
    | _ => .error .notFound

/-- Follow names from a place, through at most `links` links. -/
def walk (last : LastName) : Nat → Location → List String → Except IoError Location
  | 0 => fs.walkAcross last fun _ _ _ => .error .tooManyLinks
  | links + 1 => fs.walkAcross last fun place target rest =>
    walk last links (if Path.isAbsolute target then [] else place) (names target ++ rest)

/-- The location of a path, with its last name taken as asked. -/
def locate (last : LastName) (path : String) : Except IoError Location :=
  if path.toList.contains '\x00' then .error .nulInName
  else if path = "" then .error .notFound
  else if 4096 ≤ path.utf8ByteSize then .error .nameTooLong
  else fs.walk last 40 (if Path.isAbsolute path then [] else fs.workingDirectory) (names path)

def resolve (path : String) : Except IoError Location := fs.locate {} path

def entry? (path : String) : Option Entry :=
  match fs.resolve path with
  | .ok place => fs.find? place
  | .error _ => none

def isFile (path : String) : Bool :=
  match fs.entry? path with
  | some (.file _ _) => true
  | _ => false

def isDirectory (path : String) : Bool :=
  match fs.entry? path with
  | some .directory => true
  | _ => false

def readBytes (path : String) : Except IoError ByteArray := do
  match fs.find? (← fs.resolve path) with
  | some (.file content _) | some (.device content) => .ok content
  | some .directory => .error .isDirectory
  | _ => .error .notFound

def readText (path : String) : Except IoError String := do
  match String.fromUTF8? (← fs.readBytes path) with
  | some text => .ok text
  | none => .error .notUtf8

def pathOf (place : Location) : String := "/" ++ "/".intercalate place

/-- The location that a path leads to name by name, however long its text is. -/
def trace (path : String) : Except IoError Location :=
  if path.toList.contains '\x00' then .error .nulInName
  else if path = "" then .error .notFound
  else fs.walk {} 40 (if Path.isAbsolute path then [] else fs.workingDirectory) (names path)

/-- The path of the place that a path leads to, without links and points. -/
def canonicalize? (path : String) : Option String :=
  match fs.trace path with
  | .ok place => some (pathOf place)
  | .error _ => none

end FileSystem

end ScriptBundle
