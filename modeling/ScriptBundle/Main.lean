import ScriptBundle.CommandLine.Run

/-!
# The program

The program looks at the files that a run of the command asks for, and runs it again until it asks
for nothing new. Then it writes what the command reports.
-/

namespace ScriptBundle.Main

def pathsOf : Event → List String
  | .probing _ location => [location]
  | .searchRoots roots => roots
  | .askingInterpreter binary => [binary]
  | .loadingConfig path | .bundling path => [path]
  | _ => []

/-- The paths that a command looks at in any case. -/
def firstPaths (environment : Environment) (arguments : List String) : List String :=
  match CommandLine.Options.parse arguments with
  | .bundle entry o =>
    [".", configFileName, environment.userFile, entry] ++ o.config.toList ++ o.output.toList
      ++ (o.output.bind Path.parent?).toList
  | _ => []

/-- Every file may be run; what may not is refused by the system. -/
def observedMode : Nat := FileSystem.executableMode

/-- What stands at a path that has no links in it. Devices are read only where that is asked for. -/
def entryAt? (readsDevice : Bool) (path : String) : IO (Option Entry) := do
  try
    let real ← IO.FS.realPath path
    match (← real.metadata).type with
    | .dir => return some .directory
    | .file => return some (.file (← IO.FS.readBinFile path) observedMode)
    | .symlink => return none
    | .other =>
      return some (.device (← if readsDevice then IO.FS.readBinFile path else pure .empty))
  catch _ => return none

/-- Put what stands at a location, and the directories above it, into a snapshot. -/
def putReal (readsDevice : Bool) (fs : FileSystem) (place : Location) : IO FileSystem := do
  let above := (List.range place.length).map place.take
  let fs := above.foldl (fun fs p => if p = [] then fs else fs.put p .directory) fs
  match ← entryAt? readsDevice (FileSystem.pathOf place) with
  | some e => return if place = [] then fs else fs.put place e
  | none => return fs

/-- Put what names lead to, from a place on, into a snapshot. -/
def observeFrom (readsDevice : Bool) (fs : FileSystem) (place : Location) :
    List String → IO FileSystem
  | [] => return fs
  | name :: rest =>
    if name = "." then observeFrom readsDevice fs place rest
    else if name = ".." then observeFrom readsDevice fs place.dropLast rest
    else do
      let here := place ++ [name]
      let real? ← try
          let real ← IO.FS.realPath (FileSystem.pathOf here)
          pure (some (FileSystem.names real.toString))
        catch _ => pure none
      match real? with
      | none => return fs
      | some real =>
        let fs ← putReal readsDevice fs real
        let fs := if real = here then fs else fs.put here (.link (FileSystem.pathOf real))
        observeFrom readsDevice fs real rest

def observe (readsDevice : Bool) (fs : FileSystem) (path : String) : IO FileSystem :=
  observeFrom readsDevice fs (if Path.isAbsolute path then [] else fs.workingDirectory)
    (FileSystem.names path)

/-- The file that a command names for its configuration. It may be a device. -/
def configOf (arguments : List String) : Option String :=
  match CommandLine.Options.parse arguments with
  | .bundle _ o => o.config
  | _ => none

def eventsOf (fs : FileSystem) (environment : Environment) (arguments : List String) :
    List Event :=
  match CommandLine.Options.parse arguments with
  | .bundle entry o => (CommandLine.bundle (Shell.programs fs) fs environment entry o).events
  | _ => []

/-- Look at files until a run asks for nothing new. -/
partial def settle (environment : Environment) (arguments : List String) (fs : FileSystem)
    (observed new : List String) : IO FileSystem := do
  let mut fs := fs
  for path in new do
    fs ← observe (configOf arguments = some path) fs path
  let observed := observed ++ new
  let asked := (eventsOf fs environment arguments).flatMap pathsOf
  let fresh := (asked.filter fun p => !observed.contains p).eraseDups
  if fresh.isEmpty then return fs else settle environment arguments fs observed fresh

/-- Write a bundle to the real files, in the steps of `CommandLine.writeBundle`. -/
def writeOut (path text : String) : IO (Option Failure) := do
  let above := (Path.parent? path).getD ""
  let all : IO.AccessRight := ⟨true, true, true⟩
  let others : IO.AccessRight := ⟨true, false, true⟩
  let steps : List ((String → Failure) × IO Unit) :=
    [(.createDirectory above, if above = "" then pure () else IO.FS.createDirAll above),
      (.writeBundle path, IO.FS.writeFile path text),
      (.markExecutable path, IO.setAccessRights path ⟨all, others, others⟩)]
  for (failed, step) in steps do
    try step
    catch e => return some (failed (toString e))
  return none

end ScriptBundle.Main

open ScriptBundle in
def main (arguments : List String) : IO UInt32 := do
  let environment : Environment :=
    ⟨(← IO.getEnv "HOME").getD "", ← IO.getEnv "XDG_CONFIG_HOME"⟩
  let directory := FileSystem.names (← IO.currentDir).toString
  let start ← Main.settle environment arguments { workingDirectory := directory } []
    (Main.firstPaths environment arguments)
  let report := CommandLine.run start environment arguments
  let failure? ← match report.written with
    | some (path, text) => Main.writeOut path text
    | none => pure none
  let report := match failure? with
    | some failure =>
      let log := report.log.filter fun e => match e with
        | Event.wrote _ => false
        | _ => true
      { report with code := 1, log, complaint := some (CommandLine.failureLine failure) }
    | none => report
  for line in report.errors do
    IO.eprintln line
  IO.print report.output
  return UInt32.ofNat report.code
