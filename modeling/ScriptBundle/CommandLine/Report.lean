import ScriptBundle.Bundle.Script
import ScriptBundle.CommandLine.Options
import ScriptBundle.Config.Load
import ScriptBundle.FileSystem.Edit

namespace ScriptBundle.CommandLine

structure Report where
  code : Nat
  /-- What goes to the output, other than by way of a device. -/
  output : String := ""
  /-- The events that are shown. -/
  log : List Event := []
  /-- What is said about a failure. -/
  complaint : Option String := none
  files : FileSystem
  /-- The path that was written to, and the text. -/
  written : Option (String × String) := none

/-- The configuration with the options over it. -/
def applyOptions (o : Options) (c : Config) : Config where
  src := c.src ++ o.paths
  extraModules := c.extraModules ++ o.modules
  python := o.python.or c.python
  copyShebang := o.copyShebang || c.copyShebang
  defaultShebang := c.defaultShebang
  resolution := if o.strict then .strict else c.resolution

def shownLevel (verbose : Nat) : LogLevel :=
  match verbose with
  | 0 => .warn
  | 1 => .info
  | 2 => .debug
  | _ => .trace

def paddedLevel (level : LogLevel) : String :=
  level.name ++ String.ofList (List.replicate (5 - level.name.length) ' ')

/-- What stands before the wording of an event. -/
def logPrefix (event : Event) : String :=
  "[" ++ paddedLevel event.level ++ " " ++ event.target ++ "] "

def setIn (text : String) : String :=
  String.ofList (text.toList.flatMap fun c => if c = '\n' then "\n    ".toList else [c])

def logLine (event : Event) : String := logPrefix event ++ setIn event.message

def shown (least : LogLevel) (events : List Event) : List Event :=
  events.filter fun e => least.rank ≤ e.level.rank

def configDetail : String := "<toml>"

def failureLine (f : Failure) : String :=
  "error: " ++ f.message ++
    match f with
    | .parseConfig _ => ": " ++ configDetail
    | _ => ""

/-- Write a bundle to a file, which becomes executable. Directories above it are made. The files are
as they were left, also where that failed. -/
def writeBundle (fs : FileSystem) (path text : String) : FileSystem × Trial Unit :=
  let above := (Path.parent? path).getD ""
  let made := if above = "" then ⟨fs, .ok ()⟩ else fs.makeDirectories above
  match made.outcome with
  | .error e => (made.files, throw (.createDirectory above e.message))
  | .ok () =>
    match made.files.writeFile path text.toUTF8 with
    | .error e => (made.files, throw (.writeBundle path e.message))
    | .ok written =>
      match written.setMode path FileSystem.executableMode with
      | .error e => (written, throw (.markExecutable path e.message))
      | .ok marked => (marked, Trial.record (.wrote path))

/-- The bundle of an entry, with the search path of the interpreter that a configuration names. -/
def bundleScript (programs : Programs) (fs : FileSystem) (config : Config) (entry : String) :
    Trial String :=
  bundleWith fs config (probeWith programs config.python) entry

def bundle (programs : Programs) (fs : FileSystem) (environment : Environment) (entry : String)
    (o : Options) : Trial String := do
  let config ← Config.load fs environment o.config
  bundleScript programs fs (applyOptions o config) entry

def Report.errors (r : Report) : List String := r.log.map logLine ++ r.complaint.toList

def failed (o : Options) (files : FileSystem) (events : List Event) (f : Failure) : Report where
  code := 1
  log := shown (shownLevel o.verbose) events
  complaint := some (failureLine f)
  files := files

/-- The report of a bundle that is asked for. It goes to a file or to the output. -/
def report (programs : Programs) (fs : FileSystem) (environment : Environment) (entry : String)
    (o : Options) : Report :=
  let bundled := bundle programs fs environment entry o
  match bundled.outcome with
  | .error f => failed o fs bundled.events f
  | .ok text =>
    match o.output with
    | none =>
      { code := 0, output := text, log := shown (shownLevel o.verbose) bundled.events, files := fs }
    | some path =>
      let (files, written) := writeBundle fs path text
      let events := bundled.events ++ written.events
      match written.outcome with
      | .error f => failed o files events f
      | .ok () =>
        { code := 0, log := shown (shownLevel o.verbose) events, files,
          written := some (path, text) }

def misuseCode : Nat := 2

def misuseLine : String := "<usage>"

def runWith (programs : Programs) (fs : FileSystem) (environment : Environment)
    (arguments : List String) : Report :=
  match Options.parse arguments with
  | .help => { code := 0, output := helpText, files := fs }
  | .version => { code := 0, output := versionText, files := fs }
  | .misuse => { code := misuseCode, complaint := some misuseLine, files := fs }
  | .bundle entry o => report programs fs environment entry o

end ScriptBundle.CommandLine
