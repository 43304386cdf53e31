import ScriptBundle.Failure
import ScriptBundle.Interpreter.Program
import ScriptBundle.Text.Lines
import ScriptBundle.Text.Utf8

namespace ScriptBundle

open Text

def probeProgram : String := "import sys\nfor path in sys.path: print(path)"

/-- The interpreter is told to take no notice of its environment. -/
def probeArguments : List String := ["-E", "-c", probeProgram]

/-- The paths in a listing: its lines without blanks around them, empty ones left out. -/
def parseProbeOutput (output : String) : List String :=
  (((lines output.toList).map trim).filter fun line => !line.isEmpty).map String.ofList

/-- The paths that an outcome reports, or why it reports none. -/
def reportedPaths (outcome : Program.Outcome) : Except String (List String) :=
  if outcome.ending = .status 0 then
    match Utf8.decode outcome.output with
    | .ok text => .ok (parseProbeOutput (String.ofList text))
    | .error fault => .error ("output is not valid UTF-8: " ++ fault.message)
  else
    .error ("exited with " ++ outcome.ending.message ++ ": "
      ++ String.ofList (trim (Utf8.decodeLossy outcome.errors)))

def probeInterpreter (programs : Programs) (binary : String) : Trial (List String) := do
  Trial.record (.askingInterpreter binary)
  match programs binary probeArguments with
  | .error reason => throw (.probe binary reason)
  | .ok outcome =>
    match reportedPaths outcome with
    | .error reason => throw (.probe binary reason)
    | .ok paths =>
      Trial.record (.interpreterReported paths.length)
      return paths

def probeWith (programs : Programs) (binary : Option String) : Trial (List String) :=
  match binary with
  | some binary => probeInterpreter programs binary
  | none => return []

end ScriptBundle
