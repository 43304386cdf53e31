import ScriptBundle.CommandLine.Report
import ScriptBundle.Proofs.Closure.Outcome
import ScriptBundle.Proofs.CommandLine.Options
import ScriptBundle.Proofs.FileSystem.Edits

namespace ScriptBundle

/-! ## The stages of bundling -/

namespace CommandLine

open FileSystem (Keeps Adds find?_put find?_put_self)

variable {fs : FileSystem}

/-! ## Writing a bundle -/

variable {programs : Programs} {environment : Environment} {entry : String} {o : Options}

/-- A script without imports, and nothing else. -/
def single : FileSystem where
  entries := [(["main.py"], .file "x = 1\n".toUTF8 0o644)]

def asking : List String := ["main.py", "--python-binary", "python3"]

end CommandLine

end ScriptBundle
