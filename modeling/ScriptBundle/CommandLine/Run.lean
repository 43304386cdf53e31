import ScriptBundle.CommandLine.Report
import ScriptBundle.FileSystem.Tree
import ScriptBundle.Shell.Program

/-!
# The command on a snapshot alone

Here the programs are those among the files of the snapshot.
-/

namespace ScriptBundle

def probe (fs : FileSystem) (binary : Option String) : Trial (List String) :=
  probeWith (Shell.programs fs) binary

def bundleScript (fs : FileSystem) (config : Config) (entry : String) : Trial String :=
  CommandLine.bundleScript (Shell.programs fs) fs config entry

def CommandLine.run (fs : FileSystem) (environment : Environment) (arguments : List String) :
    Report :=
  runWith (Shell.programs fs) fs environment arguments

end ScriptBundle
