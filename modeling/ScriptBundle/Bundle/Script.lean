import ScriptBundle.Config.Basic
import ScriptBundle.Interpreter.Probe

namespace ScriptBundle

/-- The modules of an entry, from the search roots of a configuration and an interpreter. -/
def collectModules (fs : FileSystem) (config : Config) (entry source : String)
    (interpreterPaths : List String) : Trial Registry := do
  let resolver ← Trial.ofLogged
    (Resolver.ofRoots (searchRoots fs entry config.src interpreterPaths))
  Trial.mapFailure (.collecting entry)
    ((Collector.mk fs resolver config.resolution).closure entry source config.extraModules)

/-- Bundle a script. `interpreterPaths` finds the search path of the interpreter. -/
def bundleWith (fs : FileSystem) (config : Config) (interpreterPaths : Trial (List String))
    (entry : String) : Trial String := do
  if !fs.isFile entry then throw (.entryNotFound entry)
  Trial.record (.bundling entry)
  let source ← ExceptT.mk (pure (readSource fs entry))
  let paths ← interpreterPaths
  Trial.record (.probed paths.length)
  let registry ← collectModules fs config entry source paths
  let text ← Trial.ofLogged (assemble config.assembleOptions source registry.records)
  Trial.record (.embedded registry.size text.utf8ByteSize)
  return text

end ScriptBundle
