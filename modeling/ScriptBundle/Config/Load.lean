import ScriptBundle.Config.Basic
import ScriptBundle.FileSystem.Basic
import ScriptBundle.Toml.Document

namespace ScriptBundle

def configFileName : String := "plait.toml"

structure Environment where
  home : String
  /-- Where the user's configuration lies, if that is set. -/
  configHome : Option String := none
  deriving DecidableEq, Repr

namespace Environment

/-- The directory of all configuration of the user. Only an absolute setting counts. -/
def configDirectory (e : Environment) : String :=
  match e.configHome with
  | some path => if Path.isAbsolute path then path else Path.join e.home ".config"
  | none => Path.join e.home ".config"

def userDirectory (e : Environment) : String := Path.join e.configDirectory "plait"

def userFile (e : Environment) : String := Path.join e.userDirectory configFileName

end Environment

namespace Config

def directoryOf (path : String) : String := (Path.parent? path).getD ""

def layerFile (fs : FileSystem) (c : Config) (path : String) : Trial Config := do
  Trial.record (.loadingConfig path)
  match fs.readText path with
  | .error e => throw (.readConfig path e.message)
  | .ok text =>
    match (Toml.Document.parse text.toList).bind Settings.ofTable with
    | none => throw (.parseConfig path)
    | some settings => return c.layer (directoryOf path) settings

def layerFiles (fs : FileSystem) (c : Config) : List String → Trial Config
  | [] => return c
  | path :: rest => do layerFiles fs (← c.layerFile fs path) rest

/-- The configuration of a user's and a project's file. -/
def loadFrom (fs : FileSystem) (user project : Option String) : Trial Config :=
  layerFiles fs {} (user.toList ++ project.toList)

/-- The project's file: the one named, or the one in the working directory if it is there. -/
def projectFile? (fs : FileSystem) (explicit : Option String) : Option String :=
  match explicit with
  | some path => some path
  | none => if fs.isFile configFileName then some configFileName else none

def userFile? (fs : FileSystem) (e : Environment) : Option String :=
  if fs.isFile e.userFile then some e.userFile else none

/-- The configuration of a user in the working directory. -/
def load (fs : FileSystem) (e : Environment) (explicit : Option String) : Trial Config :=
  loadFrom fs (userFile? fs e) (projectFile? fs explicit)

end Config

end ScriptBundle
