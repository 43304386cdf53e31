import ScriptBundle.Bundle.Assemble
import ScriptBundle.FileSystem.Path
import ScriptBundle.Import.Closure
import ScriptBundle.Toml.Table

/-!
# Configuration

A `Config` decides how a script is bundled. It is built in layers: each file of settings goes over
what there is, lists behind and single values in the place of the earlier ones.
-/

namespace ScriptBundle

/-- How a script is bundled. -/
structure Config where
  /-- Search roots behind the entry's directory. -/
  src : List String := []
  /-- Dotted names of modules to embed in any case. -/
  extraModules : List String := []
  /-- The interpreter whose search path comes last. -/
  python : Option String := none
  copyShebang : Bool := false
  defaultShebang : String := Template.defaultShebang
  resolution : ResolutionMode := .lenient
  deriving DecidableEq, Repr

/-- The settings of one file. What is not set leaves things as they are. -/
structure Settings where
  src : List String := []
  extraModules : List String := []
  python : Option String := none
  copyShebang : Option Bool := none
  defaultShebang : Option String := none
  resolution : Option ResolutionMode := none
  deriving DecidableEq, Repr

namespace Settings

open Toml

def text? : Value → Option String
  | .text s => some s
  | _ => none

def truth? : Value → Option Bool
  | .truth b => some b
  | _ => none

def texts? : Value → Option (List String)
  | .list items => items.mapM text?
  | _ => none

def modeNamed? (name : String) : Option ResolutionMode :=
  if name = "lenient" then some .lenient else if name = "strict" then some .strict else none

def isEmpty : Value → Bool
  | .list [] | .table _ [] => true
  | _ => false

/-- The resolution mode that a value names: a text, or a table whose one entry is empty. -/
def mode? : Value → Option ResolutionMode
  | .text name => modeNamed? name
  | .table _ [(name, inner)] => if isEmpty inner then modeNamed? name else none
  | _ => none

/-- Settings with one more entry. An unknown key is a fault. -/
def set (s : Settings) : String × Value → Option Settings
  | (key, value) =>
    match key with
    | "src" => (texts? value).map fun v => { s with src := v }
    | "extra-modules" => (texts? value).map fun v => { s with extraModules := v }
    | "python" => (text? value).map fun v => { s with python := some v }
    | "copy-shebang" => (truth? value).map fun v => { s with copyShebang := some v }
    | "default-shebang" => (text? value).map fun v => { s with defaultShebang := some v }
    | "resolution" => (mode? value).map fun v => { s with resolution := some v }
    | _ => none

def ofTable (table : Table) : Option Settings := table.foldlM set {}

/-- An interpreter as seen from a directory. A bare name is looked up elsewhere and stays. -/
def interpreterFrom (directory python : String) : String :=
  if 1 < (Path.components python).length then Path.join directory python else python

end Settings

namespace Config

/-- Put the settings of a file over a configuration. Paths start from the file's directory. -/
def layer (c : Config) (directory : String) (s : Settings) : Config where
  src := c.src ++ s.src.map (Path.join directory)
  extraModules := c.extraModules ++ s.extraModules
  python := (s.python.map (Settings.interpreterFrom directory)).or c.python
  copyShebang := s.copyShebang.getD c.copyShebang
  defaultShebang := s.defaultShebang.getD c.defaultShebang
  resolution := s.resolution.getD c.resolution

/-- The part of a configuration that the assembly needs. -/
def assembleOptions (c : Config) : AssembleOptions := ⟨c.copyShebang, c.defaultShebang⟩

end Config

end ScriptBundle
