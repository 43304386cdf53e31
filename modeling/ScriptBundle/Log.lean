import ScriptBundle.Import.Reference
import ScriptBundle.Text.Quoted

namespace ScriptBundle

inductive LogLevel
  | trace | debug | info | warn
  deriving DecidableEq, Repr

namespace LogLevel

/-- The place of a level in the order of severity. -/
def rank : LogLevel → Nat
  | trace => 0
  | debug => 1
  | info => 2
  | warn => 3

def name : LogLevel → String
  | trace => "TRACE"
  | debug => "DEBUG"
  | info => "INFO"
  | warn => "WARN"

end LogLevel

inductive Event
  | foundImport (path : String)
  | starImport (path : String)
  | foundFromImport (path : String) (items : List String)
  | emptyFromImport
  | searchRoots (roots : List String)
  | probing (kind : CandidateKind) (location : String)
  | outsideRoots (location canonical : String)
  | resolvedRelative (reference : Reference) (importer : String)
  | resolvedInRoot (reference : Reference) (root : String)
  | skippedStandard (path : String)
  | leftOut (reference : Reference) (importer : String)
  | discovered (index : Nat) (canonical : String)
  | closed (size : Nat)
  | hoisted (count : Nat)
  | registered (count : Nat)
  | bundling (entry : String)
  | probed (count : Nat)
  | embedded (modules bytes : Nat)
  | askingInterpreter (binary : String)
  | interpreterReported (count : Nat)
  | loadingConfig (path : String)
  | wrote (path : String)
  deriving DecidableEq, Repr

namespace Event

open Text

def level : Event → LogLevel
  | foundImport _ | starImport _ | foundFromImport _ _ | probing _ _ | skippedStandard _ => .trace
  | searchRoots _ | resolvedRelative _ _ | resolvedInRoot _ _ | leftOut _ _ | discovered _ _
  | closed _ | hoisted _ | registered _ | probed _ | askingInterpreter _ | interpreterReported _
  | loadingConfig _ => .debug
  | bundling _ | embedded _ _ | wrote _ => .info
  | emptyFromImport | outsideRoots _ _ => .warn

/-- The part of the program that an event comes from. -/
def target : Event → String
  | foundImport _ | starImport _ | foundFromImport _ _ | emptyFromImport =>
    "plait::visitors::import_discovery"
  | searchRoots _ | probing _ _ | outsideRoots _ _ | resolvedRelative _ _ | resolvedInRoot _ _ =>
    "plait::resolver"
  | skippedStandard _ | leftOut _ _ | discovered _ _ | closed _ => "plait::graph_builder"
  | hoisted _ | registered _ => "plait::code_generator::assembler"
  | bundling _ | probed _ | embedded _ _ => "plait::orchestrator"
  | askingInterpreter _ | interpreterReported _ => "plait::python_probe"
  | loadingConfig _ => "plait::config"
  | wrote _ => "plait"

def message : Event → String
  | foundImport path => "Discovered import " ++ path
  | starImport path => "Star import from " ++ path ++ " contributes no item probes"
  | foundFromImport path items => "Discovered from-import " ++ path ++ " " ++ quotedList .name items
  | emptyFromImport => "Skipping from-import with neither module nor level"
  | searchRoots roots => "Search roots: " ++ quotedList .path roots
  | probing kind location => "Probing " ++ kind.name ++ " at " ++ location
  | outsideRoots location canonical =>
    "Module " ++ location ++ " resolves outside every search root as '" ++ canonical ++ "'"
  | resolvedRelative reference importer =>
    "Resolved '" ++ reference.display ++ "' relative to " ++ importer
  | resolvedInRoot reference root =>
    "Resolved '" ++ reference.display ++ "' in search root " ++ root
  | skippedStandard path => "Skipping standard library import '" ++ path ++ "'"
  | leftOut reference importer =>
    "Leaving out unresolved import '" ++ reference.display ++ "' in " ++ importer
  | discovered index canonical => "Discovered module #" ++ toString index ++ ": " ++ canonical
  | closed size => "Module closure has " ++ toString size ++ " modules"
  | hoisted count => "Hoisted " ++ toString count ++ " __future__ imports above the prelude"
  | registered count => "Registered " ++ toString count ++ " embedded modules"
  | bundling entry => "Bundling " ++ entry
  | probed count => "Probe returned " ++ toString count ++ " paths"
  | embedded modules bytes =>
    "Embedded " ++ toString modules ++ " modules into " ++ toString bytes ++ " bytes"
  | askingInterpreter binary => "Probing sys.path with " ++ binary
  | interpreterReported count => "Interpreter reported " ++ toString count ++ " search paths"
  | loadingConfig path => "Loading configuration from " ++ path
  | wrote path => "Wrote " ++ path

end Event

/-- A value with the events that led to it, in order. -/
structure Logged (α : Type) where
  value : α
  events : List Event := []

namespace Logged

instance : Monad Logged where
  pure a := ⟨a, []⟩
  bind x f := ⟨(f x.value).value, x.events ++ (f x.value).events⟩

def record (event : Event) : Logged Unit := ⟨(), [event]⟩

def recordAll (events : List Event) : Logged Unit := ⟨(), events⟩

@[simp] theorem value_pure {α : Type} (a : α) : (pure a : Logged α).value = a := rfl

@[simp] theorem value_bind {α β : Type} (x : Logged α) (f : α → Logged β) :
    (x >>= f).value = (f x.value).value := rfl

end Logged

end ScriptBundle
