import ScriptBundle.Log
import ScriptBundle.Text.Position

namespace ScriptBundle

open Text

/-- Why a run ends. -/
inductive Failure
  | entryNotFound (path : String)
  | read (path reason : String)
  | parse (path : String) (position : Position) (detail : String)
  | unresolvedImport (reference importer : String)
  | tooManyModules (canonical : String)
  | probe (binary reason : String)
  | readConfig (path reason : String)
  | parseConfig (path : String)
  | createDirectory (path reason : String)
  | writeBundle (path reason : String)
  | markExecutable (path reason : String)
  /-- Modules of an entry could not be collected. -/
  | collecting (entry : String) (cause : Failure)
  deriving DecidableEq, Repr

namespace Failure

def syntaxDetail : String := "<syntax>"

/-- The wording of a failure, its causes behind colons. -/
def message : Failure → String
  | entryNotFound path => "entry script not found: " ++ path
  | read path reason => "failed to read " ++ path ++ ": " ++ reason
  | parse path position detail =>
    "failed to parse " ++ path ++ ":" ++ toString position.line ++ ":" ++ toString position.column
      ++ ": " ++ detail
  | unresolvedImport reference importer =>
    "unresolved import '" ++ reference ++ "' in " ++ importer
  | tooManyModules canonical => "no room for module " ++ canonical
  | probe binary reason => "failed to probe search paths with " ++ binary ++ ": " ++ reason
  | readConfig path reason => "Failed to read config file " ++ path ++ ": " ++ reason
  | parseConfig path => "Failed to parse config file " ++ path
  | createDirectory path reason => "Failed to create output directory " ++ path ++ ": " ++ reason
  | writeBundle path reason => "Failed to write bundle to " ++ path ++ ": " ++ reason
  | markExecutable path reason => "Failed to mark " ++ path ++ " executable: " ++ reason
  | collecting entry cause => "Failed to collect modules for " ++ entry ++ ": " ++ cause.message

def cause : Failure → Failure
  | collecting _ inner => inner.cause
  | f => f

end Failure

instance decidableEqExcept {ε α : Type} [DecidableEq ε] [DecidableEq α] :
    DecidableEq (Except ε α)
  | .ok a, .ok b => decidable_of_iff (a = b) (by simp)
  | .error a, .error b => decidable_of_iff (a = b) (by simp)
  | .ok _, .error _ => .isFalse nofun
  | .error _, .ok _ => .isFalse nofun

/-- A computation that keeps a log and may fail. -/
abbrev Trial := ExceptT Failure Logged

namespace Trial

def record (event : Event) : Trial Unit := ExceptT.lift (Logged.record event)

def ofLogged {α : Type} (x : Logged α) : Trial α := ExceptT.lift x

def mapFailure {α : Type} (f : Failure → Failure) (x : Trial α) : Trial α :=
  ExceptT.mk ⟨x.run.value.mapError f, x.run.events⟩

def outcome {α : Type} (x : Trial α) : Except Failure α := x.run.value

def events {α : Type} (x : Trial α) : List Event := x.run.events

@[simp] theorem ok_bind {ε α β : Type} (a : α) (f : α → Except ε β) :
    (Except.ok a >>= f) = f a := rfl

@[simp] theorem error_bind {ε α β : Type} (e : ε) (f : α → Except ε β) :
    (Except.error e >>= f) = .error e := rfl

theorem bind_eq_ok {ε α β : Type} {x : Except ε α} {f : α → Except ε β} {b : β}
    (h : (x >>= f) = .ok b) : ∃ a, x = .ok a ∧ f a = .ok b := by
  cases x with
  | error e => cases h
  | ok a => exact ⟨a, rfl, h⟩

theorem bind_eq_error {ε α β : Type} {x : Except ε α} {f : α → Except ε β} {e : ε}
    (h : (x >>= f) = .error e) : x = .error e ∨ ∃ a, x = .ok a ∧ f a = .error e := by
  cases x with
  | error other =>
    cases h
    exact .inl rfl
  | ok a => exact .inr ⟨a, rfl, h⟩

@[simp] theorem outcome_pure {α : Type} (a : α) : outcome (pure a) = .ok a := rfl

@[simp] theorem outcome_bind {α β : Type} (x : Trial α) (f : α → Trial β) :
    outcome (x >>= f) = x.outcome >>= fun a => (f a).outcome := by
  match x with
  | ⟨.ok _, _⟩ => rfl
  | ⟨.error _, _⟩ => rfl

@[simp] theorem outcome_throw {α : Type} (f : Failure) :
    outcome (throw f : Trial α) = .error f := rfl

@[simp] theorem outcome_record (e : Event) : outcome (record e) = .ok () := rfl

@[simp] theorem outcome_ofLogged {α : Type} (x : Logged α) : outcome (ofLogged x) = .ok x.value :=
  rfl

@[simp] theorem outcome_mk_pure {α : Type} (e : Except Failure α) :
    outcome (ExceptT.mk (pure e)) = e := rfl

end Trial

end ScriptBundle
