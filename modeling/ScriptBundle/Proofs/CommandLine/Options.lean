import ScriptBundle.CommandLine.Options

namespace ScriptBundle.CommandLine

namespace Options

/-- What is read is as it should be, and a reading that stops asks for no bundle. -/
def Reads {α : Type} (good : α → Prop) : Except Request α → Prop
  | .ok a => good a
  | .error q => ∀ entry o, q ≠ .bundle entry o

theorem Reads.bind {α β : Type} {good : α → Prop} {good' : β → Prop} {x : Except Request α}
    {f : α → Except Request β} (h : Reads good x) (hf : ∀ a, good a → Reads good' (f a)) :
    Reads good' (x >>= f) := by
  cases x with
  | ok a => exact hf a h
  | error q => exact h

variable {o : Options} {r : Reading}

def assign (name value : String) : String := "--" ++ name ++ "=" ++ value

/-- Arguments that turn some options into others. -/
def Says (texts : List String) (o o' : Options) : Prop :=
  texts.foldlM argument ⟨o, none, false⟩ = .ok ⟨o', none, false⟩

theorem Says.append {texts texts' : List String} {o o' o'' : Options} (h : Says texts o o')
    (h' : Says texts' o' o'') : Says (texts ++ texts') o o'' := by
  unfold Says
  rw [List.foldlM_append, h]
  exact h'

def settings (o : Options) : List String :=
  o.output.toList.map (assign "output") ++ (o.python.toList.map (assign "python-binary") ++
    (o.config.toList.map (assign "config") ++ (o.modules.map (assign "add-python-module") ++
      (o.paths.map (assign "add-python-path") ++
        ((if o.copyShebang then ["--copy-shebang"] else []) ++
          ((if o.strict then ["--strict"] else []) ++ List.replicate o.verbose "--verbose"))))))

/-- Arguments that ask for an entry with some options. -/
def words (entry : String) (o : Options) : List String := settings o ++ ["--", entry]

end Options

end ScriptBundle.CommandLine
