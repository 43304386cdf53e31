import ScriptBundle.Proofs.Closure.Breaks

namespace ScriptBundle

open Python

theorem readSource_eq_ok {fs : FileSystem} {path text : String} :
    readSource fs path = .ok text ↔ fs.readText path = .ok text := by
  unfold readSource
  cases fs.readText path <;> simp [Except.mapError]

namespace Collector

variable (c : Collector) (entry source : String) (names : List String)

/-- Imports lead to a match: those of the entry, a name asked for, and from there on those of the
modules on the way, each of which can be read. -/
inductive Leads : Match → Prop
  | start {reference m} : Asks entry source names [] none reference →
      m ∈ c.found none reference → Leads m
  | onward {m text reference next} : Leads m → readSource c.files m.absolute = .ok text →
      Follows text m.absolute reference →
      next ∈ c.found (some ⟨m.canonical, m.absolute, text⟩) reference → Leads next

/-- What a file has wrong with it: it holds no text, or a text that does not parse. -/
inductive Spoils (files : FileSystem) (path : String) : Failure → Prop
  | unread {e} : files.readText path = .error e → Spoils files path (.read path e.message)
  | unparsed {text place} : files.readText path = .ok text →
      Module.parse text.toList = .error place →
      Spoils files path (parseFailure path text.toList place)

variable {c entry source names} {registry : Registry} {stack : List (List Match)}
  {rest : List String} {failure : Failure}

/-- Whatever waits on the stack of a run, imports lead to it. -/
theorem Passes.leads (h : Passes c entry source names registry stack rest) :
    ∀ matched ∈ stack, ∀ m ∈ matched, c.Leads entry source names m := by
  refine h.onStack ?start ?onward ?asked
  case start =>
    intro imports matched hi hl m hm
    rw [(c.lookUp_eq_ok hl).2] at hm
    obtain ⟨reference, hf, hm⟩ := List.mem_flatMap.1 hm
    exact .start (.entry ⟨imports, hi, mem_followed.1 hf⟩) hm
  case onward =>
    intro m record matched hlead he next hnext
    obtain ⟨hc, ha, hs, imports, hi, -, rfl⟩ := c.expand_eq_ok he
    obtain ⟨reference, hf, hnext⟩ := List.mem_flatMap.1 hnext
    have hrecord : record = ⟨m.canonical, m.absolute, record.source⟩ := by rw [← hc, ← ha]
    rw [hrecord] at hnext
    exact hlead.onward hs ⟨imports, ha ▸ hi, mem_followed.1 hf⟩ hnext
  case asked =>
    intro name hname matched hl m hm
    rw [(c.lookUp_eq_ok hl).2] at hm
    exact .start (.name hname) (by simpa using hm)

theorem expand_spoils (lenient : c.mode = .lenient) {m : Match}
    (h : c.expand m = .error failure) : Spoils c.files m.absolute failure := by
  rcases expand_eq_error h with hs | ⟨text, hs, hi | ⟨imports, -, hl⟩⟩
  · obtain ⟨e, hread, rfl⟩ := readSource_eq_error hs
    exact .unread hread
  · obtain ⟨place, hparse, rfl⟩ := extractImports_eq_error hi
    exact .unparsed (readSource_eq_ok.1 hs) hparse
  · rw [c.lookUp_lenient lenient] at hl
    cases hl

/-- A lenient run breaks off at the entry or at a match that imports lead to. -/
theorem Breaks.spoils (lenient : c.mode = .lenient) (h : Breaks c entry source names failure) :
    (∃ place, Module.parse source.toList = .error place ∧
      failure = parseFailure entry source.toList place) ∨
    ∃ m, c.Leads entry source names m ∧ Spoils c.files m.absolute failure := by
  cases h with
  | unparsed hi => exact .inl (extractImports_eq_error hi)
  | unresolved _ hl =>
    rw [c.lookUp_lenient lenient] at hl
    cases hl
  | unnamed _ hl =>
    rw [c.lookUp_lenient lenient] at hl
    cases hl
  | @broken _ m _ _ _ _ run _ he =>
    exact .inr ⟨m, run.leads _ List.mem_cons_self m List.mem_cons_self, expand_spoils lenient he⟩

theorem Spoils.not_parsed {files : FileSystem} {path text : String} {module : Module}
    (h : Spoils files path failure) (hread : files.readText path = .ok text)
    (hparse : Module.parse text.toList = .ok module) : False := by
  cases h with
  | unread h => cases hread.symm.trans h
  | unparsed h hplace =>
    cases hread.symm.trans h
    cases hparse.symm.trans hplace

/-- **A lenient run fails at a file, and only there.** Its failure is that of an entry that does not
parse, or what is wrong with the file of a match that imports lead to. Where the entry parses and
every match that imports lead to is a text that parses, there is no failure at all. -/
theorem lenient_faults (lenient : c.mode = .lenient) :
    (∀ failure, (c.closure entry source names).outcome = .error failure →
      (∃ place, Module.parse source.toList = .error place ∧
        failure = parseFailure entry source.toList place) ∨
      ∃ m, c.Leads entry source names m ∧ Spoils c.files m.absolute failure) ∧
    ((∃ module, Module.parse source.toList = .ok module) →
      (∀ m, c.Leads entry source names m → ∃ text module,
        c.files.readText m.absolute = .ok text ∧ Module.parse text.toList = .ok module) →
      ∃ registry, (c.closure entry source names).outcome = .ok registry) := by
  refine ⟨fun failure h => (breaks_iff.2 h).spoils lenient, fun ⟨module, hmodule⟩ sound => ?_⟩
  cases hout : (c.closure entry source names).outcome with
  | ok registry => exact ⟨registry, rfl⟩
  | error failure =>
    rcases (breaks_iff.2 hout).spoils lenient with ⟨place, hplace, -⟩ | ⟨m, hlead, spoiled⟩
    · cases hmodule.symm.trans hplace
    · obtain ⟨text, module, hread, hparse⟩ := sound m hlead
      exact (spoiled.not_parsed hread hparse).elim

/-! ## A file that is no text -/

/-- A chain of two imports to a file that is no text, beside one that nothing imports. -/
def torn : Collector where
  files := { entries := [
    (["a.py"], .file "import b\n".toUTF8 0o644), (["b.py"], .file ⟨#[0xff]⟩ 0o644),
    (["c.py"], .file "no module\n".toUTF8 0o644)] }
  resolver := ⟨["/"]⟩
  mode := .lenient

theorem steps_torn :
    (extractImports "import a\nimport none\n" "/main.py").outcome =
      .ok [⟨"a", []⟩, ⟨"none", []⟩] ∧
    torn.lookUp none "/main.py" (followed [⟨"a", []⟩, ⟨"none", []⟩]) = .ok [⟨"a", "/a.py"⟩] ∧
    torn.expand ⟨"a", "/a.py"⟩ = .ok (⟨"a", "/a.py", "import b\n"⟩, [⟨"b", "/b.py"⟩]) ∧
    torn.expand ⟨"b", "/b.py"⟩ = .error (.read "/b.py" "stream did not contain valid UTF-8") := by
  decide +kernel

/-- The two modules of `cycle`, for a lenient collector. -/
def easyCycle : Collector := { cycle with mode := .lenient }

theorem steps_easyCycle :
    (extractImports "import a\n" "/main.py").outcome = .ok [⟨"a", []⟩] ∧
    easyCycle.found none ⟨"a", []⟩ = [⟨"a", "/a.py"⟩] ∧
    readSource easyCycle.files "/a.py" = .ok "import b\n" ∧
    (extractImports "import b\n" "/a.py").outcome = .ok [⟨"b", []⟩] ∧
    easyCycle.found (some ⟨"a", "/a.py", "import b\n"⟩) ⟨"b", []⟩ = [⟨"b", "/b.py"⟩] ∧
    readSource easyCycle.files "/b.py" = .ok "import a\n" ∧
    (extractImports "import a\n" "/b.py").outcome = .ok [⟨"a", []⟩] ∧
    easyCycle.found (some ⟨"b", "/b.py", "import a\n"⟩) ⟨"a", []⟩ = [⟨"a", "/a.py"⟩] := by
  decide +kernel

theorem Follows.mem {path : String} {reference : Reference} {imports : List Reference}
    (h : Follows source path reference)
    (hi : (extractImports source path).outcome = .ok imports) : reference ∈ imports :=
  (Collector.mem_followed.1 (h.mem_followed hi)).1

/-- Imports lead round the cycle and nowhere else. -/
theorem leads_easyCycle {m : Match} (h : easyCycle.Leads "/main.py" "import a\n" [] m) :
    m = ⟨"a", "/a.py"⟩ ∨ m = ⟨"b", "/b.py"⟩ := by
  obtain ⟨entry, first, readA, importsA, foundA, readB, importsB, foundB⟩ := steps_easyCycle
  induction h with
  | start asks hm =>
    cases asks with
    | entry hf =>
      rw [List.mem_singleton.1 (hf.mem entry), first] at hm
      exact .inl (List.mem_singleton.1 hm)
    | name hn => cases hn
  | onward _ hs hf hm ih =>
    rcases ih with rfl | rfl
    · cases readA.symm.trans hs
      rw [List.mem_singleton.1 (hf.mem importsA), foundA] at hm
      exact .inr (List.mem_singleton.1 hm)
    · cases readB.symm.trans hs
      rw [List.mem_singleton.1 (hf.mem importsB), foundB] at hm
      exact .inl (List.mem_singleton.1 hm)

/-- A run that fails at the end of a chain, and one over a cycle that does not. -/
theorem lenient_faults_torn :
    (∃ m, torn.Leads "/main.py" "import a\nimport none\n" [] m ∧
      Spoils torn.files m.absolute (.read "/b.py" "stream did not contain valid UTF-8")) ∧
    ∃ registry, (easyCycle.closure "/main.py" "import a\n" []).outcome = .ok registry := by
  constructor
  · obtain ⟨entry, found, first, second⟩ := steps_torn
    have run : Passes torn "/main.py" "import a\nimport none\n" [] {} [[⟨"a", "/a.py"⟩]] [] :=
      .start entry found
    have fails := breaks_iff.1 (.broken (run.fresh (by decide) first) (by decide) second)
    rcases (lenient_faults rfl).1 _ fails with ⟨place, -, hf⟩ | spoiled
    · cases hf
    · exact spoiled
  · refine (lenient_faults rfl).2 ?_ fun m hm => ?_
    · exact ⟨_, (extractImports_eq_ok steps_easyCycle.1).choose_spec.1⟩
    · obtain ⟨-, -, readA, importsA, -, readB, importsB, -⟩ := steps_easyCycle
      rcases leads_easyCycle hm with rfl | rfl
      · obtain ⟨module, hparse, -⟩ := extractImports_eq_ok importsA
        exact ⟨_, module, readSource_eq_ok.1 readA, hparse⟩
      · obtain ⟨module, hparse, -⟩ := extractImports_eq_ok importsB
        exact ⟨_, module, readSource_eq_ok.1 readB, hparse⟩

end Collector

end ScriptBundle
