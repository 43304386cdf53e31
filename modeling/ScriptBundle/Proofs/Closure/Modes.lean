import ScriptBundle.Proofs.Closure.Breaks

/-!
# Strict and lenient runs

Over the same files a strict run does what a lenient one does, until it comes to a reference that
nothing is found for.
-/

namespace ScriptBundle

namespace Collector

def inMode (c : Collector) (mode : ResolutionMode) : Collector := { c with mode }

/-- A strict outcome is the lenient one, or an import that nothing was found for. -/
def Agrees {α : Type} (strict lenient : Except Failure α) : Prop :=
  strict = lenient ∨
    ∃ reference importer, strict = .error (.unresolvedImport reference importer)

theorem Agrees.refl {α : Type} (x : Except Failure α) : Agrees x x := .inl rfl

theorem Agrees.ok {α : Type} {x y : Except Failure α} {a : α} (h : Agrees x y) (hx : x = .ok a) :
    y = .ok a := by
  rcases h with rfl | ⟨reference, importer, hu⟩
  · exact hx
  · cases hx.symm.trans hu

theorem Agrees.error {α : Type} {x y : Except Failure α} {failure : Failure} (h : Agrees x y)
    (hx : x = .error failure)
    (other : ∀ reference importer, failure ≠ .unresolvedImport reference importer) :
    y = .error failure := by
  rcases h with rfl | ⟨reference, importer, hu⟩
  · exact hx
  · cases hx.symm.trans hu
    exact absurd rfl (other reference importer)

/-- Computations in turn agree if each does, the later ones behind what the earlier gave. -/
theorem Agrees.bind {α β : Type} {x y : Except Failure α} {f g : α → Except Failure β}
    (h : Agrees x y) (hf : ∀ a, x = .ok a → Agrees (f a) (g a)) : Agrees (x >>= f) (y >>= g) := by
  rcases h with rfl | ⟨reference, importer, rfl⟩
  · cases x with
    | error failure => exact .refl _
    | ok a => exact hf a rfl
  · exact .inr ⟨reference, importer, rfl⟩

variable (c : Collector) (entry source : String) (names : List String)

/-! ## The parts of a run -/

theorem lookUp_agrees (importer : Option Record) (label : String) (references : List Reference) :
    Agrees ((c.inMode .strict).lookUp importer label references)
      ((c.inMode .lenient).lookUp importer label references) := by
  rw [(c.inMode .lenient).lookUp_lenient rfl]
  cases h : (c.inMode .strict).lookUp importer label references with
  | error failure =>
    obtain ⟨reference, -, -, rfl⟩ := lookUp_eq_error h
    exact .inr ⟨reference.display, label, rfl⟩
  | ok matched =>
    rw [((c.inMode .strict).lookUp_eq_ok h).2]
    exact .refl _

theorem expand_agrees (m : Match) :
    Agrees ((c.inMode .strict).expand m) ((c.inMode .lenient).expand m) := by
  refine (Agrees.refl (m.read c.files)).bind fun record _ => ?_
  refine (Agrees.refl (extractImports record.source record.absolute).outcome).bind
    fun imports _ => ?_
  exact (lookUp_agrees c _ _ _).bind fun matched _ => .refl _

variable {c entry source names} {registry final : Registry} {stack : List (List Match)}
  {rest : List String} {display label : String}

/-- Step by step both walks have the same registry and the same stack. -/
theorem Passes.walk_agrees
    (h : Passes (c.inMode .strict) entry source names registry stack rest) :
    Agrees ((c.inMode .strict).walk registry stack).outcome
      ((c.inMode .lenient).walk registry stack).outcome := by
  refine (c.inMode .strict).walk_induction (motive := fun registry stack out =>
    Passes (c.inMode .strict) entry source names registry stack rest →
      Agrees out ((c.inMode .lenient).walk registry stack).outcome)
    ?nil ?popped ?known ?broken ?fresh ?full registry stack h
  case nil =>
    intro registry _
    rw [outcome_walk_nil]
    exact .refl _
  case popped =>
    intro registry stack out ih run
    rw [outcome_walk_popped]
    exact ih run.popped
  case known =>
    intro registry m pending stack out hm ih run
    rw [outcome_walk_known _ hm]
    exact ih (run.known hm)
  case broken =>
    intro registry m pending stack failure hm he run
    rw [outcome_walk_fresh _ hm run.walking.room]
    rcases expand_agrees c m with hsame | ⟨reference, importer, hu⟩
    · rw [← hsame, he]
      exact .refl _
    · cases he.symm.trans hu
      exact .inr ⟨reference, importer, rfl⟩
  case fresh =>
    intro registry m pending stack out record matched hm he ih run
    rw [outcome_walk_fresh _ hm run.walking.room, (expand_agrees c m).ok he, Trial.ok_bind]
    exact ih (run.fresh hm he)
  case full => exact fun registry m pending stack _ room run => absurd run.walking.room room

theorem Passes.walkNames_agrees
    (h : Passes (c.inMode .strict) entry source names registry [] rest) :
    Agrees ((c.inMode .strict).walkNames registry rest).outcome
      ((c.inMode .lenient).walkNames registry rest).outcome := by
  induction rest generalizing registry with
  | nil => exact .refl _
  | cons name rest ih =>
    rw [outcome_walkNames_cons, outcome_walkNames_cons]
    refine (lookUp_agrees c none extraLabel _).bind fun matched hl => ?_
    exact (h.next hl).walk_agrees.bind fun grown hg => ih ((h.next hl).walked hg)

variable (c entry source names) in
theorem closure_agrees :
    Agrees ((c.inMode .strict).closure entry source names).outcome
      ((c.inMode .lenient).closure entry source names).outcome := by
  rw [outcome_closure, outcome_closure]
  refine (Agrees.refl (extractImports source entry).outcome).bind fun imports hi => ?_
  refine (lookUp_agrees c none entry _).bind fun matched hl => ?_
  have start : Passes (c.inMode .strict) entry source names {} [matched] names := .start hi hl
  exact start.walk_agrees.bind fun grown hg => (start.walked hg).walkNames_agrees

/-- Every moment of a strict run is one of the lenient run. -/
theorem Passes.lenient (h : Passes (c.inMode .strict) entry source names registry stack rest) :
    Passes (c.inMode .lenient) entry source names registry stack rest := by
  induction h with
  | start hi hl => exact .start hi ((lookUp_agrees c none entry _).ok hl)
  | popped _ ih => exact ih.popped
  | known _ hm ih => exact ih.known hm
  | fresh _ hm he ih => exact ih.fresh hm ((expand_agrees c _).ok he)
  | next _ hl ih => exact ih.next ((lookUp_agrees c none extraLabel _).ok hl)

/-! ## Imports that are not found -/

variable (c entry source names) in
/-- A run comes to a module that it does not have yet, and reads it. -/
def Discovers (record : Record) : Prop :=
  ∃ registry m pending stack rest,
    Passes c entry source names registry ((m :: pending) :: stack) rest ∧
      registry.contains m.canonical = false ∧ m.read c.files = .ok record

variable (c entry source names) in
/-- What is asked for in a run, with the name under which the one who asks is reported. -/
inductive Wants : Option Record → String → Reference → Prop
  | entry {reference} : Follows source entry reference → Wants none entry reference
  | name {name} : name ∈ names → Wants none extraLabel (Reference.ofDotted name)
  | record {r reference} : c.Discovers entry source names r →
      Follows r.source r.absolute reference → Wants (some r) r.canonical reference

/-- A run that ends for want of a module has looked for it and found nothing. -/
theorem Breaks.wants (h : Breaks c entry source names (.unresolvedImport display label)) :
    ∃ importer reference, c.Wants entry source names importer label reference ∧
      reference.display = display ∧ c.found importer reference = [] := by
  cases h with
  | unparsed hi =>
    obtain ⟨place, -, hf⟩ := extractImports_eq_error hi
    cases hf
  | @unresolved imports _ hi hl =>
    obtain ⟨reference, hr, hrefused, hf⟩ := lookUp_eq_error hl
    cases hf
    exact ⟨none, reference, .entry ⟨imports, hi, mem_followed.1 hr⟩, rfl,
      (found_of_refuses hrefused).2⟩
  | unnamed run hl =>
    obtain ⟨reference, hr, hrefused, hf⟩ := lookUp_eq_error hl
    cases hf
    rw [List.mem_singleton.1 hr] at hrefused ⊢
    exact ⟨none, _, .name (run.rest_subset _ List.mem_cons_self), rfl,
      (found_of_refuses hrefused).2⟩
  | @broken registry m pending stack rest _ run hm he =>
    rcases expand_eq_error he with hs | ⟨text, hs, hi | ⟨imports, hi, hl⟩⟩
    · obtain ⟨e, -, hf⟩ := readSource_eq_error hs
      cases hf
    · obtain ⟨place, -, hf⟩ := extractImports_eq_error hi
      cases hf
    · obtain ⟨reference, hr, hrefused, hf⟩ := lookUp_eq_error hl
      cases hf
      have hread : m.read c.files = .ok ⟨m.canonical, m.absolute, text⟩ := by
        rw [Match.read, hs]
        rfl
      exact ⟨some ⟨m.canonical, m.absolute, text⟩, reference,
        .record ⟨registry, m, pending, stack, rest, run, hm, hread⟩
          ⟨imports, hi, mem_followed.1 hr⟩, rfl, (found_of_refuses hrefused).2⟩

/-- What a run that ends well has discovered is in its registry. -/
theorem Discovers.mem {record : Record} (h : c.Discovers entry source names record)
    (hf : (c.closure entry source names).outcome = .ok final) : record ∈ final.records := by
  obtain ⟨registry, m, pending, stack, rest, run, hm, hread⟩ := h
  cases he : c.expand m with
  | error failure =>
    have hbroken := breaks_iff.1 (.broken run hm he)
    cases hf.symm.trans hbroken
  | ok both =>
    obtain ⟨other, matched⟩ := both
    obtain ⟨hc, ha, hs, -⟩ := c.expand_eq_ok he
    obtain ⟨hc', ha', hs'⟩ := read_eq_ok hread
    obtain rfl : record = other := by
      cases record
      cases other
      cases hs.symm.trans hs'
      simp_all
    exact ((run.fresh hm he).grows hf).subset (by simp)

theorem Wants.asks {importer : Option Record} {reference : Reference}
    (h : (c.inMode .strict).Wants entry source names importer label reference)
    (hf : ((c.inMode .lenient).closure entry source names).outcome = .ok final) :
    Asks entry source names final.records importer reference := by
  cases h with
  | entry h => exact .entry h
  | name h => exact .name h
  | record hd h =>
    obtain ⟨registry, m, pending, stack, rest, run, hm, hread⟩ := hd
    have lenient : (c.inMode .lenient).Discovers entry source names _ :=
      ⟨registry, m, pending, stack, rest, run.lenient, hm, hread⟩
    exact .record (lenient.mem hf) h

/-- **Strict and lenient runs agree.** What a strict run collects the lenient one collects too, in
the same order, and a failure of a strict run other than an unresolved import is that of the lenient
one. An unresolved import is that of the entry, of a module discovered so far, or a name asked for,
is reported as such and has no match. Where everything asked for has a match, a strict run collects
what the lenient one does. -/
theorem modes_agree (c : Collector) (entry source : String) (names : List String) :
    (∀ registry, ((c.inMode .strict).closure entry source names).outcome = .ok registry →
      ((c.inMode .lenient).closure entry source names).outcome = .ok registry) ∧
    (∀ failure, ((c.inMode .strict).closure entry source names).outcome = .error failure →
      (∀ reference importer, failure ≠ .unresolvedImport reference importer) →
      ((c.inMode .lenient).closure entry source names).outcome = .error failure) ∧
    (∀ display label, ((c.inMode .strict).closure entry source names).outcome =
        .error (.unresolvedImport display label) →
      ∃ importer reference,
        (c.inMode .strict).Wants entry source names importer label reference ∧
          reference.display = display ∧ c.found importer reference = []) ∧
    (∀ registry, ((c.inMode .lenient).closure entry source names).outcome = .ok registry →
      (∀ importer reference, Asks entry source names registry.records importer reference →
        c.found importer reference ≠ []) →
      ((c.inMode .strict).closure entry source names).outcome = .ok registry) := by
  have agrees := closure_agrees c entry source names
  refine ⟨fun registry h => agrees.ok h, fun failure h other => agrees.error h other,
    fun display label h => (breaks_iff.2 h).wants, fun registry h found => ?_⟩
  rcases agrees with hsame | ⟨display, label, hu⟩
  · exact hsame.trans h
  · obtain ⟨importer, reference, wants, -, hnone⟩ := (breaks_iff.2 hu).wants
    exact absurd hnone (found importer reference (wants.asks h))

/-- A module that imports one that is not there. -/
def wanting : Collector where
  files := { entries := [(["a.py"], .file "import os\nimport gone\n".toUTF8 0o644)] }
  resolver := ⟨["/"]⟩
  mode := .strict

theorem steps_wanting :
    (extractImports "import a\n" "/main.py").outcome = .ok [⟨"a", []⟩] ∧
    wanting.lookUp none "/main.py" (followed [⟨"a", []⟩]) = .ok [⟨"a", "/a.py"⟩] ∧
    wanting.expand ⟨"a", "/a.py"⟩ = .error (.unresolvedImport "gone" "a") := by
  decide +kernel

/-- Two modules that import each other, and one that imports what is not there. -/
theorem modes_agree_wanting :
    ((cycle.inMode .lenient).closure "/main.py" "import a\n" []).outcome =
      .ok ⟨[⟨"a", "/a.py", "import b\n"⟩, ⟨"b", "/b.py", "import a\n"⟩]⟩ ∧
    ((wanting.inMode .strict).closure "/main.py" "import a\n" []).outcome =
      .error (.unresolvedImport "gone" "a") ∧
    ∃ importer reference,
      (wanting.inMode .strict).Wants "/main.py" "import a\n" [] importer "a" reference ∧
        reference.display = "gone" ∧ wanting.found importer reference = [] := by
  obtain ⟨entry, found, first⟩ := steps_wanting
  have run : Passes (wanting.inMode .strict) "/main.py" "import a\n" [] {} [[⟨"a", "/a.py"⟩]] [] :=
    .start entry found
  have fails := breaks_iff.1 (.broken run (by decide) first)
  obtain ⟨collected, -⟩ := modes_agree cycle "/main.py" "import a\n" []
  obtain ⟨-, -, unresolved, -⟩ := modes_agree wanting "/main.py" "import a\n" []
  exact ⟨collected _ closure_cycle, fails, unresolved _ _ fails⟩

end Collector

end ScriptBundle
