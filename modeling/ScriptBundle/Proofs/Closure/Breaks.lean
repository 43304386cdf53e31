import ScriptBundle.Proofs.Closure.Run

namespace ScriptBundle

namespace Collector

variable (c : Collector) (entry source : String) (names : List String)

/-- The ways in which a run breaks off. -/
inductive Breaks : Failure → Prop
  | unparsed {failure} : (extractImports source entry).outcome = .error failure → Breaks failure
  | unresolved {imports failure} : (extractImports source entry).outcome = .ok imports →
      c.lookUp none entry (followed imports) = .error failure → Breaks failure
  | unnamed {registry name rest failure} : Passes c entry source names registry [] (name :: rest) →
      c.lookUp none extraLabel [Reference.ofDotted name] = .error failure → Breaks failure
  | broken {registry m pending stack rest failure} :
      Passes c entry source names registry ((m :: pending) :: stack) rest →
      registry.contains m.canonical = false → c.expand m = .error failure → Breaks failure

variable {c entry source names} {registry final : Registry} {stack : List (List Match)}
  {rest : List String} {failure : Failure}

theorem Passes.breaks (h : Passes c entry source names registry stack rest)
    (hw : (c.walk registry stack).outcome = .error failure) :
    Breaks c entry source names failure := by
  refine c.walk_induction (motive := fun registry stack out =>
    Passes c entry source names registry stack rest → out = .error failure →
      Breaks c entry source names failure)
    ?nil ?popped ?known ?broken ?fresh ?full registry stack h hw
  case nil => exact fun registry _ hf => nomatch hf
  case popped => exact fun registry stack out ih run => ih run.popped
  case known => exact fun registry m pending stack out hm ih run => ih (run.known hm)
  case broken =>
    intro registry m pending stack failure hm he run hf
    cases hf
    exact .broken run hm he
  case fresh =>
    exact fun registry m pending stack out record matched hm he ih run => ih (run.fresh hm he)
  case full => exact fun registry m pending stack _ room run => absurd run.walking.room room

theorem Passes.breaksNames (h : Passes c entry source names registry [] rest)
    (hw : (c.walkNames registry rest).outcome = .error failure) :
    Breaks c entry source names failure := by
  induction rest generalizing registry with
  | nil => cases hw
  | cons name rest ih =>
    rw [outcome_walkNames_cons] at hw
    rcases Trial.bind_eq_error hw with hl | ⟨matched, hl, hw⟩
    · exact .unnamed h hl
    · rcases Trial.bind_eq_error hw with hg | ⟨grown, hg, hw⟩
      · exact (h.next hl).breaks hg
      · exact ih ((h.next hl).walked hg) hw

/-- A run breaks off with a failure exactly if the closure is that failure. -/
theorem breaks_iff : Breaks c entry source names failure ↔
    (c.closure entry source names).outcome = .error failure := by
  constructor
  · intro h
    cases h with
    | unparsed hi => rw [outcome_closure, hi, Trial.error_bind]
    | unresolved hi hl => rw [outcome_closure, hi, Trial.ok_bind, hl, Trial.error_bind]
    | unnamed run hl =>
      rw [run.outcome, outcome_walk_nil, Trial.ok_bind, outcome_walkNames_cons, hl,
        Trial.error_bind]
    | broken run hm he =>
      rw [run.outcome, outcome_walk_fresh c hm run.walking.room, he, Trial.error_bind,
        Trial.error_bind]
  · intro h
    rw [outcome_closure] at h
    rcases Trial.bind_eq_error h with hi | ⟨imports, hi, h⟩
    · exact .unparsed hi
    · rcases Trial.bind_eq_error h with hl | ⟨matched, hl, h⟩
      · exact .unresolved hi hl
      · rcases Trial.bind_eq_error h with hw | ⟨grown, hw, h⟩
        · exact (Passes.start hi hl).breaks hw
        · exact ((Passes.start hi hl).walked hw).breaksNames h

/-! ## Why a single step fails -/

theorem lookUp_eq_error {importer : Option Record} {label : String} {references : List Reference}
    (h : c.lookUp importer label references = .error failure) :
    ∃ reference ∈ references, c.refuses importer reference = true ∧
      failure = .unresolvedImport reference.display label := by
  unfold lookUp at h
  split at h
  · rename_i reference hfind
    cases h
    exact ⟨reference, List.mem_of_find?_eq_some hfind, List.find?_some hfind, rfl⟩
  · cases h

/-- Nothing is found for a reference that is refused. -/
theorem found_of_refuses {importer : Option Record} {reference : Reference}
    (h : c.refuses importer reference = true) :
    c.mode = .strict ∧ c.found importer reference = [] := by
  simpa [refuses] using h

theorem extractImports_eq_error {path : String}
    (h : (extractImports source path).outcome = .error failure) :
    ∃ place, Python.Module.parse source.toList = .error place ∧
      failure = parseFailure path source.toList place := by
  unfold extractImports at h
  split at h
  · rename_i place hp
    cases h
    exact ⟨place, hp, rfl⟩
  · cases h

theorem readSource_eq_error {fs : FileSystem} {path : String}
    (h : readSource fs path = .error failure) :
    ∃ e, fs.readText path = .error e ∧ failure = .read path e.message := by
  unfold readSource at h
  cases ht : fs.readText path with
  | error e =>
    rw [ht] at h
    cases h
    exact ⟨e, rfl, rfl⟩
  | ok text =>
    rw [ht] at h
    cases h

/-- A match fails for its own text, or for an import that nothing is found for. -/
theorem expand_eq_error {m : Match} (h : c.expand m = .error failure) :
    readSource c.files m.absolute = .error failure ∨
    ∃ text, readSource c.files m.absolute = .ok text ∧
      ((extractImports text m.absolute).outcome = .error failure ∨
        ∃ imports, (extractImports text m.absolute).outcome = .ok imports ∧
          c.lookUp (some ⟨m.canonical, m.absolute, text⟩) m.canonical (followed imports) =
            .error failure) := by
  rcases Trial.bind_eq_error h with hread | ⟨record, hread, h⟩
  · rcases Trial.bind_eq_error hread with hs | ⟨text, -, hr⟩
    · exact .inl hs
    · cases hr
  · obtain ⟨text, hs, hr⟩ := Trial.bind_eq_ok hread
    cases hr
    refine .inr ⟨text, hs, ?_⟩
    rcases Trial.bind_eq_error h with hi | ⟨imports, hi, h⟩
    · exact .inl hi
    · rcases Trial.bind_eq_error h with hl | ⟨matched, -, h⟩
      · exact .inr ⟨imports, hi, hl⟩
      · cases h

/-! ## What was collected stays -/

theorem walk_grows (registry : Registry) (stack : List (List Match)) :
    ∀ final, (c.walk registry stack).outcome = .ok final → registry.records <+: final.records := by
  refine c.walk_induction (motive := fun registry _ out =>
    ∀ final, out = .ok final → registry.records <+: final.records)
    ?nil ?popped ?known ?broken ?fresh ?full registry stack
  case nil =>
    intro registry final hf
    cases hf
    exact List.prefix_refl _
  case popped => exact fun registry stack out ih => ih
  case known => exact fun registry m pending stack out _ ih => ih
  case broken => exact fun registry m pending stack failure _ _ _ hf => nomatch hf
  case fresh =>
    exact fun registry m pending stack out record matched _ _ ih final hf =>
      (List.prefix_append _ _).trans (ih final hf)
  case full => exact fun registry m pending stack _ _ _ hf => nomatch hf

theorem walkNames_grows
    (h : (c.walkNames registry rest).outcome = .ok final) : registry.records <+: final.records := by
  induction rest generalizing registry with
  | nil =>
    cases h
    exact List.prefix_refl _
  | cons name rest ih =>
    rw [outcome_walkNames_cons] at h
    obtain ⟨matched, -, h⟩ := Trial.bind_eq_ok h
    obtain ⟨grown, hg, h⟩ := Trial.bind_eq_ok h
    exact (walk_grows _ _ grown hg).trans (ih h)

/-- What a run has at one of its moments it has at the end, in the same place. -/
theorem Passes.grows (h : Passes c entry source names registry stack rest)
    (hf : (c.closure entry source names).outcome = .ok final) :
    registry.records <+: final.records := by
  rw [h.outcome] at hf
  obtain ⟨grown, hg, hf⟩ := Trial.bind_eq_ok hf
  exact (walk_grows _ _ grown hg).trans (walkNames_grows hf)

end Collector

end ScriptBundle
