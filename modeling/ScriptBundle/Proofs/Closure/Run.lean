import ScriptBundle.Proofs.Closure.Room

namespace ScriptBundle

namespace Collector

variable (c : Collector) (entry source : String) (names : List String)

/-- The moments of a run: a registry, the stack and the names that are still to come. -/
inductive Passes : Registry → List (List Match) → List String → Prop
  | start {imports matched} : (extractImports source entry).outcome = .ok imports →
      c.lookUp none entry (followed imports) = .ok matched → Passes {} [matched] names
  | popped {registry stack rest} : Passes registry ([] :: stack) rest → Passes registry stack rest
  /-- A match whose path is taken is passed over. -/
  | known {registry m pending stack rest} : Passes registry ((m :: pending) :: stack) rest →
      registry.contains m.canonical = true → Passes registry (pending :: stack) rest
  | fresh {registry m pending stack rest record matched} :
      Passes registry ((m :: pending) :: stack) rest →
      registry.contains m.canonical = false → c.expand m = .ok (record, matched) →
      Passes (registry.push record) (matched :: pending :: stack) rest
  | next {registry name rest matched} : Passes registry [] (name :: rest) →
      c.lookUp none extraLabel [Reference.ofDotted name] = .ok matched →
      Passes registry [matched] rest

variable {c entry source names} {registry final : Registry} {stack : List (List Match)}
  {rest : List String}

theorem Passes.rest_subset (h : Passes c entry source names registry stack rest) :
    ∀ name ∈ rest, name ∈ names := by
  induction h with
  | start => exact fun _ => id
  | popped _ ih | known _ _ ih | fresh _ _ _ ih => exact ih
  | next _ _ ih => exact fun n hn => ih n (List.mem_cons_of_mem _ hn)

/-- What the steps of a walk keep holds at every moment of a run. -/
theorem Passes.walking (h : Passes c entry source names registry stack rest) :
    Walking c entry source names registry stack := by
  induction h with
  | start hi hl =>
    refine Walking.empty.start fun m hin => ?_
    obtain ⟨reference, hf, hin⟩ := List.mem_flatMap.1 ((c.lookUp_eq_ok hl).2 ▸ hin)
    exact ⟨none, reference, .entry ⟨_, hi, mem_followed.1 hf⟩, hin⟩
  | popped _ ih => exact ih.popped
  | known _ hm ih => exact ih.known hm
  | fresh _ hm he ih => exact ih.fresh hm he
  | next run hl ih =>
    refine ih.start fun m hin => ?_
    have hm := (c.lookUp_eq_ok hl).2
    exact ⟨none, _, .name (run.rest_subset _ List.mem_cons_self), by simpa [hm] using hin⟩

/-- What holds of the matches that a run starts with, and is handed on by a match to those that it
leads to, holds of all that wait on the stack. -/
theorem Passes.onStack {good : Match → Prop}
    (start : ∀ imports matched, (extractImports source entry).outcome = .ok imports →
      c.lookUp none entry (followed imports) = .ok matched → ∀ m ∈ matched, good m)
    (onward : ∀ m record matched, good m → c.expand m = .ok (record, matched) →
      ∀ next ∈ matched, good next)
    (asked : ∀ name ∈ names, ∀ matched,
      c.lookUp none extraLabel [Reference.ofDotted name] = .ok matched → ∀ m ∈ matched, good m)
    (h : Passes c entry source names registry stack rest) :
    ∀ matched ∈ stack, ∀ m ∈ matched, good m := by
  induction h with
  | start hi hl => simpa using start _ _ hi hl
  | popped _ ih => exact (List.forall_mem_cons.1 ih).2
  | known _ _ ih =>
    obtain ⟨top, below⟩ := List.forall_mem_cons.1 ih
    exact List.forall_mem_cons.2 ⟨(List.forall_mem_cons.1 top).2, below⟩
  | fresh _ _ he ih =>
    obtain ⟨top, below⟩ := List.forall_mem_cons.1 ih
    obtain ⟨hm, pending⟩ := List.forall_mem_cons.1 top
    exact List.forall_mem_cons.2
      ⟨onward _ _ _ hm he, List.forall_mem_cons.2 ⟨pending, below⟩⟩
  | next run hl _ => simpa using asked _ (run.rest_subset _ List.mem_cons_self) _ hl

/-- What is left of a run at one of its moments is what the run comes to. -/
theorem Passes.outcome (h : Passes c entry source names registry stack rest) :
    (c.closure entry source names).outcome =
      (c.walk registry stack).outcome >>= fun grown => (c.walkNames grown rest).outcome := by
  induction h with
  | start hi hl => rw [outcome_closure, hi, Trial.ok_bind, hl, Trial.ok_bind]
  | popped _ ih => rw [ih, outcome_walk_popped]
  | known _ hm ih => rw [ih, outcome_walk_known c hm]
  | fresh run hm he ih =>
    rw [ih, outcome_walk_fresh c hm run.walking.room, he]
    rfl
  | next _ hl ih =>
    rw [ih, outcome_walk_nil, Trial.ok_bind, outcome_walkNames_cons, hl]
    rfl

/-- A walk that ends well is walked to its end. -/
theorem Passes.walked (h : Passes c entry source names registry stack rest)
    (hw : (c.walk registry stack).outcome = .ok final) :
    Passes c entry source names final [] rest := by
  refine c.walk_induction (motive := fun registry stack out =>
    Passes c entry source names registry stack rest → out = .ok final →
      Passes c entry source names final [] rest)
    ?nil ?popped ?known ?broken ?fresh ?full registry stack h hw
  case nil =>
    intro registry run hf
    cases hf
    exact run
  case popped => exact fun registry stack out ih run => ih run.popped
  case known => exact fun registry m pending stack out hm ih run => ih (run.known hm)
  case broken => exact fun registry m pending stack failure _ _ _ hf => nomatch hf
  case fresh =>
    exact fun registry m pending stack out record matched hm he ih run => ih (run.fresh hm he)
  case full => exact fun registry m pending stack _ _ _ hf => nomatch hf

theorem Passes.walkedNames (h : Passes c entry source names registry [] rest)
    (hw : (c.walkNames registry rest).outcome = .ok final) :
    Passes c entry source names final [] [] := by
  induction rest generalizing registry with
  | nil =>
    cases hw
    exact h
  | cons name rest ih =>
    rw [outcome_walkNames_cons] at hw
    obtain ⟨matched, hl, hw⟩ := Trial.bind_eq_ok hw
    obtain ⟨grown, hg, hw⟩ := Trial.bind_eq_ok hw
    exact ih ((h.next hl).walked hg) hw

/-- A run comes to a registry with nothing left to visit or to look up exactly if the closure is
that registry. -/
theorem passes_iff : Passes c entry source names registry [] [] ↔
    (c.closure entry source names).outcome = .ok registry := by
  constructor
  · intro run
    rw [run.outcome, outcome_walk_nil]
    rfl
  · intro h
    rw [outcome_closure] at h
    obtain ⟨imports, hi, h⟩ := Trial.bind_eq_ok h
    obtain ⟨matched, hl, h⟩ := Trial.bind_eq_ok h
    obtain ⟨grown, hw, h⟩ := Trial.bind_eq_ok h
    exact ((Passes.start hi hl).walked hw).walkedNames h

end Collector

end ScriptBundle
