import ScriptBundle.Proofs.Closure.Breaks

namespace ScriptBundle

namespace Collector

variable (c : Collector) (entry source : String) (names : List String)

/-- Everything that is found for a name is in a registry, and the name is not refused. -/
structure Knows (registry : Registry) (name : String) : Prop where
  accepted : c.refuses none (Reference.ofDotted name) = false
  collected : ∀ m ∈ c.found none (Reference.ofDotted name), m.canonical ∈ registry.paths

variable {c entry source names} {registry final : Registry} {rest : List String}

/-! ## Runs over more names -/

theorem walkNames_append (registry : Registry) (names rest : List String) :
    (c.walkNames registry (names ++ rest)).outcome =
      (c.walkNames registry names).outcome >>= fun grown => (c.walkNames grown rest).outcome := by
  induction names generalizing registry with
  | nil => rfl
  | cons name names ih =>
    rw [List.cons_append, outcome_walkNames_cons, outcome_walkNames_cons]
    cases c.lookUp none extraLabel [Reference.ofDotted name] with
    | error failure => rfl
    | ok matched =>
      simp only [Trial.ok_bind]
      cases (c.walk registry [matched]).outcome with
      | error failure => rfl
      | ok grown => exact ih grown

theorem closure_names (names rest : List String) :
    (c.closure entry source (names ++ rest)).outcome =
      (c.closure entry source names).outcome >>= fun grown =>
        (c.walkNames grown rest).outcome := by
  simp only [outcome_closure, walkNames_append]
  cases (extractImports source entry).outcome with
  | error failure => rfl
  | ok imports =>
    simp only [Trial.ok_bind]
    cases c.lookUp none entry (followed imports) with
    | error failure => rfl
    | ok matched =>
      simp only [Trial.ok_bind]
      cases (c.walk {} [matched]).outcome <;> rfl

/-! ## Names that are known -/

/-- Nothing is read for matches that were collected before. -/
theorem walk_known {matched : List Match} (h : ∀ m ∈ matched, m.canonical ∈ registry.paths) :
    (c.walk registry [matched]).outcome = .ok registry := by
  induction matched with
  | nil => rw [outcome_walk_popped, outcome_walk_nil]
  | cons m matched ih =>
    rw [List.forall_mem_cons] at h
    rw [outcome_walk_known c (Registry.contains_iff.2 h.1)]
    exact ih h.2

theorem Knows.lookUp {name : String} (h : Knows c registry name) :
    c.lookUp none extraLabel [Reference.ofDotted name] =
      .ok (c.found none (Reference.ofDotted name)) := by
  rw [lookUp_cons, lookUp_nil, h.accepted]
  simp

theorem walkNames_known (h : ∀ name ∈ rest, Knows c registry name) :
    (c.walkNames registry rest).outcome = .ok registry := by
  induction rest with
  | nil => rfl
  | cons name rest ih =>
    rw [List.forall_mem_cons] at h
    have walked := walk_known (c := c) h.1.collected
    rw [outcome_walkNames_cons, h.1.lookUp, Trial.ok_bind, walked, Trial.ok_bind]
    exact ih h.2

/-- The names of a run are known when it ends. -/
theorem closure_knows (h : (c.closure entry source names).outcome = .ok registry) :
    ∀ name ∈ names, Knows c registry name := by
  intro name hn
  obtain ⟨-, answered⟩ := closure_walking h
  constructor
  · exact closure_resolved h (.name hn)
  · exact answered _ (.name hn)

/-- A name is known if all its matches were collected, and a strict collector has at least one. -/
theorem knows_iff {name : String} : Knows c registry name ↔
    (∀ m ∈ c.found none (Reference.ofDotted name), m.canonical ∈ registry.paths) ∧
      (c.mode = .strict → c.found none (Reference.ofDotted name) ≠ []) := by
  have accepted : c.refuses none (Reference.ofDotted name) = false ↔
      (c.mode = .strict → c.found none (Reference.ofDotted name) ≠ []) := by
    simp [refuses]
  constructor
  · intro h
    exact ⟨h.collected, accepted.1 h.accepted⟩
  · intro h
    exact ⟨accepted.2 h.2, h.1⟩

/-! ## The run over some names and the run over more -/

variable (c entry source names) in
/-- **Names only append.** If a run over more names ends well, so does the run over the first of
them, and its records are the first records of the other; if the run over the first names fails, the
other fails alike. Names that are all collected already, and in a strict run all found, change
nothing: in any order, repeated and mixed with the first names at will, and whatever names come
behind them. -/
theorem closure_append (more : List String) :
    (∀ final, (c.closure entry source (names ++ more)).outcome = .ok final →
      ∃ start, (c.closure entry source names).outcome = .ok start ∧
        start.records <+: final.records) ∧
    (∀ failure, (c.closure entry source names).outcome = .error failure →
      (c.closure entry source (names ++ more)).outcome = .error failure) ∧
    ∀ start, (c.closure entry source names).outcome = .ok start →
      (∀ name ∈ more, (∀ m ∈ c.found none (Reference.ofDotted name), m.canonical ∈ start.paths) ∧
        (c.mode = .strict → c.found none (Reference.ofDotted name) ≠ [])) →
      (c.closure entry source (names ++ more)).outcome = .ok start ∧
      ∀ again, (∀ name ∈ again, name ∈ names ∨ name ∈ more) →
        (c.closure entry source (names ++ again)).outcome = .ok start ∧
        ∀ rest, (c.closure entry source (names ++ again ++ rest)).outcome =
          (c.closure entry source (names ++ rest)).outcome := by
  refine ⟨?longer, ?fails, ?unchanged⟩
  case longer =>
    intro final h
    rw [closure_names] at h
    obtain ⟨start, hs, h⟩ := Trial.bind_eq_ok h
    exact ⟨start, hs, walkNames_grows h⟩
  case fails =>
    intro failure h
    rw [closure_names, h, Trial.error_bind]
  case unchanged =>
    intro start h covered
    have known : ∀ name, name ∈ names ∨ name ∈ more → Knows c start name := by
      rintro name (hn | hn)
      · exact closure_knows h name hn
      · exact knows_iff.2 (covered name hn)
    have unchanged : ∀ again, (∀ name ∈ again, name ∈ names ∨ name ∈ more) →
        (c.closure entry source (names ++ again)).outcome = .ok start := by
      intro again among
      rw [closure_names, h, Trial.ok_bind]
      exact walkNames_known fun name hn => known name (among name hn)
    constructor
    · exact unchanged more fun name hn => .inr hn
    · intro again among
      constructor
      · exact unchanged again among
      · intro rest
        rw [closure_names (names ++ again), unchanged again among, closure_names names, h]

/-- In the run over `cycle` both modules were reached already, however often they are asked for. -/
theorem closure_append_cycle : ∃ registry, registry.paths = ["a", "b"] ∧
    (cycle.closure "/main.py" "import a\n" []).outcome = .ok registry ∧
    (cycle.closure "/main.py" "import a\n" ["b", "a"]).outcome = .ok registry ∧
    (cycle.closure "/main.py" "import a\n" ["a", "b", "a"]).outcome = .ok registry := by
  have covered : ∀ name ∈ ["b", "a"],
      (∀ m ∈ cycle.found none (Reference.ofDotted name), m.canonical ∈ ["a", "b"]) ∧
        (cycle.mode = .strict → cycle.found none (Reference.ofDotted name) ≠ []) := by
    decide +kernel
  obtain ⟨twice, more⟩ := (closure_append cycle "/main.py" "import a\n" [] ["b", "a"]).2.2
    _ closure_cycle covered
  exact ⟨_, by decide, closure_cycle, twice, (more ["a", "b", "a"] (by decide)).1⟩

end Collector

end ScriptBundle
