import ScriptBundle.Proofs.Closure.Room

namespace ScriptBundle

namespace Collector

variable (c : Collector)

/-- Visit some matches, left to right. A match whose path is taken is passed over; any other is
read and registered, and what it imports is visited before the next match. -/
inductive Visits : Registry → List Match → Except Failure Registry → Prop
  | done {registry} : Visits registry [] (.ok registry)
  | known {registry m rest out} : registry.contains m.canonical = true →
      Visits registry rest out → Visits registry (m :: rest) out
  | broken {registry m rest failure} : registry.contains m.canonical = false →
      c.expand m = .error failure → Visits registry (m :: rest) (.error failure)
  | failed {registry m rest record matched failure} : registry.contains m.canonical = false →
      c.expand m = .ok (record, matched) →
      Visits (registry.push record) matched (.error failure) →
      Visits registry (m :: rest) (.error failure)
  | descend {registry m rest record matched grown out} :
      registry.contains m.canonical = false → c.expand m = .ok (record, matched) →
      Visits (registry.push record) matched (.ok grown) →
      Visits grown rest out → Visits registry (m :: rest) out

inductive VisitsNames : Registry → List String → Except Failure Registry → Prop
  | done {registry} : VisitsNames registry [] (.ok registry)
  | unresolved {registry name rest failure} :
      c.lookUp none extraLabel [Reference.ofDotted name] = .error failure →
      VisitsNames registry (name :: rest) (.error failure)
  | failed {registry name rest matched failure} :
      c.lookUp none extraLabel [Reference.ofDotted name] = .ok matched →
      c.Visits registry matched (.error failure) →
      VisitsNames registry (name :: rest) (.error failure)
  | next {registry name rest matched grown out} :
      c.lookUp none extraLabel [Reference.ofDotted name] = .ok matched →
      c.Visits registry matched (.ok grown) → VisitsNames grown rest out →
      VisitsNames registry (name :: rest) out

/-- Visit what an entry imports, then the modules of some names. -/
inductive Searches (entry source : String) (names : List String) :
    Except Failure Registry → Prop
  | unparsed {failure} : (extractImports source entry).outcome = .error failure →
      Searches entry source names (.error failure)
  | unresolved {imports failure} : (extractImports source entry).outcome = .ok imports →
      c.lookUp none entry (followed imports) = .error failure →
      Searches entry source names (.error failure)
  | failed {imports matched failure} : (extractImports source entry).outcome = .ok imports →
      c.lookUp none entry (followed imports) = .ok matched →
      c.Visits {} matched (.error failure) → Searches entry source names (.error failure)
  | names {imports matched grown out} : (extractImports source entry).outcome = .ok imports →
      c.lookUp none entry (followed imports) = .ok matched → c.Visits {} matched (.ok grown) →
      c.VisitsNames grown names out → Searches entry source names out

def VisitsStack (registry : Registry) : List (List Match) → Except Failure Registry → Prop
  | [], out => out = .ok registry
  | pending :: stack, out =>
    ∃ first, c.Visits registry pending first ∧
      match first with
      | .ok grown => VisitsStack grown stack out
      | .error failure => out = .error failure

variable {c}

/-! ## One outcome -/

theorem Visits.unique {registry : Registry} {matched : List Match}
    {out other : Except Failure Registry} (h : c.Visits registry matched out)
    (h' : c.Visits registry matched other) : out = other := by
  induction h generalizing other with
  | done =>
    cases h'
    rfl
  | known hm _ ih =>
    cases h' with
    | known _ h' => exact ih h'
    | broken hn | failed hn | descend hn => simp [hm] at hn
  | broken hm he =>
    cases h' with
    | known hn => simp [hm] at hn
    | broken _ he' => simpa [he] using he'
    | failed _ he' | descend _ he' => simp [he] at he'
  | failed hm he _ ih =>
    cases h' with
    | known hn => simp [hm] at hn
    | broken _ he' => simp [he] at he'
    | failed _ he' h' =>
      cases he.symm.trans he'
      exact ih h'
    | descend _ he' h' =>
      cases he.symm.trans he'
      cases ih h'
  | descend hm he _ _ ih ih' =>
    cases h' with
    | known hn => simp [hm] at hn
    | broken _ he' => simp [he] at he'
    | failed _ he' h' =>
      cases he.symm.trans he'
      cases ih h'
    | descend _ he' h' h'' =>
      cases he.symm.trans he'
      cases ih h'
      exact ih' h''

theorem VisitsNames.unique {registry : Registry} {rest : List String}
    {out other : Except Failure Registry} (h : c.VisitsNames registry rest out)
    (h' : c.VisitsNames registry rest other) : out = other := by
  induction h generalizing other with
  | done =>
    cases h'
    rfl
  | unresolved hl =>
    cases h' with
    | unresolved hl' => simpa [hl] using hl'
    | failed hl' | next hl' => simp [hl] at hl'
  | failed hl hv =>
    cases h' with
    | unresolved hl' => simp [hl] at hl'
    | failed hl' hv' =>
      cases hl.symm.trans hl'
      exact hv.unique hv'
    | next hl' hv' =>
      cases hl.symm.trans hl'
      cases hv.unique hv'
  | next hl hv _ ih =>
    cases h' with
    | unresolved hl' => simp [hl] at hl'
    | failed hl' hv' =>
      cases hl.symm.trans hl'
      cases hv.unique hv'
    | next hl' hv' h' =>
      cases hl.symm.trans hl'
      cases hv.unique hv'
      exact ih h'

theorem Searches.unique {entry source : String} {names : List String}
    {out other : Except Failure Registry} (h : c.Searches entry source names out)
    (h' : c.Searches entry source names other) : out = other := by
  cases h with
  | unparsed hi =>
    cases h' with
    | unparsed hi' => simpa [hi] using hi'
    | unresolved hi' | failed hi' | names hi' => simp [hi] at hi'
  | unresolved hi hl =>
    cases h' with
    | unparsed hi' => simp [hi] at hi'
    | unresolved hi' hl' =>
      cases hi.symm.trans hi'
      simpa [hl] using hl'
    | failed hi' hl' | names hi' hl' =>
      cases hi.symm.trans hi'
      simp [hl] at hl'
  | failed hi hl hv =>
    cases h' with
    | unparsed hi' => simp [hi] at hi'
    | unresolved hi' hl' =>
      cases hi.symm.trans hi'
      simp [hl] at hl'
    | failed hi' hl' hv' =>
      cases hi.symm.trans hi'
      cases hl.symm.trans hl'
      exact hv.unique hv'
    | names hi' hl' hv' =>
      cases hi.symm.trans hi'
      cases hl.symm.trans hl'
      cases hv.unique hv'
  | names hi hl hv hn =>
    cases h' with
    | unparsed hi' => simp [hi] at hi'
    | unresolved hi' hl' =>
      cases hi.symm.trans hi'
      simp [hl] at hl'
    | failed hi' hl' hv' =>
      cases hi.symm.trans hi'
      cases hl.symm.trans hl'
      cases hv.unique hv'
    | names hi' hl' hv' hn' =>
      cases hi.symm.trans hi'
      cases hl.symm.trans hl'
      cases hv.unique hv'
      exact hn.unique hn'

/-! ## The outcome of the stack -/

variable {entry source : String} {names : List String}

/-- A stack holds what is left of a recursion: its lists are the matches that the callers have not
come to yet, innermost first. -/
theorem walk_visits (registry : Registry) (stack : List (List Match)) :
    Walking c entry source names registry stack →
      c.VisitsStack registry stack (c.walk registry stack).outcome := by
  refine c.walk_induction (motive := fun registry stack out =>
    Walking c entry source names registry stack → c.VisitsStack registry stack out)
    ?nil ?popped ?known ?broken ?fresh ?full registry stack
  case nil =>
    intro registry _
    rfl
  case popped =>
    intro registry stack out ih h
    exact ⟨.ok registry, .done, ih h.popped⟩
  case known =>
    intro registry m pending stack out hm ih h
    obtain ⟨first, hv, hs⟩ := ih (h.known hm)
    exact ⟨first, .known hm hv, hs⟩
  case broken =>
    intro registry m pending stack failure hm he _
    exact ⟨.error failure, .broken hm he, rfl⟩
  case fresh =>
    intro registry m pending stack out record matched hm he ih h
    obtain ⟨first, hv, hs⟩ := ih (h.fresh hm he)
    cases first with
    | error failure => exact ⟨.error failure, .failed hm he hv, hs⟩
    | ok grown =>
      obtain ⟨second, hv', hs⟩ := hs
      exact ⟨second, .descend hm he hv hv', hs⟩
  case full =>
    intro registry m pending stack _ room h
    exact absurd h.room room

theorem walk_visits_single {registry : Registry} {matched : List Match}
    (h : Walking c entry source names registry [])
    (reached : ∀ m ∈ matched, c.Reached entry source names registry.records m) :
    c.Visits registry matched (c.walk registry [matched]).outcome := by
  obtain ⟨first, hv, hs⟩ := walk_visits registry [matched] (h.start reached)
  cases first with
  | ok grown => exact hs ▸ hv
  | error failure => exact hs ▸ hv

theorem walkNames_visits {rest : List String} (sub : ∀ name ∈ rest, name ∈ names)
    {registry : Registry} (h : Walking c entry source names registry []) :
    c.VisitsNames registry rest (c.walkNames registry rest).outcome := by
  induction rest generalizing registry with
  | nil => exact .done
  | cons name rest ih =>
    rw [outcome_walkNames_cons]
    cases hl : c.lookUp none extraLabel [Reference.ofDotted name] with
    | error failure => exact .unresolved hl
    | ok matched =>
      have hm : matched = c.found none (Reference.ofDotted name) := by
        simpa using (c.lookUp_eq_ok hl).2
      have reached : ∀ m ∈ matched, c.Reached entry source names registry.records m :=
        fun m hin => ⟨none, _, .name (sub name List.mem_cons_self), hm ▸ hin⟩
      have visits := walk_visits_single h reached
      rw [Trial.ok_bind]
      cases hw : (c.walk registry [matched]).outcome with
      | error failure => exact .failed hl (hw ▸ visits)
      | ok grown =>
        have hgrown := (walk_walking registry [matched] (h.start reached) grown hw).1
        exact .next hl (hw ▸ visits) (ih (fun n hn => sub n (List.mem_cons_of_mem _ hn)) hgrown)

theorem closure_searches :
    c.Searches entry source names (c.closure entry source names).outcome := by
  rw [outcome_closure]
  cases hi : (extractImports source entry).outcome with
  | error failure => exact .unparsed hi
  | ok imports =>
    rw [Trial.ok_bind]
    cases hl : c.lookUp none entry (followed imports) with
    | error failure => exact .unresolved hi hl
    | ok matched =>
      have empty : Walking c entry source names {} [] := .empty
      have reached : ∀ m ∈ matched, c.Reached entry source names [] m := by
        intro m hin
        obtain ⟨reference, hf, hin⟩ := List.mem_flatMap.1 ((c.lookUp_eq_ok hl).2 ▸ hin)
        exact ⟨none, reference, .entry ⟨imports, hi, mem_followed.1 hf⟩, hin⟩
      have visits := walk_visits_single empty reached
      rw [Trial.ok_bind]
      cases hw : (c.walk {} [matched]).outcome with
      | error failure => exact .failed hi hl (hw ▸ visits)
      | ok grown =>
        have hgrown := (walk_walking {} [matched] (empty.start reached) grown hw).1
        exact .names hi hl (hw ▸ visits) (walkNames_visits (fun _ => id) hgrown)

/-- **The explicit stack does what recursion does.** The recursive search of an entry comes to an
end, and its only outcome, records in order or a failure, is that of the closure. -/
theorem searches_iff (c : Collector) (entry source : String) (names : List String)
    (out : Except Failure Registry) :
    c.Searches entry source names out ↔ (c.closure entry source names).outcome = out := by
  constructor
  · exact closure_searches.unique
  · rintro rfl
    exact closure_searches

end Collector

end ScriptBundle
