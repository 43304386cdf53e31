import ScriptBundle.Import.Closure

namespace ScriptBundle

namespace Registry

/-- The registry with one more record behind the others. -/
def push (r : Registry) (record : Record) : Registry := ⟨r.records ++ [record]⟩

@[simp] theorem records_push (r : Registry) (record : Record) :
    (r.push record).records = r.records ++ [record] := rfl

@[simp] theorem paths_push (r : Registry) (record : Record) :
    (r.push record).paths = r.paths ++ [record.canonical] := by
  simp [paths]

theorem contains_iff {r : Registry} {canonical : String} :
    r.contains canonical = true ↔ canonical ∈ r.paths := by
  simp [contains, paths]

theorem insert?_eq_some {r : Registry} {record : Record}
    (h : r.contains record.canonical = false) :
    r.insert? record = some (r.push record, r.size) := by
  simp [insert?, h, push, size]

end Registry

namespace Collector

variable (c : Collector)

/-- The matches that resolution gives for a reference. -/
def found (importer : Option Record) (reference : Reference) : List Match :=
  (c.resolver.resolve c.files importer reference).value

/-- Whether a reference ends the run for want of matches. -/
def refuses (importer : Option Record) (reference : Reference) : Bool :=
  c.mode = .strict && (c.found importer reference).isEmpty

/-- All matches of some references in order, unless the run ends at one of them. -/
def lookUp (importer : Option Record) (label : String) (references : List Reference) :
    Except Failure (List Match) :=
  match references.find? (c.refuses importer) with
  | some reference => .error (.unresolvedImport reference.display label)
  | none => .ok (references.flatMap (c.found importer))

/-- The references that the standard library does not serve. -/
def followed (references : List Reference) : List Reference :=
  references.filter fun reference => !isStandardModule reference.path

theorem lookUp_nil (importer : Option Record) (label : String) :
    c.lookUp importer label [] = .ok [] := rfl

theorem lookUp_cons (importer : Option Record) (label : String) (reference : Reference)
    (rest : List Reference) :
    c.lookUp importer label (reference :: rest) =
      if c.refuses importer reference then .error (.unresolvedImport reference.display label)
      else c.lookUp importer label rest >>= fun more =>
        .ok (c.found importer reference ++ more) := by
  by_cases h : c.refuses importer reference
  · simp [lookUp, h]
  · simp only [lookUp, List.find?_cons, h, List.flatMap_cons]
    cases rest.find? (c.refuses importer) <;> rfl

theorem lookUp_eq_ok {importer : Option Record} {label : String} {references : List Reference}
    {matched : List Match} (h : c.lookUp importer label references = .ok matched) :
    (∀ reference ∈ references, c.refuses importer reference = false) ∧
      matched = references.flatMap (c.found importer) := by
  unfold lookUp at h
  split at h
  · cases h
  · rename_i none
    refine ⟨fun reference hr => ?_, by cases h; rfl⟩
    simpa using List.find?_eq_none.1 none reference hr

theorem lookUp_lenient (h : c.mode = .lenient) (importer : Option Record) (label : String)
    (references : List Reference) :
    c.lookUp importer label references = .ok (references.flatMap (c.found importer)) := by
  have hnone : references.find? (c.refuses importer) = none := by
    rw [List.find?_eq_none]
    simp [refuses, h]
  rw [lookUp, hnone]

theorem outcome_matchesOf (importer : Option Record) (label : String) (reference : Reference) :
    (c.matchesOf importer label reference).outcome = c.lookUp importer label [reference] := by
  by_cases he : (c.resolver.resolve c.files importer reference).value = []
  · cases hm : c.mode <;>
      simp [matchesOf, lookUp_cons, lookUp_nil, refuses, found, he, hm]
  · simp [matchesOf, lookUp_cons, lookUp_nil, refuses, found, he]

theorem outcome_matchesOfImports (importer : Option Record) (label : String)
    (references : List Reference) :
    (c.matchesOfImports importer label references).outcome =
      c.lookUp importer label (followed references) := by
  induction references with
  | nil => rfl
  | cons reference rest ih =>
    by_cases hs : isStandardModule reference.path
    · simpa [matchesOfImports, hs, followed] using ih
    · have hf : followed (reference :: rest) = reference :: followed rest := by
        simp [followed, hs]
      rw [hf, lookUp_cons, ← ih]
      simp only [matchesOfImports, hs, Bool.false_eq_true, ↓reduceIte, Trial.outcome_bind,
        Trial.outcome_pure, outcome_matchesOf, lookUp_cons, lookUp_nil]
      by_cases hr : c.refuses importer reference <;> simp [hr]

/-- Read a match and look up what it imports. -/
def expand (m : Match) : Except Failure (Record × List Match) := do
  let record ← m.read c.files
  let imports ← (extractImports record.source record.absolute).outcome
  let matched ← c.lookUp (some record) record.canonical (followed imports)
  return (record, matched)

theorem read_eq_ok {fs : FileSystem} {m : Match} {record : Record} (h : m.read fs = .ok record) :
    record.canonical = m.canonical ∧ record.absolute = m.absolute ∧
      readSource fs m.absolute = .ok record.source := by
  obtain ⟨source, hs, hr⟩ := Trial.bind_eq_ok h
  cases hr
  exact ⟨rfl, rfl, hs⟩

/-- What is known of a match that was read. -/
theorem expand_eq_ok {m : Match} {record : Record} {matched : List Match}
    (h : c.expand m = .ok (record, matched)) :
    record.canonical = m.canonical ∧ record.absolute = m.absolute ∧
      readSource c.files m.absolute = .ok record.source ∧
      ∃ imports, (extractImports record.source record.absolute).outcome = .ok imports ∧
        (∀ reference ∈ followed imports, c.refuses (some record) reference = false) ∧
        matched = (followed imports).flatMap (c.found (some record)) := by
  obtain ⟨read, hread, h⟩ := Trial.bind_eq_ok h
  obtain ⟨imports, himports, h⟩ := Trial.bind_eq_ok h
  obtain ⟨looked, hlooked, h⟩ := Trial.bind_eq_ok h
  cases h
  obtain ⟨hc, ha, hs⟩ := read_eq_ok hread
  exact ⟨hc, ha, hs, imports, himports, c.lookUp_eq_ok hlooked⟩

theorem expand_of_read {m : Match} {source : String} {imports : List Reference}
    {matched : List Match} (hs : readSource c.files m.absolute = .ok source)
    (hi : (extractImports source m.absolute).outcome = .ok imports)
    (hl : c.lookUp (some ⟨m.canonical, m.absolute, source⟩) m.canonical (followed imports) =
      .ok matched) :
    c.expand m = .ok (⟨m.canonical, m.absolute, source⟩, matched) := by
  have hread : m.read c.files = .ok ⟨m.canonical, m.absolute, source⟩ := by
    rw [Match.read, hs]
    rfl
  simp only [expand, hread, Trial.ok_bind, hi, hl]
  rfl

/-! ## Steps of a walk -/

theorem outcome_walk_nil (registry : Registry) :
    (c.walk registry []).outcome = .ok registry := by
  rw [walk]; rfl

theorem outcome_walk_popped (registry : Registry) (stack : List (List Match)) :
    (c.walk registry ([] :: stack)).outcome = (c.walk registry stack).outcome := by
  rw [walk]

theorem outcome_walk_known {registry : Registry} {m : Match}
    (h : registry.contains m.canonical = true) (pending : List Match)
    (stack : List (List Match)) :
    (c.walk registry ((m :: pending) :: stack)).outcome =
      (c.walk registry (pending :: stack)).outcome := by
  rw [walk, if_pos h]

theorem outcome_walk_fresh {registry : Registry} {m : Match}
    (h : registry.contains m.canonical = false) (room : registry.size < capacity)
    (pending : List Match) (stack : List (List Match)) :
    (c.walk registry ((m :: pending) :: stack)).outcome =
      c.expand m >>= fun both =>
        (c.walk (registry.push both.1) (both.2 :: pending :: stack)).outcome := by
  rw [walk, if_neg (by simp [h]), dif_pos room]
  simp only [Trial.outcome_bind, Trial.outcome_mk_pure, expand]
  cases hr : m.read c.files with
  | error e => rfl
  | ok record =>
    have hc : registry.contains record.canonical = false := (read_eq_ok hr).1 ▸ h
    have hi := Registry.insert?_eq_some hc
    simp only [Trial.ok_bind]
    split
    · simp_all
    · rename_i grown index hg
      rw [hi] at hg
      cases hg
      simp only [Trial.outcome_bind, Trial.outcome_record, outcome_matchesOfImports,
        Trial.ok_bind]
      cases (extractImports record.source record.absolute).outcome with
      | error e => rfl
      | ok imports =>
        simp only [Trial.ok_bind]
        cases c.lookUp (some record) record.canonical (followed imports) <;> rfl

theorem outcome_walk_full {registry : Registry} {m : Match}
    (h : registry.contains m.canonical = false) (room : ¬ registry.size < capacity)
    (pending : List Match) (stack : List (List Match)) :
    (c.walk registry ((m :: pending) :: stack)).outcome = .error (.tooManyModules m.canonical) := by
  rw [walk, if_neg (by simp [h]), dif_neg room]
  rfl

/-- The one induction over walks: what every step of a walk keeps holds of its outcome. -/
theorem walk_induction
    {motive : Registry → List (List Match) → Except Failure Registry → Prop}
    (nil : ∀ registry, motive registry [] (.ok registry))
    (popped : ∀ registry stack out, motive registry stack out → motive registry ([] :: stack) out)
    (known : ∀ registry m pending stack out, registry.contains m.canonical = true →
      motive registry (pending :: stack) out → motive registry ((m :: pending) :: stack) out)
    (broken : ∀ registry m pending stack failure, registry.contains m.canonical = false →
      c.expand m = .error failure → motive registry ((m :: pending) :: stack) (.error failure))
    (fresh : ∀ registry m pending stack out record matched,
      registry.contains m.canonical = false → c.expand m = .ok (record, matched) →
      motive (registry.push record) (matched :: pending :: stack) out →
      motive registry ((m :: pending) :: stack) out)
    (full : ∀ registry m pending stack, registry.contains m.canonical = false →
      ¬ registry.size < capacity →
      motive registry ((m :: pending) :: stack) (.error (.tooManyModules m.canonical)))
    (registry : Registry) (stack : List (List Match)) :
    motive registry stack (c.walk registry stack).outcome := by
  induction registry, stack using walk.induct with
  | case1 registry => exact outcome_walk_nil c registry ▸ nil registry
  | case2 registry stack ih =>
    rw [outcome_walk_popped]
    exact popped _ _ _ ih
  | case3 registry m pending stack h ih =>
    rw [outcome_walk_known c h]
    exact known _ _ _ _ _ h ih
  | case4 registry m pending stack h room _ ih =>
    have h : registry.contains m.canonical = false := by simpa using h
    rw [outcome_walk_fresh c h room]
    cases he : c.expand m with
    | error failure => exact broken _ _ _ _ _ h he
    | ok both =>
      obtain ⟨record, matched⟩ := both
      have hc : registry.contains record.canonical = false := (c.expand_eq_ok he).1 ▸ h
      exact fresh _ _ _ _ _ _ _ h he (ih record _ _ (Registry.insert?_eq_some hc) matched)
  | case5 registry m pending stack h room =>
    have h : registry.contains m.canonical = false := by simpa using h
    rw [outcome_walk_full c h room]
    exact full _ _ _ _ h room

theorem outcome_walkNames_cons (registry : Registry) (name : String) (rest : List String) :
    (c.walkNames registry (name :: rest)).outcome =
      c.lookUp none extraLabel [Reference.ofDotted name] >>= fun matched =>
        (c.walk registry [matched]).outcome >>= fun grown => (c.walkNames grown rest).outcome := by
  simp [walkNames, outcome_matchesOf]

theorem outcome_closure (entry source : String) (names : List String) :
    (c.closure entry source names).outcome =
      (extractImports source entry).outcome >>= fun imports =>
        c.lookUp none entry (followed imports) >>= fun matched =>
          (c.walk {} [matched]).outcome >>= fun registry =>
            (c.walkNames registry names).outcome := by
  simp only [closure, Trial.outcome_bind, Trial.outcome_record, Trial.outcome_pure,
    Trial.ok_bind, outcome_matchesOfImports]
  congr; funext imports
  congr; funext matched
  congr; funext registry
  cases (c.walkNames registry names).outcome <;> rfl

end Collector

end ScriptBundle
