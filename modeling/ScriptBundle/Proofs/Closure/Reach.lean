import Mathlib.Data.List.Induction
import ScriptBundle.Proofs.Closure.Outcome

namespace ScriptBundle

namespace Collector

/-- A source imports something that the standard library does not serve. -/
def Follows (source path : String) (reference : Reference) : Prop :=
  ∃ references, (extractImports source path).outcome = .ok references ∧
    reference ∈ references ∧ isStandardModule reference.path = false

/-- Who asks for what: the entry and the names asked for, which have no importer, and records. -/
inductive Asks (entry source : String) (names : List String) (records : List Record) :
    Option Record → Reference → Prop where
  | entry {reference} : Follows source entry reference →
      Asks entry source names records none reference
  | name {name} : name ∈ names → Asks entry source names records none (Reference.ofDotted name)
  | record {r reference} : r ∈ records → Follows r.source r.absolute reference →
      Asks entry source names records (some r) reference

theorem mem_followed {references : List Reference} {reference : Reference} :
    reference ∈ followed references ↔
      reference ∈ references ∧ isStandardModule reference.path = false := by
  simp [followed]

theorem Follows.mem_followed {source path : String} {reference : Reference}
    {imports : List Reference} (h : Follows source path reference)
    (hi : (extractImports source path).outcome = .ok imports) : reference ∈ followed imports := by
  obtain ⟨references, ho, hf⟩ := h
  obtain rfl : references = imports := by simpa [ho] using hi
  exact Collector.mem_followed.2 hf

theorem Asks.mono {entry source : String} {names : List String} {records more : List Record}
    {importer : Option Record} {reference : Reference}
    (h : Asks entry source names records importer reference)
    (sub : ∀ r ∈ records, r ∈ more) : Asks entry source names more importer reference := by
  cases h with
  | entry h => exact .entry h
  | name h => exact .name h
  | record hr hf => exact .record (sub _ hr) hf

theorem Asks.importer_mem {entry source : String} {names : List String} {records : List Record}
    {i : Record} {reference : Reference}
    (h : Asks entry source names records (some i) reference) : i ∈ records := by
  cases h
  assumption

variable (c : Collector) (entry source : String) (names : List String)

/-- A match answers to someone among the entry, the names and some records. -/
def Reached (records : List Record) (m : Match) : Prop :=
  ∃ importer reference, Asks entry source names records importer reference ∧
    m ∈ c.found importer reference

/-- A record stands behind someone who asks for it, and holds the source of its file. -/
def Sound (records : List Record) : Prop :=
  ∀ before r after, records = before ++ r :: after →
    c.Reached entry source names before ⟨r.canonical, r.absolute⟩ ∧
      readSource c.files r.absolute = .ok r.source

/-- What holds of registry and stack all through a walk. -/
structure Walking (registry : Registry) (stack : List (List Match)) : Prop where
  distinct : registry.paths.Nodup
  sound : c.Sound entry source names registry.records
  pending : ∀ matched ∈ stack, ∀ m ∈ matched, c.Reached entry source names registry.records m
  answered : ∀ r ∈ registry.records, ∃ imports,
    (extractImports r.source r.absolute).outcome = .ok imports ∧
    ∀ reference ∈ followed imports, ∀ m ∈ c.found (some r) reference,
      m.canonical ∈ registry.paths ∨ ∃ matched ∈ stack, m ∈ matched
  resolved : ∀ r ∈ registry.records, ∀ reference, Follows r.source r.absolute reference →
    c.refuses (some r) reference = false

variable {c entry source names}

theorem Reached.mono {records more : List Record} {m : Match}
    (h : c.Reached entry source names records m) (sub : ∀ r ∈ records, r ∈ more) :
    c.Reached entry source names more m := by
  obtain ⟨importer, reference, ha, hm⟩ := h
  exact ⟨importer, reference, ha.mono sub, hm⟩

theorem Sound.push {records : List Record} (h : c.Sound entry source names records) {r : Record}
    (reached : c.Reached entry source names records ⟨r.canonical, r.absolute⟩)
    (read : readSource c.files r.absolute = .ok r.source) :
    c.Sound entry source names (records ++ [r]) := by
  intro before s after hs
  rcases List.eq_nil_or_concat after with rfl | ⟨init, last, rfl⟩
  · obtain ⟨rfl, hr⟩ := List.append_inj' hs rfl
    cases hr
    exact ⟨reached, read⟩
  · rw [List.concat_eq_append, ← List.cons_append, ← List.append_assoc] at hs
    exact h before s init (List.append_inj' hs rfl).1

theorem Sound.of_append {before after : List Record}
    (h : c.Sound entry source names (before ++ after)) : c.Sound entry source names before := by
  rintro front r rest rfl
  exact h front r (rest ++ after) (by simp)

theorem Sound.reached {records : List Record} (h : c.Sound entry source names records) {r : Record}
    (hr : r ∈ records) : c.Reached entry source names records ⟨r.canonical, r.absolute⟩ := by
  obtain ⟨before, after, rfl⟩ := List.append_of_mem hr
  exact (h before r after rfl).1.mono fun s hs => List.mem_append_left _ hs

/-- What passes from the records before a record to what they reach holds of all records. -/
theorem Sound.induction {records : List Record} {motive : Record → Prop}
    (h : c.Sound entry source names records)
    (step : ∀ before r after, records = before ++ r :: after → (∀ s ∈ before, motive s) →
      c.Reached entry source names before ⟨r.canonical, r.absolute⟩ → motive r) :
    ∀ r ∈ records, motive r := by
  have all : ∀ front rest, records = front ++ rest → ∀ r ∈ front, motive r := by
    intro front
    induction front using List.reverseRecOn with
    | nil => simp
    | append_singleton front last ih =>
      intro rest hr
      rw [List.append_assoc] at hr
      have before := ih _ hr
      intro r hin
      rcases List.mem_append.1 hin with hin | hin
      · exact before r hin
      · rw [List.mem_singleton.1 hin]
        exact step front last rest hr before (h front last rest hr).1
  exact all records [] (by simp)

theorem Walking.popped {registry : Registry} {stack : List (List Match)}
    (h : Walking c entry source names registry ([] :: stack)) :
    Walking c entry source names registry stack where
  distinct := h.distinct
  sound := h.sound
  pending matched hm := h.pending matched (List.mem_cons_of_mem _ hm)
  answered r hr := by
    obtain ⟨imports, hi, ha⟩ := h.answered r hr
    refine ⟨imports, hi, fun reference hf m hm => ?_⟩
    simpa using ha reference hf m hm
  resolved := h.resolved

theorem Walking.known {registry : Registry} {m : Match} {pending : List Match}
    {stack : List (List Match)}
    (h : Walking c entry source names registry ((m :: pending) :: stack))
    (hm : registry.contains m.canonical = true) :
    Walking c entry source names registry (pending :: stack) where
  distinct := h.distinct
  sound := h.sound
  pending matched hmem n hn := by
    rcases List.mem_cons.1 hmem with rfl | hmem
    · exact h.pending _ List.mem_cons_self n (List.mem_cons_of_mem _ hn)
    · exact h.pending matched (List.mem_cons_of_mem _ hmem) n hn
  answered r hr := by
    obtain ⟨imports, hi, ha⟩ := h.answered r hr
    refine ⟨imports, hi, fun reference hf n hn => ?_⟩
    rcases ha reference hf n hn with hp | ⟨matched, hmem, hin⟩
    · exact .inl hp
    · rcases List.mem_cons.1 hmem with rfl | hmem
      · rcases List.mem_cons.1 hin with rfl | hin
        · exact .inl (Registry.contains_iff.1 hm)
        · exact .inr ⟨pending, List.mem_cons_self, hin⟩
      · exact .inr ⟨matched, List.mem_cons_of_mem _ hmem, hin⟩
  resolved := h.resolved

/-- The step that matters: the record that a match was read into joins the registry, and what it
imports goes on top of the stack. -/
theorem Walking.fresh {registry : Registry} {m : Match} {pending : List Match}
    {stack : List (List Match)} {record : Record} {matched : List Match}
    (h : Walking c entry source names registry ((m :: pending) :: stack))
    (hm : registry.contains m.canonical = false) (he : c.expand m = .ok (record, matched)) :
    Walking c entry source names (registry.push record) (matched :: pending :: stack) := by
  obtain ⟨hc, ha, hs, imports, hi, hres, rfl⟩ := c.expand_eq_ok he
  have hmr : m = ⟨record.canonical, record.absolute⟩ := by rw [hc, ha]
  have hnew : record.canonical ∉ registry.paths := by
    rw [hc]
    intro hp
    simp [Registry.contains_iff.2 hp] at hm
  have grows : ∀ r ∈ registry.records, r ∈ (registry.push record).records := by
    intro r hr
    simp [hr]
  have reached : c.Reached entry source names registry.records ⟨record.canonical, record.absolute⟩ :=
    hmr ▸ h.pending _ List.mem_cons_self m List.mem_cons_self
  refine ⟨?_, h.sound.push reached (ha ▸ hs), ?_, ?_, ?_⟩
  · rw [Registry.paths_push]
    exact List.nodup_append.2 ⟨h.distinct, by simp, fun a hp b hb => by
      rw [List.mem_singleton.1 hb]
      rintro rfl
      exact hnew hp⟩
  · intro ms hms n hn
    rcases List.mem_cons.1 hms with rfl | hms
    · obtain ⟨reference, hf, hn⟩ := List.mem_flatMap.1 hn
      obtain ⟨hf, hstd⟩ := mem_followed.1 hf
      exact ⟨some record, reference, .record (by simp) ⟨imports, hi, hf, hstd⟩, hn⟩
    · rcases List.mem_cons.1 hms with rfl | hms
      · exact (h.pending _ List.mem_cons_self n (List.mem_cons_of_mem _ hn)).mono grows
      · exact (h.pending ms (List.mem_cons_of_mem _ hms) n hn).mono grows
  · intro r hr
    rcases List.mem_append.1 hr with hr | hr
    · obtain ⟨others, ho, ha⟩ := h.answered r hr
      refine ⟨others, ho, fun reference hf n hn => ?_⟩
      rcases ha reference hf n hn with hp | ⟨ms, hms, hin⟩
      · exact .inl (by simp [hp])
      · rcases List.mem_cons.1 hms with rfl | hms
        · rcases List.mem_cons.1 hin with rfl | hin
          · exact .inl (by simp [hc])
          · exact .inr ⟨pending, by simp, hin⟩
        · exact .inr ⟨ms, by simp [hms], hin⟩
    · cases List.mem_singleton.1 hr
      refine ⟨imports, hi, fun reference hf n hn => .inr ⟨_, List.mem_cons_self, ?_⟩⟩
      exact List.mem_flatMap.2 ⟨reference, hf, hn⟩
  · intro r hr reference hf
    rcases List.mem_append.1 hr with hr | hr
    · exact h.resolved r hr reference hf
    · cases List.mem_singleton.1 hr
      exact hres reference (hf.mem_followed hi)

/-- A whole walk keeps what its steps keep. It drops nothing, neither from the registry nor from
the stack. -/
theorem walk_walking (registry : Registry) (stack : List (List Match)) :
    Walking c entry source names registry stack → ∀ final,
      (c.walk registry stack).outcome = .ok final →
      Walking c entry source names final [] ∧ (∀ p ∈ registry.paths, p ∈ final.paths) ∧
        ∀ matched ∈ stack, ∀ m ∈ matched, m.canonical ∈ final.paths := by
  refine c.walk_induction (motive := fun registry stack out =>
    Walking c entry source names registry stack → ∀ final, out = .ok final →
      Walking c entry source names final [] ∧ (∀ p ∈ registry.paths, p ∈ final.paths) ∧
        ∀ matched ∈ stack, ∀ m ∈ matched, m.canonical ∈ final.paths)
    ?nil ?popped ?known ?broken ?fresh ?full registry stack
  case nil =>
    intro registry h final hf
    cases hf
    exact ⟨h, fun _ => id, by simp⟩
  case popped =>
    intro registry stack out ih h final hf
    obtain ⟨hw, hr, hs⟩ := ih h.popped final hf
    exact ⟨hw, hr, by simpa using hs⟩
  case known =>
    intro registry m pending stack out hm ih h final hf
    obtain ⟨hw, hr, hs⟩ := ih (h.known hm) final hf
    simp only [List.forall_mem_cons] at hs ⊢
    exact ⟨hw, hr, ⟨hr _ (Registry.contains_iff.1 hm), hs.1⟩, hs.2⟩
  case broken =>
    intro registry m pending stack failure _ _ _ final hf
    cases hf
  case fresh =>
    intro registry m pending stack out record matched hm he ih h final hf
    obtain ⟨hw, hr, hs⟩ := ih (h.fresh hm he) final hf
    simp only [Registry.paths_push, List.forall_mem_append, List.forall_mem_singleton] at hr
    simp only [List.forall_mem_cons] at hs ⊢
    have hc : record.canonical = m.canonical := (c.expand_eq_ok he).1
    exact ⟨hw, hr.1, ⟨hc ▸ hr.2, hs.2.1⟩, hs.2.2⟩
  case full =>
    intro registry m pending stack _ _ _ final hf
    cases hf

theorem Walking.empty : Walking c entry source names {} [] := by
  refine ⟨by simp [Registry.paths], ?_, by simp, by simp, by simp⟩
  intro before r after hn
  simp at hn

theorem Walking.start {registry : Registry} {matched : List Match}
    (h : Walking c entry source names registry [])
    (reached : ∀ m ∈ matched, c.Reached entry source names registry.records m) :
    Walking c entry source names registry [matched] where
  distinct := h.distinct
  sound := h.sound
  pending ms hms := by
    cases List.mem_singleton.1 hms
    exact reached
  answered r hr := by
    obtain ⟨imports, hi, ha⟩ := h.answered r hr
    exact ⟨imports, hi, fun reference hf m hm => .inl (by simpa using ha reference hf m hm)⟩
  resolved := h.resolved

theorem walkNames_walking {rest : List String} (sub : ∀ name ∈ rest, name ∈ names)
    {registry final : Registry} (h : Walking c entry source names registry [])
    (hf : (c.walkNames registry rest).outcome = .ok final) :
    Walking c entry source names final [] ∧ (∀ p ∈ registry.paths, p ∈ final.paths) ∧
      ∀ name ∈ rest, ∀ m ∈ c.found none (Reference.ofDotted name), m.canonical ∈ final.paths := by
  induction rest generalizing registry with
  | nil =>
    cases hf
    exact ⟨h, fun _ => id, by simp⟩
  | cons name rest ih =>
    rw [outcome_walkNames_cons] at hf
    obtain ⟨matched, hl, hf⟩ := Trial.bind_eq_ok hf
    obtain ⟨grown, hw, hf⟩ := Trial.bind_eq_ok hf
    have hm : matched = c.found none (Reference.ofDotted name) := by
      simpa using (c.lookUp_eq_ok hl).2
    have start : Walking c entry source names registry [matched] := h.start fun m hin =>
      ⟨none, _, .name (sub name List.mem_cons_self), hm ▸ hin⟩
    obtain ⟨hwalk, hr, hs⟩ := walk_walking registry [matched] start grown hw
    obtain ⟨hall, hrest, hnames⟩ := ih (fun n hn => sub n (List.mem_cons_of_mem _ hn)) hwalk hf
    refine ⟨hall, fun p hp => hrest p (hr p hp), ?_⟩
    simp only [List.forall_mem_cons]
    exact ⟨fun m hin => hrest _ (hs matched (by simp) m (hm ▸ hin)), hnames⟩

/-- At the end of a run the invariant holds with nothing on the stack, and everyone without an
importer is answered. -/
theorem closure_walking {registry : Registry}
    (h : (c.closure entry source names).outcome = .ok registry) :
    Walking c entry source names registry [] ∧
      ∀ reference, Asks entry source names [] none reference →
        ∀ m ∈ c.found none reference, m.canonical ∈ registry.paths := by
  rw [outcome_closure] at h
  obtain ⟨imports, hi, h⟩ := Trial.bind_eq_ok h
  obtain ⟨matched, hl, h⟩ := Trial.bind_eq_ok h
  obtain ⟨grown, hw, h⟩ := Trial.bind_eq_ok h
  have hm := (c.lookUp_eq_ok hl).2
  have start : Walking c entry source names {} [matched] := by
    refine Walking.empty.start fun m hin => ?_
    obtain ⟨reference, hf, hin⟩ := List.mem_flatMap.1 (hm ▸ hin)
    exact ⟨none, reference, .entry ⟨imports, hi, mem_followed.1 hf⟩, hin⟩
  obtain ⟨hwalk, -, hs⟩ := walk_walking {} [matched] start grown hw
  obtain ⟨hall, hrest, hnames⟩ := walkNames_walking (fun _ => id) hwalk h
  refine ⟨hall, fun reference ha m hin => ?_⟩
  cases ha with
  | entry hf =>
    refine hrest _ (hs matched (by simp) m ?_)
    rw [hm]
    exact List.mem_flatMap.2 ⟨reference, hf.mem_followed hi, hin⟩
  | name hn => exact hnames _ hn m hin

/-- **A closure is sound and complete.** Its paths are distinct; every record is a match for what the
entry imports, for a name asked for or for what an earlier record imports, with the source of its
file; every record was read for its imports; and every match for any of these imports and names is
among the paths. -/
theorem closure_reaches {registry : Registry}
    (h : (c.closure entry source names).outcome = .ok registry) :
    registry.paths.Nodup ∧
      (∀ before r after, registry.records = before ++ r :: after →
        readSource c.files r.absolute = .ok r.source ∧
        ∃ importer reference, Asks entry source names before importer reference ∧
          ⟨r.canonical, r.absolute⟩ ∈ c.found importer reference) ∧
      (∀ r ∈ registry.records, ∃ imports,
        (extractImports r.source r.absolute).outcome = .ok imports) ∧
      ∀ importer reference, Asks entry source names registry.records importer reference →
        ∀ m ∈ c.found importer reference, m.canonical ∈ registry.paths := by
  obtain ⟨hw, hnone⟩ := closure_walking h
  refine ⟨hw.distinct, fun before r after hr => ?_, fun r hr => ?_, ?_⟩
  · obtain ⟨reached, read⟩ := hw.sound before r after hr
    exact ⟨read, reached⟩
  · obtain ⟨imports, hi, -⟩ := hw.answered r hr
    exact ⟨imports, hi⟩
  · intro importer reference ha m hm
    cases ha with
    | entry hf => exact hnone reference (.entry hf) m hm
    | name hn => exact hnone _ (.name hn) m hm
    | record hr hf =>
      obtain ⟨imports, hi, ha⟩ := hw.answered _ hr
      simpa using ha reference (hf.mem_followed hi) m hm

theorem walkNames_resolved {registry final : Registry} {rest : List String}
    (h : (c.walkNames registry rest).outcome = .ok final) :
    ∀ name ∈ rest, c.refuses none (Reference.ofDotted name) = false := by
  induction rest generalizing registry with
  | nil => simp
  | cons name rest ih =>
    rw [outcome_walkNames_cons] at h
    obtain ⟨matched, hl, h⟩ := Trial.bind_eq_ok h
    obtain ⟨grown, -, h⟩ := Trial.bind_eq_ok h
    rw [List.forall_mem_cons]
    exact ⟨(c.lookUp_eq_ok hl).1 _ (by simp), ih h⟩

/-- No import and no name of a run that ends well was refused. -/
theorem closure_resolved {registry : Registry}
    (h : (c.closure entry source names).outcome = .ok registry) {importer : Option Record}
    {reference : Reference} (ha : Asks entry source names registry.records importer reference) :
    c.refuses importer reference = false := by
  obtain ⟨hw, -⟩ := closure_walking h
  rw [outcome_closure] at h
  obtain ⟨imports, hi, h⟩ := Trial.bind_eq_ok h
  obtain ⟨matched, hl, h⟩ := Trial.bind_eq_ok h
  obtain ⟨grown, -, h⟩ := Trial.bind_eq_ok h
  cases ha with
  | entry hf => exact (c.lookUp_eq_ok hl).1 _ (hf.mem_followed hi)
  | name hn => exact walkNames_resolved h _ hn
  | record hr hf => exact hw.resolved _ hr _ hf

/-! ## Two modules that import each other -/

def cycle : Collector where
  files := { entries := [
    (["a.py"], .file "import b\n".toUTF8 0o644), (["b.py"], .file "import a\n".toUTF8 0o644)] }
  resolver := ⟨["/"]⟩
  mode := .strict

/-- What the run over `cycle` does, step by step. -/
theorem steps_cycle :
    (extractImports "import a\n" "/main.py").outcome = .ok [⟨"a", []⟩] ∧
    cycle.lookUp none "/main.py" (followed [⟨"a", []⟩]) = .ok [⟨"a", "/a.py"⟩] ∧
    cycle.expand ⟨"a", "/a.py"⟩ = .ok (⟨"a", "/a.py", "import b\n"⟩, [⟨"b", "/b.py"⟩]) ∧
    cycle.expand ⟨"b", "/b.py"⟩ = .ok (⟨"b", "/b.py", "import a\n"⟩, [⟨"a", "/a.py"⟩]) := by
  decide +kernel

theorem lt_capacity {n : Nat} (h : n < 256) : n < capacity := by
  have hk : 0 < 4096 := by decide
  unfold capacity
  generalize 4096 = k at hk
  exact Nat.lt_of_lt_of_le h (Nat.le_pow hk)

theorem closure_cycle : (cycle.closure "/main.py" "import a\n" []).outcome =
    .ok ⟨[⟨"a", "/a.py", "import b\n"⟩, ⟨"b", "/b.py", "import a\n"⟩]⟩ := by
  obtain ⟨entry, found, first, second⟩ := steps_cycle
  rw [outcome_closure, entry, Trial.ok_bind, found, Trial.ok_bind,
    outcome_walk_fresh _ (by decide) (lt_capacity (by decide)), first, Trial.ok_bind,
    outcome_walk_fresh _ (by decide) (lt_capacity (by decide)), second, Trial.ok_bind,
    outcome_walk_known _ (by decide), outcome_walk_popped, outcome_walk_popped,
    outcome_walk_popped, outcome_walk_nil]
  rfl

theorem closure_reaches_cycle : ∃ registry,
    (cycle.closure "/main.py" "import a\n" []).outcome = .ok registry ∧
      registry.paths = ["a", "b"] ∧
      ∀ importer reference, Asks "/main.py" "import a\n" [] registry.records importer reference →
        ∀ m ∈ cycle.found importer reference, m.canonical ∈ registry.paths :=
  ⟨_, closure_cycle, by decide, (closure_reaches closure_cycle).2.2.2⟩

end Collector

end ScriptBundle
