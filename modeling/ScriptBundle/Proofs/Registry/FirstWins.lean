import Mathlib.Data.List.Induction
import ScriptBundle.Proofs.Closure.Outcome
import ScriptBundle.Proofs.Registry.OrderedMap

namespace ScriptBundle.Registry

inductive Operation
  | insert (record : Record)
  | contains (canonical : String)
  | get (index : Nat)
  | paths
  /-- Hand over all records. A new registry takes the place of this one. -/
  | drain
  deriving DecidableEq

inductive Answer
  | inserted (index : Option Nat)
  | contained (taken : Bool)
  | got (record : Option Record)
  | paths (canonicals : List String)
  | drained (records : List Record)
  deriving DecidableEq

section
variable {State : Type} (step : State → Operation → State × Answer)

def after (s : State) (operations : List Operation) : State :=
  operations.foldl (fun s o => (step s o).1) s

def answers (s : State) : List Operation → List Answer
  | [] => []
  | o :: rest => (step s o).2 :: answers (step s o).1 rest

end

def perform (r : Registry) : Operation → Registry × Answer
  | .insert record =>
    match r.insert? record with
    | some (grown, index) => (grown, .inserted (some index))
    | none => (r, .inserted none)
  | .contains canonical => (r, .contained (r.contains canonical))
  | .get index => (r, .got (r.get? index))
  | .paths => (r, .paths r.paths)
  | .drain => ({}, .drained r.records)

/-- A list of records does an operation. -/
def listed (records : List Record) : Operation → List Record × Answer
  | .insert record =>
    if ∃ r ∈ records, r.canonical = record.canonical then (records, .inserted none)
    else (records ++ [record], .inserted (some records.length))
  | .contains canonical => (records, .contained (decide (∃ r ∈ records, r.canonical = canonical)))
  | .get index => (records, .got records[index]?)
  | .paths => (records, .paths (records.map (·.canonical)))
  | .drain => ([], .drained records)

/-- A map of records by their canonical paths does an operation. -/
def mapped (M : OrderedMap Record) (m : M.State) : Operation → M.State × Answer
  | .insert record =>
    match M.entry m record.canonical with
    | .occupied => (m, .inserted none)
    | .vacant index insert => (insert record, .inserted (some index))
  | .contains canonical => (m, .contained (M.containsKey m canonical))
  | .get index => (m, .got ((M.get? m index).map (·.2)))
  | .paths => (m, .paths (M.keys m))
  | .drain => (M.empty, .drained (M.values m))

/-! ## Stores that answer alike -/

/-- Two states that belong together do so behind any operation, and give one answer to it. -/
def Simulates {State Other : Type} (step : State → Operation → State × Answer)
    (step' : Other → Operation → Other × Answer) (R : State → Other → Prop) : Prop :=
  ∀ s t o, R s t → R (step s o).1 (step' t o).1 ∧ (step s o).2 = (step' t o).2

section
variable {State Other : Type} {step : State → Operation → State × Answer}
  {step' : Other → Operation → Other × Answer} {R : State → Other → Prop}

theorem Simulates.answers (h : Simulates step step' R) {s : State} {t : Other} (start : R s t)
    (operations : List Operation) : answers step s operations = answers step' t operations := by
  induction operations generalizing s t with
  | nil => rfl
  | cons o rest ih =>
    obtain ⟨next, same⟩ := h s t o start
    rw [Registry.answers, Registry.answers, same, ih next]

theorem Simulates.after (h : Simulates step step' R) {s : State} {t : Other} (start : R s t)
    (operations : List Operation) : R (after step s operations) (after step' t operations) := by
  induction operations generalizing s t with
  | nil => exact start
  | cons o rest ih => exact ih (h s t o start).1

end

theorem perform_listed : Simulates perform listed fun r records => r.records = records := by
  rintro r _ o rfl
  cases o with
  | insert record =>
    by_cases taken : ∃ other ∈ r.records, other.canonical = record.canonical
    · simp [perform, listed, insert?, contains, taken]
    · simp [perform, listed, insert?, contains, taken]
  | contains canonical =>
    have taken : r.contains canonical =
        decide (∃ other ∈ r.records, other.canonical = canonical) := by
      rw [Bool.eq_iff_iff, decide_eq_true_iff, contains_iff]
      simp [paths]
    exact ⟨rfl, congrArg Answer.contained taken⟩
  | get index => exact ⟨rfl, rfl⟩
  | paths => exact ⟨rfl, rfl⟩
  | drain => exact ⟨rfl, rfl⟩

/-- A map holds the records of a list, each under its path and its number. -/
def Holds (M : OrderedMap Record) (m : M.State) (records : List Record) : Prop :=
  ∀ i, M.get? m i = records[i]?.map fun r => (r.canonical, r)

section
variable {M : OrderedMap Record} {m : M.State} {records : List Record}

theorem Holds.containsKey (lawful : M.Lawful) (h : Holds M m records) (canonical : String) :
    M.containsKey m canonical = true ↔ ∃ r ∈ records, r.canonical = canonical := by
  rw [lawful.containsKey_iff]
  constructor
  · rintro ⟨i, value, hi⟩
    rw [h i, Option.map_eq_some_iff] at hi
    obtain ⟨r, hr, he⟩ := hi
    cases he
    exact ⟨_, List.mem_of_getElem? hr, rfl⟩
  · rintro ⟨r, hr, rfl⟩
    obtain ⟨i, hi⟩ := List.getElem?_of_mem hr
    exact ⟨i, r, by rw [h i, hi]; rfl⟩

/-- The number of a new entry is the length of the list. -/
theorem Holds.index (lawful : M.Lawful) (h : Holds M m records) {key : String} {index : Nat}
    {insert : Record → M.State} (he : M.entry m key = .vacant index insert) :
    index = records.length := by
  have bound : ∀ i, index ≤ i ↔ records.length ≤ i := by
    intro i
    rw [← lawful.index_vacant m key index insert he i, h i]
    simp
  exact Nat.le_antisymm ((bound _).2 (Nat.le_refl _)) ((bound _).1 (Nat.le_refl _))

theorem Holds.push (lawful : M.Lawful) (h : Holds M m records) {record : Record} {index : Nat}
    {insert : Record → M.State} (he : M.entry m record.canonical = .vacant index insert) :
    Holds M (insert record) (records ++ [record]) := by
  intro i
  rw [lawful.get?_insert m _ index insert he, getElem?_concat, h.index lawful he]
  split
  · rfl
  · exact h i

theorem Holds.keys (lawful : M.Lawful) (h : Holds M m records) :
    M.keys m = records.map (·.canonical) := by
  apply List.ext_getElem?
  intro i
  rw [lawful.keys_eq, h i, List.getElem?_map, Option.map_map]
  rfl

theorem Holds.values (lawful : M.Lawful) (h : Holds M m records) : M.values m = records := by
  apply List.ext_getElem?
  intro i
  rw [lawful.values_eq, h i, Option.map_map]
  exact Option.map_id'

theorem Holds.empty (lawful : M.Lawful) : Holds M M.empty [] := by
  intro i
  rw [lawful.get?_empty]
  rfl

end

theorem mapped_listed {M : OrderedMap Record} (lawful : M.Lawful) :
    Simulates (mapped M) listed (Holds M) := by
  intro m records o h
  cases o with
  | insert record =>
    have taken := (lawful.occupied_iff m record.canonical).trans (h.containsKey lawful _)
    cases he : M.entry m record.canonical with
    | occupied =>
      have known := taken.1 he
      rw [mapped, he, listed, if_pos known]
      exact ⟨h, rfl⟩
    | vacant index insert =>
      have new : ¬ ∃ r ∈ records, r.canonical = record.canonical := by
        rw [← taken, he]
        nofun
      rw [mapped, he, listed, if_neg new]
      exact ⟨h.push lawful he, by rw [h.index lawful he]⟩
  | contains canonical =>
    refine ⟨h, ?_⟩
    rw [mapped, listed, Bool.eq_iff_iff.2 ((h.containsKey lawful canonical).trans
      decide_eq_true_iff.symm)]
  | get index =>
    refine ⟨h, ?_⟩
    rw [mapped, listed, h index, Option.map_map]
    exact congrArg Answer.got Option.map_id'
  | paths =>
    refine ⟨h, ?_⟩
    rw [mapped, listed, h.keys lawful]
  | drain =>
    refine ⟨Holds.empty lawful, ?_⟩
    rw [mapped, listed, h.values lawful]

/-! ## What a list answers -/

theorem after_append {State : Type} (step : State → Operation → State × Answer) (s : State)
    (before later : List Operation) :
    after step s (before ++ later) = after step (after step s before) later :=
  List.foldl_append

/-- The records that were offered since the last time all were handed over. -/
def offered (operations : List Operation) : List Record :=
  operations.foldl (fun done o => match o with
    | .insert record => done ++ [record]
    | .drain => []
    | _ => done) []

/-- The first record of each canonical path: those with a path that none before them has. -/
def firstOfEach (records : List Record) : List Record :=
  (records.zipIdx.filter fun r => (records.take r.2).all (·.canonical ≠ r.1.canonical)).map
    Prod.fst

theorem firstOfEach_concat (records : List Record) (record : Record) :
    firstOfEach (records ++ [record]) =
      if ∃ r ∈ records, r.canonical = record.canonical then firstOfEach records
      else firstOfEach records ++ [record] := by
  have earlier : (records.zipIdx.filter fun r =>
      ((records ++ [record]).take r.2).all (·.canonical ≠ r.1.canonical)) =
      records.zipIdx.filter fun r => (records.take r.2).all (·.canonical ≠ r.1.canonical) := by
    apply List.filter_congr
    rintro ⟨r, i⟩ hr
    have bound := List.snd_lt_of_mem_zipIdx hr
    rw [List.take_append_of_le_length (by omega)]
  have last : (((records ++ [record]).take records.length).all (·.canonical ≠ record.canonical)) =
      !decide (∃ r ∈ records, r.canonical = record.canonical) := by
    rw [List.take_left, Bool.eq_iff_iff]
    simp
  unfold firstOfEach
  rw [List.zipIdx_append, List.filter_append, earlier, List.map_append, List.zipIdx_singleton,
    Nat.zero_add, List.filter_cons, List.filter_nil, last]
  by_cases known : ∃ r ∈ records, r.canonical = record.canonical
  · rw [if_pos known, decide_eq_true known]
    exact List.append_nil _
  · rw [if_neg known, decide_eq_false known]
    rfl

/-- No path is lost. -/
theorem exists_mem_firstOfEach (records : List Record) (canonical : String) :
    (∃ r ∈ firstOfEach records, r.canonical = canonical) ↔
      ∃ r ∈ records, r.canonical = canonical := by
  induction records using List.reverseRecOn with
  | nil => rfl
  | append_singleton records record ih =>
    rw [firstOfEach_concat]
    split
    · rename_i known
      rw [ih]
      constructor
      · rintro ⟨r, hr, he⟩
        exact ⟨r, List.mem_append_left _ hr, he⟩
      · rintro ⟨r, hr, he⟩
        rcases List.mem_append.1 hr with hr | hr
        · exact ⟨r, hr, he⟩
        · obtain rfl := List.mem_singleton.1 hr
          exact he ▸ known
    · simp only [List.mem_append, or_and_right, exists_or, ih]

/-- A list keeps the first record of each path. -/
theorem after_listed (operations : List Operation) :
    after listed [] operations = firstOfEach (offered operations) := by
  induction operations using List.reverseRecOn with
  | nil => rfl
  | append_singleton operations o ih =>
    rw [after_append, ih]
    cases o with
    | insert record =>
      have more : offered (operations ++ [.insert record]) = offered operations ++ [record] := by
        simp [offered]
      rw [more, firstOfEach_concat]
      simp only [after, List.foldl_cons, List.foldl_nil, listed, exists_mem_firstOfEach]
      split
      · rfl
      · rfl
    | contains | get | paths => simp [offered, after, listed]
    | drain => simp [offered, after, listed, firstOfEach]

/-- Records stay where they are until they are handed over. -/
theorem listed_keeps (records : List Record) {later : List Operation} (kept : .drain ∉ later) :
    records <+: after listed records later := by
  induction later generalizing records with
  | nil => exact List.prefix_refl _
  | cons o later ih =>
    simp only [List.mem_cons, not_or] at kept
    have step : records <+: (listed records o).1 := by
      cases o with
      | insert record =>
        rw [listed]
        split
        · exact List.prefix_refl _
        · exact List.prefix_append _ _
      | drain => exact absurd rfl kept.1
      | contains | get | paths => exact List.prefix_refl _
    exact step.trans (ih _ kept.2)

/-- A record that was given a number is found under it from then on. -/
theorem listed_found {records : List Record} {record : Record} {index : Nat}
    (h : (listed records (.insert record)).2 = .inserted (some index)) {later : List Operation}
    (kept : .drain ∉ later) :
    (after listed (listed records (.insert record)).1 later)[index]? = some record := by
  rw [listed] at h ⊢
  split at h
  · cases h
  · rename_i new
    cases h
    rw [if_neg new]
    obtain ⟨more, hmore⟩ := listed_keeps (records ++ [record]) kept
    rw [← hmore]
    simp

/-- **The registry is a list in which the first of each path wins.** A map from paths to records
and the registry give the answers of a plain list to any operations. A number, once given, keeps
naming its record; a path is taken exactly if it is among the paths; what is handed over are the
first records of each path, in the order in which they were offered. -/
theorem first_wins (M : OrderedMap Record) (lawful : M.Lawful) (operations : List Operation) :
    answers (mapped M) M.empty operations = answers listed [] operations ∧
    answers perform {} operations = answers listed [] operations ∧
    (∀ before record later index, operations = before ++ .insert record :: later →
      .drain ∉ later →
      (perform (after perform {} before) (.insert record)).2 = .inserted (some index) →
      (after perform {} operations).get? index = some record) ∧
    (∀ canonical, (after perform {} operations).contains canonical = true ↔
      canonical ∈ (after perform {} operations).paths) ∧
    (after perform {} operations).records = firstOfEach (offered operations) := by
  have records := perform_listed.after (s := {}) (t := []) rfl
  refine ⟨(mapped_listed lawful).answers (Holds.empty lawful) operations,
    perform_listed.answers rfl operations, ?_, ?_, ?_⟩
  · rintro before record later index rfl kept h
    have same := (perform_listed _ _ (.insert record) (records before)).2
    rw [get?, records, after_append]
    exact listed_found (same.symm.trans h) kept
  · intro canonical
    exact contains_iff
  · rw [records, after_listed]

/-- Two modules, the first of them offered again with another source. -/
def repeated : List Operation :=
  [.insert ⟨"b", "/b.py", "first"⟩, .insert ⟨"a", "/a.py", ""⟩,
    .insert ⟨"b", "/vendor/b.py", "second"⟩, .paths]

/-- A map with a hash table passes over the third record, and the number of the second stays. -/
theorem first_wins_repeated :
    (Hashed.map Record).Lawful ∧
    answers (mapped (Hashed.map Record)) (Hashed.map Record).empty repeated =
      [.inserted (some 0), .inserted (some 1), .inserted none, .paths ["b", "a"]] ∧
    (after perform {} repeated).get? 1 = some ⟨"a", "/a.py", ""⟩ ∧
    (after perform {} repeated).records = [⟨"b", "/b.py", "first"⟩, ⟨"a", "/a.py", ""⟩] := by
  obtain ⟨alike, -, found, -, handed⟩ :=
    first_wins (Hashed.map Record) Hashed.lawful_hashed repeated
  refine ⟨Hashed.lawful_hashed, ?_, ?_, ?_⟩
  · rw [alike]
    decide
  · exact found [.insert ⟨"b", "/b.py", "first"⟩] ⟨"a", "/a.py", ""⟩
      [.insert ⟨"b", "/vendor/b.py", "second"⟩, .paths] 1 rfl (by decide) (by decide)
  · rw [handed]
    decide

end ScriptBundle.Registry
