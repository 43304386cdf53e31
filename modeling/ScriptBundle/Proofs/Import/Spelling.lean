import ScriptBundle.Import.Extract
import ScriptBundle.Import.Reference
import ScriptBundle.Proofs.Path.NormalForm

namespace ScriptBundle

open Python LogicalPath

namespace Python

theorem Word.ordinary (word : Word) : Ordinary word.text := by
  refine ⟨word.nonempty, ?_, ?_⟩
  · intro h
    exact (word.plain_of_mem (c := '.') (by rw [h]; decide)).1 rfl
  · intro h
    exact (word.plain_of_mem (c := '.') (by rw [h]; decide)).1 rfl

theorem Word.not_mem (word : Word) : '/' ∉ word.text.toList :=
  fun h => (word.plain_of_mem h).2 rfl

end Python

namespace LogicalPath

/-- Points between names are read as slashes, the names stay as they are. -/
theorem slashed_names {names : List String} (h : ∀ s ∈ names, '.' ∉ s.toList) :
    slashed (".".intercalate names) = ofSegments names := by
  have hname : ∀ s : String, '.' ∉ s.toList →
      (s.toList.map fun c => if c = '.' then '/' else c) = s.toList := by
    intro s hs
    calc s.toList.map (fun c => if c = '.' then '/' else c)
        = s.toList.map id := List.map_congr_left fun c hc => if_neg fun he : c = '.' => hs (he ▸ hc)
      _ = s.toList := List.map_id _
  have hslash : "/".toList = ['/'] := by decide
  have hpoint : ".".toList = ['.'] := by decide
  apply String.toList_injective
  simp only [slashed, ofSegments, String.toList_ofList, String.toList_intercalate, hslash, hpoint]
  induction names with
  | nil => rfl
  | cons s rest ih =>
    rw [List.forall_mem_cons] at h
    cases rest with
    | nil => simp [hname s h.1]
    | cons t rest =>
      simp only [List.map_cons, List.intercalate_cons_cons] at ih ⊢
      simp only [List.map_append, hname s h.1, ih h.2]
      rfl

theorem slashed_intercalate (words : List Word) :
    slashed (".".intercalate (words.map Word.text)) = ofSegments (words.map Word.text) := by
  apply slashed_names
  intro s hs
  obtain ⟨w, -, rfl⟩ := List.mem_map.1 hs
  exact fun h => (w.plain_of_mem h).1 rfl

theorem segments_slashed (name : DottedName) :
    segments (slashed name.text) = name.words.map Word.text := by
  rw [DottedName.text, slashed_intercalate]
  refine Path.segments_intercalate (by simp [DottedName.words]) fun s hs => ?_
  obtain ⟨w, -, rfl⟩ := List.mem_map.1 hs
  exact w.not_mem

/-- The segments that the points before an import stand for. -/
def up : Nat → List String
  | 0 => []
  | 1 => ["."]
  | n + 2 => List.replicate (n + 1) ".."

theorem segments_anchor {level : Nat} {base : String} (h : anchor level = some base) :
    segments base = up level := by
  unfold anchor at h
  split at h
  · cases h
  · cases h
    decide
  · cases h
    refine Path.segments_intercalate (by simp) fun s hs => ?_
    rw [List.eq_of_mem_replicate hs]
    decide

theorem head?_anchor {level : Nat} {base : String} (h : anchor level = some base) :
    base.toList.head? = some '.' := by
  unfold anchor at h
  split at h
  · cases h
  · cases h
    decide
  · rename_i n
    cases h
    cases n with
    | zero => decide
    | succ n =>
      rw [ofSegments, List.replicate_succ, String.intercalate_cons_of_ne_nil (by simp)]
      simp

/-- The path of an import is its points followed by its names. -/
theorem segments_ofImport {level : Nat} {name : Option DottedName}
    (h : level ≠ 0 ∨ name.isSome = true) :
    segments (ofImport level (name.map DottedName.text)) =
      up level ++ ((name.map DottedName.words).getD []).map Word.text := by
  cases ha : anchor level with
  | none =>
    have hl : level = 0 := by
      unfold anchor at ha
      split at ha <;> simp_all
    subst hl
    cases name with
    | none => simp at h
    | some name => simpa [ofImport, anchor, up] using segments_slashed name
  | some base =>
    have hb := segments_anchor ha
    cases name with
    | none => simpa [ofImport, ha] using hb
    | some name =>
      have : ofImport level (some name.text) = base ++ "/" ++ slashed name.text := by
        simp [ofImport, ha]
      simp only [Option.map_some, Option.getD_some, this]
      rw [segments_eq, Path.segments_append, ← segments_eq, ← segments_eq, hb, segments_slashed]

/-- Every point of an import is in a segment that leads up or stays, whatever the module is called. -/
theorem mem_segments_ofImport {level : Nat} {module : Option String} {s : String}
    (h : s ∈ segments (ofImport level module)) : s = "." ∨ s = ".." ∨ '.' ∉ s.toList := by
  have hup : ∀ base, anchor level = some base → ∀ s ∈ segments base, s = "." ∨ s = ".." := by
    intro base hb s hs
    rw [segments_anchor hb] at hs
    unfold up at hs
    split at hs
    · cases hs
    · exact .inl (List.mem_singleton.1 hs)
    · exact .inr (List.eq_of_mem_replicate hs)
  have hdown : ∀ name : String, ∀ s ∈ segments (slashed name), '.' ∉ s.toList := by
    intro name s hs hpoint
    obtain ⟨piece, hpiece, rfl⟩ := List.mem_map.1 hs
    rw [String.toList_ofList] at hpoint
    have hin : '.' ∈ (slashed name).toList := Text.mem_of_mem_pieces hpiece hpoint
    simp only [slashed, String.toList_ofList, List.mem_map] at hin
    obtain ⟨c, -, hc⟩ := hin
    split at hc
    · exact absurd hc (by decide)
    · rename_i hne
      exact hne hc
  unfold ofImport at h
  cases ha : anchor level with
  | none =>
    cases module with
    | none =>
      rw [ha] at h
      refine .inr (.inr ?_)
      rw [List.mem_singleton.1 h]
      decide
    | some name =>
      rw [ha] at h
      exact .inr (.inr (hdown name s h))
  | some base =>
    rw [ha] at h
    cases module with
    | none => exact (hup base ha s h).imp_right .inl
    | some name =>
      rw [Option.map_some, segments_eq, Path.segments_append] at h
      rcases List.mem_append.1 h with h | h
      · exact (hup base ha s h).imp_right .inl
      · exact .inr (.inr (hdown name s h))

end LogicalPath

/-- A reference as a source spells it. -/
def Reference.Spelled (r : Reference) : Prop :=
  ∃ (level : Nat) (name : Option DottedName), (level ≠ 0 ∨ name.isSome = true) ∧
    r.path = ofImport level (name.map DottedName.text) ∧ ∀ item ∈ r.items, ∃ word : Word,
      item = word.text

theorem up_ne_empty {level : Nat} {s : String} (h : s ∈ up level) : s ≠ "" := by
  unfold up at h
  split at h
  · cases h
  · rw [List.mem_singleton.1 h]
    decide
  · rw [List.eq_of_mem_replicate h]
    decide

/-- The path of a spelled reference does not start at the root. -/
theorem Reference.Spelled.first {r : Reference} (h : r.Spelled) :
    ∃ first rest, segments r.path = first :: rest ∧ first ≠ "" := by
  obtain ⟨level, name, hn, hp, -⟩ := h
  cases hs : segments r.path with
  | nil => exact absurd hs (Path.segments_ne_nil r.path)
  | cons first rest =>
    refine ⟨first, rest, rfl, ?_⟩
    have hf : first ∈ segments r.path := hs ▸ List.mem_cons_self
    rw [hp, segments_ofImport hn] at hf
    rcases List.mem_append.1 hf with hf | hf
    · exact up_ne_empty hf
    · obtain ⟨word, -, rfl⟩ := List.mem_map.1 hf
      exact word.nonempty

theorem Reference.Spelled.words {r : Reference} (h : r.Spelled) :
    ∀ item ∈ r.items, ∃ word : Word, item = word.text := by
  obtain ⟨-, -, -, -, hi⟩ := h
  exact hi

/-- A reference whose path neither starts nor ends with a slash, with words for items. -/
structure Reference.Plain (r : Reference) : Prop where
  first : (segments r.path).head? ≠ some ""
  last : (segments r.path).getLast? ≠ some ""
  words : ∀ item ∈ r.items, ∃ word : Word, item = word.text

theorem Reference.Spelled.plain {r : Reference} (h : r.Spelled) : r.Plain where
  first := by
    obtain ⟨first, rest, hs, hf⟩ := h.first
    simpa [hs] using hf
  last := by
    obtain ⟨level, name, hn, hp, -⟩ := h
    intro hl
    have hin : "" ∈ segments r.path := List.mem_of_getLast? hl
    rw [hp, segments_ofImport hn] at hin
    rcases List.mem_append.1 hin with hin | hin
    · exact up_ne_empty hin rfl
    · obtain ⟨word, -, hw⟩ := List.mem_map.1 hin
      exact word.nonempty hw
  words := h.words

/-- The path of an import that is not relative is made of words. -/
theorem Reference.Spelled.ordinary {r : Reference} (h : r.Spelled) (ha : r.isRelative = false) :
    ∀ s ∈ segments r.path, Ordinary s := by
  obtain ⟨level, name, hn, hp, -⟩ := h
  cases hanchor : anchor level with
  | none =>
    have hlevel : up level = [] := by
      unfold anchor at hanchor
      split at hanchor <;> simp_all [up]
    rw [hp, segments_ofImport hn, hlevel, List.nil_append]
    intro s hs
    obtain ⟨word, -, rfl⟩ := List.mem_map.1 hs
    exact word.ordinary
  | some base =>
    have hpath : r.path.toList.head? = some '.' := by
      rw [hp, ofImport, hanchor]
      cases name with
      | none => exact head?_anchor hanchor
      | some name => simp [head?_anchor hanchor]
    simp [Reference.isRelative, LogicalPath.isRelative, hpath] at ha

/-! ## Names asked for -/

/-- Words with points between them, and any number of points in front. -/
def DottedForm (name : String) : Prop :=
  ∃ (level : Nat) (module : Option DottedName), (level ≠ 0 ∨ module.isSome = true) ∧
    name.toList = List.replicate level '.' ++ ((module.map DottedName.text).getD "").toList

/-- The text of a dotted name starts with a character that is no point. -/
theorem Python.DottedName.text_eq_cons (name : DottedName) :
    ∃ c rest, name.text.toList = c :: rest ∧ c ≠ '.' := by
  obtain ⟨c, rest, hc⟩ := List.exists_cons_of_ne_nil (l := name.first.text.toList)
    (by simpa using name.first.nonempty)
  have hplain := (name.first.plain_of_mem (c := c) (by simp [hc])).1
  obtain ⟨more, hm⟩ : ∃ more, name.text.toList = name.first.text.toList ++ more := by
    unfold DottedName.text DottedName.words
    cases name.others with
    | nil => exact ⟨[], by simp⟩
    | cons word others =>
      refine ⟨("." ++ ".".intercalate ((word :: others).map Word.text)).toList, ?_⟩
      rw [← String.toList_append, ← String.append_assoc, List.map_cons,
        String.intercalate_cons_of_ne_nil (by simp)]
  exact ⟨c, rest ++ more, by rw [hm, hc, List.cons_append], hplain⟩

/-- A dotted name stands for the import with as many points and the same module. -/
theorem path_ofDotted {name : String} {level : Nat} {module : Option DottedName}
    (h : name.toList = List.replicate level '.' ++ ((module.map DottedName.text).getD "").toList) :
    (Reference.ofDotted name).path = ofImport level (module.map DottedName.text) := by
  have hlevel : (name.toList.takeWhile (· = '.')).length = level := by
    rw [h, List.takeWhile_append_of_pos (by simp)]
    cases module with
    | none => simp
    | some module =>
      obtain ⟨c, rest, hc, hp⟩ := module.text_eq_cons
      simp [hc, hp]
  have hrest : name.toList.drop level = ((module.map DottedName.text).getD "").toList := by
    rw [h, List.drop_left' (by simp)]
  simp only [Reference.ofDotted, hlevel, hrest]
  cases module with
  | none => rfl
  | some module =>
    obtain ⟨c, rest, hc, -⟩ := module.text_eq_cons
    have hne : module.text.toList.isEmpty = false := by simp [hc]
    simp [hne]

theorem DottedForm.spelled {name : String} (h : DottedForm name) :
    (Reference.ofDotted name).Spelled := by
  obtain ⟨level, module, hn, hname⟩ := h
  exact ⟨level, module, hn, path_ofDotted hname, by simp [Reference.ofDotted]⟩

/-! ## Imports of a source -/

theorem spelled_of_referencesOf {s : SimpleStmt} {r : Reference} (h : r ∈ referencesOf s) :
    r.Spelled := by
  unfold referencesOf at h
  split at h
  · obtain ⟨a, -, rfl⟩ := List.mem_map.1 h
    exact ⟨0, some a.target, .inr rfl, rfl, by simp⟩
  · rename_i level module names
    simp only at h
    split at h
    · cases h
    · rename_i hp
      rw [List.mem_singleton] at h
      subst h
      refine ⟨level, module, ?_, rfl, ?_⟩
      · by_cases hl : level = 0
        · refine .inr ?_
          cases module with
          | none =>
            subst hl
            exact absurd rfl hp
          | some _ => rfl
        · exact .inl hl
      · intro item hi
        obtain ⟨a, -, ha⟩ := List.mem_filterMap.1 hi
        cases ht : a.target with
        | star => simp [ht, Member.name?] at ha
        | name word => exact ⟨word, by simpa [ht, Member.name?] using ha.symm⟩
  · cases h

theorem extractImports_eq_ok {source path : String} {imports : List Reference}
    (h : (extractImports source path).outcome = .ok imports) :
    ∃ module, Module.parse source.toList = .ok module ∧
      imports = (blockSimples module.body).flatMap fun s => referencesOf s.2 := by
  unfold extractImports at h
  split at h
  · cases h
  · rename_i module hm
    refine ⟨module, hm, ?_⟩
    simpa [List.flatMap_map] using h.symm

theorem spelled_of_extract {source path : String} {imports : List Reference}
    (h : (extractImports source path).outcome = .ok imports) : ∀ r ∈ imports, r.Spelled := by
  obtain ⟨module, -, rfl⟩ := extractImports_eq_ok h
  intro r hr
  obtain ⟨s, -, hr⟩ := List.mem_flatMap.1 hr
  exact spelled_of_referencesOf hr

end ScriptBundle
