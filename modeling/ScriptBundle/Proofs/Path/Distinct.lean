import Mathlib.Data.List.Induction
import ScriptBundle.Proofs.Path.Segments

namespace ScriptBundle.Path

variable {p q : String} {l : List String}

theorem same_iff : same p q = true ↔ components p = components q := by
  simp [same]

@[simp] theorem same_refl (p : String) : same p p = true := same_iff.2 rfl

/-! ## Components -/

theorem components_eq {first : String} {rest : List String} (h : segments p = first :: rest) :
    components p =
      (if isAbsolute p || first ≠ "" then [first] else []) ++ rest.filter counts := by
  rw [components, h]

/-- A component that stands for something is a segment that does. -/
theorem filter_components (p : String) :
    (components p).filter counts = (segments p).filter counts := by
  obtain ⟨first, rest, h⟩ := List.exists_cons_of_ne_nil (segments_ne_nil p)
  have inner : (rest.filter counts).filter counts = rest.filter counts := by simp
  rw [components_eq h, h, List.filter_append, inner]
  split
  · by_cases hc : counts first = true <;> simp [hc]
  · rename_i none
    have empty : first = "" := by
      by_contra named
      simp [named] at none
    simp [empty, counts]

/-- A path is absolute if its first component is empty. -/
theorem isAbsolute_iff : isAbsolute p = true ↔ (components p).head? = some "" := by
  obtain ⟨first, rest, h⟩ := List.exists_cons_of_ne_nil (segments_ne_nil p)
  rw [components_eq h]
  by_cases habs : isAbsolute p = true
  · have empty : first = "" := by
      by_contra some
      simp [isAbsolute_eq_false h some] at habs
    simp [habs, empty]
  · have relative : isAbsolute p = false := by simpa using habs
    have outer : (rest.filter counts).head? ≠ some "" := by
      intro hh
      have member := List.mem_of_mem_head? hh
      simp [counts] at member
    by_cases empty : first = ""
    · simpa [relative, empty] using outer
    · simp [relative, empty]

theorem isAbsolute_eq_of_same (h : same p q = true) : isAbsolute p = isAbsolute q := by
  rw [Bool.eq_iff_iff, isAbsolute_iff, isAbsolute_iff, same_iff.1 h]

/-! ## Repetitions -/

theorem distinct_concat (l : List String) (p : String) :
    distinct (l ++ [p]) =
      if (distinct l).any (same p) then distinct l else distinct l ++ [p] := by
  simp [distinct]

theorem mem_of_mem_distinct (h : p ∈ distinct l) : p ∈ l := by
  induction l using List.reverseRecOn with
  | nil => exact h
  | append_singleton l q ih =>
    rw [distinct_concat] at h
    split at h
    · exact List.mem_append_left _ (ih h)
    · rcases List.mem_append.1 h with h | h
      · exact List.mem_append_left _ (ih h)
      · exact List.mem_append_right _ h

/-- Whatever is dropped is kept in another spelling. -/
theorem any_distinct (l : List String) (p : String) : (distinct l).any (same p) = l.any (same p) := by
  induction l using List.reverseRecOn with
  | nil => rfl
  | append_singleton l q ih =>
    rw [distinct_concat, List.any_append, ← ih]
    split
    · rename_i repeated
      by_cases hq : same p q = true
      · have also : (distinct l).any (same p) = true := by
          simp only [List.any_eq_true, same_iff] at repeated ⊢
          obtain ⟨r, hr, hqr⟩ := repeated
          exact ⟨r, hr, (same_iff.1 hq).trans hqr⟩
        simp [also]
      · simp [hq]
    · rw [List.any_append]

/-- Kept are the paths that are none of those before them. -/
theorem distinct_eq (l : List String) :
    distinct l = (l.zipIdx.filter fun q => !(l.take q.2).any (same q.1)).map Prod.fst := by
  induction l using List.reverseRecOn with
  | nil => rfl
  | append_singleton l p ih =>
    have earlier : (l.zipIdx.filter fun q => !((l ++ [p]).take q.2).any (same q.1)) =
        l.zipIdx.filter fun q => !(l.take q.2).any (same q.1) := by
      apply List.filter_congr
      rintro ⟨q, i⟩ hq
      have bound := List.snd_lt_of_mem_zipIdx hq
      rw [List.take_append_of_le_length (by omega)]
    rw [distinct_concat, any_distinct, List.zipIdx_append, List.filter_append, earlier,
      List.map_append, ← ih]
    by_cases repeated : l.any (same p) = true
    · simp [repeated]
    · simp [repeated]

theorem head?_distinct (p : String) (l : List String) : (distinct (p :: l)).head? = some p := by
  simp [distinct_eq]

theorem pairwise_distinct (l : List String) : (distinct l).Pairwise fun p q => same p q = false := by
  induction l using List.reverseRecOn with
  | nil => exact List.Pairwise.nil
  | append_singleton l q ih =>
    rw [distinct_concat]
    split
    · exact ih
    · rename_i new
      rw [List.pairwise_append]
      refine ⟨ih, List.pairwise_singleton _ _, ?_⟩
      intro p hp q' hq'
      rw [List.mem_singleton.1 hq']
      by_contra hsame
      apply new
      rw [List.any_eq_true]
      exact ⟨p, hp, by simpa [same, eq_comm] using hsame⟩

/-! ## Directories -/

/-- A path that starts with an empty segment starts at the root, unless there is nothing else. -/
theorem isAbsolute_of_empty_first {rest : List String} (hp : p ≠ "")
    (h : segments p = "" :: rest) : isAbsolute p = true := by
  cases rest with
  | nil =>
    have alone := intercalate_segments p
    rw [h] at alone
    exact absurd alone.symm hp
  | cons next rest => exact isAbsolute_of_segments h

theorem components_ne_nil (hp : p ≠ "") : components p ≠ [] := by
  obtain ⟨first, rest, h⟩ := List.exists_cons_of_ne_nil (segments_ne_nil p)
  rw [components_eq h]
  by_cases empty : first = ""
  · subst empty
    simp [isAbsolute_of_empty_first hp h]
  · simp [empty]

/-- Segments at the end that stand for nothing make no other path. -/
theorem components_ofSegments_trimSegments (hp : p ≠ "") :
    components (ofSegments (trimSegments (segments p))) = components p := by
  obtain ⟨first, rest, h⟩ := List.exists_cons_of_ne_nil (segments_ne_nil p)
  obtain ⟨kept, trimmed⟩ : ∃ kept, trimSegments (first :: rest) = first :: kept := ⟨_, rfl⟩
  have inner : kept.filter counts = rest.filter counts := by
    have all := filter_trimSegments (first :: rest)
    rw [trimmed] at all
    by_cases hc : counts first = true
    · simpa [hc] using all
    · simpa [hc] using all
  have plain : ∀ s ∈ first :: kept, '/' ∉ s.toList := by
    intro s hs
    rw [← trimmed] at hs
    exact not_mem_of_mem_segments (h ▸ mem_of_mem_trimSegments hs)
  rw [components_eq h, h, trimmed]
  by_cases root : first :: kept = [""]
  · obtain ⟨rfl, rfl⟩ := List.cons.inj root
    rw [← inner, isAbsolute_of_empty_first hp h, ofSegments, if_pos rfl]
    decide
  · have spelled : segments (ofSegments (first :: kept)) = first :: kept := by
      rw [ofSegments, if_neg root, segments_intercalate (List.cons_ne_nil _ _) plain]
    rw [components_eq spelled, inner]
    by_cases empty : first = ""
    · subst empty
      obtain ⟨next, more, rfl⟩ : ∃ next more, kept = next :: more :=
        List.exists_cons_of_ne_nil fun none => root (by rw [none])
      rw [isAbsolute_of_empty_first hp h, isAbsolute_of_segments spelled]
    · simp [empty]

/-- The parent of a path is what stands before its last name. -/
theorem parent?_join {directory name : String} (hd : directory ≠ "") (plain : '/' ∉ name.toList)
    (named : counts name = true) : ∃ above, parent? (directory ++ "/" ++ name) = some above ∧
      above ≠ "" ∧ same above directory = true := by
  have single : segments name = [name] := by
    simpa using segments_intercalate (l := [name]) (by simp) (by simpa using plain)
  have kept : trimSegments (segments (directory ++ "/" ++ name)) = segments directory ++ [name] := by
    rw [segments_append, single, trimSegments_concat named]
  have long : segments directory ++ [name] ≠ [""] := by
    intro he
    have hlength := congrArg List.length he
    simp [segments_ne_nil] at hlength
  have components_above := components_ofSegments_trimSegments hd
  obtain ⟨first, rest, h⟩ := List.exists_cons_of_ne_nil (segments_ne_nil directory)
  refine ⟨ofSegments (trimSegments (segments directory)), ?_, ?_, same_iff.2 components_above⟩
  · rw [parent?, kept, if_neg long, List.dropLast_concat, h]
  · intro empty
    rw [empty] at components_above
    exact components_ne_nil hd components_above.symm

theorem parent?_name {name : String} (plain : '/' ∉ name.toList) :
    parent? name = none ∨ parent? name = some "" := by
  have single : segments name = [name] := by
    simpa using segments_intercalate (l := [name]) (by simp) (by simpa using plain)
  by_cases empty : name = ""
  · exact .inl (by rw [empty]; decide)
  · refine .inr ?_
    have kept : trimSegments (segments name) = [name] := by rw [single]; rfl
    have long : [name] ≠ [""] := by simpa using empty
    rw [parent?, kept, if_neg long]
    rfl

end ScriptBundle.Path
