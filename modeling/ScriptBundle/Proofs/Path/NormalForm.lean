import ScriptBundle.Proofs.Path.Segments

namespace ScriptBundle

namespace LogicalPath

open ScriptBundle.Path (counts)

theorem segments_eq (path : String) : segments path = Path.segments path := rfl

/-- A segment that names a module or package. -/
def Ordinary (segment : String) : Prop := segment ≠ "" ∧ segment ≠ "." ∧ segment ≠ ".."

theorem follow_ordinary {segment : String} (h : Ordinary segment) (place : List String) :
    follow place segment = segment :: place := by
  obtain ⟨he, hp, hu⟩ := h
  simp [follow, he, hp, hu]

theorem foldl_follow_ordinary {l : List String} (h : ∀ s ∈ l, Ordinary s) (place : List String) :
    l.foldl follow place = l.reverse ++ place := by
  induction l generalizing place with
  | nil => rfl
  | cons s rest ih =>
    rw [List.forall_mem_cons] at h
    simp [follow_ordinary h.1, ih h.2]

theorem normalSegments_append (front : List String) {l : List String} (h : ∀ s ∈ l, Ordinary s) :
    normalSegments (front ++ l) = normalSegments front ++ l := by
  simp [normalSegments, foldl_follow_ordinary h]

theorem mem_foldl_follow {l place : List String} {s : String} (h : s ∈ l.foldl follow place) :
    s ∈ place ∨ (s ∈ l ∧ counts s = true) := by
  induction l generalizing place with
  | nil => exact .inl h
  | cons t rest ih =>
    rcases ih h with hp | ⟨hr, hc⟩
    · unfold follow at hp
      split at hp
      · exact .inl hp
      · rename_i ht
        have hcounts : counts t = true := by
          simpa [counts, not_or] using ht
        split at hp
        · rename_i hu
          split at hp
          · split at hp
            · rcases List.mem_cons.1 hp with rfl | hp
              · exact .inr (by simp [← hu, hcounts])
              · exact .inl hp
            · exact .inl (List.mem_cons_of_mem _ hp)
          · rw [List.mem_singleton.1 hp]
            exact .inr (by simp [← hu, hcounts])
        · rcases List.mem_cons.1 hp with rfl | hp
          · exact .inr (by simp [hcounts])
          · exact .inl hp
    · exact .inr ⟨List.mem_cons_of_mem _ hr, hc⟩

theorem mem_normalSegments {l : List String} {s : String} (h : s ∈ normalSegments l) :
    s ∈ l ∧ counts s = true := by
  rcases mem_foldl_follow (List.mem_reverse.1 h) with hn | h
  · cases hn
  · exact h

/-- The segments of a normal form. At the top it is a point. -/
theorem segments_ofNormalSegments {l : List String} (h : ∀ s ∈ l, '/' ∉ s.toList) :
    segments (ofNormalSegments l) = if l = [] then ["."] else l := by
  by_cases hl : l = []
  · subst hl
    decide
  · simpa [ofNormalSegments, ofSegments, hl, segments_eq] using Path.segments_intercalate hl h

theorem below_eq (base path : String) :
    below base path = ofNormalSegments (normalSegments (segments base ++ segments path)) := by
  unfold below normalize
  split
  · rename_i hb
    subst hb
    rfl
  · rw [segments_eq, Path.segments_append]
    rfl

theorem segments_below (base path : String) :
    segments (below base path) =
      if normalSegments (segments base ++ segments path) = [] then ["."]
      else normalSegments (segments base ++ segments path) := by
  rw [below_eq, segments_ofNormalSegments]
  intro s hs
  rcases List.mem_append.1 (mem_normalSegments hs).1 with hs | hs
  · exact Path.not_mem_of_mem_segments hs
  · exact Path.not_mem_of_mem_segments hs

/-- The segments of a path's directory. The directory of a single segment is the empty path. -/
theorem segments_directory (path : String) :
    segments (directory path) =
      if (segments path).dropLast = [] then [""] else (segments path).dropLast := by
  unfold directory ofSegments
  split
  · rename_i h
    rw [h]
    decide
  · rename_i h
    refine Path.segments_intercalate h fun s hs => ?_
    exact Path.not_mem_of_mem_segments (List.dropLast_subset _ hs)

/-! ## Weights -/

/-- The bytes of the segments that stand for something, and a slash for each. -/
def weight : List String → Nat
  | [] => 0
  | s :: rest => (if counts s then s.utf8ByteSize + 1 else 0) + weight rest

@[simp] theorem weight_nil : weight [] = 0 := rfl

theorem weight_cons (s : String) (l : List String) :
    weight (s :: l) = weight [s] + weight l := by
  simp [weight]

@[simp] theorem weight_append (l m : List String) : weight (l ++ m) = weight l + weight m := by
  induction l with
  | nil => simp
  | cons s rest ih =>
    have := weight_cons s rest
    have := weight_cons s (rest ++ m)
    rw [List.cons_append]
    omega

theorem weight_filter (l : List String) : weight (l.filter counts) = weight l := by
  induction l with
  | nil => rfl
  | cons s rest ih => by_cases h : counts s <;> simp [weight, h, ih]

theorem weight_singleton_of_counts {s : String} (h : counts s = true) :
    weight [s] = s.utf8ByteSize + 1 := by
  simp [weight, h]

theorem weight_singleton_le (s : String) : weight [s] ≤ s.utf8ByteSize + 1 := by
  by_cases h : counts s <;> simp [weight, h]

@[simp] theorem weight_reverse (l : List String) : weight l.reverse = weight l := by
  induction l with
  | nil => rfl
  | cons s rest ih =>
    rw [List.reverse_cons, weight_append, ih, weight_cons s rest]
    omega

theorem weight_dropLast_le (l : List String) : weight l.dropLast ≤ weight l := by
  rcases List.eq_nil_or_concat l with rfl | ⟨init, last, rfl⟩
  · simp
  · simp

theorem weight_follow_le (place : List String) (s : String) :
    weight (follow place s) ≤ weight place + weight [s] := by
  unfold follow
  split
  · omega
  · split
    · rename_i hu
      subst hu
      split
      · rename_i inner outer
        have := weight_cons inner outer
        split
        · have := weight_cons ".." (inner :: outer)
          omega
        · omega
      · omega
    · have := weight_cons s place
      omega

theorem weight_foldl_follow_le (l place : List String) :
    weight (l.foldl follow place) ≤ weight place + weight l := by
  induction l generalizing place with
  | nil => simp
  | cons s rest ih =>
    have hs := weight_follow_le place s
    have hr := ih (follow place s)
    have := weight_cons s rest
    rw [List.foldl_cons]
    omega

/-- A normal form weighs no more than the path. -/
theorem weight_normalSegments (l : List String) : weight (normalSegments l) ≤ weight l := by
  simpa [normalSegments] using weight_foldl_follow_le l []

/-- Neither does its directory weigh more than what stands before the last segment. -/
theorem weight_dropLast_normalSegments (init : List String) {last : String} (h : last ≠ "..") :
    weight (normalSegments (init ++ [last])).dropLast ≤ weight init := by
  by_cases ho : Ordinary last
  · rw [normalSegments_append init (by simpa using ho), List.dropLast_concat]
    exact weight_normalSegments init
  · have hskip : normalSegments (init ++ [last]) = normalSegments init := by
      have : last = "" ∨ last = "." := by
        unfold Ordinary at ho
        grind
      simp [normalSegments, follow, this]
    rw [hskip]
    exact Nat.le_trans (weight_dropLast_le _) (weight_normalSegments init)

theorem size_ofSegments_cons (s : String) {rest : List String} (h : rest ≠ []) :
    (ofSegments (s :: rest)).utf8ByteSize =
      s.utf8ByteSize + 1 + (ofSegments rest).utf8ByteSize := by
  have hslash : "/".utf8ByteSize = 1 := by decide
  simp [ofSegments, String.intercalate_cons_of_ne_nil h, String.utf8ByteSize_append, hslash]

theorem weight_le_size {l : List String} (h : l ≠ []) :
    weight l ≤ (ofSegments l).utf8ByteSize + 1 := by
  induction l with
  | nil => exact absurd rfl h
  | cons s rest ih =>
    have hs := weight_singleton_le s
    have hc := weight_cons s rest
    by_cases hr : rest = []
    · subst hr
      simpa [ofSegments] using hs
    · have := ih hr
      rw [size_ofSegments_cons s hr]
      omega

theorem weight_eq_size {l : List String} (h : l ≠ []) (hl : ∀ s ∈ l, counts s = true) :
    weight l = (ofSegments l).utf8ByteSize + 1 := by
  induction l with
  | nil => exact absurd rfl h
  | cons s rest ih =>
    rw [List.forall_mem_cons] at hl
    have hs := weight_singleton_of_counts hl.1
    have hc := weight_cons s rest
    by_cases hr : rest = []
    · subst hr
      simpa [ofSegments] using hs
    · have := ih hr hl.2
      rw [size_ofSegments_cons s hr]
      omega

theorem weight_segments_le (path : String) :
    weight (segments path) ≤ path.utf8ByteSize + 1 := by
  have h := weight_le_size (Path.segments_ne_nil path)
  rwa [ofSegments, Path.intercalate_segments] at h

/-- The size of a canonical path in terms of what it is made of. -/
theorem size_below_le (base path : String) :
    (below base path).utf8ByteSize ≤
      weight (normalSegments (segments base ++ segments path)) + 1 := by
  rw [below_eq]
  generalize hn : normalSegments (segments base ++ segments path) = l
  have hall : ∀ s ∈ l, counts s = true := fun s hs => (mem_normalSegments (hn ▸ hs)).2
  by_cases hl : l = []
  · simp [ofNormalSegments, hl, show ".".utf8ByteSize = 1 by decide]
  · have hweight := weight_eq_size hl hall
    simp only [ofNormalSegments, List.isEmpty_iff, hl, ↓reduceIte]
    omega

end LogicalPath

end ScriptBundle
