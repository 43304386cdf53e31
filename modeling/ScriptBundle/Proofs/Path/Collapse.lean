import Mathlib.Data.List.Induction
import ScriptBundle.Proofs.Path.NormalForm

namespace ScriptBundle

namespace LogicalPath

open ScriptBundle.Path (counts)

theorem counts_iff {segment : String} : counts segment = true ↔ segment ≠ "" ∧ segment ≠ "." := by
  simp [counts]

theorem Ordinary.counts {segment : String} (h : Ordinary segment) : counts segment = true :=
  counts_iff.2 ⟨h.1, h.2.1⟩

theorem ordinary_of_counts {segment : String} (h : counts segment = true) (hu : segment ≠ "..") :
    Ordinary segment :=
  ⟨(counts_iff.1 h).1, (counts_iff.1 h).2, hu⟩

/-! ## One segment -/

theorem follow_of_not_counts {segment : String} (h : ¬ counts segment = true)
    (place : List String) : follow place segment = place := by
  have : segment = "" ∨ segment = "." := by
    rw [counts_iff] at h
    grind
  simp [follow, this]

/-- Up from a place that was gone down to. -/
theorem follow_up_ordinary {segment : String} (h : Ordinary segment) (place : List String) :
    follow (segment :: place) ".." = place := by
  simp [follow, h.2.2]

/-- Up from above the top. -/
theorem follow_up_replicate (n : Nat) :
    follow (List.replicate n "..") ".." = List.replicate (n + 1) ".." := by
  cases n with
  | zero => rfl
  | succ n => simp [follow, List.replicate_succ]

@[simp] theorem normalSegments_nil : normalSegments [] = [] := rfl

theorem normalSegments_concat (l : List String) (s : String) :
    normalSegments (l ++ [s]) = (follow (normalSegments l).reverse s).reverse := by
  simp [normalSegments]

theorem normalSegments_concat_ordinary (l : List String) {s : String} (h : Ordinary s) :
    normalSegments (l ++ [s]) = normalSegments l ++ [s] := by
  rw [normalSegments_concat, follow_ordinary h, List.reverse_cons, List.reverse_reverse]

theorem normalSegments_ordinary {l : List String} (h : ∀ s ∈ l, Ordinary s) :
    normalSegments l = l := by
  simpa using normalSegments_append [] h

theorem normalSegments_filter (l : List String) :
    normalSegments (l.filter counts) = normalSegments l := by
  induction l using List.reverseRecOn with
  | nil => rfl
  | append_singleton l s ih =>
    by_cases hs : counts s = true
    · simp [List.filter_append, hs, normalSegments_concat, ih]
    · simp [List.filter_append, hs, normalSegments_concat, follow_of_not_counts hs, ih]

theorem normalSegments_congr {l m : List String} (h : l.filter counts = m.filter counts) :
    normalSegments l = normalSegments m := by
  rw [← normalSegments_filter l, h, normalSegments_filter]

/-! ## Shape -/

/-- A place stands some levels above the top and some names down from there, and one more segment
takes no level away. -/
theorem follow_shape {words : List String} (h : ∀ s ∈ words, Ordinary s) (n : Nat) (s : String) :
    ∃ m more, follow (words ++ List.replicate n "..") s = more ++ List.replicate m ".." ∧
      (∀ t ∈ more, Ordinary t) ∧ n ≤ m := by
  by_cases hs : counts s = true
  · by_cases hu : s = ".."
    · subst hu
      cases words with
      | nil => exact ⟨n + 1, [], follow_up_replicate n, by simp, Nat.le_succ n⟩
      | cons inner outer =>
        rw [List.forall_mem_cons] at h
        exact ⟨n, outer, follow_up_ordinary h.1 _, h.2, Nat.le_refl n⟩
    · have ho := ordinary_of_counts hs hu
      refine ⟨n, s :: words, follow_ordinary ho _, ?_, Nat.le_refl n⟩
      exact List.forall_mem_cons.2 ⟨ho, h⟩
  · exact ⟨n, words, follow_of_not_counts hs _, h, Nat.le_refl n⟩

theorem foldl_follow_shape (l : List String) {words : List String} (h : ∀ s ∈ words, Ordinary s)
    (n : Nat) : ∃ m more, l.foldl follow (words ++ List.replicate n "..") =
      more ++ List.replicate m ".." ∧ (∀ t ∈ more, Ordinary t) ∧ n ≤ m := by
  induction l generalizing words n with
  | nil => exact ⟨n, words, rfl, h, Nat.le_refl n⟩
  | cons s rest ih =>
    obtain ⟨m, more, hs, ho, hm⟩ := follow_shape h n s
    obtain ⟨k, last, hl, ho, hk⟩ := ih ho m
    exact ⟨k, last, by rw [List.foldl_cons, hs, hl], ho, Nat.le_trans hm hk⟩

/-- In a normal form all `..` come first, and it has no fewer of them than that of its start. -/
theorem normalSegments_append_shape (a b : List String) :
    ∃ n down m more, normalSegments a = List.replicate n ".." ++ down ∧
      normalSegments (a ++ b) = List.replicate m ".." ++ more ∧
      (∀ s ∈ down, Ordinary s) ∧ (∀ s ∈ more, Ordinary s) ∧ n ≤ m := by
  have top : ∀ s ∈ ([] : List String), Ordinary s := by simp
  obtain ⟨n, words, ha, hw, -⟩ := foldl_follow_shape a top 0
  obtain ⟨m, more, hb, hm, hle⟩ := foldl_follow_shape b hw n
  refine ⟨n, words.reverse, m, more.reverse, ?_, ?_, by simpa using hw, by simpa using hm, hle⟩
  · simpa [normalSegments] using congrArg List.reverse ha
  · rw [normalSegments, List.foldl_append]
    simp only [List.replicate_zero, List.append_nil] at ha
    simp [ha, hb]

theorem not_ordinary_up : ¬ Ordinary ".." := fun h => h.2.2 rfl

/-- A path that never leads above the top does so nowhere on the way. -/
theorem ordinary_of_append {a b : List String} (h : ∀ s ∈ normalSegments (a ++ b), Ordinary s) :
    ∀ s ∈ normalSegments a, Ordinary s := by
  obtain ⟨n, down, m, more, ha, hb, hdown, -, hle⟩ := normalSegments_append_shape a b
  rw [hb] at h
  have hm : m = 0 := by
    by_contra hm
    exact not_ordinary_up (h ".." (by simp [hm]))
  obtain rfl : n = 0 := by omega
  simpa [ha] using hdown

/-- A normal form without `..` at its start has none. -/
theorem ordinary_of_head {l : List String} (h : (normalSegments l).head? ≠ some "..") :
    ∀ s ∈ normalSegments l, Ordinary s := by
  obtain ⟨n, down, -, -, hl, -, hdown, -⟩ := normalSegments_append_shape l []
  cases n with
  | zero => simpa [hl] using hdown
  | succ n => simp [hl, List.replicate_succ] at h

/-! ## Parts -/

/-- What one more segment does to a normal form: nothing, or it goes down by that segment, or it
goes up by one. -/
theorem normalSegments_concat_cases (l : List String) (s : String) :
    (counts s = false ∧ normalSegments (l ++ [s]) = normalSegments l) ∨
      normalSegments (l ++ [s]) = normalSegments l ++ [s] ∨
      ∃ front last, s = ".." ∧ Ordinary last ∧ normalSegments l = front ++ [last] ∧
        normalSegments (l ++ [s]) = front := by
  by_cases hs : counts s = true
  · by_cases hu : s = ".."
    · subst hu
      obtain ⟨n, down, -, -, hl, -, hdown, -⟩ := normalSegments_append_shape l []
      rcases List.eq_nil_or_concat down with rfl | ⟨init, last, rfl⟩
      · refine .inr (.inl ?_)
        rw [normalSegments_concat, hl, List.append_nil, List.reverse_replicate,
          follow_up_replicate, List.reverse_replicate, List.replicate_succ']
      · rw [List.concat_eq_append, ← List.append_assoc] at hl
        have hlast : Ordinary last := hdown last (by simp)
        refine .inr (.inr ⟨_, last, rfl, hlast, hl, ?_⟩)
        rw [normalSegments_concat, hl]
        simp [follow_up_ordinary hlast]
    · exact .inr (.inl (normalSegments_concat_ordinary l (ordinary_of_counts hs hu)))
  · refine .inl ⟨by simpa using hs, ?_⟩
    rw [normalSegments_concat, follow_of_not_counts hs, List.reverse_reverse]

/-- From any place, the normal form of a path leads where the path leads. -/
theorem foldl_follow_normalSegments (place l : List String) :
    (normalSegments l).foldl follow place = l.foldl follow place := by
  induction l using List.reverseRecOn with
  | nil => rfl
  | append_singleton l s ih =>
    rw [List.foldl_append, ← ih, List.foldl_cons, List.foldl_nil]
    rcases normalSegments_concat_cases l s with ⟨hs, hn⟩ | hn | ⟨front, last, rfl, ho, hl, hn⟩
    · rw [hn, follow_of_not_counts (by simp [hs])]
    · rw [hn, List.foldl_append, List.foldl_cons, List.foldl_nil]
    · rw [hn, hl, List.foldl_append, List.foldl_cons, List.foldl_nil, follow_ordinary ho,
        follow_up_ordinary ho]

/-- The end of a path may be collapsed first. -/
theorem normalSegments_append_right (a b : List String) :
    normalSegments (a ++ normalSegments b) = normalSegments (a ++ b) := by
  unfold normalSegments
  rw [List.foldl_append, List.foldl_append]
  exact congrArg List.reverse (foldl_follow_normalSegments _ b)

theorem normalSegments_normalSegments (l : List String) :
    normalSegments (normalSegments l) = normalSegments l :=
  normalSegments_append_right [] l

/-- So may its start. -/
theorem normalSegments_append_left (a b : List String) :
    normalSegments (normalSegments a ++ b) = normalSegments (a ++ b) := by
  have ha := foldl_follow_normalSegments [] a
  unfold normalSegments at ha ⊢
  rw [List.foldl_append, List.foldl_append, ha]

/-- What lies on the way down a normal form was passed on the way of the path. -/
theorem exists_prefix_of_prefix {l q : List String} (h : q <+: normalSegments l) :
    ∃ front, front <+: l ∧ normalSegments front = q := by
  induction l using List.reverseRecOn with
  | nil => exact ⟨[], List.nil_prefix, (List.prefix_nil.1 h).symm⟩
  | append_singleton l s ih =>
    have passed (h : q <+: normalSegments l) :
        ∃ front, front <+: l ++ [s] ∧ normalSegments front = q := by
      obtain ⟨front, hfront, hq⟩ := ih h
      exact ⟨front, hfront.trans (List.prefix_append l [s]), hq⟩
    rcases normalSegments_concat_cases l s with ⟨-, hn⟩ | hn | ⟨front, last, -, -, hl, hn⟩
    · exact passed (hn ▸ h)
    · rw [hn, List.prefix_concat_iff] at h
      rcases h with h | h
      · exact ⟨l ++ [s], List.prefix_refl _, by rw [hn, h]⟩
      · exact passed h
    · rw [hn] at h
      exact passed (hl ▸ h.trans (List.prefix_append front [last]))

end LogicalPath

end ScriptBundle
