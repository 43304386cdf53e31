import Mathlib.Logic.Relation
import ScriptBundle.Proofs.Path.Collapse

namespace ScriptBundle

namespace LogicalPath

/-- Segments that lead nowhere: an empty one, a point, or a name and straight back up. -/
inductive Idle : List String → Prop
  | empty : Idle [""]
  | point : Idle ["."]
  | back {name : String} : Ordinary name → Idle [name, ".."]

/-- The second path is the first with segments inserted that lead nowhere. -/
def Inserted (p q : String) : Prop :=
  ∃ front idle back, Idle idle ∧ segments p = front ++ back ∧ segments q = front ++ idle ++ back

/-! ## Normal forms -/

theorem slash_not_mem_normalSegments {p s : String} (h : s ∈ normalSegments (segments p)) :
    '/' ∉ s.toList :=
  Path.not_mem_of_mem_segments (mem_normalSegments h).1

theorem ofNormalSegments_of_ne_nil {l : List String} (h : l ≠ []) :
    ofNormalSegments l = ofSegments l := by
  simp [ofNormalSegments, h]

theorem normalize_of_eq_nil {p : String} (h : normalSegments (segments p) = []) :
    normalize p = "." := by
  simp [normalize, ofNormalSegments, h]

theorem normalize_of_ne_nil {p : String} (h : normalSegments (segments p) ≠ []) :
    normalize p = ofSegments (normalSegments (segments p)) :=
  ofNormalSegments_of_ne_nil h

/-- A normal form is a point, or some `..` and then names. -/
theorem normalize_shape (p : String) : normalize p = "." ∨
    ∃ n words, normalize p = ofSegments (List.replicate n ".." ++ words) ∧
      List.replicate n ".." ++ words ≠ [] ∧ ∀ s ∈ words, Ordinary s ∧ '/' ∉ s.toList := by
  by_cases top : normalSegments (segments p) = []
  · exact .inl (normalize_of_eq_nil top)
  · obtain ⟨n, words, -, -, shape, -, ordinary, -⟩ := normalSegments_append_shape (segments p) []
    refine .inr ⟨n, words, ?_, ?_, ?_⟩
    · rw [normalize_of_ne_nil top, shape]
    · rwa [← shape]
    · intro s hs
      have inside : s ∈ normalSegments (segments p) := by simp [shape, hs]
      exact ⟨ordinary s hs, slash_not_mem_normalSegments inside⟩

/-- A path and its normal form lead to one place, whatever is behind them. -/
theorem normalSegments_segments_normalize (p : String) (back : List String) :
    normalSegments (segments (normalize p) ++ back) = normalSegments (segments p ++ back) := by
  rw [← normalSegments_append_left (segments p)]
  unfold normalize
  rw [segments_ofNormalSegments fun s hs => slash_not_mem_normalSegments hs]
  split
  · rename_i top
    rw [top]
    rfl
  · rfl

theorem normalize_normalize (p : String) : normalize (normalize p) = normalize p := by
  have same := normalSegments_segments_normalize p []
  rw [List.append_nil, List.append_nil] at same
  rw [normalize, same, normalize]

theorem segments_join_slash (a b : String) :
    segments (a ++ "/" ++ b) = segments a ++ segments b :=
  Path.segments_append a b

theorem normalize_join_left (a b : String) :
    normalize (normalize a ++ "/" ++ b) = normalize (a ++ "/" ++ b) := by
  unfold normalize
  rw [segments_join_slash, segments_join_slash]
  exact congrArg ofNormalSegments (normalSegments_segments_normalize a (segments b))

theorem normalize_join_right (a b : String) :
    normalize (a ++ "/" ++ normalize b) = normalize (a ++ "/" ++ b) := by
  have same := normalSegments_segments_normalize b []
  rw [List.append_nil, List.append_nil] at same
  have collapsed : normalSegments (segments a ++ segments (normalize b)) =
      normalSegments (segments a ++ segments b) := by
    rw [← normalSegments_append_right, same, normalSegments_append_right]
  unfold normalize at collapsed ⊢
  rw [segments_join_slash, segments_join_slash, collapsed]

/-! ## Inserted segments -/

theorem Idle.normalSegments_eq {idle : List String} (h : Idle idle) : normalSegments idle = [] := by
  cases h with
  | empty => rfl
  | point => rfl
  | back ordinary => simp [normalSegments, follow_ordinary ordinary, follow_up_ordinary ordinary]

/-- What leads nowhere may stand anywhere in a path. -/
theorem normalSegments_idle (front back : List String) {idle : List String} (h : Idle idle) :
    normalSegments (front ++ idle ++ back) = normalSegments (front ++ back) := by
  have start : normalSegments (front ++ idle) = normalSegments front := by
    rw [← normalSegments_append_right, h.normalSegments_eq, List.append_nil]
  rw [← normalSegments_append_left, start, normalSegments_append_left]

theorem Inserted.normalize_eq {p q : String} (h : Inserted p q) : normalize p = normalize q := by
  obtain ⟨front, idle, back, hidle, hp, hq⟩ := h
  rw [normalize, normalize, hp, hq, normalSegments_idle front back hidle]

theorem Idle.of_not_counts {s : String} (h : Path.counts s = false) : Idle [s] := by
  have skipped : s = "" ∨ s = "." := by
    simpa [Path.counts, or_iff_not_imp_left] using h
  rcases skipped with rfl | rfl
  · exact .empty
  · exact .point

theorem inserted_ofSegments (front : List String) {idle : List String} (back : List String)
    (h : Idle idle) (some : front ++ back ≠ []) (plain : ∀ s ∈ front ++ idle ++ back, '/' ∉ s.toList) :
    Inserted (ofSegments (front ++ back)) (ofSegments (front ++ idle ++ back)) := by
  have fewer : ∀ s ∈ front ++ back, '/' ∉ s.toList := by
    intro s hs
    apply plain
    grind
  have more : front ++ idle ++ back ≠ [] := by
    intro none
    simp_all
  exact ⟨front, idle, back, h, Path.segments_intercalate some fewer,
    Path.segments_intercalate more plain⟩

/-- Steps lead from a path to its normal form. The point in front keeps the segments from running
out on the way. -/
theorem eqvGen_normalSegments (l back : List String) (plain : ∀ s ∈ l ++ back, '/' ∉ s.toList) :
    Relation.EqvGen Inserted (ofSegments ("." :: l ++ back))
      (ofSegments ("." :: normalSegments l ++ back)) := by
  induction l using List.reverseRecOn generalizing back with
  | nil => exact .refl _
  | append_singleton l s ih =>
    have shifted : "." :: (l ++ [s]) ++ back = "." :: l ++ s :: back := by simp
    have start := ih (s :: back) (by simpa using plain)
    have kept : ∀ t ∈ "." :: normalSegments l ++ s :: back, '/' ∉ t.toList := by
      intro t ht
      rw [List.cons_append, List.mem_cons, List.mem_append] at ht
      rcases ht with rfl | hn | hb
      · decide
      · exact plain t (by simp [(mem_normalSegments hn).1])
      · exact plain t (by simpa using .inr (List.mem_cons.1 hb))
    rw [shifted]
    apply start.trans
    rcases normalSegments_concat_cases l s with ⟨idle, same⟩ | same | ⟨front, last, rfl, ho, hl, same⟩
    · have step := inserted_ofSegments ("." :: normalSegments l) back (Idle.of_not_counts idle)
        (by simp) (by simpa using kept)
      rw [same]
      simpa using Relation.EqvGen.symm _ _ (.rel _ _ step)
    · rw [same]
      simpa using Relation.EqvGen.refl _
    · rw [hl] at kept ⊢
      have step := inserted_ofSegments ("." :: front) back (Idle.back ho) (by simp)
        (by simpa using kept)
      rw [same]
      simpa using Relation.EqvGen.symm _ _ (.rel _ _ step)

theorem eqvGen_normalize (p : String) : Relation.EqvGen Inserted p (normalize p) := by
  have plain : ∀ s ∈ segments p, '/' ∉ s.toList := fun s hs => Path.not_mem_of_mem_segments hs
  have pointed : Inserted p (ofSegments ("." :: segments p)) := by
    have step := inserted_ofSegments [] (segments p) Idle.point
      (by simpa [segments_eq] using Path.segments_ne_nil p) (by simpa using plain)
    simpa [ofSegments, segments_eq] using step
  have collapsed := eqvGen_normalSegments (segments p) [] (by simpa using plain)
  simp only [List.append_nil] at collapsed
  apply (Relation.EqvGen.rel _ _ pointed).trans
  apply collapsed.trans
  by_cases top : normalSegments (segments p) = []
  · rw [normalize_of_eq_nil top, top]
    exact .refl _
  · rw [normalize_of_ne_nil top]
    have step := inserted_ofSegments [] (normalSegments (segments p)) Idle.point
      (by simpa using top) (by simpa using fun s hs => slash_not_mem_normalSegments hs)
    exact .symm _ _ (.rel _ _ step)

/-- Two paths have one normal form exactly if inserting and removing segments that lead nowhere
makes the one the other. -/
theorem normalize_eq_iff (p q : String) :
    normalize p = normalize q ↔ Relation.EqvGen Inserted p q := by
  constructor
  · intro same
    have there := eqvGen_normalize p
    rw [same] at there
    exact .trans _ _ _ there (.symm _ _ (eqvGen_normalize q))
  · intro related
    induction related with
    | rel p q step => exact step.normalize_eq
    | refl p => rfl
    | symm p q _ ih => exact ih.symm
    | trans p q r _ _ first second => exact first.trans second

/-- **Logical paths have normal forms.** The normal form of a path is a point, or some `..` and then
names with slashes between; it is its own normal form, either part of a path may be put into normal
form first, and two paths have one normal form exactly if the one comes from the other by inserting
and removing empty segments, points and names that are left again at once. -/
theorem normal_forms :
    (∀ p, normalize p = "." ∨
      ∃ n words, normalize p = ofSegments (List.replicate n ".." ++ words) ∧
        List.replicate n ".." ++ words ≠ [] ∧ ∀ s ∈ words, Ordinary s ∧ '/' ∉ s.toList) ∧
    (∀ p, normalize (normalize p) = normalize p) ∧
    (∀ a b, normalize (a ++ "/" ++ b) = normalize (normalize a ++ "/" ++ b) ∧
      normalize (a ++ "/" ++ b) = normalize (a ++ "/" ++ normalize b)) ∧
    ∀ p q, normalize p = normalize q ↔ Relation.EqvGen Inserted p q := by
  refine ⟨normalize_shape, normalize_normalize, ?_, normalize_eq_iff⟩
  intro a b
  constructor
  · exact (normalize_join_left a b).symm
  · exact (normalize_join_right a b).symm

end LogicalPath

end ScriptBundle
