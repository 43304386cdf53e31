import ScriptBundle.FileSystem.Path
import ScriptBundle.Import.LogicalPath

namespace ScriptBundle

namespace Text

theorem pieces_eq_splitOn (separator : Char) (text : List Char) :
    pieces separator text = text.splitOn separator := by
  induction text with
  | nil => rfl
  | cons c rest ih =>
    have step : pieces separator (c :: rest) = if c = separator then [] :: pieces separator rest
        else (pieces separator rest).modifyHead (c :: ·) := by
      cases hp : pieces separator rest with
      | nil => exact absurd hp (pieces_ne_nil separator rest)
      | cons piece more =>
        unfold pieces at hp ⊢
        rw [List.foldr_cons, hp]
        rfl
    rw [step, ih, List.splitOn_cons_eq_if_modifyHead]
    simp

theorem not_mem_of_mem_pieces {separator : Char} {text piece : List Char}
    (h : piece ∈ pieces separator text) : separator ∉ piece := by
  induction text generalizing piece with
  | nil =>
    cases List.mem_singleton.1 h
    simp
  | cons c rest ih =>
    rw [pieces_eq_splitOn, List.splitOn_cons_eq_if_modifyHead, ← pieces_eq_splitOn] at h
    split at h
    · rcases List.mem_cons.1 h with rfl | h
      · simp
      · exact ih h
    · rename_i hc
      cases hp : pieces separator rest with
      | nil => exact absurd hp (pieces_ne_nil separator rest)
      | cons first more =>
        rw [hp, List.modifyHead_cons] at h
        rcases List.mem_cons.1 h with rfl | h
        · intro hm
          rcases List.mem_cons.1 hm with he | hm
          · exact hc (by simp [he])
          · exact ih (hp ▸ List.mem_cons_self) hm
        · exact ih (hp ▸ List.mem_cons_of_mem _ h)

theorem mem_of_mem_pieces {separator c : Char} {text piece : List Char}
    (h : piece ∈ pieces separator text) (hc : c ∈ piece) : c ∈ text := by
  induction text generalizing piece with
  | nil => exact List.mem_singleton.1 h ▸ hc
  | cons d rest ih =>
    rw [pieces_eq_splitOn, List.splitOn_cons_eq_if_modifyHead, ← pieces_eq_splitOn] at h
    split at h
    · rcases List.mem_cons.1 h with rfl | h
      · cases hc
      · exact List.mem_cons_of_mem _ (ih h hc)
    · cases hp : pieces separator rest with
      | nil => exact absurd hp (pieces_ne_nil separator rest)
      | cons first more =>
        rw [hp, List.modifyHead_cons] at h
        rcases List.mem_cons.1 h with rfl | h
        · rcases List.mem_cons.1 hc with rfl | hc
          · exact List.mem_cons_self
          · exact List.mem_cons_of_mem _ (ih (hp ▸ List.mem_cons_self) hc)
        · exact List.mem_cons_of_mem _ (ih (hp ▸ List.mem_cons_of_mem _ h) hc)

end Text

namespace Path

open Text

theorem segments_ne_nil (path : String) : segments path ≠ [] := by
  simpa [segments] using pieces_ne_nil '/' path.toList

theorem not_mem_of_mem_segments {path segment : String} (h : segment ∈ segments path) :
    '/' ∉ segment.toList := by
  obtain ⟨piece, hp, rfl⟩ := List.mem_map.1 h
  simpa using not_mem_of_mem_pieces hp

@[simp] theorem intercalate_segments (path : String) :
    "/".intercalate (segments path) = path := by
  apply String.toList_injective
  simp [segments, pieces_eq_splitOn, Function.comp_def, List.intercalate_splitOn]

theorem segments_intercalate {l : List String} (h : l ≠ []) (hl : ∀ s ∈ l, '/' ∉ s.toList) :
    segments ("/".intercalate l) = l := by
  have hs : (['/'].intercalate (l.map String.toList)).splitOn '/' = l.map String.toList :=
    List.splitOn_intercalate '/' (by simpa using hl) (by simpa using h)
  simp [segments, pieces_eq_splitOn, hs, Function.comp_def]

/-- A character that is no slash stands in one of the segments. -/
theorem mem_intercalate {c : Char} (hc : c ≠ '/') {l : List String}
    (h : c ∈ ("/".intercalate l).toList) : ∃ s ∈ l, c ∈ s.toList := by
  induction l with
  | nil => simp at h
  | cons s rest ih =>
    by_cases alone : rest = []
    · exact ⟨s, by simp, by simpa [alone] using h⟩
    · rw [String.intercalate_cons_of_ne_nil alone] at h
      have inside : c ∈ s.toList ∨ c ∈ ("/".intercalate rest).toList := by simpa [hc] using h
      rcases inside with here | later
      · exact ⟨s, by simp, here⟩
      · obtain ⟨other, ho, hin⟩ := ih later
        exact ⟨other, List.mem_cons_of_mem _ ho, hin⟩

theorem mem_iff_mem_segments {c : Char} (hc : c ≠ '/') (path : String) :
    c ∈ path.toList ↔ ∃ s ∈ segments path, c ∈ s.toList := by
  constructor
  · intro h
    rw [← intercalate_segments path] at h
    exact mem_intercalate hc h
  · rintro ⟨s, hs, h⟩
    obtain ⟨piece, hp, rfl⟩ := List.mem_map.1 hs
    exact mem_of_mem_pieces hp (by simpa using h)

theorem segments_append (p q : String) :
    segments (p ++ "/" ++ q) = segments p ++ segments q := by
  simp [segments, pieces_eq_splitOn, List.splitOn_append_cons_self]

theorem segments_extend {p s last : String} {init : List String} (hs : '/' ∉ s.toList)
    (h : segments p = init ++ [last]) : segments (p ++ s) = init ++ [last ++ s] := by
  have hp : p ++ s = "/".intercalate (init ++ [last ++ s]) := by
    rw [← intercalate_segments p, h]
    cases init with
    | nil => simp
    | cons first rest =>
      rw [String.intercalate_append_of_ne_nil (by simp) (by simp),
        String.intercalate_append_of_ne_nil (by simp) (by simp)]
      simp [String.append_assoc]
  rw [hp]
  refine segments_intercalate (by simp) fun t ht => ?_
  rcases List.mem_append.1 ht with ht | ht
  · exact not_mem_of_mem_segments (h ▸ List.mem_append_left _ ht)
  · have hlast := not_mem_of_mem_segments (h ▸ List.mem_append_right _ (by simp) : last ∈ segments p)
    cases List.mem_singleton.1 ht
    simp [hlast, hs]

theorem isAbsolute_eq_false {path first : String} {rest : List String}
    (h : segments path = first :: rest) (hf : first ≠ "") : isAbsolute path = false := by
  have hslash : '/' ∉ first.toList := not_mem_of_mem_segments (h ▸ List.mem_cons_self)
  have hp : path = "/".intercalate (first :: rest) := by rw [← h, intercalate_segments]
  cases hc : first.toList with
  | nil => exact absurd (String.toList_eq_nil_iff.1 hc) hf
  | cons c more =>
    have hhead : path.toList.head? = some c := by
      rw [hp]
      cases rest <;> simp [hc]
    simp only [isAbsolute, hhead, Option.some.injEq, decide_eq_false_iff_not]
    rintro rfl
    simp [hc] at hslash

/-- A path whose last segment is not empty does not end in a slash. -/
theorem getLast?_ne_slash {path last : String} {init : List String}
    (h : segments path = init ++ [last]) (hl : last ≠ "") : path.toList.getLast? ≠ some '/' := by
  have hin : '/' ∉ last.toList :=
    not_mem_of_mem_segments (h ▸ List.mem_append_right init (by simp))
  obtain ⟨front, hfront⟩ : ∃ front, path.toList = front ++ last.toList := by
    rw [← intercalate_segments path, h]
    by_cases hi : init = []
    · exact ⟨[], by simp [hi]⟩
    · rw [String.intercalate_append_of_ne_nil hi (by simp)]
      exact ⟨("/".intercalate init ++ "/").toList, by simp⟩
  obtain ⟨c, hc⟩ : ∃ c, last.toList.getLast? = some c :=
    Option.isSome_iff_exists.1 (by simpa using hl)
  rw [hfront, List.getLast?_append, hc, Option.some_or]
  rintro ⟨rfl⟩
  exact hin (List.mem_of_getLast? hc)

/-- What a directory puts before the paths that are seen from it: nothing if it is empty, else the
directory and a slash, of which one is enough. -/
theorem join_eq_append (directory : String) :
    ∃ front, (directory = "" ∧ front = "" ∨ ∃ above, front = above ++ "/" ∧
        (segments above).filter counts = (segments directory).filter counts) ∧
      ∀ path, isAbsolute path = false → join directory path = front ++ path := by
  by_cases he : directory = ""
  · exact ⟨"", .inl ⟨he, rfl⟩, fun path hp => by simp [join, hp, he]⟩
  by_cases hs : directory.toList.getLast? = some '/'
  · obtain ⟨above, habove⟩ := List.getLast?_eq_some_iff.1 hs
    have hdir : directory = String.ofList above ++ "/" :=
      String.toList_injective (by simp [habove])
    have hfilter : (segments directory).filter counts =
        (segments (String.ofList above)).filter counts := by
      rw [hdir, ← String.append_empty (s := String.ofList above ++ "/"), segments_append,
        List.filter_append]
      exact List.append_nil _
    exact ⟨directory, .inr ⟨_, hdir, hfilter.symm⟩, fun path hp => by simp [join, hp, hs]⟩
  · refine ⟨directory ++ "/", .inr ⟨directory, rfl, rfl⟩, fun path hp => ?_⟩
    simp [join, hp, he, hs]

/-- Seen from a directory, paths that are not absolute have their own segments at the end. -/
theorem segments_join (directory : String) :
    ∃ above, above.filter counts = (segments directory).filter counts ∧
      ∀ path, isAbsolute path = false → segments (join directory path) = above ++ segments path := by
  obtain ⟨front, ⟨rfl, rfl⟩ | ⟨above, rfl, hfilter⟩, hjoin⟩ := join_eq_append directory
  · exact ⟨[], rfl, fun path hp => by rw [hjoin path hp, String.empty_append, List.nil_append]⟩
  · exact ⟨segments above, hfilter, fun path hp => by rw [hjoin path hp, segments_append]⟩

theorem filter_trimSegments (l : List String) :
    (trimSegments l).filter counts = l.filter counts := by
  cases l with
  | nil => rfl
  | cons first rest =>
    have hdrop : ∀ l : List String,
        (l.dropWhile (!counts ·)).filter counts = l.filter counts := by
      intro l
      induction l with
      | nil => rfl
      | cons s l ih => by_cases hs : counts s <;> simp [hs, ih]
    have hrest := congrArg List.reverse (hdrop rest.reverse)
    rw [← List.filter_reverse, ← List.filter_reverse, List.reverse_reverse] at hrest
    simp [trimSegments, List.filter_cons, hrest]

theorem mem_of_mem_trimSegments {l : List String} {s : String} (h : s ∈ trimSegments l) :
    s ∈ l := by
  cases l with
  | nil => exact h
  | cons first rest =>
    rcases List.mem_cons.1 h with rfl | h
    · exact List.mem_cons_self
    · have hs := (List.dropWhile_sublist _).mem (List.mem_reverse.1 h)
      exact List.mem_cons_of_mem _ (List.mem_reverse.1 hs)

theorem trimSegments_concat {init : List String} {last : String} (h : counts last = true) :
    trimSegments (init ++ [last]) = init ++ [last] := by
  cases init with
  | nil => rfl
  | cons first rest => simp [trimSegments, h]

/-- The parent of a path whose last segment counts has the other segments that count. -/
theorem parent?_eq_some {path last : String} {init : List String}
    (h : segments path = init ++ [last]) (hl : counts last = true) :
    ∃ above, parent? path = some above ∧
      (segments above).filter counts = init.filter counts := by
  have hne : init ++ [last] ≠ [""] := by
    intro he
    have : last ∈ [""] := he ▸ List.mem_append_right _ (by simp)
    rw [List.mem_singleton.1 this] at hl
    exact absurd hl (by decide)
  simp only [parent?, h, trimSegments_concat hl, hne, ↓reduceIte, List.dropLast_concat]
  cases hi : init with
  | nil => exact ⟨"", rfl, rfl⟩
  | cons first rest =>
    refine ⟨_, rfl, ?_⟩
    rw [← filter_trimSegments (first :: rest)]
    unfold ofSegments
    split
    · rename_i ht
      rw [ht]
      rfl
    · rw [segments_intercalate (by simp [trimSegments])]
      intro s hs
      have hin : s ∈ segments path := by
        rw [h, hi]
        exact List.mem_append_left _ (mem_of_mem_trimSegments hs)
      exact not_mem_of_mem_segments hin

/-- The parent of a path, when its own last segment counts as well. -/
theorem parent?_eq {path above last : String} (h : segments path = segments above ++ [last])
    (hl : counts last = true) {init : List String} {s : String}
    (ha : segments above = init ++ [s]) (hs : counts s = true) : parent? path = some above := by
  have hne : segments above ++ [last] ≠ [""] := by
    intro he
    have hlength := congrArg List.length he
    simp [ha] at hlength
  have hne' : segments above ≠ [""] := by
    intro he
    rw [ha] at he
    have hin : s ∈ [""] := he ▸ List.mem_append_right _ (by simp)
    rw [List.mem_singleton.1 hin] at hs
    exact absurd hs (by decide)
  simp only [parent?, h, trimSegments_concat hl, hne, ↓reduceIte, List.dropLast_concat]
  obtain ⟨first, rest, hcons⟩ := List.exists_cons_of_ne_nil (segments_ne_nil above)
  have htrim : trimSegments (segments above) = segments above := by
    rw [ha, trimSegments_concat hs]
  rw [hcons] at htrim hne' ⊢
  dsimp only
  rw [htrim, ofSegments, if_neg hne', ← hcons, intercalate_segments]

/-- A path starts at the root if its first segment is empty and others follow. -/
theorem isAbsolute_of_segments {path next : String} {rest : List String}
    (h : segments path = "" :: next :: rest) : isAbsolute path = true := by
  have hp : path = "/".intercalate ("" :: next :: rest) := by rw [← h, intercalate_segments]
  have hslash : "/".toList = ['/'] := by decide
  rw [isAbsolute, hp]
  simp [hslash]

theorem isAbsolute_join {directory path : String} (h : isAbsolute path = false) :
    isAbsolute (join directory path) = isAbsolute directory := by
  have hhead : ∀ p : String, directory ≠ "" → isAbsolute (directory ++ p) = isAbsolute directory := by
    intro p hd
    obtain ⟨c, more, hc⟩ := List.exists_cons_of_ne_nil (l := directory.toList) (by simpa using hd)
    simp [isAbsolute, hc]
  by_cases hd : directory = ""
  · subst hd
    simp only [join, h, Bool.false_eq_true, ↓reduceIte, decide_true, Bool.true_or,
      String.empty_append]
    rfl
  · simp only [join, h, Bool.false_eq_true, ↓reduceIte]
    split
    · exact hhead path hd
    · rw [String.append_assoc]
      exact hhead _ hd

theorem isAbsolute_parent? {path last above : String} {init : List String}
    (h : segments path = init ++ [last]) (hl : counts last = true)
    (hp : parent? path = some above) : isAbsolute above = isAbsolute path := by
  have hlast : last ≠ "" := by
    rintro rfl
    exact absurd hl (by decide)
  have hne : init ++ [last] ≠ [""] := by
    intro he
    have : last ∈ [""] := he ▸ List.mem_append_right _ (by simp)
    exact hlast (List.mem_singleton.1 this)
  simp only [parent?, h, trimSegments_concat hl, hne, ↓reduceIte, List.dropLast_concat] at hp
  cases init with
  | nil =>
    cases hp
    rw [isAbsolute_eq_false h hlast]
    rfl
  | cons first rest =>
    obtain rfl : ofSegments (trimSegments (first :: rest)) = above := by simpa using hp
    obtain ⟨kept, hkept⟩ : ∃ kept, trimSegments (first :: rest) = first :: kept := ⟨_, rfl⟩
    have hslash : ∀ s ∈ first :: kept, '/' ∉ s.toList := by
      intro s hs
      have hin : s ∈ first :: rest := mem_of_mem_trimSegments (hkept ▸ hs)
      exact not_mem_of_mem_segments (h ▸ List.mem_append_left [last] hin)
    rw [hkept, ofSegments]
    by_cases hf : first = ""
    · subst hf
      have habs : isAbsolute path = true := by
        cases rest with
        | nil => exact isAbsolute_of_segments h
        | cons => exact isAbsolute_of_segments h
      rw [habs]
      cases kept with
      | nil => decide
      | cons next more =>
        rw [if_neg (by simp)]
        exact isAbsolute_of_segments (segments_intercalate (by simp) hslash)
    · rw [isAbsolute_eq_false h hf, if_neg (by simp [hf])]
      exact isAbsolute_eq_false (segments_intercalate (by simp) hslash) hf

end Path

end ScriptBundle
