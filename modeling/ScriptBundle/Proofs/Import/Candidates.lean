import ScriptBundle.Import.Resolve
import ScriptBundle.Proofs.Import.Spelling
import ScriptBundle.Proofs.Path.Collapse

namespace ScriptBundle

open LogicalPath

theorem mem_initialSegments {α : Type} {l m : List α} :
    m ∈ initialSegments l ↔ m ≠ [] ∧ m <+: l := by
  induction l generalizing m with
  | nil => simp [initialSegments]
  | cons a rest ih =>
    cases m with
    | nil => simp [initialSegments]
    | cons b more =>
      by_cases hm : more = []
      · simp [initialSegments, hm, eq_comm]
      · have hin : b :: more ∈ initialSegments (a :: rest) ↔
            b = a ∧ more ∈ initialSegments rest := by
          simp only [initialSegments, List.mem_cons, List.mem_map, List.cons.injEq, hm, and_false,
            false_or]
          grind
        simp [hin, ih, hm, List.cons_prefix_cons]

theorem segments_extension (path segment : String) (h : '/' ∉ segment.toList) :
    segments (path ++ "/" ++ segment) = segments path ++ [segment] := by
  rw [segments_eq, Path.segments_append]
  congr 1
  simpa using Path.segments_intercalate (l := [segment]) (by simp) (by simpa using h)

/-- The candidate that is the initializer of a package given by segments. -/
def initializer (package : List String) : Candidate :=
  ⟨.packageInit, ofSegments package ++ "/" ++ packageInit⟩

theorem segments_initializer {package : List String} (hne : package ≠ [])
    (hslash : ∀ s ∈ package, '/' ∉ s.toList) :
    segments (initializer package).path = package ++ [packageInit] := by
  rw [initializer, segments_extension _ _ (by decide), segments_eq, ofSegments,
    Path.segments_intercalate hne hslash]

/-- The segments of a candidate are those of the reference, or lead to the initializer of a package
above, or go on with an item. -/
theorem segments_candidate {r : Reference} (words : ∀ item ∈ r.items, ∃ word : Python.Word,
    item = word.text) {k : Candidate} (h : k ∈ r.candidates) :
    (segments k.path = segments r.path ∧ (segments r.path).getLast? ≠ some "." ∧
      (segments r.path).getLast? ≠ some "..") ∨
    (∃ above, above ≠ [] ∧ above <+: segments r.path ∧
      segments k.path = above ++ [packageInit]) ∨
    ∃ word : Python.Word, word.text ∈ r.items ∧
      (segments k.path = segments r.path ++ [word.text] ∨
        segments k.path = segments r.path ++ [word.text, packageInit]) := by
  have hinit : '/' ∉ packageInit.toList := by decide
  simp only [Reference.candidates, List.mem_append, List.mem_map, List.mem_flatMap] at h
  rcases h with (h | ⟨above, ha, rfl⟩) | ⟨item, hi, h⟩
  · split at h
    · cases h
    · rename_i hlast
      cases List.mem_singleton.1 h
      exact .inl ⟨rfl, fun h => hlast (.inl h), fun h => hlast (.inr h)⟩
  · obtain ⟨hne, hpre⟩ := mem_initialSegments.1 ha
    exact .inr (.inl ⟨above, hne, hpre, segments_initializer hne fun s hs =>
      Path.not_mem_of_mem_segments (hpre.mem hs)⟩)
  · obtain ⟨word, rfl⟩ := words item hi
    refine .inr (.inr ⟨word, hi, ?_⟩)
    rcases List.mem_cons.1 h with rfl | h
    · exact .inl (segments_extension _ _ word.not_mem)
    · cases List.mem_singleton.1 h
      refine .inr ?_
      rw [segments_extension _ _ hinit, segments_extension _ _ word.not_mem]
      simp

/-- The initializers of all packages on the way are candidates. -/
theorem initializer_mem {r : Reference} {above : List String} (hne : above ≠ [])
    (hpre : above <+: segments r.path) : initializer above ∈ r.candidates := by
  simp only [Reference.candidates, List.mem_append, List.mem_map]
  exact .inl (.inr ⟨above, mem_initialSegments.2 ⟨hne, hpre⟩, rfl⟩)

/-- Whatever package a candidate lies in, its initializer is a candidate too, unless the candidate
is that initializer itself. -/
theorem initializer_of_candidate {r : Reference} (words : ∀ item ∈ r.items,
    ∃ word : Python.Word, item = word.text) {k : Candidate} (h : k ∈ r.candidates)
    {init above : List String} {last : String} (hs : segments k.path = init ++ [last])
    (hne : above ≠ []) (hpre : above <+: init) :
    initializer above ∈ r.candidates ∨ above = init ∧ last = packageInit := by
  rcases segments_candidate words h with ⟨hr, -⟩ | ⟨up, -, hup, hr⟩ | ⟨word, -, hr | hr⟩
  · rw [hs] at hr
    exact .inl (initializer_mem hne (hpre.trans (hr ▸ List.prefix_append init [last])))
  · obtain ⟨rfl, -⟩ := List.append_inj' (hs.symm.trans hr) rfl
    exact .inl (initializer_mem hne (hpre.trans hup))
  · obtain ⟨rfl, -⟩ := List.append_inj' (hs.symm.trans hr) rfl
    exact .inl (initializer_mem hne hpre)
  · have hr : init ++ [last] = (segments r.path ++ [word.text]) ++ [packageInit] := by
      rw [← hs, hr, List.append_assoc]
      rfl
    obtain ⟨rfl, hlast⟩ := List.append_inj' hr rfl
    rcases List.prefix_concat_iff.1 hpre with hall | hpre
    · exact .inr ⟨hall, List.singleton_inj.1 hlast⟩
    · exact .inl (initializer_mem hne hpre)

/-- The last segment of a candidate names a module, or is empty. -/
theorem candidate_last {r : Reference} (words : ∀ item ∈ r.items, ∃ word : Python.Word,
    item = word.text) {k : Candidate} (h : k ∈ r.candidates) :
    ∃ init last, segments k.path = init ++ [last] ∧ last ≠ "." ∧ last ≠ ".." := by
  have hinit : packageInit ≠ "." ∧ packageInit ≠ ".." := by decide
  rcases segments_candidate words h with ⟨hs, hp, hu⟩ | ⟨above, -, -, hs⟩ | ⟨word, -, hs | hs⟩
  · rcases List.eq_nil_or_concat (segments r.path) with hn | ⟨init, last, hc⟩
    · exact absurd hn (Path.segments_ne_nil r.path)
    · refine ⟨init, last, by simpa [hc] using hs, ?_, ?_⟩
      · rintro rfl
        simp [hc] at hp
      · rintro rfl
        simp [hc] at hu
  · exact ⟨above, packageInit, hs, hinit⟩
  · exact ⟨segments r.path, word.text, hs, word.ordinary.2⟩
  · exact ⟨segments r.path ++ [word.text], packageInit, by simpa using hs, hinit⟩

theorem candidate_first {r : Reference} (words : ∀ item ∈ r.items, ∃ word : Python.Word,
    item = word.text) {k : Candidate} (h : k ∈ r.candidates) {first : String} {rest : List String}
    (hr : segments r.path = first :: rest) : ∃ rest, segments k.path = first :: rest := by
  rcases segments_candidate words h with ⟨hs, -⟩ | ⟨above, hne, hpre, hs⟩ | ⟨word, -, hs | hs⟩
  · exact ⟨rest, hs ▸ hr⟩
  · cases above with
    | nil => exact absurd rfl hne
    | cons a more =>
      obtain rfl : a = first := by
        rw [hr, List.cons_prefix_cons] at hpre
        exact hpre.1
      exact ⟨_, hs⟩
  · exact ⟨_, hs.trans (by rw [hr]; rfl)⟩
  · exact ⟨_, hs.trans (by rw [hr]; rfl)⟩

/-- The file of a candidate has the extension behind the last segment. -/
theorem segments_fileName {k : Candidate} {init : List String} {last : String}
    (h : segments k.path = init ++ [last]) :
    segments k.fileName = init ++ [last ++ "." ++ sourceExtension] := by
  have hext : '/' ∉ ("." ++ sourceExtension).toList := by decide
  rw [Candidate.fileName, String.append_assoc, String.append_assoc]
  exact Path.segments_extend hext h

/-- The name of a source file is ordinary, whatever the module is called. -/
theorem ordinary_file (name : String) : Ordinary (name ++ "." ++ sourceExtension) := by
  have hlen : (name ++ "." ++ sourceExtension).toList.length = name.toList.length + 3 := by
    simp [sourceExtension]
  have hne : ∀ s : String, s.toList.length < 3 → name ++ "." ++ sourceExtension ≠ s := by
    rintro s hs rfl
    omega
  exact ⟨hne "" (by decide), hne "." (by decide), hne ".." (by decide)⟩

theorem counts_file (name : String) : Path.counts (name ++ "." ++ sourceExtension) = true :=
  (ordinary_file name).counts

theorem isAbsolute_fileName {k : Candidate} {init : List String} {last : String}
    (hs : segments k.path = init ++ [last]) {first : String} {rest : List String}
    (hf : segments k.path = first :: rest) (hne : first ≠ "") :
    Path.isAbsolute k.fileName = false := by
  have hname := segments_fileName hs
  cases init with
  | nil =>
    refine Path.isAbsolute_eq_false hname fun he => ?_
    have := counts_file last
    simp [he, Path.counts] at this
  | cons s init =>
    obtain rfl : s = first := by
      rw [hs] at hf
      exact (List.cons.inj hf).1
    exact Path.isAbsolute_eq_false hname hne

/-- The last segment of a candidate for a plain reference is the name of a module. -/
theorem candidate_ordinary {r : Reference} (plain : r.Plain) {k : Candidate}
    (h : k ∈ r.candidates) : ∃ init last, segments k.path = init ++ [last] ∧ Ordinary last := by
  have hinit : Ordinary packageInit := by
    refine ⟨?_, ?_, ?_⟩ <;> decide
  rcases segments_candidate plain.words h with ⟨hs, hp, hu⟩ | ⟨above, -, -, hs⟩ | ⟨word, -, hs | hs⟩
  · rcases List.eq_nil_or_concat (segments r.path) with hn | ⟨init, last, hc⟩
    · exact absurd hn (Path.segments_ne_nil r.path)
    · have hlast := plain.last
      rw [hc, List.concat_eq_append, List.getLast?_concat] at hlast hp hu
      exact ⟨init, last, by rw [hs, hc, List.concat_eq_append], by simpa using hlast,
        by simpa using hp, by simpa using hu⟩
  · exact ⟨above, packageInit, hs, hinit⟩
  · exact ⟨segments r.path, word.text, hs, word.ordinary⟩
  · exact ⟨segments r.path ++ [word.text], packageInit, by simpa using hs, hinit⟩

theorem isAbsolute_candidate {r : Reference} (plain : r.Plain) {k : Candidate}
    (h : k ∈ r.candidates) : Path.isAbsolute k.fileName = false := by
  obtain ⟨init, last, hs, -⟩ := candidate_ordinary plain h
  obtain ⟨first, rest, hr⟩ := List.exists_cons_of_ne_nil (Path.segments_ne_nil r.path)
  have hfirst : first ≠ "" := by
    rintro rfl
    exact plain.first (by rw [segments_eq, hr]; rfl)
  obtain ⟨more, hk⟩ := candidate_first plain.words h hr
  exact isAbsolute_fileName hs hk hfirst

namespace Resolver

/-- The directories in which a reference is looked for, with their logical names. -/
def places (r : Resolver) (importer : Option Record) : List (String × String) :=
  ((importer.bind fun i => (Path.parent? i.absolute).map (·, i.logicalDirectory)).toList) ++
    r.roots.map (·, "")

/-- The matches of the first list that has any. -/
def firstAny {α : Type} (lists : List (List α)) : List α :=
  (lists.find? (!·.isEmpty)).getD []

theorem searchUnder_eq (fs : FileSystem) (reference : Reference) (roots : List String) :
    (searchUnder fs reference roots).value =
      firstAny (roots.map fun root => matchesIn fs root "" reference.candidates) := by
  induction roots with
  | nil => rfl
  | cons root rest ih =>
    by_cases h : (matchesIn fs root "" reference.candidates) = []
    · simp [searchUnder, search, firstAny, h, ih]
    · simp [searchUnder, search, firstAny, h]

/-- A reference is answered by the first place with any candidate. -/
theorem resolve_eq (r : Resolver) (fs : FileSystem) (importer : Option Record)
    (reference : Reference) :
    (r.resolve fs importer reference).value =
      firstAny ((r.places importer).map fun place =>
        matchesIn fs place.1 place.2 reference.candidates) := by
  unfold resolve places
  cases importer with
  | none => simp [searchUnder_eq, Function.comp_def]
  | some i =>
    cases hp : Path.parent? i.absolute with
    | none => simp [hp, searchUnder_eq, Function.comp_def]
    | some directory =>
      by_cases h : matchesIn fs directory i.logicalDirectory reference.candidates = []
      · simp [hp, search, h, firstAny, searchUnder_eq, Function.comp_def]
      · simp [hp, search, h, firstAny]

/-- Dropping matches for canonical paths that are taken. -/
theorem foldl_distinct {found done : List Match} :
    ∀ m ∈ found.foldl
      (fun done m => if done.any (·.canonical = m.canonical) then done else done ++ [m]) done,
      m ∈ done ∨ m ∈ found := by
  induction found generalizing done with
  | nil => exact fun m hm => .inl hm
  | cons n rest ih =>
    intro m hm
    rcases ih m hm with hd | hr
    · dsimp only at hd
      split at hd
      · exact .inl hd
      · rcases List.mem_append.1 hd with hd | hd
        · exact .inl hd
        · exact .inr (by simp [List.mem_singleton.1 hd])
    · exact .inr (List.mem_cons_of_mem _ hr)

/-- Whether the file of a candidate is at a place. -/
def Holds (fs : FileSystem) (place : String × String) (k : Candidate) : Prop :=
  fs.isFile (Path.join place.1 k.fileName) = true

instance (fs : FileSystem) (place : String × String) (k : Candidate) :
    Decidable (Holds fs place k) :=
  inferInstanceAs (Decidable (_ = true))

theorem matchAt_eq_some {fs : FileSystem} {place : String × String} {k : Candidate} {m : Match} :
    matchAt fs place.1 place.2 k = some m ↔
      Holds fs place k ∧ m = ⟨below place.2 k.path, Path.join place.1 k.fileName⟩ := by
  unfold matchAt Holds
  dsimp only
  split
  · rename_i hf
    rw [Option.some.injEq, eq_comm]
    exact ⟨fun hm => ⟨hf, hm⟩, fun hm => hm.2⟩
  · rename_i hf
    exact ⟨nofun, fun hm => absurd hm.1 hf⟩

theorem mem_matchesIn {fs : FileSystem} {directory base : String} {candidates : List Candidate}
    {m : Match} (h : m ∈ matchesIn fs directory base candidates) :
    ∃ k ∈ candidates, matchAt fs directory base k = some m := by
  rcases foldl_distinct m h with h | h
  · cases h
  · exact List.mem_filterMap.1 h

/-- The first list with any element, with those before it. -/
theorem firstAny_ne_nil {α : Type} {lists : List (List α)} (h : firstAny lists ≠ []) :
    ∃ before after, lists = before ++ firstAny lists :: after ∧ ∀ list ∈ before, list = [] := by
  unfold firstAny at h ⊢
  cases hf : lists.find? (!·.isEmpty) with
  | none => simp [hf] at h
  | some list =>
    obtain ⟨-, before, after, hl, hb⟩ := List.find?_eq_some_iff_append.1 hf
    exact ⟨before, after, hl, by simpa using hb⟩

theorem foldl_distinct_keeps {found done : List Match} {canonical : String}
    (h : canonical ∈ done.map Match.canonical ∨ canonical ∈ found.map Match.canonical) :
    canonical ∈ (found.foldl
      (fun done m => if done.any (·.canonical = m.canonical) then done else done ++ [m])
      done).map Match.canonical := by
  induction found generalizing done with
  | nil => simpa using h
  | cons n rest ih =>
    refine ih ?_
    dsimp only
    by_cases hn : done.any (·.canonical = n.canonical)
    · rw [if_pos hn]
      simp only [List.any_eq_true, decide_eq_true_eq] at hn
      obtain ⟨d, hd, he⟩ := hn
      rcases h with h | h
      · exact .inl h
      · rcases List.mem_cons.1 h with rfl | h
        · exact .inl (he ▸ List.mem_map_of_mem hd)
        · exact .inr h
    · rw [if_neg hn]
      simp only [List.map_append, List.mem_append, List.map_cons, List.mem_cons] at h ⊢
      grind

theorem canonical_mem_matchesIn {fs : FileSystem} {place : String × String}
    {candidates : List Candidate} {k : Candidate} (hk : k ∈ candidates) (h : Holds fs place k) :
    ∃ m ∈ matchesIn fs place.1 place.2 candidates, m.canonical = below place.2 k.path := by
  have hm : matchAt fs place.1 place.2 k =
      some ⟨below place.2 k.path, Path.join place.1 k.fileName⟩ := matchAt_eq_some.2 ⟨h, rfl⟩
  have hfound : below place.2 k.path ∈
      (candidates.filterMap (matchAt fs place.1 place.2)).map Match.canonical :=
    List.mem_map.2 ⟨_, List.mem_filterMap.2 ⟨k, hk, hm⟩, rfl⟩
  exact List.mem_map.1 (foldl_distinct_keeps (.inr hfound))

theorem exists_holds {fs : FileSystem} {place : String × String} {candidates : List Candidate}
    (h : matchesIn fs place.1 place.2 candidates ≠ []) : ∃ k ∈ candidates, Holds fs place k := by
  obtain ⟨m, hm⟩ := List.exists_mem_of_ne_nil _ h
  obtain ⟨k, hk, hm⟩ := mem_matchesIn hm
  exact ⟨k, hk, (matchAt_eq_some.1 hm).1⟩

/-- Where an importer's references are looked for: next to it, then under the roots. -/
theorem mem_places {r : Resolver} {importer : Option Record} {place : String × String} :
    place ∈ r.places importer ↔
      (∃ i directory, importer = some i ∧ Path.parent? i.absolute = some directory ∧
        place = (directory, i.logicalDirectory)) ∨ ∃ root ∈ r.roots, place = (root, "") := by
  cases importer with
  | none => simp [places, eq_comm]
  | some i =>
    cases hp : Path.parent? i.absolute with
    | none => simp [places, hp, eq_comm]
    | some directory => simp [places, hp, eq_comm]

theorem firstAny_mem {α : Type} {lists : List (List α)} (h : firstAny lists ≠ []) :
    firstAny lists ∈ lists := by
  unfold firstAny at h ⊢
  cases hf : lists.find? (!·.isEmpty) with
  | none => simp [hf] at h
  | some list => exact List.mem_of_find?_eq_some hf

/-- All matches of a reference come from one place. -/
theorem exists_place {r : Resolver} {fs : FileSystem} {importer : Option Record}
    {reference : Reference} {m : Match} (h : m ∈ (r.resolve fs importer reference).value) :
    ∃ place ∈ r.places importer,
      (r.resolve fs importer reference).value =
        matchesIn fs place.1 place.2 reference.candidates := by
  rw [resolve_eq] at h ⊢
  obtain ⟨place, hp, he⟩ := List.mem_map.1 (firstAny_mem (List.ne_nil_of_mem h))
  exact ⟨place, hp, he.symm⟩

/-- A match is a candidate whose file is at some place. -/
theorem mem_resolve {r : Resolver} {fs : FileSystem} {importer : Option Record}
    {reference : Reference} {m : Match} (h : m ∈ (r.resolve fs importer reference).value) :
    ∃ place ∈ r.places importer, ∃ k ∈ reference.candidates, Holds fs place k ∧
      m = ⟨below place.2 k.path, Path.join place.1 k.fileName⟩ := by
  obtain ⟨place, hp, he⟩ := exists_place h
  obtain ⟨k, hk, hm⟩ := mem_matchesIn (he ▸ h)
  exact ⟨place, hp, k, hk, matchAt_eq_some.1 hm⟩

end Resolver

end ScriptBundle
