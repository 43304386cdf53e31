import ScriptBundle.Proofs.FileSystem.Points
import ScriptBundle.Proofs.FileSystem.Walks
import ScriptBundle.Proofs.Import.FirstPlace
import ScriptBundle.Proofs.Path.Distinct

namespace ScriptBundle

open FileSystem LogicalPath

/-! ## Canonical paths -/

namespace FileSystem

variable {fs : FileSystem} {links : Nat} {place target : Location} {path directory file : String}

/-- The segments of a path that are not empty. -/
def named (path : String) : List String := (Path.segments path).filter (· ≠ "")

theorem isAbsolute_pathOf (place : Location) : Path.isAbsolute (pathOf place) = true := by
  simp [pathOf, Path.isAbsolute]

theorem segments_pathOf (h : ∀ name ∈ place, '/' ∉ name.toList) :
    Path.segments (pathOf place) = "" :: if place = [] then [""] else place := by
  have front : Path.segments "" = [""] := by decide
  have spelled := Path.segments_append "" ("/".intercalate place)
  rw [String.empty_append, front] at spelled
  rw [pathOf, spelled]
  by_cases root : place = []
  · subst root
    decide
  · rw [if_neg root, Path.segments_intercalate root h]
    rfl

theorem named_pathOf (hs : ∀ name ∈ place, '/' ∉ name.toList) (he : ∀ name ∈ place, name ≠ "") :
    named (pathOf place) = place := by
  rw [named, segments_pathOf hs]
  by_cases root : place = []
  · subst root
    decide
  · simpa [root] using he

/-- The names of a place are those of its canonical path. -/
theorem names_pathOf (hs : ∀ name ∈ place, '/' ∉ name.toList) (he : ∀ name ∈ place, name ≠ "") :
    names (pathOf place) = place := by
  rcases List.eq_nil_or_concat place with rfl | ⟨init, last, rfl⟩
  · decide
  · have ends : Path.segments (pathOf (init.concat last)) = ("" :: init) ++ [last] := by
      rw [segments_pathOf hs]
      simp
    have hlast : last ≠ "" := he last (by simp)
    rw [names_eq ends hlast, ← ends]
    exact named_pathOf hs he

theorem mem_pathOf {c : Char} (hc : c ≠ '/') (h : c ∈ (pathOf place).toList) :
    ∃ name ∈ place, c ∈ name.toList :=
  Path.mem_intercalate hc (by simpa [pathOf, hc] using h)

theorem trace_eq_ok : fs.trace path = .ok place ↔ '\x00' ∉ path.toList ∧ path ≠ "" ∧
    ∃ used ≤ 40, fs.Leads used (fs.start path) (names path) place := by
  rw [← walk_eq_ok]
  unfold trace
  by_cases nul : '\x00' ∈ path.toList
  · simp [nul]
  by_cases empty : path = ""
  · simp [empty]
  · simp [nul, empty, start]

/-- What leads somewhere is found name by name. -/
theorem trace_of_resolve (h : fs.resolve path = .ok place) : fs.trace path = .ok place := by
  obtain ⟨nul, named, -, hw⟩ := locate_eq_ok.1 h
  exact trace_eq_ok.2 ⟨nul, named, walk_eq_ok.1 hw⟩

theorem trace_stands (proper : fs.Proper) (h : fs.trace path = .ok place) : fs.Stands place := by
  obtain ⟨-, -, used, -, hlead⟩ := trace_eq_ok.1 h
  exact hlead.stands (proper.stands_start path)

theorem names_pathOf_of_stands (proper : fs.Proper) (h : fs.Stands place) :
    names (pathOf place) = place :=
  names_pathOf (fun _ hn => (h.named proper hn).2.1) fun _ hn => (h.named proper hn).1.1

/-- A canonical path leads to its own place, if it leads anywhere. -/
theorem resolve_pathOf (proper : fs.Proper) (h : fs.Stands place)
    (hr : fs.resolve (pathOf place) = .ok target) : target = place := by
  obtain ⟨-, -, -, hw⟩ := locate_eq_ok.1 hr
  obtain ⟨used, -, hlead⟩ := walk_eq_ok.1 hw
  have hstart : fs.start (pathOf place) = [] := by simp [start, isAbsolute_pathOf]
  rw [names_pathOf_of_stands proper h, hstart] at hlead
  exact hlead.unique (h.leads proper rfl)

/-! ## Paths below a directory -/

/-- A file name as a candidate has it: it does not start at the root, and its last segment is one. -/
structure Below (file : String) : Prop where
  relative : Path.isAbsolute file = false
  last : ∃ init last, Path.segments file = init ++ [last] ∧ last ≠ ""

theorem named_join (below : Below file) (directory : String) :
    named (Path.join directory file) = named directory ++ named file := by
  by_cases hd : directory = ""
  · subst hd
    have bare : Path.join "" file = file := by simp [Path.join, below.relative]
    have empty : named "" = [] := by decide
    rw [bare, empty, List.nil_append]
  by_cases hslash : directory.toList.getLast? = some '/'
  · obtain ⟨above, habove⟩ := List.getLast?_eq_some_iff.1 hslash
    have hdir : directory = String.ofList above ++ "/" ++ "" :=
      String.toList_injective (by simp [habove])
    have joined : Path.join directory file = String.ofList above ++ "/" ++ file := by
      simp [Path.join, below.relative, hdir]
    have empty : Path.segments "" = [""] := by decide
    rw [joined, hdir, named, named, Path.segments_append, Path.segments_append, empty]
    simp [named]
  · have joined : Path.join directory file = directory ++ "/" ++ file := by
      simp [Path.join, below.relative, hd, hslash]
    simp [named, joined, Path.segments_append]

theorem segments_join_last (below : Below file) (directory : String) : ∃ init last,
    Path.segments (Path.join directory file) = init ++ [last] ∧ last ≠ "" := by
  obtain ⟨above, -, joined⟩ := Path.segments_join directory
  obtain ⟨init, last, hs, hl⟩ := below.last
  exact ⟨above ++ init, last, by rw [joined file below.relative, hs, List.append_assoc], hl⟩

theorem names_join (below : Below file) (directory : String) :
    names (Path.join directory file) = named directory ++ named file := by
  obtain ⟨init, last, hs, hl⟩ := segments_join_last below directory
  rw [names_eq hs hl, ← hs]
  exact named_join below directory

theorem join_ne_empty (below : Below file) (directory : String) :
    Path.join directory file ≠ "" := by
  intro empty
  obtain ⟨init, last, hs, hl⟩ := segments_join_last below directory
  have single : Path.segments "" = [""] := by decide
  rw [empty, single] at hs
  have member : last ∈ [""] := hs ▸ by simp
  exact hl (List.mem_singleton.1 member)

theorem start_join (below : Below file) (directory : String) :
    fs.start (Path.join directory file) = fs.start directory := by
  rw [start, Path.isAbsolute_join below.relative]
  rfl

theorem nul_mem_join (below : Below file) (directory : String) :
    '\x00' ∈ (Path.join directory file).toList ↔ '\x00' ∈ directory.toList ∨ '\x00' ∈ file.toList := by
  simp only [Path.join, below.relative, Bool.false_eq_true, ↓reduceIte]
  split <;> simp

/-- A path leads where its names lead, if it is one and there are not too many links. -/
theorem resolve_of_leads (nul : '\x00' ∉ path.toList) (hp : path ≠ "")
    (size : path.utf8ByteSize < 4096) (h : fs.Leads links (fs.start path) (names path) target) :
    fs.resolve path = if links ≤ 40 then .ok target else .error .tooManyLinks := by
  rw [← h.walk]
  simp [resolve, locate, nul, hp, Nat.not_le.2 size, start]

/-- A point behind the names of a path leads nowhere else. -/
theorem leads_named (h : fs.trace path = .ok place) :
    ∃ used, fs.Leads used (fs.start path) (named path) place := by
  obtain ⟨-, -, used, -, hlead⟩ := trace_eq_ok.1 h
  unfold names at hlead
  dsimp only at hlead
  split at hlead
  · obtain ⟨front, back, middle, -, hfront, hback⟩ := hlead.split
    cases hback with
    | on hd henter hrest =>
      cases hrest
      exact ⟨front, henter.eq_of_point ▸ hfront⟩
    | across hd hp => exact absurd rfl hp
  · exact ⟨used, hlead⟩

/-- A path below a directory leads where it leads below the canonical path of the directory, if
neither is too long and there are not too many links. -/
theorem resolve_join (proper : fs.Proper) (below : Below file)
    (hd : fs.trace directory = .ok place)
    (size : (Path.join directory file).utf8ByteSize < 4096)
    (size' : (Path.join (pathOf place) file).utf8ByteSize < 4096)
    (enough : fs.resolve (Path.join directory file) ≠ .error .tooManyLinks) :
    fs.resolve (Path.join (pathOf place) file) = .ok target ↔
      fs.resolve (Path.join directory file) = .ok target := by
  have stands := trace_stands proper hd
  have root : fs.start (pathOf place) = [] := by simp [start, isAbsolute_pathOf]
  have spelled : named (pathOf place) = place :=
    named_pathOf (fun _ hn => (stands.named proper hn).2.1) fun _ hn => (stands.named proper hn).1.1
  have clear : '\x00' ∉ directory.toList := (trace_eq_ok.1 hd).1
  have clear' : '\x00' ∉ (pathOf place).toList := by
    intro nul
    obtain ⟨name, hn, hin⟩ := mem_pathOf (by decide) nul
    exact (stands.named proper hn).2.2.1 hin
  obtain ⟨used, there⟩ := leads_named hd
  have straight := stands.leads proper (List.nil_append place)
  constructor
  · intro h
    obtain ⟨nul, -, -, hw⟩ := locate_eq_ok.1 h
    obtain ⟨more, le, hlead⟩ := walk_eq_ok.1 hw
    rw [names_join below, start_join below, root, spelled] at hlead
    obtain ⟨_, left, middle, hsum, hplace, hfile⟩ := hlead.split
    obtain rfl : middle = place := hplace.unique straight
    have whole := there.append hfile
    rw [← names_join below, ← start_join below] at whole
    rw [nul_mem_join below, not_or] at nul
    have walked := resolve_of_leads (by simp [nul_mem_join below, clear, nul.2])
      (join_ne_empty below _) size whole
    rw [walked] at enough ⊢
    split
    · rfl
    · rename_i many
      exact absurd (if_neg many) enough
  · intro h
    obtain ⟨nul, -, -, hw⟩ := locate_eq_ok.1 h
    obtain ⟨more, le, hlead⟩ := walk_eq_ok.1 hw
    rw [names_join below, start_join below] at hlead
    obtain ⟨_, left, middle, hsum, hplace, hfile⟩ := hlead.split
    obtain rfl : middle = place := hplace.unique there
    have whole : fs.Leads (0 + left) (fs.start (Path.join (pathOf middle) file))
        (names (Path.join (pathOf middle) file)) target := by
      rw [start_join below, root, names_join below, spelled]
      exact straight.append hfile
    rw [nul_mem_join below, not_or] at nul
    rw [resolve_of_leads (by simp [nul_mem_join below, clear', nul.2]) (join_ne_empty below _) size'
      whole, if_pos (by omega)]

/-! ## Spellings of one path -/

/-- A point before more names is idle. -/
theorem leads_point {rest : List String} (hr : rest ≠ []) :
    fs.Leads links place ("." :: rest) target ↔ fs.Leads links place rest target := by
  constructor
  · intro h
    cases h with
    | on hd henter hrest => exact henter.eq_of_point ▸ hrest
    | across hd hp => exact absurd rfl hp
  · intro h
    have directory : fs.find? place = some .directory := by
      cases h with
      | here => exact absurd rfl hr
      | on hd => exact hd
      | across hd => exact hd
    exact .on directory .point h

theorem leads_cons {name : String} {rest other : List String}
    (h : ∀ links place target, fs.Leads links place rest target → fs.Leads links place other target)
    (hlead : fs.Leads links place (name :: rest) target) :
    fs.Leads links place (name :: other) target := by
  rw [← List.singleton_append] at hlead ⊢
  obtain ⟨used, left, middle, rfl, hfront, hrest⟩ := hlead.split
  exact hfront.append (h _ _ _ hrest)

/-- All points before more names are idle. -/
theorem leads_filter (l : List String) {rest : List String} (hr : rest ≠ []) :
    ∀ links place target, fs.Leads links place (l.filter (· ≠ "") ++ rest) target ↔
      fs.Leads links place (l.filter Path.counts ++ rest) target := by
  induction l with
  | nil => simp
  | cons s l ih =>
    intro links place target
    by_cases empty : s = ""
    · simpa [empty, Path.counts] using ih links place target
    by_cases point : s = "."
    · have more : l.filter (· ≠ "") ++ rest ≠ [] := by simp [hr]
      have dropped : ("." :: l).filter Path.counts = l.filter Path.counts := by simp [Path.counts]
      rw [point, dropped, ← ih, ← leads_point more]
      simp
    · have kept : (s :: l).filter Path.counts = s :: l.filter Path.counts := by
        simp [Path.counts, empty, point]
      have kept' : (s :: l).filter (· ≠ "") = s :: l.filter (· ≠ "") := by simp [empty]
      rw [kept, kept', List.cons_append, List.cons_append]
      constructor
      · exact leads_cons fun links place target => (ih links place target).1
      · exact leads_cons fun links place target => (ih links place target).2

/-- Below two spellings of one path, a path leads to one place, if neither is too long. -/
theorem resolve_join_of_same {p q : String} (below : Below file) (hsame : Path.same p q = true)
    (size : (Path.join q file).utf8ByteSize < 4096)
    (h : fs.resolve (Path.join p file) = .ok target) :
    fs.resolve (Path.join q file) = .ok target := by
  have segments : (Path.segments p).filter Path.counts = (Path.segments q).filter Path.counts := by
    rw [← Path.filter_components, ← Path.filter_components, Path.same_iff.1 hsame]
  have starts : fs.start p = fs.start q := by
    rw [start, start, Path.isAbsolute_eq_of_same hsame]
  have clear : '\x00' ∈ q.toList → '\x00' ∈ p.toList := by
    rw [Path.mem_iff_mem_segments (by decide), Path.mem_iff_mem_segments (by decide)]
    rintro ⟨s, hs, nul⟩
    have member : s ∈ (Path.segments q).filter Path.counts := by
      rw [List.mem_filter]
      refine ⟨hs, ?_⟩
      rw [counts_iff]
      constructor
      · rintro rfl
        simp at nul
      · rintro rfl
        simp at nul
    rw [← segments] at member
    exact ⟨s, (List.mem_filter.1 member).1, nul⟩
  have more : named file ≠ [] := by
    obtain ⟨init, last, hs, hl⟩ := below.last
    simp [named, hs, hl]
  obtain ⟨nul, -, -, hw⟩ := locate_eq_ok.1 h
  obtain ⟨links, le, hlead⟩ := walk_eq_ok.1 hw
  rw [names_join below, start_join below, named, leads_filter _ more, segments,
    ← leads_filter _ more, starts] at hlead
  change fs.Leads _ _ (named q ++ _) _ at hlead
  rw [← names_join below, ← start_join below] at hlead
  rw [nul_mem_join below, not_or] at nul
  have free : '\x00' ∉ (Path.join q file).toList := by
    rw [nul_mem_join below, not_or]
    exact ⟨fun hq => nul.1 (clear hq), nul.2⟩
  rw [resolve_of_leads free (join_ne_empty below _) size hlead, if_pos le]

end FileSystem

/-! ## What resolution finds below a directory -/

/-- What matters of a match: its path among the modules, and the place of its file. -/
def Match.answer (fs : FileSystem) (m : Match) : String × Except IoError Location :=
  (m.canonical, fs.resolve m.absolute)

/-- The files of the candidates of a reference lie below any directory. -/
theorem Reference.Spelled.below {r : Reference} (h : r.Spelled) {k : Candidate}
    (hk : k ∈ r.candidates) : FileSystem.Below k.fileName where
  relative := isAbsolute_candidate h.plain hk
  last := by
    obtain ⟨init, last, hs, -⟩ := candidate_ordinary h.plain hk
    exact ⟨init, _, segments_fileName hs, (ordinary_file last).1⟩

namespace Resolver

variable {fs : FileSystem} {directory other : String} {reference : Reference}

/-- Two directories below which the same candidates lead to the same places have the same answers. -/
theorem matchesIn_answer {candidates : List Candidate}
    (h : ∀ k ∈ candidates, ∀ target, fs.resolve (Path.join directory k.fileName) = .ok target ↔
      fs.resolve (Path.join other k.fileName) = .ok target) :
    (matchesIn fs directory "" candidates).map (·.answer fs) =
      (matchesIn fs other "" candidates).map (·.answer fs) := by
  induction candidates using List.reverseRecOn with
  | nil => simp [matchesIn]
  | append_singleton candidates k ih =>
    have earlier := ih fun k hk => h k (List.mem_append_left _ hk)
    have paths : (matchesIn fs directory "" candidates).map Match.canonical =
        (matchesIn fs other "" candidates).map Match.canonical := by
      have firsts := congrArg (List.map Prod.fst) earlier
      rwa [List.map_map, List.map_map] at firsts
    have leads := h k (by simp)
    have holds : Holds fs (directory, "") k ↔ Holds fs (other, "") k := by
      simp only [Holds, isFile_iff, leads]
    have step := @matchesIn_concat fs (directory, "") candidates k
    have step' := @matchesIn_concat fs (other, "") candidates k
    dsimp only at step step'
    have both : (Holds fs (directory, "") k ∧ (k.matchAt (directory, "")).canonical ∉
          (matchesIn fs directory "" candidates).map Match.canonical) ↔
        (Holds fs (other, "") k ∧ (k.matchAt (other, "")).canonical ∉
          (matchesIn fs other "" candidates).map Match.canonical) := by
      have same : (k.matchAt (directory, "")).canonical = (k.matchAt (other, "")).canonical := rfl
      rw [holds, paths, same]
    by_cases new : Holds fs (other, "") k ∧ (k.matchAt (other, "")).canonical ∉
        (matchesIn fs other "" candidates).map Match.canonical
    · obtain ⟨place, -, -, there, -⟩ := isFile_iff.1 new.1
      have here := (leads place).2 there
      have answers : (k.matchAt (directory, "")).answer fs = (k.matchAt (other, "")).answer fs := by
        simp only [Match.answer, Candidate.matchAt] at here there ⊢
        rw [here, there]
      rw [step, step', if_pos new, if_pos (both.2 new), List.map_append, List.map_append, earlier,
        List.map_singleton, List.map_singleton, answers]
    · rw [step, step', if_neg new, if_neg (mt both.1 new)]
      exact earlier

theorem firstAny_cons {α : Type} (list : List α) (lists : List (List α)) :
    firstAny (list :: lists) = if list = [] then firstAny lists else list := by
  cases list <;> rfl

theorem firstAny_map {α β : Type} (f : α → β) (lists : List (List α)) :
    (firstAny lists).map f = firstAny (lists.map (List.map f)) := by
  induction lists with
  | nil => rfl
  | cons list lists ih =>
    rw [List.map_cons, firstAny_cons, firstAny_cons, ← ih]
    by_cases h : list = [] <;> simp [h]

theorem firstAny_append {α : Type} (lists more : List (List α)) :
    firstAny (lists ++ more) = if firstAny lists = [] then firstAny more else firstAny lists := by
  induction lists with
  | nil => rfl
  | cons list lists ih =>
    rw [List.cons_append, firstAny_cons, firstAny_cons, ih]
    by_cases h : list = [] <;> simp [h]

theorem eq_nil_of_firstAny {α : Type} {list : List α} {lists : List (List α)}
    (h : firstAny lists = []) (hl : list ∈ lists) : list = [] := by
  induction lists with
  | nil => cases hl
  | cons first lists ih =>
    rw [firstAny_cons] at h
    split at h
    · rename_i empty
      rcases List.mem_cons.1 hl with rfl | hl
      · exact empty
      · exact ih h hl
    · contradiction

/-- What is found at the first place that has anything does not depend on repetitions. -/
theorem firstAny_distinct {α : Type} {l : List String} {found : String → List α}
    (h : ∀ p ∈ l, ∀ q ∈ l, Path.same p q = true → found p = found q) :
    firstAny ((Path.distinct l).map found) = firstAny (l.map found) := by
  induction l using List.reverseRecOn with
  | nil => rfl
  | append_singleton l p ih =>
    have earlier := ih fun a ha b hb =>
      h a (List.mem_append_left _ ha) b (List.mem_append_left _ hb)
    rw [Path.distinct_concat, Path.any_distinct, List.map_append, firstAny_append]
    split
    · rename_i repeated
      obtain ⟨q, hq, hsame⟩ := List.any_eq_true.1 repeated
      have known := h p (by simp) q (by simp [hq]) hsame
      rw [earlier]
      split
      · rename_i empty
        have none := eq_nil_of_firstAny empty (List.mem_map_of_mem hq)
        rw [empty, List.map_singleton, known, none]
        rfl
      · rfl
    · rw [List.map_append, firstAny_append, earlier]

theorem resolve_none (roots : List String) (fs : FileSystem) (reference : Reference) :
    ((Resolver.mk roots).resolve fs none reference).value.map (·.answer fs) =
      firstAny (roots.map fun root =>
        (matchesIn fs root "" reference.candidates).map (·.answer fs)) := by
  rw [resolve_eq, firstAny_map]
  simp [places, Function.comp_def]

end Resolver

/-! ## Roots of an entry -/

section

variable {fs : FileSystem}

/-- Looking for a candidate below a directory, as it is spelled or in canonical form, asks for no
path that is too long and does not run out of links. -/
structure WithinLimits (fs : FileSystem) (directory : String) (k : Candidate) : Prop where
  short : (Path.join directory k.fileName).utf8ByteSize < 4096
  canonical : (Path.join (canonicalOrSelf fs directory) k.fileName).utf8ByteSize < 4096
  links : fs.resolve (Path.join directory k.fileName) ≠ .error .tooManyLinks

theorem canonicalOrSelf_cases (fs : FileSystem) (path : String) :
    (∃ place, fs.trace path = .ok place ∧ canonicalOrSelf fs path = pathOf place) ∨
      (∃ e, fs.trace path = .error e) ∧ canonicalOrSelf fs path = path := by
  cases h : fs.trace path with
  | ok place => exact .inl ⟨place, rfl, by simp [canonicalOrSelf, canonicalize?, h]⟩
  | error e => exact .inr ⟨⟨e, rfl⟩, by simp [canonicalOrSelf, canonicalize?, h]⟩

/-- A root that leads somewhere is the canonical path of the place. -/
theorem canonicalOrSelf_eq (proper : fs.Proper) {path : String} {place : Location}
    (h : fs.resolve (canonicalOrSelf fs path) = .ok place) :
    canonicalOrSelf fs path = pathOf place := by
  rcases canonicalOrSelf_cases fs path with ⟨other, hr, hc⟩ | ⟨⟨e, he⟩, hc⟩
  · rw [hc] at h ⊢
    rw [resolve_pathOf proper (trace_stands proper hr) h]
  · rw [hc] at h
    cases he.symm.trans (trace_of_resolve h)

/-- Below a directory a candidate leads where it leads below its canonical form. -/
theorem resolve_canonicalOrSelf (proper : fs.Proper) {reference : Reference}
    (spelled : reference.Spelled) {k : Candidate} (hk : k ∈ reference.candidates)
    {directory : String} (limits : WithinLimits fs directory k) (target : Location) :
    fs.resolve (Path.join (canonicalOrSelf fs directory) k.fileName) = .ok target ↔
      fs.resolve (Path.join directory k.fileName) = .ok target := by
  rcases canonicalOrSelf_cases fs directory with ⟨place, hr, hc⟩ | ⟨-, hc⟩
  · have short := limits.canonical
    rw [hc] at short ⊢
    exact resolve_join proper (spelled.below hk) hr limits.short short limits.links
  · rw [hc]

theorem entryDirectory_name {entry : String} (h : '/' ∉ entry.toList) :
    entryDirectory entry = "." := by
  rcases Path.parent?_name h with none | top
  · rw [entryDirectory, none]
  · rw [entryDirectory, top]
    rfl

theorem entryDirectory_join {directory name : String} (hd : directory ≠ "")
    (plain : '/' ∉ name.toList) (named : Path.counts name = true) :
    Path.same (entryDirectory (directory ++ "/" ++ name)) directory = true := by
  obtain ⟨above, hp, some, same⟩ := Path.parent?_join hd plain named
  simp only [entryDirectory, hp, if_neg some]
  exact same

/-- No two roots lead to one place. -/
theorem pairwise_searchRoots (proper : fs.Proper) (entry : String)
    (extra interpreter : List String) :
    (searchRoots fs entry extra interpreter).Pairwise fun p q => Path.same p q = false ∧
      ∀ place, fs.resolve p = .ok place → fs.resolve q ≠ .ok place := by
  apply (Path.pairwise_distinct _).imp_of_mem
  intro p q hp hq different
  refine ⟨different, ?_⟩
  intro place there there'
  obtain ⟨d, -, rfl⟩ := List.mem_map.1 (Path.mem_of_mem_distinct hp)
  obtain ⟨e, -, rfl⟩ := List.mem_map.1 (Path.mem_of_mem_distinct hq)
  rw [canonicalOrSelf_eq proper there, canonicalOrSelf_eq proper there', Path.same_refl] at different
  cases different

/-- Over the roots a reference is answered as over the paths that they were made from. -/
theorem resolve_searchRoots (proper : fs.Proper) (entry : String)
    (extra interpreter : List String) {reference : Reference} (spelled : reference.Spelled)
    (limits : ∀ directory ∈ entryDirectory entry :: (extra ++ interpreter),
      ∀ k ∈ reference.candidates, WithinLimits fs directory k) :
    ((Resolver.mk (searchRoots fs entry extra interpreter)).resolve fs none reference).value.map
        (·.answer fs) =
      ((Resolver.mk (entryDirectory entry :: (extra ++ interpreter))).resolve fs none
        reference).value.map (·.answer fs) := by
  generalize hraw : entryDirectory entry :: (extra ++ interpreter) = raw at limits
  rw [Resolver.resolve_none, Resolver.resolve_none, searchRoots, hraw, Resolver.firstAny_distinct,
    List.map_map]
  · apply congrArg Resolver.firstAny
    apply List.map_congr_left
    intro directory hd
    apply Resolver.matchesIn_answer
    intro k hk
    exact resolve_canonicalOrSelf proper spelled hk (limits directory hd k hk)
  · intro p hp q hq same
    obtain ⟨d, hd, rfl⟩ := List.mem_map.1 hp
    obtain ⟨e, he, rfl⟩ := List.mem_map.1 hq
    have same' : Path.same (canonicalOrSelf fs e) (canonicalOrSelf fs d) = true :=
      Path.same_iff.2 (Path.same_iff.1 same).symm
    apply Resolver.matchesIn_answer
    intro k hk target
    constructor
    · exact resolve_join_of_same (spelled.below hk) same (limits e he k hk).canonical
    · exact resolve_join_of_same (spelled.below hk) same' (limits d hd k hk).canonical

/-- **Roots are kept once, and resolution does not change.** The roots are the canonical forms of the
directory of the entry, the extra paths and those of the interpreter, without those that are one path
with an earlier one; the directory of the entry is the first, and no two lead to one place. Over them
a reference is answered by the same canonical paths and files as over the paths that they were made
from, as long as no path that is looked up is too long and none leads through too many links. -/
theorem searchRoots_faithful (proper : fs.Proper) (entry : String)
    (extra interpreter : List String) :
    let raw := entryDirectory entry :: (extra ++ interpreter)
    let canonical := raw.map (canonicalOrSelf fs)
    let roots := searchRoots fs entry extra interpreter
    roots = (canonical.zipIdx.filter fun q =>
        !(canonical.take q.2).any (Path.same q.1)).map Prod.fst ∧
      roots.head? = some (canonicalOrSelf fs (entryDirectory entry)) ∧
      ('/' ∉ entry.toList → entryDirectory entry = ".") ∧
      (∀ directory name, entry = directory ++ "/" ++ name → directory ≠ "" → '/' ∉ name.toList →
        Path.counts name = true → Path.same (entryDirectory entry) directory = true) ∧
      (roots.Pairwise fun p q => Path.same p q = false ∧
        ∀ place, fs.resolve p = .ok place → fs.resolve q ≠ .ok place) ∧
      ∀ reference : Reference, reference.Spelled →
        (∀ directory ∈ raw, ∀ k ∈ reference.candidates, WithinLimits fs directory k) →
        ((Resolver.mk roots).resolve fs none reference).value.map (·.answer fs) =
          ((Resolver.mk raw).resolve fs none reference).value.map (·.answer fs) := by
  intro raw canonical roots
  refine ⟨Path.distinct_eq canonical, ?first, entryDirectory_name, ?above,
    pairwise_searchRoots proper entry extra interpreter, ?answers⟩
  case first => exact Path.head?_distinct _ _
  case above =>
    rintro directory name rfl hd plain named
    exact entryDirectory_join hd plain named
  case answers =>
    intro reference spelled limits
    exact resolve_searchRoots proper entry extra interpreter spelled limits

/-! ## Roots with links -/

/-- A directory with a module, and a link to the directory. The module is itself a link, through
that many others. -/
def chained (links : Nat) : FileSystem where
  entries := [(["d"], .directory), (["d", "l"], .link "."),
    (["d", "m.py"], .link (ofSegments (List.replicate links "l" ++ ["x.py"]))),
    (["d", "x.py"], .file "".toUTF8 0o644), (["r"], .link "d")]

theorem proper_chained (links : Nat) : (chained links).Proper where
  named := by
    have locations : ∀ location ∈ [["d"], ["d", "l"], ["d", "m.py"], ["d", "x.py"], ["r"]],
        ∀ name ∈ location, Ordinary name ∧ '/' ∉ name.toList ∧ '\x00' ∉ name.toList ∧
          name.utf8ByteSize ≤ 255 := by
      unfold Ordinary
      decide
    intro e he
    exact locations e.1 (List.mem_map_of_mem (f := Prod.fst) he)
  working := by
    intro above hp
    rw [List.prefix_nil.1 hp]
    rfl

theorem spelled_m : (Reference.mk "m" []).Spelled :=
  ⟨0, some ⟨⟨"m", by decide, by decide⟩, []⟩, .inr rfl, by decide, by simp⟩

theorem searchRoots_faithful_link :
    searchRoots (chained 2) "/main.py" ["/r", "d/"] [] = ["/", "/d"] ∧
      ((Resolver.mk ["/", "/d"]).resolve (chained 2) none ⟨"m", []⟩).value.map
          (·.answer (chained 2)) =
        ((Resolver.mk ["/", "/r", "d/"]).resolve (chained 2) none ⟨"m", []⟩).value.map
          (·.answer (chained 2)) := by
  have roots : searchRoots (chained 2) "/main.py" ["/r", "d/"] [] = ["/", "/d"] := by
    decide +kernel
  have limits : ∀ directory ∈ entryDirectory "/main.py" :: (["/r", "d/"] ++ []),
      ∀ k ∈ (Reference.mk "m" []).candidates, WithinLimits (chained 2) directory k := by
    have checked : ∀ directory ∈ entryDirectory "/main.py" :: (["/r", "d/"] ++ []),
        ∀ k ∈ (Reference.mk "m" []).candidates,
          (Path.join directory k.fileName).utf8ByteSize < 4096 ∧
          (Path.join (canonicalOrSelf (chained 2) directory) k.fileName).utf8ByteSize < 4096 ∧
          (chained 2).resolve (Path.join directory k.fileName) ≠ .error .tooManyLinks := by
      decide +kernel
    intro directory hd k hk
    obtain ⟨short, canonical, links⟩ := checked directory hd k hk
    exact ⟨short, canonical, links⟩
  have same := (searchRoots_faithful (proper_chained 2) "/main.py" ["/r", "d/"] []).2.2.2.2.2
    ⟨"m", []⟩ spelled_m limits
  rw [roots] at same
  exact ⟨roots, same⟩

/-- A path of a directory that is too long, with points. -/
def remote : String := "/" ++ Path.points 2048 "d"

theorem size_remote : 4096 ≤ remote.utf8ByteSize := by
  have hslash : "/".utf8ByteSize = 1 := by decide
  have size := Path.size_points 2048 "d"
  have whole : remote.utf8ByteSize =
      "/".utf8ByteSize + (Path.points 2048 "d").utf8ByteSize := String.utf8ByteSize_append
  omega

theorem segments_remote : Path.segments remote = ("" :: List.replicate 2048 ".") ++ ["d"] := by
  have front : Path.segments "" = [""] := by decide
  have last : Path.segments "d" = ["d"] := by decide
  have all := Path.segments_append "" (Path.points 2048 "d")
  rwa [String.empty_append, front, Path.segments_points, last, ← List.append_assoc] at all

/-- Name by name, points are no trouble. -/
theorem trace_remote : (chained 0).trace remote = .ok ["d"] := by
  have nul : '\x00' ∉ remote.toList := by
    have inside : '\x00' ∈ (Path.points 2048 "d").toList ↔ '\x00' ∈ "d".toList :=
      Path.mem_points (by decide) (by decide)
    simp [remote, inside]
  have absolute : (chained 0).start remote = [] := by
    simp [start, remote, Path.isAbsolute]
  have points : ("" :: List.replicate 2048 ".").filter Path.counts = [] := by
    rw [List.filter_eq_nil_iff]
    intro s hs
    rcases List.mem_cons.1 hs with rfl | hs
    · decide
    · rw [List.eq_of_mem_replicate hs]
      decide
  have straight : (chained 0).Leads 0 [] ["d"] ["d"] :=
    .on rfl (.down (by decide) (by decide) (by decide) rfl (by simp)) .here
  refine trace_eq_ok.2 ⟨nul, ?_, 0, Nat.zero_le _, ?_⟩
  · intro empty
    have size := size_remote
    rw [empty] at size
    exact absurd size (by decide)
  · rw [names_eq segments_remote (by decide), absolute, List.filter_append]
    have last : ["d"].filter (· ≠ "") = ["d"] := by decide
    rw [last, leads_filter _ (by decide), points]
    exact straight

theorem matchesIn_remote (fs : FileSystem) {reference : Reference} (spelled : reference.Spelled) :
    Resolver.matchesIn fs remote "" reference.candidates = [] := by
  apply (@Resolver.matchesIn_eq_nil fs (remote, "") _).2
  intro k hk holds
  obtain ⟨place, -, -, hr, -⟩ := isFile_iff.1 holds
  obtain ⟨-, -, short, -⟩ := locate_eq_ok.1 hr
  have size := size_remote
  simp only [Path.join, (spelled.below hk).relative, Bool.false_eq_true, ↓reduceIte] at short
  split at short
  · rw [String.utf8ByteSize_append] at short
    omega
  · rw [String.utf8ByteSize_append, String.utf8ByteSize_append] at short
    omega

theorem searchRoots_remote : searchRoots (chained 0) "/main.py" [remote] [] = ["/", "/d"] := by
  have directory : entryDirectory "/main.py" = "/" := by decide
  have near : canonicalOrSelf (chained 0) "/" = "/" := by decide +kernel
  have far : canonicalOrSelf (chained 0) remote = "/d" := by
    rw [canonicalOrSelf, canonicalize?, trace_remote]
    decide
  have different : Path.same "/d" "/" = false := by decide
  simp [searchRoots, directory, near, far, Path.distinct, different]

/-- Beyond the limits of the system resolution finds more over the roots than over the paths that
they were made from, where these lead through a link too many or are too long for what is looked for
below them. -/
theorem searchRoots_limited :
    ((chained 39).Proper ∧ (Reference.mk "m" []).Spelled ∧
      searchRoots (chained 39) "/main.py" ["/r"] [] = ["/", "/d"] ∧
      ((Resolver.mk ["/", "/d"]).resolve (chained 39) none ⟨"m", []⟩).value.map
        (·.answer (chained 39)) = [("m", .ok ["d", "x.py"])] ∧
      ((Resolver.mk ["/", "/r"]).resolve (chained 39) none ⟨"m", []⟩).value.map
        (·.answer (chained 39)) = []) ∧
    (chained 0).Proper ∧ searchRoots (chained 0) "/main.py" [remote] [] = ["/", "/d"] ∧
      ((Resolver.mk ["/", "/d"]).resolve (chained 0) none ⟨"m", []⟩).value.map
        (·.answer (chained 0)) = [("m", .ok ["d", "x.py"])] ∧
      ((Resolver.mk ["/", remote]).resolve (chained 0) none ⟨"m", []⟩).value.map
        (·.answer (chained 0)) = [] := by
  have many : searchRoots (chained 39) "/main.py" ["/r"] [] = ["/", "/d"] ∧
      ((Resolver.mk ["/", "/d"]).resolve (chained 39) none ⟨"m", []⟩).value.map
        (·.answer (chained 39)) = [("m", .ok ["d", "x.py"])] ∧
      ((Resolver.mk ["/", "/r"]).resolve (chained 39) none ⟨"m", []⟩).value.map
        (·.answer (chained 39)) = [] := by
    decide +kernel
  have found : ((Resolver.mk ["/", "/d"]).resolve (chained 0) none ⟨"m", []⟩).value.map
      (·.answer (chained 0)) = [("m", .ok ["d", "x.py"])] := by
    decide +kernel
  have top : (Resolver.matchesIn (chained 0) "/" "" (Reference.mk "m" []).candidates).map
      (·.answer (chained 0)) = [] := by
    decide +kernel
  refine ⟨⟨proper_chained 39, spelled_m, many⟩, proper_chained 0, searchRoots_remote, found, ?_⟩
  rw [Resolver.resolve_none]
  simp [top, matchesIn_remote _ spelled_m, Resolver.firstAny]

end

end ScriptBundle
