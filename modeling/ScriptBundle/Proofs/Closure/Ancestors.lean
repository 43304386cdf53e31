import ScriptBundle.Proofs.Bundle.ImportTable
import ScriptBundle.Proofs.Closure.Rooted
import ScriptBundle.Proofs.Closure.Run
import ScriptBundle.Proofs.FileSystem.Points

/-!
# Packages above the modules of a closure

Python runs the initializer of a package before any module in it, so a closure that has the module
needs the initializer.
-/

namespace ScriptBundle

open LogicalPath FileSystem Resolver

theorem slash_not_mem {path : String} {init more : List String} (h : segments path = init ++ more) :
    ∀ s ∈ init, '/' ∉ s.toList := by
  intro s hs
  exact Path.not_mem_of_mem_segments (segments_eq path ▸ h ▸ List.mem_append_left _ hs)

/-- No package is on the way to the root of a search. -/
theorem normalSegments_of_prefix_root {front : List String} (h : front <+: [""]) :
    normalSegments front = [] := by
  rcases List.prefix_cons_iff.1 h with rfl | ⟨rest, rfl, hrest⟩
  · rfl
  · rw [List.prefix_nil.1 hrest]
    decide

/-- The file of a module that lies inside a directory. -/
theorem moduleFile_inside {canonical name : String} {package : List String}
    (h : segments canonical = package ++ [name]) (inside : ∀ s ∈ package, Ordinary s)
    (directory : Location) :
    moduleFile directory canonical = directory ++ package ++ [name ++ "." ++ sourceExtension] := by
  unfold moduleFile
  rw [segments_file h, List.foldl_append, foldl_enter_ordinary inside]
  exact enter_ordinary (ordinary_file name) _

/-- What a candidate's file is called, from a package above it on. -/
theorem fileName_eq {k : Candidate} {above more : List String} {last : String}
    (hs : segments k.path = above ++ more ++ [last]) (hne : above ≠ []) :
    ∃ tail, last.utf8ByteSize ≤ tail.utf8ByteSize ∧
      k.fileName = ofSegments above ++ "/" ++ tail ++ "." ++ sourceExtension := by
  have hpath : k.path = ofSegments (above ++ (more ++ [last])) := by
    rw [← List.append_assoc, ← hs]
    exact (Path.intercalate_segments k.path).symm
  refine ⟨ofSegments (more ++ [last]), ?_, ?_⟩
  · unfold ofSegments
    cases more with
    | nil => simp
    | cons s more =>
      rw [String.intercalate_append_of_ne_nil (by simp) (by simp)]
      simp
  · rw [Candidate.fileName, hpath]
    unfold ofSegments
    rw [String.intercalate_append_of_ne_nil hne (by simp)]

/-- A place that holds a candidate holds the initializer of every package on the way to it, if that
is a file and its path is not too long. -/
theorem holds_initializer {fs : FileSystem} (linkless : fs.Linkless) {root : String}
    {place : String × String} (under : Under root place) {k : Candidate}
    (hold : Holds fs place k) (hr : Path.isAbsolute k.fileName = false)
    {above more : List String} {last : String} (hs : segments k.path = above ++ more ++ [last])
    (hne : above ≠ []) (hlast : last ≠ "")
    (hinit : Path.isAbsolute (initializer above).fileName = false)
    (short : (Path.join place.1 k.fileName).utf8ByteSize + 7 < 4096)
    (inside : ∀ s ∈ normalSegments (segments place.2 ++ above), Ordinary s)
    {content : ByteArray} {mode : Nat}
    (there : fs.find? (fs.spelled root ++ normalSegments (segments place.2 ++ above) ++
      [packageInit ++ "." ++ sourceExtension]) = some (.file content mode)) :
    Holds fs place (initializer above) := by
  obtain ⟨front, -, hjoin⟩ := Path.join_eq_append place.1
  obtain ⟨up, hfilter, hsegments⟩ := Path.segments_join place.1
  obtain ⟨tail, htail, hname⟩ := fileName_eq hs hne
  have habove : ∀ s ∈ above, '/' ∉ s.toList :=
    slash_not_mem (hs.trans (List.append_assoc ..))
  have hfile : Path.segments (Path.join place.1 k.fileName) =
      (up ++ above) ++ (more ++ [last ++ "." ++ sourceExtension]) := by
    rw [hsegments _ hr, ← segments_eq, segments_fileName hs]
    simp only [List.append_assoc]
  have hprobe : Path.segments (Path.join place.1 (initializer above).fileName) =
      (up ++ above) ++ [packageInit ++ "." ++ sourceExtension] := by
    rw [hsegments _ hinit, ← segments_eq, segments_fileName (segments_initializer hne habove),
      List.append_assoc]
  have hstart : Path.isAbsolute (Path.join place.1 k.fileName) = Path.isAbsolute root :=
    (Path.isAbsolute_join hr).trans under.sameStart
  have hway : (up ++ above).foldl enter (fs.start (Path.join place.1 k.fileName)) =
      fs.spelled root ++ normalSegments (segments place.2 ++ above) := by
    rw [← foldl_enter_normalSegments, under.append hfilter, foldl_enter_normalSegments,
      List.foldl_append, foldl_enter_ordinary inside, FileSystem.start, hstart]
    rfl
  have hpackage : packageInit.utf8ByteSize = 8 := by decide
  have hpositive : 0 < last.utf8ByteSize := by
    rw [Nat.pos_iff_ne_zero]
    simpa using hlast
  obtain ⟨place', -, -, hresolve, -⟩ := isFile_iff.1 hold
  have hzero := ((resolve_eq_ok linkless).1 hresolve).1
  refine isFile_beside linkless hfile (ordinary_file last).1 hold hprobe
    ((Path.isAbsolute_join hinit).trans (Path.isAbsolute_join hr).symm) ?_ ?_
    (ordinary_file packageInit) (by decide) (hway ▸ there)
  · rw [hjoin _ hr, hname] at hzero
    rw [hjoin _ hinit, Candidate.fileName, initializer]
    have hnone : '\x00' ∉ "/".toList ∧ '\x00' ∉ packageInit.toList ∧ '\x00' ∉ ".".toList ∧
        '\x00' ∉ sourceExtension.toList := by
      decide
    simp only [String.toList_append, List.mem_append, not_or] at hzero ⊢
    exact ⟨hzero.1, ⟨⟨⟨hzero.2.1.1.1.1, hnone.1⟩, hnone.2.1⟩, hnone.2.2.1⟩, hnone.2.2.2⟩
  · rw [hjoin _ hr, hname] at short
    rw [hjoin _ hinit, Candidate.fileName, initializer]
    simp only [String.utf8ByteSize_append, hpackage] at short ⊢
    omega

/-- The path of an initializer that is found below a logical directory. -/
theorem below_initializer {base path : String} {above : List String}
    (h : segments path = above ++ [packageInit]) :
    below base path = ofSegments (normalSegments (segments base ++ above) ++ [packageInit]) := by
  have hinit : Ordinary packageInit := by
    refine ⟨?_, ?_, ?_⟩ <;> decide
  rw [below_eq, h, ← List.append_assoc, normalSegments_concat_ordinary _ hinit]
  simp [ofNormalSegments]

/-- With a candidate a place also yields the initializer of every package on the way to it: either
that is a candidate of its own, or it is the one that was found. -/
theorem initializer_matched {fs : FileSystem} (linkless : fs.Linkless) {root : String}
    {place : String × String} (under : Under root place) {reference : Reference}
    (plain : reference.Plain) {k : Candidate} (hk : k ∈ reference.candidates)
    (hold : Holds fs place k) {init above : List String} {last : String}
    (hs : segments k.path = init ++ [last]) (ho : Ordinary last) (hne : above ≠ [])
    (hpre : above <+: init) (short : (Path.join place.1 k.fileName).utf8ByteSize + 7 < 4096)
    (inside : ∀ s ∈ normalSegments (segments place.2 ++ above), Ordinary s)
    {content : ByteArray} {mode : Nat}
    (there : fs.find? (fs.spelled root ++ normalSegments (segments place.2 ++ above) ++
      [packageInit ++ "." ++ sourceExtension]) = some (.file content mode)) :
    ∃ m ∈ matchesIn fs place.1 place.2 reference.candidates,
      m.canonical = ofSegments (normalSegments (segments place.2 ++ above) ++ [packageInit]) := by
  obtain ⟨k', hk', hs', hold'⟩ : ∃ k' ∈ reference.candidates,
      segments k'.path = above ++ [packageInit] ∧ Holds fs place k' := by
    rcases initializer_of_candidate plain.words hk hs hne hpre with hmem | ⟨rfl, rfl⟩
    · obtain ⟨more, rfl⟩ := hpre
      have hslash := slash_not_mem (hs.trans (List.append_assoc ..))
      refine ⟨_, hmem, segments_initializer hne hslash, ?_⟩
      exact holds_initializer linkless under hold (isAbsolute_candidate plain hk) hs hne ho.1
        (isAbsolute_candidate plain hmem) short inside there
    · exact ⟨k, hk, hs, hold⟩
  obtain ⟨m, hm, hcm⟩ := canonical_mem_matchesIn hk' hold'
  exact ⟨m, hm, hcm.trans (below_initializer hs')⟩

/-- A way on from a place ends on the way to the place or goes on from it. -/
theorem prefix_append_cases {front base init : List String} (h : front <+: base ++ init) :
    front <+: base ∨ ∃ above, above ≠ [] ∧ above <+: init ∧ front = base ++ above := by
  rcases List.prefix_or_prefix_of_prefix h (List.prefix_append base init) with hf | ⟨above, rfl⟩
  · exact .inl hf
  · by_cases hne : above = []
    · exact .inl (by simp [hne])
    · exact .inr ⟨above, hne, (List.prefix_append_right_inj base).1 h, rfl⟩

theorem head_ne_up {canonical : String} (h : leadsOutside canonical = false) :
    (segments canonical).head? ≠ some ".." := by
  intro hup
  obtain ⟨rest, hrest⟩ := List.head?_eq_some_iff.1 hup
  have hc : canonical = "/".intercalate (".." :: rest) := by
    rw [← hrest]
    exact (Path.intercalate_segments canonical).symm
  have htake : canonical.toList.take 2 = ['.', '.'] := by
    rw [hc]
    cases rest with
    | nil => decide
    | cons s rest =>
      rw [String.intercalate_cons_of_ne_nil (by simp)]
      simp
  simp [leadsOutside, htake] at h

/-- A module whose path does not lead outside lies in packages that are named. -/
theorem Rooted.inside {root canonical absolute name : String} {package : List String}
    (h : Rooted root canonical absolute) (hc : segments canonical = package ++ [name])
    (hin : leadsOutside canonical = false) : ∀ s ∈ package, Ordinary s := by
  obtain ⟨-, package', name', -, hnormal, hc', -, -⟩ := h.collapses
  obtain ⟨rfl, -⟩ := List.append_inj' (hc.symm.trans hc') rfl
  have hhead := head_ne_up hin
  rw [← hnormal]
  refine ordinary_of_head ?_
  rw [hnormal]
  intro hup
  obtain ⟨rest, rfl⟩ := List.head?_eq_some_iff.1 hup
  simp [hc] at hhead

namespace Collector

variable {c : Collector} {entry source : String} {names : List String}

/-- Some paths have the initializers of all packages that a module inside a directory lies in, as
far as they are files. -/
def Kept (fs : FileSystem) (paths : List String) (r : Record) : Prop :=
  ∀ directory package name, segments r.canonical = package ++ [name] →
    (∀ s ∈ package, Ordinary s) →
    fs.resolve r.absolute = .ok (moduleFile directory r.canonical) →
    ∀ q, q ≠ [] → q <+: package → ∀ content mode,
      fs.find? (directory ++ q ++ [packageInit ++ "." ++ sourceExtension]) =
        some (.file content mode) →
      ofSegments (q ++ [packageInit]) ∈ paths

/-- The packages above a place are those of the importer that it belongs to. -/
theorem kept_of_importer {paths : List String} {root : String} {i : Record} {front : List String}
    (linkless : c.files.Linkless) (rooted : Rooted root i.canonical i.absolute)
    (hfile : c.files.isFile i.absolute = true) (kept : Kept c.files paths i)
    (hfront : front <+: segments i.logicalDirectory)
    (inside : ∀ s ∈ normalSegments (segments i.logicalDirectory), Ordinary s)
    (hne : normalSegments front ≠ []) {content : ByteArray} {mode : Nat}
    (there : c.files.find? (c.files.spelled root ++ normalSegments front ++
      [packageInit ++ "." ++ sourceExtension]) = some (.file content mode)) :
    ofSegments (normalSegments front ++ [packageInit]) ∈ paths := by
  obtain ⟨above, package, name, -, hnormal, hc, -, -⟩ := rooted.collapses
  have hdirectory : segments i.logicalDirectory = if package = [] then [""] else package := by
    rw [Record.logicalDirectory, segments_directory, hc, List.dropLast_concat]
  by_cases hp : package = []
  · rw [hdirectory, if_pos hp] at hfront
    exact absurd (normalSegments_of_prefix_root hfront) hne
  · rw [hdirectory, if_neg hp] at hfront inside
    rw [hnormal] at inside
    have hsame : normalSegments front = front :=
      normalSegments_ordinary fun s hs => inside s (hfront.mem hs)
    rw [hsame] at hne there ⊢
    exact kept _ package name hc inside (rooted.resolve linkless hfile) front hne hfront _ _ there

/-- What is reached from records whose packages are kept has its packages kept: those on the way to
the place are the importer's, the others are asked for with it. -/
theorem Reached.kept {before : List Record} {r : Record} {paths : List String}
    (linkless : c.files.Linkless) (plain : ∀ name ∈ names, (Reference.ofDotted name).Plain)
    (sound : c.Sound entry source names before) (kept : ∀ s ∈ before, Kept c.files paths s)
    (complete : ∀ importer reference, Asks entry source names before importer reference →
      ∀ m ∈ c.found importer reference, m.canonical ∈ paths)
    (short : r.absolute.utf8ByteSize + 7 < 4096)
    (h : c.Reached entry source names before ⟨r.canonical, r.absolute⟩) :
    Kept c.files paths r := by
  intro directory package name hc inside hfile q hne hpre content mode there
  obtain ⟨importer, reference, asks, hm⟩ := h
  have complete := complete importer reference asks
  have plain' := asks.plain plain
  obtain ⟨place, hplace, hvalue⟩ := exists_place hm
  rw [found] at hm complete
  rw [hvalue] at hm complete
  obtain ⟨k, hk, hm⟩ := mem_matchesIn hm
  obtain ⟨hold, hm⟩ := matchAt_eq_some.1 hm
  obtain ⟨hcanonical, habsolute⟩ := Match.mk.inj hm
  obtain ⟨init, last, hs, ho⟩ := candidate_ordinary plain' hk
  have hr := isAbsolute_candidate plain' hk
  have lies : ∀ i, importer = some i → c.Lies i := by
    rintro i rfl
    exact sound.rooted plain i asks.importer_mem
  obtain ⟨root, -, under, hbase⟩ := under_of_mem_places lies hplace
  have hbelow : package = normalSegments (segments place.2 ++ init) ∧ name = last := by
    rw [hcanonical, segments_below, hs, ← List.append_assoc,
      normalSegments_concat_ordinary _ ho, if_neg (by simp)] at hc
    obtain ⟨hp, hn⟩ := List.append_inj' hc rfl
    exact ⟨hp.symm, (List.singleton_inj.1 hn).symm⟩
  obtain ⟨hpackage, rfl⟩ := hbelow
  obtain rfl : directory = c.files.spelled root := by
    have hroot := (under.rooted hs ho hr).resolve linkless hold
    rw [← habsolute, ← hcanonical, hfile, moduleFile_inside hc inside,
      moduleFile_inside hc inside] at hroot
    simpa using hroot
  obtain ⟨front, hfront, rfl⟩ := exists_prefix_of_prefix (hpackage ▸ hpre)
  rcases prefix_append_cases hfront with hfront | ⟨above, habove, hpre', rfl⟩
  · rcases hbase with hbase | ⟨i, rfl, rooted, hbase⟩
    · rw [hbase] at hfront
      exact absurd (normalSegments_of_prefix_root hfront) hne
    · rw [hbase] at hfront hpackage
      have inside' : ∀ s ∈ normalSegments (segments i.logicalDirectory), Ordinary s :=
        ordinary_of_append (hpackage ▸ inside)
      exact kept_of_importer linkless rooted (sound.reached asks.importer_mem).isFile
        (kept i asks.importer_mem) hfront inside' hne there
  · obtain ⟨m, hm, hcm⟩ := initializer_matched linkless under plain' hk hold hs ho habove hpre'
      (habsolute ▸ short) (fun s hin => inside s (hpre.mem hin)) there
    rw [← hcm]
    exact complete m hm

theorem importName_initializer {r : Record} {q : List String} (hslash : ∀ s ∈ q, '/' ∉ s.toList)
    (h : r.canonical = ofSegments (q ++ [packageInit])) : r.importName = dottedName q := by
  have hs : segments r.canonical = q ++ [packageInit] := by
    rw [h]
    refine Path.segments_intercalate (by simp) fun s hs => ?_
    rcases List.mem_append.1 hs with hs | hs
    · exact hslash s hs
    · rw [List.mem_singleton.1 hs]
      decide
  simp [Record.importName, importSegments, isPackage, hs]

/-- **A closure loses no package above its modules.** Without links, and with names that are dotted,
the file of a module that does not lead outside is where its path leads from some search root. If a
package that the module lies in below that directory has an initializer there, the closure has that
too, and the importer of the bundle has something under the name of the package. No module's path
may come within seven bytes of the longest that the file system takes: an initializer that no path
reaches is not found. -/
theorem ancestors_kept (linkless : c.files.Linkless) (dotted : ∀ name ∈ names, DottedForm name)
    {registry : Registry} (h : (c.closure entry source names).outcome = .ok registry)
    (short : ∀ r ∈ registry.records, r.absolute.utf8ByteSize + 7 < 4096) {r : Record}
    (hr : r ∈ registry.records) (hin : leadsOutside r.canonical = false) :
    (∃ root ∈ c.resolver.roots,
      c.files.resolve r.absolute = .ok (moduleFile (c.files.spelled root) r.canonical)) ∧
    ∀ directory, c.files.resolve r.absolute = .ok (moduleFile directory r.canonical) →
      ∀ q rest, segments r.canonical = q ++ rest → q ≠ [] → rest ≠ [] →
        (∃ content mode, c.files.find?
          (directory ++ q ++ [packageInit ++ "." ++ sourceExtension]) =
            some (.file content mode)) →
        ofSegments (q ++ [packageInit]) ∈ registry.paths ∧
          (ImportTable.ofRecords registry.records).find? (dottedName q) ≠ some .emptyPackage := by
  have plain : ∀ name ∈ names, (Reference.ofDotted name).Plain :=
    fun name hname => (dotted name hname).spelled.plain
  have sound := (closure_walking h).1.sound
  have complete := (closure_reaches h).2.2.2
  have kept : ∀ r ∈ registry.records, Kept c.files registry.paths r := by
    refine sound.induction fun before r after hsplit kept reached => ?_
    have hbefore : ∀ s ∈ before, s ∈ registry.records := by
      intro s hs
      simp [hsplit, hs]
    exact reached.kept linkless plain (hsplit ▸ sound).of_append kept
      (fun importer reference asks => complete importer reference (asks.mono hbefore))
      (short r (by simp [hsplit]))
  obtain ⟨root, hroot, rooted⟩ := sound.rooted plain r hr
  refine ⟨⟨root, hroot, rooted.resolve linkless (sound.reached hr).isFile⟩, ?_⟩
  rintro directory hfile q rest hq hne hrest ⟨content, mode, there⟩
  obtain ⟨-, package, name, -, -, hc, -, -⟩ := rooted.collapses
  have hpre : q <+: package := by
    rcases List.prefix_concat_iff.1 (hc ▸ ⟨rest, hq.symm⟩ : q <+: package ++ [name]) with hq' | hpre
    · refine absurd ?_ hrest
      rw [hc, ← hq'] at hq
      simpa using hq
    · exact hpre
  have hpath := kept r hr directory package name hc (rooted.inside hc hin) hfile q hne hpre content
    mode there
  refine ⟨hpath, ?_⟩
  obtain ⟨s, hs, hcs⟩ := List.mem_map.1 hpath
  obtain ⟨t, -, -, ht⟩ := ImportTable.find?_ofRecords hs
  rw [importName_initializer (slash_not_mem hq) hcs] at ht
  rw [ht]
  intro hempty
  cases hempty

/-- A package in which one module imports its neighbour in a package below. -/
def nested : Collector where
  files := { entries := [
    (["pkg"], .directory), (["pkg", "__init__.py"], .file "".toUTF8 0o644),
    (["pkg", "sub"], .directory),
    (["pkg", "sub", "a.py"], .file "from . import b\n".toUTF8 0o644),
    (["pkg", "sub", "b.py"], .file "".toUTF8 0o644)] }
  resolver := ⟨["/"]⟩
  mode := .strict

theorem steps_nested :
    (extractImports "import pkg.sub.a\n" "/main.py").outcome = .ok [⟨"pkg/sub/a", []⟩] ∧
    nested.lookUp none "/main.py" (followed [⟨"pkg/sub/a", []⟩]) =
      .ok [⟨"pkg/sub/a", "/pkg/sub/a.py"⟩, ⟨"pkg/__init__", "/pkg/__init__.py"⟩] ∧
    nested.expand ⟨"pkg/sub/a", "/pkg/sub/a.py"⟩ =
      .ok (⟨"pkg/sub/a", "/pkg/sub/a.py", "from . import b\n"⟩,
        [⟨"pkg/sub/b", "/pkg/sub/./b.py"⟩]) ∧
    nested.expand ⟨"pkg/sub/b", "/pkg/sub/./b.py"⟩ =
      .ok (⟨"pkg/sub/b", "/pkg/sub/./b.py", ""⟩, []) ∧
    nested.expand ⟨"pkg/__init__", "/pkg/__init__.py"⟩ =
      .ok (⟨"pkg/__init__", "/pkg/__init__.py", ""⟩, []) ∧
    nested.files.resolve "/pkg/sub/./b.py" = .ok (moduleFile [] "pkg/sub/b") := by
  decide +kernel

theorem closure_nested : (nested.closure "/main.py" "import pkg.sub.a\n" []).outcome =
    .ok ⟨[⟨"pkg/sub/a", "/pkg/sub/a.py", "from . import b\n"⟩,
      ⟨"pkg/sub/b", "/pkg/sub/./b.py", ""⟩, ⟨"pkg/__init__", "/pkg/__init__.py", ""⟩]⟩ := by
  obtain ⟨entry, found, first, second, third, -⟩ := steps_nested
  exact passes_iff.1 (((((Passes.start entry found).fresh (by decide) first).fresh (by decide)
    second).popped.popped).fresh (by decide) third).popped.popped

theorem ancestors_kept_nested : ∃ registry,
    (nested.closure "/main.py" "import pkg.sub.a\n" []).outcome = .ok registry ∧
      "pkg/__init__" ∈ registry.paths ∧
      (ImportTable.ofRecords registry.records).find? "pkg" ≠ some .emptyPackage := by
  obtain ⟨-, -, -, -, -, file⟩ := steps_nested
  have kept := (ancestors_kept (by simp [Linkless, nested]) (by simp) closure_nested (by decide)
    (r := ⟨"pkg/sub/b", "/pkg/sub/./b.py", ""⟩) (by decide) (by decide)).2 [] file ["pkg"]
    ["sub", "b"] (by decide) (by simp) (by simp) ⟨_, _, rfl⟩
  exact ⟨_, closure_nested, kept⟩

/-! ## An initializer that is out of reach -/

/-- A root whose path is nearly as long as paths can be. -/
def lengthy : Collector where
  files := { entries := [
    (["a"], .directory), (["a", "x.py"], .file "from ..q import m\n".toUTF8 0o644),
    (["q"], .directory), (["q", "__init__.py"], .file "".toUTF8 0o644),
    (["q", "m.py"], .file "".toUTF8 0o644)] }
  resolver := ⟨[Path.points 2039 "."]⟩
  mode := .lenient

theorem linkless_lengthy : lengthy.files.Linkless := by
  simp [Linkless, lengthy]

/-- What is found and read without the points in front, and what is left of the candidates when
their paths have become too long. -/
theorem steps_lengthy :
    (extractImports "import a.x\n" "main.py").outcome = .ok [⟨"a/x", []⟩] ∧
    followed [⟨"a/x", []⟩] = [⟨"a/x", []⟩] ∧
    matchesIn lengthy.files "." "" ((Reference.candidates ⟨"a/x", []⟩).filter fun k =>
      2 * 2039 + (Path.join "." k.fileName).utf8ByteSize < 4096) = [⟨"a/x", "./a/x.py"⟩] ∧
    lengthy.files.readText "./a/x.py" = .ok "from ..q import m\n" ∧
    (extractImports "from ..q import m\n" (Path.points 2039 "./a/x.py")).outcome =
      .ok [⟨"../q", ["m"]⟩] ∧
    followed [⟨"../q", ["m"]⟩] = [⟨"../q", ["m"]⟩] ∧
    matchesIn lengthy.files "./a" "a" ((Reference.candidates ⟨"../q", ["m"]⟩).filter fun k =>
      2 * 2039 + (Path.join "./a" k.fileName).utf8ByteSize < 4096) =
        [⟨"q/m", "./a/../q/m.py"⟩] ∧
    lengthy.files.readText "./a/../q/m.py" = .ok "" ∧
    (extractImports "" (Path.points 2039 "./a/../q/m.py")).outcome = .ok [] ∧
    lengthy.files.resolve "./a/../q/m.py" = .ok (moduleFile [] "q/m") ∧
    lengthy.files.isFile (Path.join "." "q/__init__.py") = true ∧
    (∀ k ∈ Reference.candidates ⟨"a/x", []⟩, Path.isAbsolute k.fileName = false) ∧
    ∀ k ∈ Reference.candidates ⟨"../q", ["m"]⟩, Path.isAbsolute k.fileName = false := by
  decide +kernel

theorem found_entry_lengthy : lengthy.found none ⟨"a/x", []⟩ =
    [lengthen 2039 ⟨"a/x", "./a/x.py"⟩] := by
  obtain ⟨-, -, short, -, -, -, -, -, -, -, -, relative, -⟩ := steps_lengthy
  have there : matchesIn lengthy.files (Path.points 2039 ".") ""
      (Reference.candidates ⟨"a/x", []⟩) = _ :=
    matchesIn_points linkless_lengthy rfl (by decide) (by decide) relative 2039
  rw [short] at there
  have places : lengthy.resolver.places none = [(Path.points 2039 ".", "")] := rfl
  rw [found, resolve_eq, places, List.map_singleton, there]
  rfl

def lengthyModule : Record := ⟨"a/x", Path.points 2039 "./a/x.py", "from ..q import m\n"⟩

/-- The initializer of `q` is a candidate too, but its path beside `a.x` is too long. -/
theorem found_module_lengthy : lengthy.found (some lengthyModule) ⟨"../q", ["m"]⟩ =
    [lengthen 2039 ⟨"q/m", "./a/../q/m.py"⟩] := by
  obtain ⟨-, -, -, -, -, -, short, -, -, -, -, -, relative⟩ := steps_lengthy
  have there : matchesIn lengthy.files (Path.points 2039 "./a") "a"
      (Reference.candidates ⟨"../q", ["m"]⟩) = _ :=
    matchesIn_points linkless_lengthy rfl (by decide) (by decide) relative 2039
  rw [short] at there
  have parent : Path.parent? lengthyModule.absolute = some (Path.points 2039 "./a") := by
    have above : Path.segments (Path.points 2039 "./a") =
        List.replicate 2039 "." ++ ["."] ++ ["a"] := by
      rw [Path.segments_points, List.append_assoc]
      congr 1
    have file : Path.segments lengthyModule.absolute =
        Path.segments (Path.points 2039 "./a") ++ ["x.py"] := by
      rw [lengthyModule, Path.segments_points, Path.segments_points, List.append_assoc]
      congr 1
    exact Path.parent?_eq file (by decide) above (by decide)
  have places : lengthy.resolver.places (some lengthyModule) =
      [(Path.points 2039 "./a", "a"), (Path.points 2039 ".", "")] := by
    rw [places, Option.bind_some, parent]
    rfl
  rw [found, resolve_eq, places, List.map_cons, there]
  rfl

theorem closure_lengthy : (lengthy.closure "main.py" "import a.x\n" []).outcome =
    .ok ⟨[lengthyModule, ⟨"q/m", Path.points 2039 "./a/../q/m.py", ""⟩]⟩ := by
  obtain ⟨entry, entry', -, module, imports, imports', -, other, none', -⟩ := steps_lengthy
  have found : lengthy.lookUp none "main.py" (followed [⟨"a/x", []⟩]) =
      .ok [lengthen 2039 ⟨"a/x", "./a/x.py"⟩] := by
    rw [lookUp_lenient _ rfl, entry', List.flatMap_singleton, found_entry_lengthy]
  have first : lengthy.expand (lengthen 2039 ⟨"a/x", "./a/x.py"⟩) =
      .ok (lengthyModule, [lengthen 2039 ⟨"q/m", "./a/../q/m.py"⟩]) := by
    have file : Path.segments "./a/x.py" = [".", "a"] ++ ["x.py"] := by decide
    refine lengthy.expand_of_read (readSource_points linkless_lengthy rfl file (by decide)
      (by decide) (by decide) module) imports ?_
    rw [lookUp_lenient _ rfl, imports', List.flatMap_singleton]
    exact congrArg Except.ok found_module_lengthy
  have second : lengthy.expand (lengthen 2039 ⟨"q/m", "./a/../q/m.py"⟩) =
      .ok (⟨"q/m", Path.points 2039 "./a/../q/m.py", ""⟩, []) := by
    have file : Path.segments "./a/../q/m.py" = [".", "a", "..", "q"] ++ ["m.py"] := by decide
    exact lengthy.expand_of_read (readSource_points linkless_lengthy rfl file (by decide)
      (by decide) (by decide) other) none' rfl
  exact passes_iff.1 (((Passes.start entry found).fresh (by decide) first).fresh (by decide)
    second).popped.popped.popped

/-- The closure of `lengthy` has the module `q.m` but not the initializer of `q`, though that is a
file below the same root, and the path from the root to it is not too long. -/
theorem ancestors_lost : lengthy.files.Linkless ∧ ∃ registry,
    (lengthy.closure "main.py" "import a.x\n" []).outcome = .ok registry ∧
      ∃ r ∈ registry.records, leadsOutside r.canonical = false ∧
        lengthy.files.resolve r.absolute =
          .ok (moduleFile (lengthy.files.spelled (Path.points 2039 ".")) r.canonical) ∧
        segments r.canonical = ["q"] ++ ["m"] ∧
        (∃ content mode, lengthy.files.find?
          (lengthy.files.spelled (Path.points 2039 ".") ++ ["q"] ++
            [packageInit ++ "." ++ sourceExtension]) = some (.file content mode)) ∧
        lengthy.files.isFile (Path.join (Path.points 2039 ".") "q/__init__.py") = true ∧
        ofSegments (["q"] ++ [packageInit]) ∉ registry.paths := by
  obtain ⟨-, -, -, -, -, -, -, -, -, place, there, -⟩ := steps_lengthy
  have spelled : lengthy.files.spelled (Path.points 2039 ".") = [] := by
    rw [spelled_points _ (by decide)]
    decide
  refine ⟨linkless_lengthy, _, closure_lengthy, _, List.mem_cons_of_mem _ List.mem_cons_self,
    by decide, ?_, by decide, ⟨"".toUTF8, 0o644, by rw [spelled]; rfl⟩, ?_, by decide⟩
  · have file : Path.segments "./a/../q/m.py" = [".", "a", "..", "q"] ++ ["m.py"] := by decide
    rw [spelled]
    exact (resolve_points linkless_lengthy rfl file (by decide) (by decide)).2 ⟨by decide, place⟩
  · have file : Path.segments (Path.join "." "q/__init__.py") = [".", "q"] ++ ["__init__.py"] := by
      decide
    rw [Path.join_points (by decide) (by decide)]
    exact (isFile_points linkless_lengthy rfl file (by decide) (by decide)).2 ⟨by decide, there⟩

end Collector

end ScriptBundle
