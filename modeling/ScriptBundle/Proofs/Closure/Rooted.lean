import ScriptBundle.Proofs.Closure.Reach
import ScriptBundle.Proofs.FileSystem.Linkless
import ScriptBundle.Proofs.Import.Candidates

namespace ScriptBundle

open LogicalPath FileSystem

/-- The place that the file of a module has by its canonical path, seen from a directory. -/
def moduleFile (directory : Location) (canonical : String) : Location :=
  (segments (canonical ++ "." ++ sourceExtension)).foldl enter directory

/-- The file of a module lies under a root by the module's canonical path, which is in normal form:
the file is named for the last segment, and what stands above it collapses to the root with the
other segments behind. -/
structure Rooted (root canonical absolute : String) : Prop where
  sameStart : Path.isAbsolute absolute = Path.isAbsolute root
  collapses : ∃ above package name, Ordinary name ∧ normalSegments package = package ∧
    segments canonical = package ++ [name] ∧
    segments absolute = above ++ [name ++ "." ++ sourceExtension] ∧
    normalSegments above = normalSegments (segments root ++ package)

namespace Resolver

/-- A place lies under a root by its logical name. -/
structure Under (root : String) (place : String × String) : Prop where
  sameStart : Path.isAbsolute place.1 = Path.isAbsolute root
  collapses : normalSegments (segments place.1) =
    normalSegments (segments root ++ segments place.2)

theorem Under.root (root : String) : Under root (root, "") where
  sameStart := rfl
  collapses := normalSegments_congr (by simp [segments, Text.pieces, Path.counts])

/-- What is seen from a place collapses to the root with its path below the logical name behind. -/
theorem Under.append {root : String} {place : String × String} (h : Under root place)
    {above : List String} (hf : above.filter Path.counts = (segments place.1).filter Path.counts)
    (l : List String) :
    normalSegments (above ++ l) =
      normalSegments (segments root ++ normalSegments (segments place.2 ++ l)) :=
  calc normalSegments (above ++ l)
      = normalSegments (segments place.1 ++ l) :=
        normalSegments_congr (by rw [List.filter_append, List.filter_append, hf])
    _ = normalSegments (normalSegments (segments root ++ segments place.2) ++ l) := by
        rw [← normalSegments_append_left, h.collapses]
    _ = normalSegments (segments root ++ (segments place.2 ++ l)) := by
        rw [normalSegments_append_left, List.append_assoc]
    _ = normalSegments (segments root ++ normalSegments (segments place.2 ++ l)) :=
        (normalSegments_append_right _ _).symm

end Resolver

open Resolver

theorem segments_file {canonical name : String} {package : List String}
    (h : segments canonical = package ++ [name]) :
    segments (canonical ++ "." ++ sourceExtension) = package ++ [name ++ "." ++ sourceExtension] :=
  segments_fileName (k := ⟨.moduleFile, canonical⟩) h

/-- The directory of a module lies under the module's root by the module's package. -/
theorem Rooted.under {root directory : String} {r : Record}
    (h : Rooted root r.canonical r.absolute) (hp : Path.parent? r.absolute = some directory) :
    Under root (directory, r.logicalDirectory) := by
  obtain ⟨above, package, name, ho, -, hc, ha, hn⟩ := h.collapses
  have hcounts : Path.counts (name ++ "." ++ sourceExtension) = true := counts_file name
  refine ⟨(Path.isAbsolute_parent? ha hcounts hp).trans h.sameStart, ?_⟩
  obtain ⟨_, hp', hfilter⟩ := Path.parent?_eq_some ha hcounts
  obtain rfl := Option.some.inj (hp.symm.trans hp')
  have hpackage : (segments r.logicalDirectory).filter Path.counts =
      package.filter Path.counts := by
    rw [Record.logicalDirectory, segments_directory, hc, List.dropLast_concat]
    split
    · rename_i hnil
      rw [hnil]
      rfl
    · rfl
  calc normalSegments (segments directory)
      = normalSegments above := normalSegments_congr hfilter
    _ = normalSegments (segments root ++ package) := hn
    _ = normalSegments (segments root ++ segments r.logicalDirectory) :=
        normalSegments_congr (by rw [List.filter_append, List.filter_append, hpackage])

/-- What a place under a root holds lies under the root. -/
theorem Resolver.Under.rooted {root : String} {place : String × String} (h : Under root place)
    {k : Candidate} {init : List String} {last : String} (hs : segments k.path = init ++ [last])
    (ho : Ordinary last) (hr : Path.isAbsolute k.fileName = false) :
    Rooted root (below place.2 k.path) (Path.join place.1 k.fileName) where
  sameStart := (Path.isAbsolute_join hr).trans h.sameStart
  collapses := by
    obtain ⟨above, hfilter, hj⟩ := Path.segments_join place.1
    have hbelow : normalSegments (segments place.2 ++ segments k.path) =
        normalSegments (segments place.2 ++ init) ++ [last] := by
      rw [hs, ← List.append_assoc, normalSegments_concat_ordinary _ ho]
    refine ⟨above ++ init, normalSegments (segments place.2 ++ init), last, ho,
      normalSegments_normalSegments _, ?_, ?_, h.append hfilter init⟩
    · rw [segments_below, hbelow, if_neg (by simp)]
    · rw [segments_eq, hj _ hr, ← segments_eq, segments_fileName hs, List.append_assoc]

/-- The file of a module is where its root and its canonical path say. -/
theorem Rooted.spelled {root canonical absolute : String} (h : Rooted root canonical absolute)
    (fs : FileSystem) : fs.spelled absolute = moduleFile (fs.spelled root) canonical := by
  obtain ⟨above, package, name, -, -, hc, ha, hn⟩ := h.collapses
  have habove : ∀ start : Location, above.foldl enter start =
      package.foldl enter ((segments root).foldl enter start) := by
    intro start
    rw [← foldl_enter_normalSegments start above, hn, foldl_enter_normalSegments,
      List.foldl_append]
  unfold FileSystem.spelled FileSystem.start moduleFile
  rw [← segments_eq, ← segments_eq, ha, segments_file hc, h.sameStart, List.foldl_append,
    List.foldl_append, habove]

/-- Without links the path of a module leads there, if it leads to a file at all. -/
theorem Rooted.resolve {fs : FileSystem} (linkless : fs.Linkless)
    {root canonical absolute : String} (h : Rooted root canonical absolute)
    (hf : fs.isFile absolute = true) :
    fs.resolve absolute = .ok (moduleFile (fs.spelled root) canonical) := by
  obtain ⟨place, -, -, hr, -⟩ := isFile_iff.1 hf
  obtain ⟨above, -, name, -, -, -, ha, -⟩ := h.collapses
  rw [hr, spelled_of_resolve linkless ha (ordinary_file name).1 hr, h.spelled]

namespace Collector

variable {c : Collector} {entry source : String} {names : List String}

/-- What a source imports is plain, and so is what is asked for by plain names. -/
theorem Asks.plain {records : List Record} {importer : Option Record} {reference : Reference}
    (h : Asks entry source names records importer reference)
    (plain : ∀ name ∈ names, (Reference.ofDotted name).Plain) : reference.Plain := by
  cases h with
  | entry hf | record _ hf =>
    obtain ⟨imports, hi, hr, -⟩ := hf
    exact (spelled_of_extract hi _ hr).plain
  | name hn => exact plain _ hn

/-- A module lies under some search root. -/
def Lies (c : Collector) (r : Record) : Prop :=
  ∃ root ∈ c.resolver.roots, Rooted root r.canonical r.absolute

/-- The places in which references are looked for lie under search roots: a root itself, or the
directory of an importer. -/
theorem under_of_mem_places {importer : Option Record}
    (lies : ∀ i, importer = some i → c.Lies i) {place : String × String}
    (h : place ∈ c.resolver.places importer) :
    ∃ root ∈ c.resolver.roots, Under root place ∧
      (place.2 = "" ∨ ∃ i, importer = some i ∧ Rooted root i.canonical i.absolute ∧
        place.2 = i.logicalDirectory) := by
  rcases mem_places.1 h with ⟨i, directory, hi, hp, rfl⟩ | ⟨root, hroot, rfl⟩
  · obtain ⟨root, hroot, rooted⟩ := lies i hi
    exact ⟨root, hroot, rooted.under hp, .inr ⟨i, hi, rooted, rfl⟩⟩
  · exact ⟨root, hroot, .root root, .inl rfl⟩

theorem rooted_of_found {importer : Option Record} {reference : Reference} {m : Match}
    (h : m ∈ c.found importer reference) (plain : reference.Plain)
    (lies : ∀ i, importer = some i → c.Lies i) :
    ∃ root ∈ c.resolver.roots, Rooted root m.canonical m.absolute := by
  obtain ⟨place, hplace, k, hk, -, rfl⟩ := mem_resolve h
  obtain ⟨root, hroot, under, -⟩ := under_of_mem_places lies hplace
  obtain ⟨init, last, hs, ho⟩ := candidate_ordinary plain hk
  exact ⟨root, hroot, under.rooted hs ho (isAbsolute_candidate plain hk)⟩

theorem Reached.rooted {records : List Record} {m : Match}
    (h : c.Reached entry source names records m)
    (plain : ∀ name ∈ names, (Reference.ofDotted name).Plain)
    (lies : ∀ r ∈ records, c.Lies r) :
    ∃ root ∈ c.resolver.roots, Rooted root m.canonical m.absolute := by
  obtain ⟨importer, reference, asks, hm⟩ := h
  refine rooted_of_found hm (asks.plain plain) ?_
  rintro i rfl
  exact lies i asks.importer_mem

theorem Reached.isFile {records : List Record} {m : Match}
    (h : c.Reached entry source names records m) : c.files.isFile m.absolute = true := by
  obtain ⟨importer, reference, -, hm⟩ := h
  obtain ⟨place, -, k, -, hk, rfl⟩ := mem_resolve hm
  exact hk

/-- Every record of a run lies under a search root: importers hand theirs on. -/
theorem Sound.rooted {records : List Record} (h : c.Sound entry source names records)
    (plain : ∀ name ∈ names, (Reference.ofDotted name).Plain) : ∀ r ∈ records, c.Lies r :=
  h.induction fun _ _ _ _ before reached => reached.rooted plain before

end Collector

end ScriptBundle
