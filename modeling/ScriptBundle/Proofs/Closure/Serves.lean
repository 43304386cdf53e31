import ScriptBundle.Proofs.Bundle.ImportTable
import ScriptBundle.Proofs.Closure.Reach
import ScriptBundle.Proofs.Import.Candidates

namespace ScriptBundle

open Python LogicalPath

namespace Resolver

theorem moduleFile_mem (name : DottedName) (items : List String) :
    ⟨.moduleFile, slashed name.text⟩ ∈ Reference.candidates ⟨slashed name.text, items⟩ := by
  have hlast : ∀ s, (name.words.map Word.text).getLast? = some s → Ordinary s := by
    intro s hs
    obtain ⟨w, -, rfl⟩ := List.mem_map.1 (List.mem_of_getLast? hs)
    exact w.ordinary
  have hown : ¬ ((segments (slashed name.text)).getLast? = some "." ∨
      (segments (slashed name.text)).getLast? = some "..") := by
    rw [segments_slashed]
    rintro (h | h)
    · exact (hlast _ h).2.1 rfl
    · exact (hlast _ h).2.2 rfl
  simp [Reference.candidates, hown]

theorem packageInit_mem (name : DottedName) (items : List String) :
    ⟨.packageInit, slashed name.text ++ "/" ++ packageInit⟩ ∈
      Reference.candidates ⟨slashed name.text, items⟩ := by
  have hpath : ofSegments (segments (slashed name.text)) = slashed name.text :=
    Path.intercalate_segments _
  have hmem := @initializer_mem ⟨slashed name.text, items⟩ (segments (slashed name.text))
    (Path.segments_ne_nil _) (List.prefix_refl _)
  simpa only [initializer, hpath] using hmem

end Resolver

namespace Collector

open Resolver

/-- The dotted name of a module below a logical directory. -/
def nameBelow (base : String) (name : DottedName) : String :=
  dottedName (normalSegments (segments base) ++ name.words.map Word.text)

theorem nameBelow_root (name : DottedName) : nameBelow "" name = name.text := rfl

theorem segments_below_words (base : String) {path : String} {words : List String}
    (hp : segments path = words) (hne : words ≠ []) (ho : ∀ s ∈ words, Ordinary s) :
    segments (below base path) = normalSegments (segments base) ++ words := by
  rw [segments_below, hp, normalSegments_append _ ho, if_neg (by simp [hne])]

theorem ordinary_words (name : DottedName) : ∀ s ∈ name.words.map Word.text, Ordinary s := by
  intro s hs
  obtain ⟨w, -, rfl⟩ := List.mem_map.1 hs
  exact w.ordinary

/-- The file of a module goes by the module's name, unless it is that of a package. -/
theorem name_moduleFile (base : String) {name : DottedName}
    (h : (name.words.map Word.text).getLast? ≠ some packageInit) :
    dottedName (importSegments (below base (slashed name.text))) = nameBelow base name := by
  have hs := segments_below_words base (segments_slashed name) (by simp [DottedName.words])
    (ordinary_words name)
  have hlast : isPackage (below base (slashed name.text)) = false := by
    obtain ⟨last, hl⟩ : ∃ last, (name.words.map Word.text).getLast? = some last :=
      Option.isSome_iff_exists.1 (by simp [DottedName.words])
    rw [hl] at h
    simpa [isPackage, hs, List.getLast?_append, hl] using h
  rw [importSegments, hlast, hs]
  rfl

/-- The initializer of a package goes by the package's name. -/
theorem name_packageInit (base : String) (name : DottedName) :
    dottedName (importSegments (below base (slashed name.text ++ "/" ++ packageInit))) =
      nameBelow base name := by
  have hinit : Ordinary packageInit := by
    refine ⟨?_, ?_, ?_⟩ <;> decide
  have hp : segments (slashed name.text ++ "/" ++ packageInit) =
      name.words.map Word.text ++ [packageInit] := by
    rw [segments_extension _ _ (by decide), segments_slashed]
  have hs := segments_below_words base hp (by simp) (by
    intro s hin
    rcases List.mem_append.1 hin with hin | hin
    · exact ordinary_words name s hin
    · exact List.mem_singleton.1 hin ▸ hinit)
  have hlast : isPackage (below base (slashed name.text ++ "/" ++ packageInit)) = true := by
    rw [isPackage, hs]
    simp
  rw [importSegments, hlast, hs, ← List.append_assoc]
  simp [nameBelow]

/-- The importer of a bundle has an entry for a name. -/
def Served (records : List Record) (name : String) : Prop :=
  ((ImportTable.ofRecords records).find? name).isSome = true

instance (records : List Record) (name : String) : Decidable (Served records name) :=
  inferInstanceAs (Decidable (_ = true))

theorem served_of_mem {records : List Record} {r : Record} (h : r ∈ records) :
    Served records (dottedName (importSegments r.canonical)) :=
  ImportTable.isSome_ofRecords h

variable {c : Collector} {entry source : String} {names : List String} {registry : Registry}

/-- A strict closure answers every import at the first place with any candidate, and collects all
candidates that the place has. -/
theorem closure_collects (strict : c.mode = .strict)
    (h : (c.closure entry source names).outcome = .ok registry) {importer : Option Record}
    {reference : Reference} (asks : Asks entry source names registry.records importer reference) :
    ∃ before place after, c.resolver.places importer = before ++ place :: after ∧
      (∀ p ∈ before, ∀ k ∈ reference.candidates, ¬ Holds c.files p k) ∧
      (∃ k ∈ reference.candidates, Holds c.files place k) ∧
      ∀ k ∈ reference.candidates, Holds c.files place k →
        below place.2 k.path ∈ registry.paths := by
  have hne : c.found importer reference ≠ [] := by
    have := closure_resolved h asks
    simpa [refuses, strict] using this
  have hreach := (closure_reaches h).2.2.2 importer reference asks
  rw [found, resolve_eq] at hne hreach
  obtain ⟨before, after, hsplit, hbefore⟩ := firstAny_ne_nil hne
  obtain ⟨front, rest, hplaces, rfl, hrest⟩ := List.map_eq_append_iff.1 hsplit
  obtain ⟨place, after, rfl, hplace, rfl⟩ := List.map_eq_cons_iff.1 hrest
  rw [← hplace] at hne hreach
  refine ⟨front, place, after, hplaces, ?_, exists_holds hne, ?_⟩
  · intro p hp k hk hh
    obtain ⟨m, hm, -⟩ := canonical_mem_matchesIn hk hh
    have hempty := hbefore _ (List.mem_map_of_mem hp)
    rw [hempty] at hm
    cases hm
  · intro k hk hh
    obtain ⟨m, hm, hc⟩ := canonical_mem_matchesIn hk hh
    exact hc ▸ hreach m hm

/-- **A strict closure serves what it found.** An import of a module is answered at the first place
that has any candidate for it; every candidate there is served under the name of its canonical path;
and if the module itself is there, as a file or as a package, it is served under its name below the
place, which under a root is the name that the import gives. -/
theorem closure_serves (strict : c.mode = .strict)
    (h : (c.closure entry source names).outcome = .ok registry) {importer : Option Record}
    {name : DottedName} {items : List String}
    (asks : Asks entry source names registry.records importer ⟨slashed name.text, items⟩) :
    ∃ before place after, c.resolver.places importer = before ++ place :: after ∧
      (∀ p ∈ before, ∀ k ∈ Reference.candidates ⟨slashed name.text, items⟩,
        ¬ Holds c.files p k) ∧
      (∃ k ∈ Reference.candidates ⟨slashed name.text, items⟩, Holds c.files place k) ∧
      (∀ k ∈ Reference.candidates ⟨slashed name.text, items⟩, Holds c.files place k →
        Served registry.records (dottedName (importSegments (below place.2 k.path)))) ∧
      ((name.words.map Word.text).getLast? ≠ some packageInit ∧
          Holds c.files place ⟨.moduleFile, slashed name.text⟩ ∨
        Holds c.files place ⟨.packageInit, slashed name.text ++ "/" ++ packageInit⟩ →
        Served registry.records (nameBelow place.2 name) ∧
          (place.2 = "" → Served registry.records name.text)) := by
  obtain ⟨before, place, after, hplaces, hbefore, hany, hall⟩ := closure_collects strict h asks
  have hserved : ∀ k ∈ Reference.candidates ⟨slashed name.text, items⟩, Holds c.files place k →
      Served registry.records (dottedName (importSegments (below place.2 k.path))) := by
    intro k hk hh
    obtain ⟨r, hr, hc⟩ := List.mem_map.1 (hall k hk hh)
    have hs := served_of_mem hr
    rwa [hc] at hs
  refine ⟨before, place, after, hplaces, hbefore, hany, hserved, fun hmodule => ?_⟩
  have hname : Served registry.records (nameBelow place.2 name) := by
    rcases hmodule with ⟨hlast, hh⟩ | hh
    · have hs := hserved _ (moduleFile_mem name items) hh
      rwa [name_moduleFile place.2 hlast] at hs
    · have hs := hserved _ (packageInit_mem name items) hh
      rwa [name_packageInit place.2 name] at hs
  refine ⟨hname, fun hroot => ?_⟩
  rwa [hroot, nameBelow_root] at hname

/-- The word that both modules of `cycle` import, one of them. -/
def wordA : Word := ⟨"a", by decide, by decide⟩

theorem cycle_asks (records : List Record) :
    Asks "/main.py" "import a\n" [] records none ⟨slashed (DottedName.text ⟨wordA, []⟩), []⟩ := by
  have entry : (extractImports "import a\n" "/main.py").outcome = .ok [⟨"a", []⟩] := by
    decide +kernel
  have hpath : slashed (DottedName.text ⟨wordA, []⟩) = "a" := by decide +kernel
  rw [hpath]
  exact .entry ⟨_, entry, List.mem_singleton_self _, by decide +kernel⟩

theorem closure_serves_cycle : ∃ registry,
    (cycle.closure "/main.py" "import a\n" []).outcome = .ok registry ∧
      Served registry.records "a" := by
  obtain ⟨before, place, after, hplaces, -, -, -, hserved⟩ :=
    closure_serves rfl closure_cycle (cycle_asks _)
  obtain rfl : place = ("/", "") := by
    have hin : place ∈ cycle.resolver.places none := hplaces ▸ by simp
    simpa [Resolver.places, cycle] using hin
  exact ⟨_, closure_cycle, (hserved (.inl ⟨by decide, by decide +kernel⟩)).2 rfl⟩

def lacking : Collector where
  files := { entries := [(["pkg"], .directory), (["pkg", "__init__.py"], .file "".toUTF8 0o644)] }
  resolver := ⟨["/"]⟩
  mode := .strict

/-- Any match counts, so a closure ends well though nothing is served under the name imported. -/
theorem closure_partial : lacking.mode = .strict ∧
    (lacking.closure "/main.py" "import pkg.missing\n" []).outcome =
      .ok ⟨[⟨"pkg/__init__", "/pkg/__init__.py", ""⟩]⟩ ∧
    Asks "/main.py" "import pkg.missing\n" [] [⟨"pkg/__init__", "/pkg/__init__.py", ""⟩] none
      ⟨slashed "pkg.missing", []⟩ ∧
    ¬ Served [⟨"pkg/__init__", "/pkg/__init__.py", ""⟩] "pkg.missing" := by
  have entry : (extractImports "import pkg.missing\n" "/main.py").outcome =
      .ok [⟨slashed "pkg.missing", []⟩] := by
    decide +kernel
  have found : lacking.lookUp none "/main.py" (followed [⟨slashed "pkg.missing", []⟩]) =
      .ok [⟨"pkg/__init__", "/pkg/__init__.py"⟩] := by
    decide +kernel
  have read : lacking.expand ⟨"pkg/__init__", "/pkg/__init__.py"⟩ =
      .ok (⟨"pkg/__init__", "/pkg/__init__.py", ""⟩, []) := by
    decide +kernel
  have room : Registry.size {} < capacity := by decide +kernel
  refine ⟨rfl, ?_, .entry ⟨_, entry, List.mem_singleton_self _, by decide +kernel⟩, ?_⟩
  · rw [outcome_closure, entry, Trial.ok_bind, found, Trial.ok_bind,
      outcome_walk_fresh _ (by decide) room, read, Trial.ok_bind, outcome_walk_popped,
      outcome_walk_popped, outcome_walk_nil]
    rfl
  · decide +kernel

end Collector

end ScriptBundle
