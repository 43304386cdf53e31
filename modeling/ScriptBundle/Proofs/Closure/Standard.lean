import ScriptBundle.Proofs.Bundle.ImportName
import ScriptBundle.Proofs.Closure.Run

/-!
# Modules of the standard library in a closure

Imports of modules of the standard library are left out, but only the path of an import is looked
at.
-/

namespace ScriptBundle

open LogicalPath Resolver

/-- A candidate for a reference goes by the path of the reference, by a part of it, or by the path
and an item, below the place where it is found. -/
theorem importSegments_candidate {r : Reference} (words : ∀ item ∈ r.items,
    ∃ word : Python.Word, item = word.text) (ordinary : ∀ s ∈ segments r.path, Ordinary s)
    {k : Candidate} (h : k ∈ r.candidates) (base : String) :
    ∃ tail, importSegments (below base k.path) = normalSegments (segments base) ++ tail ∧
      (tail = segments r.path ∨ (∃ rest, rest ≠ [] ∧ segments r.path = tail ++ rest) ∨
        ∃ item ∈ r.items, tail = segments r.path ++ [item]) := by
  have hinit : Ordinary packageInit := by
    refine ⟨?_, ?_, ?_⟩ <;> decide
  have hconcat : ∀ (l : List String) (s : String), (∀ t ∈ l, Ordinary t) → Ordinary s →
      ∀ t ∈ l ++ [s], Ordinary t := by
    intro l s hl hs t ht
    rcases List.mem_append.1 ht with ht | ht
    · exact hl t ht
    · exact List.mem_singleton.1 ht ▸ hs
  rcases segments_candidate words h with ⟨hk, -⟩ | ⟨above, -, ⟨rest, hpre⟩, hk⟩ |
      ⟨word, hword, hk | hk⟩
  · obtain ⟨init, last, hlast⟩ : ∃ init last, segments r.path = init ++ [last] := by
      rcases List.eq_nil_or_concat (segments r.path) with hnil | ⟨init, last, hlast⟩
      · exact absurd hnil (Path.segments_ne_nil r.path)
      · exact ⟨init, last, hlast.trans (List.concat_eq_append ..)⟩
    refine ⟨_, importSegments_below base (hk.trans hlast) (hlast ▸ ordinary), ?_⟩
    split
    · exact .inr (.inl ⟨[last], by simp, hlast⟩)
    · exact .inl hlast.symm
  · have habove : ∀ s ∈ above, Ordinary s := fun s hs => ordinary s (hpre ▸ by simp [hs])
    refine ⟨_, importSegments_below base hk (hconcat _ _ habove hinit), ?_⟩
    rw [if_pos rfl]
    by_cases hrest : rest = []
    · exact .inl (by simpa [hrest] using hpre)
    · exact .inr (.inl ⟨rest, hrest, hpre.symm⟩)
  · refine ⟨_, importSegments_below base hk (hconcat _ _ ordinary word.ordinary), ?_⟩
    split
    · exact .inl rfl
    · exact .inr (.inr ⟨word.text, hword, rfl⟩)
  · have hk : segments k.path = (segments r.path ++ [word.text]) ++ [packageInit] := by
      rw [hk, List.append_assoc]
      rfl
    have hall := hconcat _ _ (hconcat _ _ ordinary word.ordinary) hinit
    refine ⟨_, importSegments_below base hk hall, ?_⟩
    rw [if_pos rfl]
    exact .inr (.inr ⟨word.text, hword, rfl⟩)

namespace Collector

variable {c : Collector} {entry source : String}

/-- Without names asked for, every reference stands in a source and is not listed. -/
theorem Asks.unlisted {records : List Record} {importer : Option Record} {reference : Reference}
    (h : Asks entry source [] records importer reference) :
    reference.Spelled ∧ isStandardModule reference.path = false := by
  cases h with
  | entry hf | record _ hf =>
    obtain ⟨imports, hi, hr, unlisted⟩ := hf
    exact ⟨spelled_of_extract hi _ hr, unlisted⟩
  | name hn => cases hn

/-- **How a module of the standard library gets into a closure.** If no names are asked for and all
imports start from the top, a record that goes by a listed path was brought in by an import whose
own path is not listed: the record is the module of that path below the package of the importer, a
package that the module of that path lies in, or one of the items. -/
theorem standard_collected {registry : Registry}
    (h : (c.closure entry source []).outcome = .ok registry)
    (absolute : ∀ importer reference, Asks entry source [] registry.records importer reference →
      reference.isRelative = false) {r : Record} (hr : r ∈ registry.records)
    (listed : isStandardModule (ofSegments (importSegments r.canonical)) = true) :
    ∃ importer reference, Asks entry source [] registry.records importer reference ∧
      isStandardModule reference.path = false ∧
      ∃ place ∈ c.resolver.places importer, ∃ tail,
        importSegments r.canonical = normalSegments (segments place.2) ++ tail ∧
        (tail = segments reference.path ∧ normalSegments (segments place.2) ≠ [] ∨
          (∃ rest, rest ≠ [] ∧ segments reference.path = tail ++ rest) ∨
          ∃ item ∈ reference.items, tail = segments reference.path ++ [item]) := by
  obtain ⟨importer, reference, asks, hm⟩ := (closure_walking h).1.sound.reached hr
  obtain ⟨spelled, unlisted⟩ := asks.unlisted
  have ordinary := spelled.ordinary (absolute importer reference asks)
  obtain ⟨place, hplace, k, hk, -, heq⟩ := mem_resolve hm
  obtain ⟨hcanonical, -⟩ := Match.mk.inj heq
  obtain ⟨tail, hsegments, htail⟩ := importSegments_candidate spelled.words ordinary hk place.2
  rw [← hcanonical] at hsegments
  refine ⟨importer, reference, asks, unlisted, place, hplace, tail, hsegments, ?_⟩
  rcases htail with rfl | htail
  · refine .inl ⟨rfl, fun htop => ?_⟩
    have hpath : ofSegments (importSegments r.canonical) = reference.path := by
      rw [hsegments, htop, List.nil_append]
      exact Path.intercalate_segments reference.path
    rw [hpath, unlisted] at listed
    cases listed
  · exact .inr htail

/-- A root with a module of its own that goes by a listed path. -/
def shadowing : Collector where
  files := { entries := [
    (["concurrent"], .directory), (["concurrent", "futures.py"], .file "".toUTF8 0o644)] }
  resolver := ⟨["/"]⟩
  mode := .lenient

theorem steps_shadowing :
    (extractImports "from concurrent import futures\n" "/main.py").outcome =
      .ok [⟨"concurrent", ["futures"]⟩] ∧
    shadowing.lookUp none "/main.py" (followed [⟨"concurrent", ["futures"]⟩]) =
      .ok [⟨"concurrent/futures", "/concurrent/futures.py"⟩] ∧
    (extractImports "" "/concurrent/futures.py").outcome = .ok [] ∧
    shadowing.expand ⟨"concurrent/futures", "/concurrent/futures.py"⟩ =
      .ok (⟨"concurrent/futures", "/concurrent/futures.py", ""⟩, []) ∧
    isStandardModule (ofSegments (importSegments "concurrent/futures")) = true := by
  decide +kernel

theorem closure_shadowing :
    (shadowing.closure "/main.py" "from concurrent import futures\n" []).outcome =
      .ok ⟨[⟨"concurrent/futures", "/concurrent/futures.py", ""⟩]⟩ := by
  obtain ⟨entry, found, -, read, -⟩ := steps_shadowing
  exact passes_iff.1 ((Passes.start entry found).fresh (by decide) read).popped.popped

theorem absolute_shadowing {importer : Option Record} {reference : Reference}
    (h : Asks "/main.py" "from concurrent import futures\n" []
      [⟨"concurrent/futures", "/concurrent/futures.py", ""⟩] importer reference) :
    reference.isRelative = false := by
  obtain ⟨entry, -, empty, -⟩ := steps_shadowing
  cases h with
  | entry hf =>
    obtain ⟨imports, hi, hr, -⟩ := hf
    obtain rfl : [⟨"concurrent", ["futures"]⟩] = imports := by simpa [entry] using hi
    rw [List.mem_singleton.1 hr]
    decide
  | record hin hf =>
    rw [List.mem_singleton.1 hin] at hf
    obtain ⟨imports, hi, hr, -⟩ := hf
    obtain rfl : [] = imports := by simpa [empty] using hi
    cases hr
  | name hn => cases hn

theorem standard_collected_shadowing : ∃ importer reference,
    Asks "/main.py" "from concurrent import futures\n" []
        [⟨"concurrent/futures", "/concurrent/futures.py", ""⟩] importer reference ∧
      isStandardModule reference.path = false ∧
      ∃ place ∈ shadowing.resolver.places importer, ∃ tail,
        ["concurrent", "futures"] = normalSegments (segments place.2) ++ tail := by
  obtain ⟨-, -, -, -, listed⟩ := steps_shadowing
  obtain ⟨importer, reference, asks, unlisted, place, hplace, tail, htail, -⟩ :=
    standard_collected closure_shadowing (fun _ _ => absolute_shadowing)
      (List.mem_singleton_self _) listed
  have hsegments : importSegments "concurrent/futures" = ["concurrent", "futures"] := by decide
  exact ⟨importer, reference, asks, unlisted, place, hplace, tail, hsegments ▸ htail⟩

/-- The module that an item names is not looked up in the list. -/
theorem standard_item : ∃ registry,
    (shadowing.closure "/main.py" "from concurrent import futures\n" []).outcome = .ok registry ∧
      (∀ importer reference, Asks "/main.py" "from concurrent import futures\n" []
        registry.records importer reference → reference.isRelative = false) ∧
      ∃ r ∈ registry.records,
        isStandardModule (ofSegments (importSegments r.canonical)) = true :=
  ⟨_, closure_shadowing, fun _ _ => absolute_shadowing, _, List.mem_singleton_self _,
    steps_shadowing.2.2.2.2⟩

end Collector

end ScriptBundle
