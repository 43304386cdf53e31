import ScriptBundle.Proofs.Bundle.ImportTable
import ScriptBundle.Proofs.Import.Candidates

namespace ScriptBundle

namespace LogicalPath

/-- The name of what is found below a place by ordinary segments. -/
theorem importSegments_below (base : String) {path last : String} {init : List String}
    (hs : segments path = init ++ [last]) (ho : ∀ s ∈ init ++ [last], Ordinary s) :
    importSegments (below base path) = normalSegments (segments base) ++
      if last = packageInit then init else init ++ [last] := by
  have hbelow : segments (below base path) =
      normalSegments (segments base) ++ init ++ [last] := by
    rw [segments_below, hs, normalSegments_append _ ho, if_neg (by simp), List.append_assoc]
  unfold importSegments isPackage
  rw [hbelow, List.getLast?_concat, List.dropLast_concat]
  by_cases hlast : last = packageInit
  · simp [hlast]
  · simp [hlast]

/-- The segments of a canonical path: the top itself, or up and then down by words. -/
def Canonical (segments : List String) : Prop :=
  segments = ["."] ∨ ∃ n words, segments = List.replicate n ".." ++ words ∧
    ∀ s ∈ words, s ≠ "" ∧ '.' ∉ s.toList

/-- What is found below a place by words and points has a canonical path. -/
theorem canonical_below {base path : String} (h : ∀ s ∈ segments base ++ segments path,
    s = "." ∨ s = ".." ∨ '.' ∉ s.toList) : Canonical (segments (below base path)) := by
  obtain ⟨n, down, -, -, hn, -, hdown, -⟩ :=
    normalSegments_append_shape (segments base ++ segments path) []
  rw [segments_below]
  split
  · exact .inl rfl
  · refine .inr ⟨n, down, hn, fun s hs => ?_⟩
    obtain ⟨hempty, hhere, hup⟩ := hdown s hs
    have hin : s ∈ normalSegments (segments base ++ segments path) := by simp [hn, hs]
    have hpoints := h s (mem_normalSegments hin).1
    exact ⟨hempty, (hpoints.resolve_left hhere).resolve_left hup⟩

theorem Canonical.mem_directory {path s : String} (h : Canonical (segments path))
    (hs : s ∈ segments (directory path)) : s = "." ∨ s = ".." ∨ '.' ∉ s.toList := by
  rw [segments_directory] at hs
  split at hs
  · rw [List.mem_singleton.1 hs]
    decide
  · have hin : s ∈ segments path := List.dropLast_subset _ hs
    rcases h with h | ⟨n, words, h, hw⟩
    · rw [h] at hin
      exact .inl (List.mem_singleton.1 hin)
    · rw [h] at hin
      rcases List.mem_append.1 hin with hin | hin
      · exact .inr (.inl (List.eq_of_mem_replicate hin))
      · exact .inr (.inr (hw s hin).2)

/-- What stands between the points of a dotted name. -/
theorem splitOn_dottedName {l : List String} (h : l ≠ []) :
    (dottedName l).toList.splitOn '.' = l.flatMap fun s => s.toList.splitOn '.' := by
  have hpoint : ".".toList = ['.'] := by decide
  unfold dottedName
  induction l with
  | nil => exact absurd rfl h
  | cons s rest ih =>
    by_cases hr : rest = []
    · simp [hr]
    · rw [String.intercalate_cons_of_ne_nil hr, String.toList_append, String.toList_append, hpoint,
        List.append_assoc, List.singleton_append, List.splitOn_append_cons_self, ih hr,
        List.flatMap_cons]

/-- A dotted name falls into three empty parts for each `..` and one part for each word. -/
theorem splitOn_canonical {n : Nat} {words : List String}
    (hw : ∀ s ∈ words, s ≠ "" ∧ '.' ∉ s.toList) (h : List.replicate n ".." ++ words ≠ []) :
    (dottedName (List.replicate n ".." ++ words)).toList.splitOn '.' =
      List.replicate (3 * n) [] ++ words.map String.toList := by
  have hup : (List.replicate n "..").flatMap (fun s => s.toList.splitOn '.') =
      List.replicate (3 * n) [] := by
    have htwo : "..".toList.splitOn '.' = List.replicate 3 [] := by decide
    rw [List.flatMap_replicate, htwo, List.flatten_replicate_replicate, Nat.mul_comm]
  have hdown : words.flatMap (fun s => s.toList.splitOn '.') = words.map String.toList := by
    clear h
    induction words with
    | nil => rfl
    | cons s rest ih =>
      rw [List.forall_mem_cons] at hw
      rw [List.flatMap_cons, List.splitOn_eq_singleton hw.1.2, ih hw.2]
      rfl
  rw [splitOn_dottedName h, List.flatMap_append, hup, hdown]

/-- How many parts of a dotted name are empty, and the others. -/
def parts (name : String) : Nat × List (List Char) :=
  (((name.toList.splitOn '.').filter (·.isEmpty)).length,
    (name.toList.splitOn '.').filter (!·.isEmpty))

theorem parts_canonical {n : Nat} {words : List String}
    (hw : ∀ s ∈ words, s ≠ "" ∧ '.' ∉ s.toList) (h : List.replicate n ".." ++ words ≠ []) :
    parts (dottedName (List.replicate n ".." ++ words)) =
      (3 * n, words.map String.toList) := by
  have hempty : (words.map String.toList).filter (·.isEmpty) = [] := by
    simpa using fun s hs => (hw s hs).1
  have hwords : (words.map String.toList).filter (!·.isEmpty) = words.map String.toList := by
    rw [List.filter_eq_self]
    simpa using fun s hs => (hw s hs).1
  unfold parts
  rw [splitOn_canonical hw h, List.filter_append, List.filter_append, hempty, hwords]
  simp

/-- The segments that a dotted name with given parts stands for. -/
def ofParts (parts : Nat × List (List Char)) : List String :=
  if parts.1 = 2 then ["."] else List.replicate (parts.1 / 3) ".." ++ parts.2.map String.ofList

/-- A canonical path is read off its dotted name. The empty name stands for the package that is the
top itself. -/
theorem ofParts_dottedName {l : List String} (h : Canonical l ∨ l = []) :
    ofParts (parts (dottedName l)) = l := by
  rcases h with (rfl | ⟨n, words, rfl, hw⟩) | rfl
  · decide
  · by_cases hne : List.replicate n ".." ++ words = []
    · rw [hne]
      decide
    · have hthree : ¬ 3 * n = 2 := by omega
      have hthird : 3 * n / 3 = n := by omega
      rw [parts_canonical hw hne, ofParts, if_neg hthree, hthird]
      simp [Function.comp_def]
  · decide

theorem dottedName_injective {l m : List String} (hl : Canonical l ∨ l = [])
    (hm : Canonical m ∨ m = []) (h : dottedName l = dottedName m) : l = m := by
  rw [← ofParts_dottedName hl, h, ofParts_dottedName hm]

theorem Canonical.importSegments {path : String} (h : Canonical (segments path)) :
    Canonical (importSegments path) ∨ importSegments path = [] := by
  unfold LogicalPath.importSegments
  split
  · rename_i hpackage
    rcases h with h | ⟨n, words, h, hw⟩
    · rw [isPackage, h] at hpackage
      exact absurd hpackage (by decide)
    · rcases List.eq_nil_or_concat words with rfl | ⟨init, last, rfl⟩
      · have hlast : packageInit ∈ segments path := List.mem_of_getLast? (by
          simpa [isPackage] using hpackage)
        rw [h, List.append_nil] at hlast
        exact absurd (List.eq_of_mem_replicate hlast) (by decide)
      · refine .inl (.inr ⟨n, init, ?_, fun s hs => hw s (by simp [hs])⟩)
        rw [h, List.concat_eq_append, ← List.append_assoc, List.dropLast_concat]
  · exact .inl h

end LogicalPath

open LogicalPath

theorem importSegments_of_importName {r s : Record} (hr : Canonical (segments r.canonical))
    (hs : Canonical (segments s.canonical)) (h : r.importName = s.importName) :
    importSegments r.canonical = importSegments s.canonical :=
  dottedName_injective hr.importSegments hs.importSegments h

/-- The segments of a name stand for a module or for a package. -/
theorem eq_of_importSegments (path : String) :
    path = ofSegments (importSegments path) ∨
      path = ofSegments (importSegments path ++ [packageInit]) := by
  have hpath : path = ofSegments (segments path) := (Path.intercalate_segments path).symm
  unfold importSegments
  split
  · rename_i hpackage
    obtain ⟨init, hinit⟩ : ∃ init, segments path = init ++ [packageInit] :=
      List.getLast?_eq_some_iff.1 (by simpa [isPackage] using hpackage)
    refine .inr ?_
    rw [hinit, List.dropLast_concat, ← hinit]
    exact hpath
  · exact .inl hpath

end ScriptBundle
