import Mathlib.Data.List.Nodup
import ScriptBundle.Proofs.Bundle.ImportName
import ScriptBundle.Proofs.Payload.RoundTrip

namespace ScriptBundle

open LogicalPath

/-! ## Packages above a module -/

/-- A dotted name is that of a package above another one. -/
def Above (name below : String) : Prop := name ≠ "" ∧ ∃ rest, below = name ++ "." ++ rest

namespace Record

/-- The segments of a module's path can stand in a dotted name. -/
def Dotted (r : Record) : Prop := ∀ s ∈ segments r.canonical, s ≠ "" ∧ '.' ∉ s.toList

/-- The names of the packages above a module, as its registration goes through them. -/
def packages (r : Record) : List String :=
  (initialSegments (importSegments r.canonical).dropLast).map dottedName

theorem Dotted.importSegments {r : Record} (h : r.Dotted) :
    ∀ s ∈ importSegments r.canonical, s ≠ "" ∧ '.' ∉ s.toList := by
  intro s hs
  refine h s ?_
  unfold LogicalPath.importSegments at hs
  split at hs
  · exact List.dropLast_subset _ hs
  · exact hs

end Record

theorem splitOn_words {l : List String} (h : ∀ s ∈ l, s ≠ "" ∧ '.' ∉ s.toList) (hne : l ≠ []) :
    (dottedName l).toList.splitOn '.' = l.map String.toList := by
  simpa using splitOn_canonical (n := 0) h hne

theorem splitOn_below (name rest : String) :
    (name ++ "." ++ rest).toList.splitOn '.' =
      name.toList.splitOn '.' ++ rest.toList.splitOn '.' := by
  have hpoint : ".".toList = ['.'] := by decide
  rw [String.toList_append, String.toList_append, hpoint, List.append_assoc,
    List.singleton_append, List.splitOn_append_cons_self]

theorem eq_of_splitOn {name other : String}
    (h : name.toList.splitOn '.' = other.toList.splitOn '.') : name = other := by
  have hjoined := congrArg ['.'].intercalate h
  rw [List.intercalate_splitOn, List.intercalate_splitOn] at hjoined
  exact String.toList_inj.1 hjoined

theorem dottedName_ne_empty {l : List String} (h : ∀ s ∈ l, s ≠ "" ∧ '.' ∉ s.toList)
    (hne : l ≠ []) : dottedName l ≠ "" := by
  intro hempty
  have hsplit := splitOn_words h hne
  rw [hempty] at hsplit
  obtain ⟨s, hs⟩ := List.exists_mem_of_ne_nil l hne
  have hmem : s.toList ∈ l.map String.toList := List.mem_map_of_mem hs
  rw [← hsplit, String.toList_empty, List.splitOn_nil, List.mem_singleton] at hmem
  exact (h s hs).1 (String.toList_eq_nil_iff.1 hmem)

/-- A dotted name stands above the name of some segments if it is that of the first of them, and
further ones follow. -/
theorem above_dottedName {l : List String} (h : ∀ s ∈ l, s ≠ "" ∧ '.' ∉ s.toList) {name : String} :
    Above name (dottedName l) ↔
      ∃ front back, l = front ++ back ∧ front ≠ [] ∧ back ≠ [] ∧ name = dottedName front := by
  constructor
  · rintro ⟨-, rest, hrest⟩
    have hne : l ≠ [] := by
      rintro rfl
      have hlength := congrArg (·.toList.length) hrest
      simp [dottedName] at hlength
    have hsplit := splitOn_words h hne
    rw [hrest, splitOn_below] at hsplit
    obtain ⟨front, back, rfl, hfront, hback⟩ := List.map_eq_append_iff.1 hsplit.symm
    have hfront_ne : front ≠ [] := by
      rintro rfl
      exact List.splitOn_ne_nil _ _ hfront.symm
    have hback_ne : back ≠ [] := by
      rintro rfl
      exact List.splitOn_ne_nil _ _ hback.symm
    refine ⟨front, back, rfl, hfront_ne, hback_ne, eq_of_splitOn ?_⟩
    rw [splitOn_words (fun s hs => h s (List.mem_append_left _ hs)) hfront_ne, hfront]
  · rintro ⟨front, back, rfl, hfront, hback, rfl⟩
    refine ⟨dottedName_ne_empty (fun s hs => h s (List.mem_append_left _ hs)) hfront,
      dottedName back, ?_⟩
    exact String.intercalate_append_of_ne_nil hfront hback

theorem exists_append_iff {α : Type} {l front : List α} :
    front <+: l.dropLast ∧ front ≠ [] ↔ ∃ back, l = front ++ back ∧ front ≠ [] ∧ back ≠ [] := by
  constructor
  · rintro ⟨⟨middle, hmiddle⟩, hne⟩
    rcases List.eq_nil_or_concat l with rfl | ⟨init, last, rfl⟩
    · exact absurd (List.append_eq_nil_iff.1 hmiddle).1 hne
    · rw [List.concat_eq_append, List.dropLast_concat] at hmiddle
      exact ⟨middle ++ [last], by simp [← hmiddle], hne, by simp⟩
  · rintro ⟨back, rfl, hfront, hback⟩
    rw [List.dropLast_append_of_ne_nil hback]
    exact ⟨List.prefix_append _ _, hfront⟩

/-- The names above a module are those that its registration goes through. -/
theorem above_importName {r : Record} (h : r.Dotted) {name : String} :
    Above name r.importName ↔ name ∈ r.packages := by
  rw [Record.importName, above_dottedName h.importSegments, Record.packages, List.mem_map]
  constructor
  · rintro ⟨front, back, hl, hfront, hback, rfl⟩
    obtain ⟨hpre, hne⟩ := exists_append_iff.2 ⟨back, hl, hfront, hback⟩
    exact ⟨front, mem_initialSegments.2 ⟨hne, hpre⟩, rfl⟩
  · rintro ⟨front, hmem, rfl⟩
    obtain ⟨hne, hpre⟩ := mem_initialSegments.1 hmem
    obtain ⟨back, hl, hfront, hback⟩ := exists_append_iff.1 ⟨hpre, hne⟩
    exact ⟨front, back, hl, hfront, hback, rfl⟩

namespace ImportTable

/-! ## Registrations -/

theorem find?_setDefault (t : ImportTable) (name : String) (entry : Importable) (n : String) :
    (t.setDefault name entry).find? n =
      (t.find? n).or (if n = name then some entry else none) := by
  unfold setDefault
  split
  · rename_i hsome
    by_cases hn : n = name
    · rw [hn, Option.or_of_isSome hsome]
    · rw [if_neg hn, Option.or_none]
  · rename_i hnone
    rw [find?_set]
    by_cases hn : n = name
    · rw [hn, if_pos rfl, if_pos rfl, Option.not_isSome_iff_eq_none.1 hnone, Option.none_or]
    · rw [if_neg hn, if_neg hn, Option.or_none]

/-- Packages above a module are entered where nothing stands. -/
theorem find?_foldl_setDefault_eq (packages : List (List String)) (t : ImportTable) (n : String) :
    (packages.foldl (fun t package => t.setDefault (dottedName package) .emptyPackage) t).find? n =
      (t.find? n).or (if n ∈ packages.map dottedName then some .emptyPackage else none) := by
  induction packages generalizing t with
  | nil => simp
  | cons package rest ih =>
    rw [List.foldl_cons, ih, find?_setDefault, Option.or_assoc, List.map_cons]
    by_cases hn : n = dottedName package
    · simp [hn]
    · simp [hn]

/-- What one registration does to the entry for a name. -/
theorem find?_register_eq (t : ImportTable) (r : Record) (n : String) :
    (t.register r.canonical (Payload.encode r.source)).find? n =
      if n = r.importName then some r.importable
      else (t.find? n).or (if n ∈ r.packages then some .emptyPackage else none) := by
  unfold register
  rw [find?_set, find?_foldl_setDefault_eq]
  rfl

/-- A name that nothing is registered for has an empty package if it stands above a module. -/
theorem find?_unregistered {order : List Record} {n : String}
    (h : ∀ r ∈ order, r.importName ≠ n) :
    (ofRecords order).find? n =
      if ∃ r ∈ order, n ∈ r.packages then some .emptyPackage else none := by
  suffices general : ∀ t : ImportTable,
      (order.foldl (fun t r => t.register r.canonical (Payload.encode r.source)) t).find? n =
        (t.find? n).or (if ∃ r ∈ order, n ∈ r.packages then some .emptyPackage else none) from
    (general {}).trans (Option.none_or ..)
  induction order with
  | nil => simp
  | cons r order ih =>
    intro t
    obtain ⟨hr, h⟩ := List.forall_mem_cons.1 h
    rw [List.foldl_cons, ih h, find?_register_eq, if_neg (Ne.symm hr), Option.or_assoc]
    by_cases hn : n ∈ r.packages
    · simp [hn]
    · simp [hn]

/-! ## The whole table -/

/-- A table has the modules of some records under their names, empty packages above them, and
nothing else. -/
structure Holds (t : ImportTable) (records : List Record) : Prop where
  /-- A module is there with its path and its source, and is a package if it initializes one. -/
  modules : ∀ r ∈ records, ∃ payload isPackage,
    t.find? r.importName = some ⟨some r.canonical, some payload, isPackage⟩ ∧
      Importable.source ⟨some r.canonical, some payload, isPackage⟩ = .ok r.source ∧
      (isPackage = true ↔ (segments r.canonical).getLast? = some packageInit)
  /-- What stands above a module and is no module itself is an empty package. -/
  packages : ∀ name, (∀ r ∈ records, r.importName ≠ name) →
    (∃ r ∈ records, Above name r.importName) → t.find? name = some .emptyPackage
  others : ∀ name, (∀ r ∈ records, r.importName ≠ name) →
    (∀ r ∈ records, ¬ Above name r.importName) → t.find? name = none

/-- **The table does not depend on the order of registrations**, where the names of the modules are
distinct: a package that is registered after a module below it takes the place of the empty one. -/
theorem holds_ofRecords {records order : List Record} (dotted : ∀ r ∈ records, r.Dotted)
    (distinct : (records.map Record.importName).Nodup) (reordered : order.Perm records) :
    (ofRecords order).Holds records where
  modules := by
    intro r hr
    obtain ⟨s, hs, hname, hfind⟩ := find?_ofRecords (reordered.mem_iff.2 hr)
    obtain rfl : s = r := List.inj_on_of_nodup_map distinct (reordered.mem_iff.1 hs) hr hname
    exact ⟨_, _, hfind, Payload.decode_encode s.source, decide_eq_true_iff⟩
  packages := by
    rintro name hname ⟨r, hr, habove⟩
    rw [find?_unregistered fun r hr => hname r (reordered.mem_iff.1 hr), if_pos]
    exact ⟨r, reordered.mem_iff.2 hr, (above_importName (dotted r hr)).1 habove⟩
  others := by
    intro name hname hnone
    rw [find?_unregistered fun r hr => hname r (reordered.mem_iff.1 hr), if_neg]
    rintro ⟨r, hr, hmem⟩
    have hr := reordered.mem_iff.1 hr
    exact hnone r hr ((above_importName (dotted r hr)).2 hmem)

/-- A package that comes behind a module in it, and a module in packages that do not come. -/
theorem holds_ofRecords_late_package :
    (ofRecords [⟨"lib/x/y", "/lib/x/y.py", ""⟩, ⟨"pkg/sub", "/pkg/sub.py", "x = 1\n"⟩,
      ⟨"pkg/__init__", "/pkg/__init__.py", "# package\n"⟩]).Holds
        [⟨"pkg/__init__", "/pkg/__init__.py", "# package\n"⟩,
          ⟨"pkg/sub", "/pkg/sub.py", "x = 1\n"⟩, ⟨"lib/x/y", "/lib/x/y.py", ""⟩] := by
  refine holds_ofRecords ?_ ?_ ?_
  · unfold Record.Dotted
    decide
  · decide
  · decide

end ImportTable

end ScriptBundle
