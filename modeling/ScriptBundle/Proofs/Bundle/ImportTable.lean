import ScriptBundle.Bundle.ImportTable

namespace ScriptBundle

namespace Record

/-- The name under which a module is imported. -/
def importName (r : Record) : String :=
  LogicalPath.dottedName (LogicalPath.importSegments r.canonical)

def importable (r : Record) : Importable :=
  ⟨some r.canonical, some (Payload.encode r.source), LogicalPath.isPackage r.canonical⟩

end Record

namespace ImportTable

theorem lookup_replace (entries : List (String × Importable)) (name : String) (entry : Importable)
    (n : String) :
    (entries.map fun (k, old) => if k = name then (k, entry) else (k, old)).lookup n =
      if n = name then (entries.lookup n).map fun _ => entry else entries.lookup n := by
  induction entries with
  | nil => simp
  | cons e rest ih =>
    obtain ⟨k, old⟩ := e
    have hkey : (if k = name then (k, entry) else (k, old)) =
        (k, if k = name then entry else old) := by
      split <;> rfl
    rw [List.map_cons]
    dsimp only
    rw [hkey, List.lookup_cons, List.lookup_cons, ih]
    by_cases hk : n = k
    · subst hk
      by_cases hn : n = name <;> simp [hn]
    · have hb : (n == k) = false := beq_eq_false_iff_ne.2 hk
      rw [hb]

theorem find?_set (t : ImportTable) (name : String) (entry : Importable) (n : String) :
    (t.set name entry).find? n = if n = name then some entry else t.find? n := by
  unfold set
  split
  · rename_i hs
    obtain ⟨old, ho⟩ := Option.isSome_iff_exists.1 hs
    unfold find? at ho ⊢
    rw [lookup_replace]
    by_cases hn : n = name
    · simp [hn, ho]
    · simp [hn]
  · rename_i hs
    have hnone : t.entries.lookup name = none := Option.not_isSome_iff_eq_none.1 hs
    unfold find?
    rw [List.lookup_append, List.lookup_cons, List.lookup_nil]
    by_cases hn : n = name
    · simp [hn, hnone]
    · have hb : (n == name) = false := beq_eq_false_iff_ne.2 hn
      rw [hb, if_neg hn, Option.or_none]

/-- Packages above a module do not touch the entries that there are. -/
theorem find?_foldl_setDefault {packages : List (List String)} {t : ImportTable} {n : String}
    (h : (t.find? n).isSome = true) :
    (packages.foldl (fun t package =>
      t.setDefault (LogicalPath.dottedName package) .emptyPackage) t).find? n = t.find? n := by
  induction packages generalizing t with
  | nil => rfl
  | cons package rest ih =>
    have hstep : (t.setDefault (LogicalPath.dottedName package) .emptyPackage).find? n =
        t.find? n := by
      unfold setDefault
      split
      · rfl
      · rename_i hnone
        rw [find?_set, if_neg]
        rintro rfl
        exact hnone h
    rw [List.foldl_cons, ih (hstep ▸ h), hstep]

/-- A registration puts the module under its name and leaves other entries as they are. -/
theorem find?_register {t : ImportTable} {path payload n : String}
    (h : n = LogicalPath.dottedName (LogicalPath.importSegments path) ∨
      (t.find? n).isSome = true) :
    (t.register path payload).find? n =
      if n = LogicalPath.dottedName (LogicalPath.importSegments path) then
        some ⟨some path, some payload, LogicalPath.isPackage path⟩
      else t.find? n := by
  unfold register
  rw [find?_set]
  split
  · rfl
  · rename_i hne
    exact find?_foldl_setDefault (h.resolve_left hne)

theorem find?_foldl_register {records : List Record} {t : ImportTable} {n : String}
    (h : (t.find? n).isSome = true) (hne : ∀ r ∈ records, r.importName ≠ n) :
    (records.foldl (fun t r => t.register r.canonical (Payload.encode r.source)) t).find? n =
      t.find? n := by
  induction records generalizing t with
  | nil => rfl
  | cons r rest ih =>
    rw [List.forall_mem_cons] at hne
    have hstep : (t.register r.canonical (Payload.encode r.source)).find? n = t.find? n := by
      rw [find?_register (.inr h)]
      exact if_neg fun he => hne.1 he.symm
    rw [List.foldl_cons, ih (hstep ▸ h) hne.2, hstep]

/-- The entry for a name is the record that was registered last under it. -/
theorem find?_ofRecords_last {before after : List Record} {r : Record}
    (h : ∀ s ∈ after, s.importName ≠ r.importName) :
    (ofRecords (before ++ r :: after)).find? r.importName = some r.importable := by
  unfold ofRecords
  rw [List.foldl_append, List.foldl_cons]
  generalize before.foldl (fun (t : ImportTable) r =>
    t.register r.canonical (Payload.encode r.source)) {} = t
  have own : (t.register r.canonical (Payload.encode r.source)).find? r.importName =
      some r.importable := by
    rw [find?_register (.inl rfl : r.importName = _ ∨ _)]
    exact if_pos rfl
  rw [find?_foldl_register (by simp [own]) h, own]

theorem exists_last {records : List Record} {r : Record} (h : r ∈ records) :
    ∃ before s after, records = before ++ s :: after ∧ s.importName = r.importName ∧
      ∀ t ∈ after, t.importName ≠ r.importName := by
  have hsome : (records.reverse.find? fun s => s.importName = r.importName).isSome = true := by
    rw [List.find?_isSome]
    exact ⟨r, List.mem_reverse.2 h, by simp⟩
  obtain ⟨s, hs⟩ := Option.isSome_iff_exists.1 hsome
  obtain ⟨hname, later, earlier, hsplit, hlater⟩ := List.find?_eq_some_iff_append.1 hs
  refine ⟨earlier.reverse, s, later.reverse, ?_, by simpa using hname, by simpa using hlater⟩
  simpa using congrArg List.reverse hsplit

/-- Under the name of a record some record is found, never a package of which nothing is known. -/
theorem find?_ofRecords {records : List Record} {r : Record} (h : r ∈ records) :
    ∃ s ∈ records, s.importName = r.importName ∧
      (ofRecords records).find? r.importName = some s.importable := by
  obtain ⟨before, s, after, rfl, hname, hafter⟩ := exists_last h
  refine ⟨s, by simp, hname, ?_⟩
  rw [← hname] at hafter ⊢
  exact find?_ofRecords_last hafter

/-- Every record is found under its name. -/
theorem isSome_ofRecords {records : List Record} {r : Record} (h : r ∈ records) :
    ((ofRecords records).find? r.importName).isSome = true := by
  obtain ⟨s, -, -, hs⟩ := find?_ofRecords h
  rw [hs]
  rfl

end ImportTable

end ScriptBundle
