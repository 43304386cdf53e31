import ScriptBundle.Proofs.Bundle.ImportName
import ScriptBundle.Proofs.Closure.Run

/-!
# Modules that go by one name

A package and a module beside it go by one name, and the importer of a bundle serves one of them.
-/

namespace ScriptBundle

open LogicalPath Resolver

theorem mem_segments_candidate {r : Reference} (words : ∀ item ∈ r.items,
    ∃ word : Python.Word, item = word.text) {k : Candidate} (h : k ∈ r.candidates) {s : String}
    (hs : s ∈ segments k.path) : s ∈ segments r.path ∨ '.' ∉ s.toList := by
  have hinit : '.' ∉ packageInit.toList := by decide
  have hword : ∀ word : Python.Word, '.' ∉ word.text.toList :=
    fun word hpoint => (word.plain_of_mem hpoint).1 rfl
  rcases segments_candidate words h with ⟨hk, -⟩ | ⟨above, -, hpre, hk⟩ | ⟨word, -, hk | hk⟩ <;>
    rw [hk] at hs
  · exact .inl hs
  · rcases List.mem_append.1 hs with hs | hs
    · exact .inl (hpre.mem hs)
    · exact .inr (List.mem_singleton.1 hs ▸ hinit)
  · rcases List.mem_append.1 hs with hs | hs
    · exact .inl hs
    · exact .inr (List.mem_singleton.1 hs ▸ hword word)
  · rcases List.mem_append.1 hs with hs | hs
    · exact .inl hs
    · rcases List.mem_cons.1 hs with rfl | hs
      · exact .inr (hword word)
      · exact .inr (List.mem_singleton.1 hs ▸ hinit)

namespace Collector

variable {c : Collector} {entry source : String} {names : List String}

theorem Asks.points {records : List Record} {importer : Option Record} {reference : Reference}
    (h : Asks entry source names records importer reference) :
    ∀ s ∈ segments reference.path, s = "." ∨ s = ".." ∨ '.' ∉ s.toList := by
  cases h with
  | entry hf | record _ hf =>
    obtain ⟨imports, hi, hr, -⟩ := hf
    obtain ⟨level, name, -, hpath, -⟩ := spelled_of_extract hi _ hr
    rw [hpath]
    exact fun s => mem_segments_ofImport
  | name => exact fun s => mem_segments_ofImport

/-- The records of a run have canonical paths, whatever names were asked for. -/
theorem Sound.canonical {records : List Record} (h : c.Sound entry source names records) :
    ∀ r ∈ records, Canonical (segments r.canonical) := by
  refine h.induction fun before r after _ canonical reached => ?_
  obtain ⟨importer, reference, asks, hm⟩ := reached
  obtain ⟨place, hplace, k, hk, -, heq⟩ := mem_resolve hm
  obtain ⟨hcanonical, -⟩ := Match.mk.inj heq
  rw [hcanonical]
  refine canonical_below fun s hs => ?_
  rcases List.mem_append.1 hs with hs | hs
  · rcases mem_places.1 hplace with ⟨i, directory, rfl, -, rfl⟩ | ⟨root, -, rfl⟩
    · exact (canonical i asks.importer_mem).mem_directory hs
    · rw [List.mem_singleton.1 hs]
      decide
  · rcases mem_segments_candidate asks.words hk hs with hs | hs
    · exact asks.points s hs
    · exact .inr (.inr hs)

/-- **The later of two modules of one name is served.** If two records of a closure go by one name,
one is a package and the other the module beside it, and under that name the importer of the bundle
has the one that the closure came to later. -/
theorem later_served {registry : Registry}
    (h : (c.closure entry source names).outcome = .ok registry) {before middle after : List Record}
    {r s : Record} (order : registry.records = before ++ r :: (middle ++ s :: after))
    (same : r.importName = s.importName) :
    (∃ path, r.canonical = ofSegments path ∧ s.canonical = ofSegments (path ++ [packageInit]) ∨
      s.canonical = ofSegments path ∧ r.canonical = ofSegments (path ++ [packageInit])) ∧
    (ImportTable.ofRecords registry.records).find? s.importName = some s.importable := by
  have walking := (closure_walking h).1
  have canonical := walking.sound.canonical
  have distinct : (registry.records.map (·.canonical)).Nodup := walking.distinct
  rw [order, List.map_append, List.map_cons, List.map_append, List.map_cons] at distinct
  obtain ⟨hr, distinct⟩ := List.nodup_cons.1 (List.nodup_append.1 distinct).2.1
  obtain ⟨hs, -⟩ := List.nodup_cons.1 (List.nodup_append.1 distinct).2.1
  have hrs : r.canonical ≠ s.canonical := fun he => hr (by simp [he])
  have segments_eq : ∀ t ∈ registry.records, t.importName = s.importName →
      importSegments t.canonical = importSegments s.canonical := fun t ht =>
    importSegments_of_importName (canonical t ht) (canonical s (by simp [order]))
  have hr' := eq_of_importSegments r.canonical
  have hs' := eq_of_importSegments s.canonical
  rw [segments_eq r (by simp [order]) same] at hr'
  constructor
  · refine ⟨importSegments s.canonical, ?_⟩
    rcases hr' with hr' | hr' <;> rcases hs' with hs' | hs'
    · exact absurd (hr'.trans hs'.symm) hrs
    · exact .inl ⟨hr', hs'⟩
    · exact .inr ⟨hs', hr'⟩
    · exact absurd (hr'.trans hs'.symm) hrs
  · have last : ∀ t ∈ after, t.importName ≠ s.importName := by
      intro t ht hname
      have ht' := eq_of_importSegments t.canonical
      rw [segments_eq t (by simp [order, ht]) hname] at ht'
      have hrt : r.canonical ≠ t.canonical := fun he =>
        hr (he ▸ List.mem_append_right _ (List.mem_cons_of_mem _ (List.mem_map_of_mem ht)))
      have hst : s.canonical ≠ t.canonical := fun he => hs (he ▸ List.mem_map_of_mem ht)
      grind
    rw [order, ← List.cons_append, ← List.append_assoc]
    exact ImportTable.find?_ofRecords_last last

/-- A package with a module of the same name beside it. -/
def beside : Collector where
  files := { entries := [
    (["p.py"], .file "# module\n".toUTF8 0o644), (["p"], .directory),
    (["p", "__init__.py"], .file "# package\n".toUTF8 0o644),
    (["p", "x.py"], .file "".toUTF8 0o644)] }
  resolver := ⟨["/"]⟩
  mode := .strict

theorem steps_beside :
    (extractImports "import p.x\nimport p\n" "/main.py").outcome =
      .ok [⟨"p/x", []⟩, ⟨"p", []⟩] ∧
    beside.lookUp none "/main.py" (followed [⟨"p/x", []⟩, ⟨"p", []⟩]) =
      .ok [⟨"p/x", "/p/x.py"⟩, ⟨"p/__init__", "/p/__init__.py"⟩, ⟨"p", "/p.py"⟩,
        ⟨"p/__init__", "/p/__init__.py"⟩] ∧
    beside.expand ⟨"p/x", "/p/x.py"⟩ = .ok (⟨"p/x", "/p/x.py", ""⟩, []) ∧
    beside.expand ⟨"p/__init__", "/p/__init__.py"⟩ =
      .ok (⟨"p/__init__", "/p/__init__.py", "# package\n"⟩, []) ∧
    beside.expand ⟨"p", "/p.py"⟩ = .ok (⟨"p", "/p.py", "# module\n"⟩, []) := by
  decide +kernel

/-- The package is collected with a module in it, before it is asked for itself. -/
theorem closure_beside : (beside.closure "/main.py" "import p.x\nimport p\n" []).outcome =
    .ok ⟨[⟨"p/x", "/p/x.py", ""⟩, ⟨"p/__init__", "/p/__init__.py", "# package\n"⟩,
      ⟨"p", "/p.py", "# module\n"⟩]⟩ := by
  obtain ⟨entry, found, first, second, third⟩ := steps_beside
  exact passes_iff.1 ((((((Passes.start entry found).fresh (by decide) first).popped.fresh
    (by decide) second).popped.fresh (by decide) third).popped.known (by decide)).popped)

theorem later_served_beside : ∃ registry,
    (beside.closure "/main.py" "import p.x\nimport p\n" []).outcome = .ok registry ∧
      (ImportTable.ofRecords registry.records).find?
          (Record.importName ⟨"p", "/p.py", "# module\n"⟩) =
        some (Record.importable ⟨"p", "/p.py", "# module\n"⟩) := by
  have order : [(⟨"p/x", "/p/x.py", ""⟩ : Record), ⟨"p/__init__", "/p/__init__.py", "# package\n"⟩,
      ⟨"p", "/p.py", "# module\n"⟩] = [⟨"p/x", "/p/x.py", ""⟩] ++
        ⟨"p/__init__", "/p/__init__.py", "# package\n"⟩ ::
          ([] ++ ⟨"p", "/p.py", "# module\n"⟩ :: []) := rfl
  exact ⟨_, closure_beside, (later_served closure_beside order (by decide)).2⟩

/-- The package does not win: after this run its name stands for the module. -/
theorem module_served : ∃ registry,
    (beside.closure "/main.py" "import p.x\nimport p\n" []).outcome = .ok registry ∧
      "p" ∈ registry.paths ∧ "p/__init__" ∈ registry.paths ∧
      ∃ payload, (ImportTable.ofRecords registry.records).find? (dottedName (segments "p")) =
        some ⟨some "p", some payload, false⟩ := by
  have served := @ImportTable.find?_ofRecords_last [⟨"p/x", "/p/x.py", ""⟩,
    ⟨"p/__init__", "/p/__init__.py", "# package\n"⟩] [] ⟨"p", "/p.py", "# module\n"⟩ (by simp)
  exact ⟨_, closure_beside, by decide, by decide, Payload.encode "# module\n", served⟩

end Collector

end ScriptBundle
