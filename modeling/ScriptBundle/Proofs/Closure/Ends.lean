import Mathlib.Data.List.Dedup
import Mathlib.Data.List.ProdSigma
import ScriptBundle.Proofs.Closure.Ancestors
import ScriptBundle.Proofs.Closure.Breaks
import ScriptBundle.Proofs.Closure.DepthFirst
import ScriptBundle.Proofs.Closure.Duplicates

/-!
# A closure comes to an end

The stack of a run grows with every module that comes, and the paths that are probed grow longer.
What is bounded is the number of modules, since a canonical path is the way from a root to a file.
-/

namespace ScriptBundle

open LogicalPath FileSystem

/-! ## Files of source -/

namespace FileSystem

/-- Whether a file of source stands at a location. -/
def isSource (fs : FileSystem) (place : Location) : Bool :=
  match fs.find? place, place.getLast? with
  | some (.file _ _), some name => ("." ++ sourceExtension).toList.isSuffixOf name.toList
  | _, _ => false

/-- The locations of the files of source. -/
def sourceFiles (fs : FileSystem) : List Location :=
  ((fs.entries.map (·.1)).filter fs.isSource).dedup

theorem mem_sourceFiles {fs : FileSystem} {directory : Location} {name : String}
    {content : ByteArray} {mode : Nat}
    (h : fs.find? (directory ++ [name ++ "." ++ sourceExtension]) = some (.file content mode)) :
    directory ++ [name ++ "." ++ sourceExtension] ∈ fs.sourceFiles := by
  have hsuffix : ("." ++ sourceExtension).toList.isSuffixOf
      (name ++ "." ++ sourceExtension).toList = true := by
    have happend : (name ++ "." ++ sourceExtension).toList =
        name.toList ++ ("." ++ sourceExtension).toList := by
      rw [String.append_assoc]
      exact String.toList_append
    rw [happend]
    exact List.isSuffixOf_iff_suffix.2 (List.suffix_append _ _)
  have hsource : fs.isSource (directory ++ [name ++ "." ++ sourceExtension]) = true := by
    rw [isSource, h, List.getLast?_concat]
    exact hsuffix
  have hentry : directory ++ [name ++ "." ++ sourceExtension] ∈ fs.entries.map (·.1) := by
    rw [find?, if_neg (by simp), Option.map_eq_some_iff] at h
    obtain ⟨e, he, -⟩ := h
    exact List.mem_map.2 ⟨e, List.mem_of_find?_eq_some he, by simpa using List.find?_some he⟩
  exact List.mem_dedup.2 (List.mem_filter.2 ⟨hentry, hsource⟩)

end FileSystem

/-- The way from a directory to a location below it, as a path. -/
def wayTo (directory place : Location) : String := ofSegments (place.drop directory.length)

/-- A module inside a root is the way from the root to a file of source. -/
theorem Rooted.exists_source {fs : FileSystem} (linkless : fs.Linkless)
    {root canonical absolute : String} (h : Rooted root canonical absolute)
    (hf : fs.isFile absolute = true) (hin : leadsOutside canonical = false) :
    ∃ place ∈ fs.sourceFiles,
      canonical ++ "." ++ sourceExtension = wayTo (fs.spelled root) place := by
  obtain ⟨-, package, name, -, -, hc, -, -⟩ := h.collapses
  obtain ⟨place, content, mode, hr, hfile⟩ := isFile_iff.1 hf
  have hplace : place = fs.spelled root ++ package ++ [name ++ "." ++ sourceExtension] := by
    have hresolve := h.resolve linkless hf
    rw [hr, moduleFile_inside hc (h.inside hc hin)] at hresolve
    exact Except.ok.inj hresolve
  refine ⟨place, hplace ▸ mem_sourceFiles (hplace ▸ hfile), ?_⟩
  have hpath : canonical ++ "." ++ sourceExtension =
      ofSegments (segments (canonical ++ "." ++ sourceExtension)) :=
    (Path.intercalate_segments _).symm
  rw [hpath, segments_file hc, wayTo, hplace, List.append_assoc, List.drop_left]

namespace Collector

variable {c : Collector} {entry source : String} {names : List String}

/-- There are no more records inside the roots than pairs of a root and a file of source. -/
theorem size_le_sources {registry : Registry} {stack : List (List Match)}
    (linkless : c.files.Linkless) (plain : ∀ name ∈ names, (Reference.ofDotted name).Plain)
    (h : Walking c entry source names registry stack)
    (inside : ∀ r ∈ registry.records, leadsOutside r.canonical = false) :
    registry.size ≤ c.resolver.roots.length * c.files.sourceFiles.length := by
  let ways := (c.resolver.roots ×ˢ c.files.sourceFiles).map fun pair =>
    wayTo (c.files.spelled pair.1) pair.2
  have hways : ∀ path ∈ registry.paths, path ++ "." ++ sourceExtension ∈ ways := by
    intro path hpath
    obtain ⟨r, hr, rfl⟩ := List.mem_map.1 hpath
    obtain ⟨root, hroot, rooted⟩ := h.sound.rooted plain r hr
    obtain ⟨place, hplace, hway⟩ :=
      rooted.exists_source linkless (h.sound.reached hr).isFile (inside r hr)
    exact List.mem_map.2 ⟨(root, place), List.mem_product.2 ⟨hroot, hplace⟩, hway.symm⟩
  have hinjective : Function.Injective fun path : String => path ++ "." ++ sourceExtension := by
    intro path other hsame
    simpa [String.append_assoc] using hsame
  have hsub : registry.paths.map (fun path => path ++ "." ++ sourceExtension) ⊆ ways := by
    intro way hway
    obtain ⟨path, hpath, rfl⟩ := List.mem_map.1 hway
    exact hways path hpath
  have hlength := ((h.distinct.map hinjective).subperm hsub).length_le
  simpa [ways, Registry.paths, Registry.size, List.length_product] using hlength

/-! ## Steps -/

/-- Where a run stands: what it has, what waits on the stack, and the names still to be looked
up. -/
structure Moment where
  registry : Registry
  stack : List (List Match)
  rest : List String

/-- One step of a run. There is no limit to the number of records. -/
inductive Step (c : Collector) : Moment → Moment → Prop
  | popped {registry stack rest} : Step c ⟨registry, [] :: stack, rest⟩ ⟨registry, stack, rest⟩
  | known {registry m pending stack rest} : registry.contains m.canonical = true →
      Step c ⟨registry, (m :: pending) :: stack, rest⟩ ⟨registry, pending :: stack, rest⟩
  | fresh {registry m pending stack rest record matched} :
      registry.contains m.canonical = false → c.expand m = .ok (record, matched) →
      Step c ⟨registry, (m :: pending) :: stack, rest⟩
        ⟨registry.push record, matched :: pending :: stack, rest⟩
  | next {registry name rest matched} :
      c.lookUp none extraLabel [Reference.ofDotted name] = .ok matched →
      Step c ⟨registry, [], name :: rest⟩ ⟨registry, [matched], rest⟩

/-- A run comes to a moment. -/
def Comes (c : Collector) (entry source : String) (names : List String) (now : Moment) : Prop :=
  Passes c entry source names now.registry now.stack now.rest

variable {now later : Moment}

theorem Comes.step (h : c.Comes entry source names now) (step : c.Step now later) :
    c.Comes entry source names later := by
  cases step with
  | popped => exact Passes.popped h
  | known hm => exact Passes.known h hm
  | fresh hm he => exact Passes.fresh h hm he
  | next hl => exact Passes.next h hl

/-- What is still to be done where no more than so many records can come: the records first, then
the names, then what waits on the stack. -/
def Moment.measure (bound : Nat) (now : Moment) : Nat × Nat × Nat :=
  (bound - now.registry.size, now.rest.length, leftOn now.stack)

/-- What is still to be done gets less, however much a new record brings onto the stack. -/
theorem Step.measure_lt {bound : Nat} (step : c.Step now later)
    (room : later.registry.size ≤ bound) :
    Prod.Lex (· < ·) (Prod.Lex (· < ·) (· < ·)) (later.measure bound) (now.measure bound) := by
  cases step with
  | popped =>
    refine .right _ (.right _ ?_)
    simp only [leftOn, List.length_nil]
    omega
  | known hm =>
    refine .right _ (.right _ ?_)
    simp only [leftOn, List.length_cons]
    omega
  | @fresh registry m pending stack rest record matched hm he =>
    refine .left _ _ ?_
    have hsize : (registry.push record).size = registry.size + 1 := by simp [Registry.size]
    simp only at room ⊢
    omega
  | next hl => exact .right _ (.left _ _ (Nat.lt_succ_self _))

/-- Where the number of records is bounded no run goes on for ever. -/
theorem no_endless_run {bound : Nat}
    (bounded : ∀ now, c.Comes entry source names now → now.registry.size ≤ bound) :
    ¬ ∃ moments : Nat → Moment, c.Comes entry source names (moments 0) ∧
      ∀ n, c.Step (moments n) (moments (n + 1)) := by
  rintro ⟨moments, start, steps⟩
  have comes : ∀ n, c.Comes entry source names (moments n) := by
    intro n
    induction n with
    | zero => exact start
    | succ n ih => exact ih.step (steps n)
  have lexicographic : WellFounded (Prod.Lex (· < ·) (Prod.Lex (· < ·) (· < ·)) :
      Nat × Nat × Nat → Nat × Nat × Nat → Prop) :=
    (Prod.lex Nat.lt_wfRel (Prod.lex Nat.lt_wfRel Nat.lt_wfRel)).wf
  -- By induction on what is still to be done, at whichever moment that is.
  have never : ∀ left, ∀ n, (moments n).measure bound ≠ left := by
    intro left
    induction left using lexicographic.induction with
    | _ left ih =>
      rintro n rfl
      exact ih _ ((steps n).measure_lt (bounded _ (comes (n + 1)))) (n + 1) rfl
  exact never _ 0 rfl

/-! ## Failures -/

/-- Failures at a module: it cannot be read or parsed, or it imports what is not there. -/
def OfModule : Failure → Prop
  | .read _ _ | .parse _ _ _ | .unresolvedImport _ _ => True
  | _ => False

theorem ofModule_extract {path : String} {failure : Failure}
    (h : (extractImports source path).outcome = .error failure) : OfModule failure := by
  obtain ⟨place, -, rfl⟩ := extractImports_eq_error h
  trivial

theorem ofModule_lookUp {importer : Option Record} {label : String} {references : List Reference}
    {failure : Failure} (h : c.lookUp importer label references = .error failure) :
    OfModule failure := by
  obtain ⟨reference, -, -, rfl⟩ := lookUp_eq_error h
  trivial

theorem ofModule_expand {m : Match} {failure : Failure} (h : c.expand m = .error failure) :
    OfModule failure := by
  rcases expand_eq_error h with hs | ⟨text, -, hi | ⟨imports, -, hl⟩⟩
  · obtain ⟨e, -, rfl⟩ := readSource_eq_error hs
    trivial
  · exact ofModule_extract hi
  · exact ofModule_lookUp hl

theorem Breaks.ofModule {failure : Failure} (h : Breaks c entry source names failure) :
    OfModule failure := by
  cases h with
  | unparsed hi => exact ofModule_extract hi
  | unresolved _ hl => exact ofModule_lookUp hl
  | unnamed _ hl => exact ofModule_lookUp hl
  | broken _ _ he => exact ofModule_expand he

/-- A run that fails does so at a module. -/
theorem Searches.ofModule {failure : Failure}
    (h : c.Searches entry source names (.error failure)) : OfModule failure :=
  (breaks_iff.2 ((searches_iff c entry source names _).1 h)).ofModule

/-- Where no step is possible a run has come to its outcome. -/
theorem Comes.outcome_of_stuck (h : c.Comes entry source names now)
    (stuck : ∀ later, ¬ c.Step now later) :
    now.stack = [] ∧ now.rest = [] ∧
        (c.closure entry source names).outcome = .ok now.registry ∨
      ∃ failure, (c.closure entry source names).outcome = .error failure := by
  obtain ⟨registry, stack, rest⟩ := now
  have hpasses : Passes c entry source names registry stack rest := h
  match stack, rest with
  | [], [] => exact .inl ⟨rfl, rfl, passes_iff.1 hpasses⟩
  | [], name :: rest =>
    cases hl : c.lookUp none extraLabel [Reference.ofDotted name] with
    | error failure =>
      refine .inr ⟨failure, ?_⟩
      rw [hpasses.outcome, outcome_walk_nil, Trial.ok_bind, outcome_walkNames_cons, hl]
      rfl
    | ok matched => exact absurd (.next hl) (stuck _)
  | [] :: stack, rest => exact absurd .popped (stuck _)
  | (m :: pending) :: stack, rest =>
    cases hm : registry.contains m.canonical with
    | true => exact absurd (.known hm) (stuck _)
    | false =>
      cases he : c.expand m with
      | error failure =>
        refine .inr ⟨failure, ?_⟩
        rw [hpasses.outcome, outcome_walk_fresh c hm hpasses.walking.room, he]
        rfl
      | ok both => exact absurd (.fresh hm he) (stuck _)

/-! ## Every run ends -/

/-- Records are matches that were on the stack. -/
theorem Comes.inside (inside : ∀ now, c.Comes entry source names now →
      ∀ matched ∈ now.stack, ∀ m ∈ matched, leadsOutside m.canonical = false)
    {registry : Registry} {stack : List (List Match)} {rest : List String}
    (h : Passes c entry source names registry stack rest) :
    ∀ r ∈ registry.records, leadsOutside r.canonical = false := by
  induction h with
  | start => simp
  | popped _ ih | known _ _ ih | next _ _ ih => exact ih
  | @fresh registry m pending stack rest record matched run hm he ih =>
    intro r hr
    rcases List.mem_append.1 hr with hr | hr
    · exact ih r hr
    · rw [List.mem_singleton.1 hr, (c.expand_eq_ok he).1]
      exact inside ⟨registry, (m :: pending) :: stack, rest⟩ run _ List.mem_cons_self m
        List.mem_cons_self

/-- **Every run comes to an end** where there are no links and no match leads outside, whatever
imports what: at none of its moments it has more records than there are pairs of a root and a file
of source, no run goes on for ever, and one that stands still has come to the outcome of the
closure. It never fails for want of room. -/
theorem closure_ends (linkless : c.files.Linkless) (dotted : ∀ name ∈ names, DottedForm name)
    (inside : ∀ now, c.Comes entry source names now →
      ∀ matched ∈ now.stack, ∀ m ∈ matched, leadsOutside m.canonical = false) :
    (∀ now, c.Comes entry source names now →
      now.registry.size ≤ c.resolver.roots.length * c.files.sourceFiles.length) ∧
    (¬ ∃ moments : Nat → Moment, c.Comes entry source names (moments 0) ∧
      ∀ n, c.Step (moments n) (moments (n + 1))) ∧
    (∀ now, c.Comes entry source names now → (∀ later, ¬ c.Step now later) →
      now.stack = [] ∧ now.rest = [] ∧
          (c.closure entry source names).outcome = .ok now.registry ∨
        ∃ failure, (c.closure entry source names).outcome = .error failure) ∧
    ∀ canonical, (c.closure entry source names).outcome ≠ .error (.tooManyModules canonical) := by
  have plain : ∀ name ∈ names, (Reference.ofDotted name).Plain :=
    fun name hname => (dotted name hname).spelled.plain
  have bounded : ∀ now, c.Comes entry source names now →
      now.registry.size ≤ c.resolver.roots.length * c.files.sourceFiles.length :=
    fun now h => size_le_sources linkless plain (Passes.walking h) (Comes.inside inside h)
  refine ⟨bounded, no_endless_run bounded, fun now h stuck => h.outcome_of_stuck stuck, ?_⟩
  intro canonical hfull
  exact ((searches_iff c entry source names _).2 hfull).ofModule

/-- The run over `cycle` has its two modules on the stack and no others. -/
theorem mem_stack_cycle {registry : Registry} {stack : List (List Match)} {rest : List String}
    (h : Passes cycle "/main.py" "import a\n" [] registry stack rest) :
    ∀ matched ∈ stack, ∀ m ∈ matched, m = ⟨"a", "/a.py"⟩ ∨ m = ⟨"b", "/b.py"⟩ := by
  obtain ⟨entry, found, first, second⟩ := steps_cycle
  refine h.onStack ?start ?onward ?asked
  case start =>
    intro imports matched hi hl
    cases entry.symm.trans hi
    cases found.symm.trans hl
    simp
  case onward =>
    rintro m record matched (rfl | rfl) he
    · cases first.symm.trans he
      simp
    · cases second.symm.trans he
      simp
  case asked => exact fun name hname => absurd hname List.not_mem_nil

/-- Two modules that import each other come once each. -/
theorem closure_ends_cycle :
    Registry.size ⟨[⟨"a", "/a.py", "import b\n"⟩, ⟨"b", "/b.py", "import a\n"⟩]⟩ ≤
        cycle.resolver.roots.length * cycle.files.sourceFiles.length ∧
      ¬ ∃ moments : Nat → Moment, cycle.Comes "/main.py" "import a\n" [] (moments 0) ∧
        ∀ n, cycle.Step (moments n) (moments (n + 1)) := by
  have inside : ∀ now, cycle.Comes "/main.py" "import a\n" [] now →
      ∀ matched ∈ now.stack, ∀ m ∈ matched, leadsOutside m.canonical = false := by
    intro now h matched hmatched m hm
    rcases mem_stack_cycle h matched hmatched m hm with rfl | rfl <;> decide
  obtain ⟨bounded, ends, -⟩ := closure_ends (by simp [Linkless, cycle]) (by simp) inside
  exact ⟨bounded ⟨_, _, _⟩ passes_cycle, ends⟩

end Collector

end ScriptBundle
