import ScriptBundle.Proofs.Closure.Rooted
import ScriptBundle.Proofs.Closure.Run

namespace ScriptBundle

open LogicalPath FileSystem

namespace Collector

variable {c : Collector} {entry source : String} {names : List String}

/-- A match that a run comes to is a file that goes by its canonical path under some root. -/
theorem Reached.located {records : List Record} {m : Match} (linkless : c.files.Linkless)
    (plain : ∀ name ∈ names, (Reference.ofDotted name).Plain)
    (sound : c.Sound entry source names records) (h : c.Reached entry source names records m) :
    ∃ root ∈ c.resolver.roots,
      c.files.resolve m.absolute = .ok (moduleFile (c.files.spelled root) m.canonical) := by
  obtain ⟨root, hroot, rooted⟩ := h.rooted plain (sound.rooted plain)
  exact ⟨root, hroot, rooted.resolve linkless h.isFile⟩

/-- **A match that is passed over is a file of the same name.** Whenever a run passes over a match,
the record that has its canonical path was read from the file that this path leads to from some
search root, and the match is the file that it leads to from some search root. If the two are one
directory the two files are one, and they are if there is only one directory to search. -/
theorem skipped_located (linkless : c.files.Linkless)
    (plain : ∀ name ∈ names, (Reference.ofDotted name).Plain)
    {registry : Registry} {m : Match} {pending : List Match} {stack : List (List Match)}
    {rest : List String}
    (run : Passes c entry source names registry ((m :: pending) :: stack) rest)
    (taken : registry.contains m.canonical = true) :
    ∃ r ∈ registry.records, r.canonical = m.canonical ∧
      ∃ root ∈ c.resolver.roots, ∃ other ∈ c.resolver.roots,
        c.files.resolve r.absolute = .ok (moduleFile (c.files.spelled root) m.canonical) ∧
        c.files.resolve m.absolute = .ok (moduleFile (c.files.spelled other) m.canonical) ∧
        (c.files.spelled root = c.files.spelled other →
          c.files.resolve r.absolute = c.files.resolve m.absolute) := by
  have walking := run.walking
  obtain ⟨r, hr, hc⟩ := List.mem_map.1 (Registry.contains_iff.1 taken)
  obtain ⟨root, hroot, hfile⟩ := (walking.sound.reached hr).located linkless plain walking.sound
  have reached := walking.pending _ List.mem_cons_self m List.mem_cons_self
  obtain ⟨other, hother, hmatch⟩ := reached.located linkless plain walking.sound
  rw [hc] at hfile
  exact ⟨r, hr, hc, root, hroot, other, hother, hfile, hmatch, fun same => by
    rw [hfile, hmatch, same]⟩

/-- The run over two modules on a cycle comes back to the first of them. -/
theorem passes_cycle : Passes cycle "/main.py" "import a\n" []
    ⟨[⟨"a", "/a.py", "import b\n"⟩, ⟨"b", "/b.py", "import a\n"⟩]⟩
    [[⟨"a", "/a.py"⟩], [], []] [] := by
  obtain ⟨entry, found, first, second⟩ := steps_cycle
  exact ((Passes.start entry found).fresh (by decide) first).fresh (by decide) second

theorem skipped_located_cycle : ∃ r ∈ [(⟨"a", "/a.py", "import b\n"⟩ : Record),
    ⟨"b", "/b.py", "import a\n"⟩], r.canonical = "a" ∧
      cycle.files.resolve r.absolute = cycle.files.resolve "/a.py" := by
  obtain ⟨r, hr, hc, root, hroot, other, hother, -, -, same⟩ :=
    skipped_located (by simp [Linkless, cycle]) (by simp) passes_cycle (by decide)
  obtain rfl : root = "/" := by simpa [cycle] using hroot
  obtain rfl : other = "/" := by simpa [cycle] using hother
  exact ⟨r, hr, hc, same rfl⟩

/-! ## Two files with one canonical path -/

/-- Two roots, each with a module `pkg.util`, which a module of the second root imports without
naming the package. -/
def overlapping : Collector where
  files := { entries := [
    (["r0"], .directory), (["r0", "pkg"], .directory),
    (["r0", "pkg", "util.py"], .file "".toUTF8 0o644),
    (["r1"], .directory), (["r1", "pkg"], .directory),
    (["r1", "pkg", "a.py"], .file "import util\n".toUTF8 0o644),
    (["r1", "pkg", "util.py"], .file "".toUTF8 0o644)] }
  resolver := ⟨["/r0", "/r1"]⟩
  mode := .strict

theorem steps_overlapping :
    (extractImports "import pkg.a\nimport pkg.util\n" "/main.py").outcome =
      .ok [⟨"pkg/a", []⟩, ⟨"pkg/util", []⟩] ∧
    overlapping.lookUp none "/main.py" (followed [⟨"pkg/a", []⟩, ⟨"pkg/util", []⟩]) =
      .ok [⟨"pkg/a", "/r1/pkg/a.py"⟩, ⟨"pkg/util", "/r0/pkg/util.py"⟩] ∧
    overlapping.expand ⟨"pkg/a", "/r1/pkg/a.py"⟩ =
      .ok (⟨"pkg/a", "/r1/pkg/a.py", "import util\n"⟩, [⟨"pkg/util", "/r1/pkg/util.py"⟩]) ∧
    overlapping.expand ⟨"pkg/util", "/r1/pkg/util.py"⟩ =
      .ok (⟨"pkg/util", "/r1/pkg/util.py", ""⟩, []) ∧
    overlapping.files.resolve "/r1/pkg/util.py" = .ok ["r1", "pkg", "util.py"] ∧
    overlapping.files.resolve "/r0/pkg/util.py" = .ok ["r0", "pkg", "util.py"] := by
  decide +kernel

theorem passes_overlapping : Passes overlapping "/main.py" "import pkg.a\nimport pkg.util\n" []
    ⟨[⟨"pkg/a", "/r1/pkg/a.py", "import util\n"⟩, ⟨"pkg/util", "/r1/pkg/util.py", ""⟩]⟩
    [[⟨"pkg/util", "/r0/pkg/util.py"⟩]] [] := by
  obtain ⟨entry, found, first, second, -⟩ := steps_overlapping
  exact (((Passes.start entry found).fresh (by decide) first).fresh (by decide) second).popped.popped

/-- A module `a` and one without a name in a directory `a`. -/
def unnamed : Collector where
  files := { entries := [
    (["a"], .directory), (["a", ".py"], .file "".toUTF8 0o644), (["a.py"], .file "".toUTF8 0o644)] }
  resolver := ⟨["/"]⟩
  mode := .strict

theorem steps_unnamed :
    (extractImports "" "/main.py").outcome = .ok [] ∧
    unnamed.lookUp none extraLabel [Reference.ofDotted "a."] = .ok [⟨"a", "/a/.py"⟩] ∧
    unnamed.expand ⟨"a", "/a/.py"⟩ = .ok (⟨"a", "/a/.py", ""⟩, []) ∧
    unnamed.lookUp none extraLabel [Reference.ofDotted "a"] = .ok [⟨"a", "/a.py"⟩] ∧
    unnamed.files.resolve "/a/.py" = .ok ["a", ".py"] ∧
    unnamed.files.resolve "/a.py" = .ok ["a.py"] := by
  decide +kernel

theorem passes_unnamed : Passes unnamed "/main.py" "" ["a.", "a"] ⟨[⟨"a", "/a/.py", ""⟩]⟩
    [[⟨"a", "/a.py"⟩]] [] := by
  obtain ⟨entry, first, read, second, -⟩ := steps_unnamed
  exact ((((Passes.start entry rfl).popped.next first).fresh (by decide) read).popped.popped).next
    second

/-- A run may pass over another file than the one that it has: one that an earlier root has, when a
module of a later root has brought its own neighbour in, and one that a name with a point behind it
has brought in. -/
theorem skipped_other :
    (overlapping.files.Linkless ∧ ∃ registry pending stack rest,
      Passes overlapping "/main.py" "import pkg.a\nimport pkg.util\n" [] registry
        ((⟨"pkg/util", "/r0/pkg/util.py"⟩ :: pending) :: stack) rest ∧
      registry.contains "pkg/util" = true ∧
      ∀ r ∈ registry.records, r.canonical = "pkg/util" →
        overlapping.files.resolve r.absolute ≠ overlapping.files.resolve "/r0/pkg/util.py") ∧
    unnamed.files.Linkless ∧ ∃ registry pending stack rest,
      Passes unnamed "/main.py" "" ["a.", "a"] registry
        ((⟨"a", "/a.py"⟩ :: pending) :: stack) rest ∧
      registry.contains "a" = true ∧
      ∀ r ∈ registry.records, r.canonical = "a" →
        unnamed.files.resolve r.absolute ≠ unnamed.files.resolve "/a.py" := by
  obtain ⟨-, -, -, -, later, earlier⟩ := steps_overlapping
  obtain ⟨-, -, -, -, inside, beside⟩ := steps_unnamed
  refine ⟨⟨by simp [Linkless, overlapping], _, _, _, _, passes_overlapping, by decide, ?_⟩,
    by simp [Linkless, unnamed], _, _, _, _, passes_unnamed, by decide, ?_⟩
  · simp [later, earlier]
  · simp [inside, beside]

end Collector

end ScriptBundle
