import ScriptBundle.Proofs.Closure.Rooted
import ScriptBundle.Proofs.Closure.Run

/-!
# Where modules lie

A canonical path and the path of a file are put together apart from each other, one segment list
collapsed at every import, the other only ever made longer. They name the same place.
-/

namespace ScriptBundle

open LogicalPath Resolver

namespace Path

/-- A path with its points followed, as far as the text tells. Nothing is above the root. -/
def collapse (path : String) : String :=
  let kept := normalSegments (segments path)
  if isAbsolute path then "/" ++ "/".intercalate (kept.dropWhile (· = ".."))
  else ofNormalSegments kept

theorem collapse_congr {p q : String} (start : isAbsolute p = isAbsolute q)
    (same : normalSegments (segments p) = normalSegments (segments q)) :
    collapse p = collapse q := by
  simp only [collapse, start, same]

theorem normalSegments_join (directory : String) {path : String}
    (h : isAbsolute path = false) :
    normalSegments (segments (join directory path)) =
      normalSegments (segments directory ++ segments path) := by
  obtain ⟨above, hfilter, hjoin⟩ := segments_join directory
  rw [hjoin path h]
  exact normalSegments_congr (by rw [List.filter_append, List.filter_append, hfilter])

end Path

theorem counts_of_normal {package : List String} (h : normalSegments package = package) :
    ∀ s ∈ package, Path.counts s = true :=
  fun _ hs => (mem_normalSegments (l := package) (h.symm ▸ hs)).2

/-- A path whose first segment counts does not start at the root. -/
theorem isAbsolute_of_counts {path first : String} {rest : List String}
    (h : segments path = first :: rest) (hf : Path.counts first = true) :
    Path.isAbsolute path = false :=
  Path.isAbsolute_eq_false h (counts_iff.1 hf).1

/-- The file of a module and the one that its canonical path names below the root are one path. -/
theorem Rooted.collapse {root canonical absolute : String} (h : Rooted root canonical absolute) :
    Path.collapse absolute =
      Path.collapse (Path.join root (canonical ++ "." ++ sourceExtension)) := by
  obtain ⟨above, package, name, -, hnormal, hc, ha, hn⟩ := h.collapses
  have hfile := segments_file hc
  have hrelative : Path.isAbsolute (canonical ++ "." ++ sourceExtension) = false := by
    cases package with
    | nil => exact isAbsolute_of_counts hfile (counts_file name)
    | cons first rest =>
      exact isAbsolute_of_counts hfile (counts_of_normal hnormal first List.mem_cons_self)
  refine Path.collapse_congr (h.sameStart.trans (Path.isAbsolute_join hrelative).symm) ?_
  calc normalSegments (segments absolute)
      = normalSegments above ++ [name ++ "." ++ sourceExtension] := by
        rw [ha, normalSegments_concat_ordinary _ (ordinary_file name)]
    _ = normalSegments (segments root ++ package ++ [name ++ "." ++ sourceExtension]) := by
        rw [hn, normalSegments_concat_ordinary _ (ordinary_file name)]
    _ = normalSegments (segments root ++ segments (canonical ++ "." ++ sourceExtension)) := by
        rw [hfile, List.append_assoc]
    _ = _ := (Path.normalSegments_join root hrelative).symm

/-- The same of a directory in which references are looked for. -/
theorem Resolver.Under.collapse {root : String} {place : String × String} (h : Under root place)
    (hr : Path.isAbsolute place.2 = false) :
    Path.collapse place.1 = Path.collapse (Path.join root place.2) := by
  refine Path.collapse_congr (h.sameStart.trans (Path.isAbsolute_join hr).symm) ?_
  rw [← segments_eq, h.collapses, segments_eq, segments_eq, Path.normalSegments_join root hr]

/-- The package of a module is seen from the module's root. -/
theorem Rooted.isAbsolute_directory {root absolute : String} {r : Record}
    (h : Rooted root r.canonical absolute) : Path.isAbsolute r.logicalDirectory = false := by
  obtain ⟨-, package, name, -, hnormal, hc, -, -⟩ := h.collapses
  have hdirectory := segments_directory r.canonical
  rw [hc, List.dropLast_concat] at hdirectory
  cases package with
  | nil =>
    have hempty : r.logicalDirectory = "" := by
      rw [Record.logicalDirectory, directory, hc]
      rfl
    rw [hempty]
    rfl
  | cons first rest =>
    rw [if_neg (by simp)] at hdirectory
    exact isAbsolute_of_counts hdirectory (counts_of_normal hnormal first List.mem_cons_self)

namespace Collector

variable {c : Collector} {entry source : String} {names : List String}

/-- **The two names of a module stay in step.** For every module of a closure there is a search root
from which its canonical path leads to its file, points followed on both sides; and from the same
root the module's package leads to the directory of the file, whatever chain of imports, up or
down, the module was found by. -/
theorem locations_agree (dotted : ∀ name ∈ names, DottedForm name) {registry : Registry}
    (h : (c.closure entry source names).outcome = .ok registry) :
    ∀ r ∈ registry.records, ∃ root ∈ c.resolver.roots,
      Path.collapse r.absolute =
          Path.collapse (Path.join root (r.canonical ++ "." ++ sourceExtension)) ∧
        ∃ directory, Path.parent? r.absolute = some directory ∧
          Path.collapse directory = Path.collapse (Path.join root r.logicalDirectory) := by
  intro r hr
  have plain : ∀ name ∈ names, (Reference.ofDotted name).Plain :=
    fun name hname => (dotted name hname).spelled.plain
  obtain ⟨root, hroot, rooted⟩ := (closure_walking h).1.sound.rooted plain r hr
  obtain ⟨above, -, name, -, -, -, ha, -⟩ := rooted.collapses
  obtain ⟨directory, hparent, -⟩ := Path.parent?_eq_some ha (counts_file name)
  exact ⟨root, hroot, rooted.collapse, directory, hparent,
    (rooted.under hparent).collapse rooted.isAbsolute_directory⟩

/-- Modules that climb out of their root and come back to it, and one outside that is asked for. -/
def climbing : Collector where
  files := { entries := [
    (["lib"], .directory), (["lib", "a.py"], .file "from .. import b\n".toUTF8 0o644),
    (["b.py"], .file "from .lib import c\n".toUTF8 0o644),
    (["lib", "c.py"], .file "".toUTF8 0o644), (["plug.py"], .file "".toUTF8 0o644)] }
  resolver := ⟨["/lib"]⟩
  mode := .strict

theorem steps_climbing :
    (extractImports "import a\n" "/lib/main.py").outcome = .ok [⟨"a", []⟩] ∧
    climbing.lookUp none "/lib/main.py" (followed [⟨"a", []⟩]) = .ok [⟨"a", "/lib/a.py"⟩] ∧
    climbing.expand ⟨"a", "/lib/a.py"⟩ =
      .ok (⟨"a", "/lib/a.py", "from .. import b\n"⟩, [⟨"../b", "/lib/../b.py"⟩]) ∧
    climbing.expand ⟨"../b", "/lib/../b.py"⟩ =
      .ok (⟨"../b", "/lib/../b.py", "from .lib import c\n"⟩,
        [⟨"../lib/c", "/lib/.././lib/c.py"⟩]) ∧
    climbing.expand ⟨"../lib/c", "/lib/.././lib/c.py"⟩ =
      .ok (⟨"../lib/c", "/lib/.././lib/c.py", ""⟩, []) ∧
    climbing.lookUp none extraLabel [Reference.ofDotted "..plug"] =
      .ok [⟨"../plug", "/lib/../plug.py"⟩] ∧
    climbing.expand ⟨"../plug", "/lib/../plug.py"⟩ =
      .ok (⟨"../plug", "/lib/../plug.py", ""⟩, []) := by
  decide +kernel

theorem closure_climbing : (climbing.closure "/lib/main.py" "import a\n" ["..plug"]).outcome =
    .ok ⟨[⟨"a", "/lib/a.py", "from .. import b\n"⟩,
      ⟨"../b", "/lib/../b.py", "from .lib import c\n"⟩,
      ⟨"../lib/c", "/lib/.././lib/c.py", ""⟩, ⟨"../plug", "/lib/../plug.py", ""⟩]⟩ := by
  obtain ⟨entry, found, first, second, third, asked, fourth⟩ := steps_climbing
  have searched : Passes climbing "/lib/main.py" "import a\n" ["..plug"]
      ⟨[⟨"a", "/lib/a.py", "from .. import b\n"⟩,
        ⟨"../b", "/lib/../b.py", "from .lib import c\n"⟩,
        ⟨"../lib/c", "/lib/.././lib/c.py", ""⟩]⟩ [] ["..plug"] :=
    ((((Passes.start entry found).fresh (by decide) first).fresh (by decide) second).fresh
      (by decide) third).popped.popped.popped.popped
  exact passes_iff.1 ((searched.next asked).fresh (by decide) fourth).popped.popped

/-- A module that two relative imports lead to, out of the root and back. -/
theorem locations_agree_climbing : DottedForm "..plug" ∧ ∃ registry,
    (climbing.closure "/lib/main.py" "import a\n" ["..plug"]).outcome = .ok registry ∧
      ⟨"../lib/c", "/lib/.././lib/c.py", ""⟩ ∈ registry.records ∧
      Path.collapse "/lib/.././lib/c.py" = Path.collapse (Path.join "/lib" "../lib/c.py") ∧
      Path.collapse "/lib/.././lib" = Path.collapse (Path.join "/lib" "../lib") := by
  have dotted : DottedForm "..plug" :=
    ⟨2, some ⟨⟨"plug", by decide, by decide⟩, []⟩, .inl (by decide), by decide⟩
  obtain ⟨root, hroot, agree, directory, hparent, above⟩ := locations_agree (by simpa using dotted)
    closure_climbing ⟨"../lib/c", "/lib/.././lib/c.py", ""⟩ (by decide)
  obtain rfl : root = "/lib" := by simpa [climbing] using hroot
  obtain rfl : "/lib/.././lib" = directory := by
    have parent : Path.parent? "/lib/.././lib/c.py" = some "/lib/.././lib" := by decide
    simpa [parent] using hparent
  exact ⟨dotted, _, closure_climbing, by decide, agree, above⟩

end Collector

end ScriptBundle
