import ScriptBundle.Import.Resolve
import ScriptBundle.Proofs.FileSystem.Linkless
import ScriptBundle.Proofs.Import.Candidates

/-!
# Paths with points in front

`./` in front of a path leads nowhere else, but it makes the path longer, and the file system takes
no path of 4096 bytes.
-/

namespace ScriptBundle

namespace Path

/-- A path with `./` in front of it, some number of times. -/
def points : Nat → String → String
  | 0, path => path
  | n + 1, path => "." ++ "/" ++ points n path

theorem segments_points (n : Nat) (path : String) :
    segments (points n path) = List.replicate n "." ++ segments path := by
  have hpoint : segments "." = ["."] := by decide
  induction n with
  | zero => rfl
  | succ n ih =>
    rw [points, segments_append, ih, hpoint, List.replicate_succ]
    rfl

theorem size_points (n : Nat) (path : String) :
    (points n path).utf8ByteSize = 2 * n + path.utf8ByteSize := by
  have hpoint : ".".utf8ByteSize = 1 := by decide
  have hslash : "/".utf8ByteSize = 1 := by decide
  induction n with
  | zero => simp [points]
  | succ n ih =>
    rw [points, String.utf8ByteSize_append, String.utf8ByteSize_append, hpoint, hslash, ih]
    omega

theorem mem_points {c : Char} (hp : c ≠ '.') (hs : c ≠ '/') {n : Nat} {path : String} :
    c ∈ (points n path).toList ↔ c ∈ path.toList := by
  induction n with
  | zero => rfl
  | succ n ih => simp [points, hp, hs, ih]

theorem isAbsolute_points {path : String} (h : isAbsolute path = false) (n : Nat) :
    isAbsolute (points n path) = false := by
  cases n with
  | zero => exact h
  | succ n =>
    simp [points, isAbsolute]

theorem points_append (n : Nat) (path more : String) :
    points n path ++ more = points n (path ++ more) := by
  induction n with
  | zero => rfl
  | succ n ih => rw [points, points, ← ih, String.append_assoc]

theorem points_ne_empty {path : String} (h : path ≠ "") (n : Nat) : points n path ≠ "" := by
  intro he
  have hsize := size_points n path
  have hpath : path.utf8ByteSize ≠ 0 := by simpa using h
  rw [he] at hsize
  simp only [String.utf8ByteSize_empty] at hsize
  omega

theorem getLast?_points {path : String} (h : path ≠ "") (n : Nat) :
    (points n path).toList.getLast? = path.toList.getLast? := by
  induction n with
  | zero => rfl
  | succ n ih =>
    rw [points, String.toList_append, List.getLast?_append, ih]
    have hsome : path.toList.getLast?.isSome = true := by simpa using h
    obtain ⟨c, hc⟩ := Option.isSome_iff_exists.1 hsome
    rw [hc, Option.some_or]

theorem join_points {directory path : String} (hd : directory ≠ "")
    (hp : isAbsolute path = false) (n : Nat) :
    join (points n directory) path = points n (join directory path) := by
  simp only [join, hp, getLast?_points hd, points_ne_empty hd, hd, Bool.false_eq_true, ↓reduceIte,
    decide_false, Bool.false_or]
  split
  · exact points_append n directory path
  · rw [points_append, points_append]

end Path

namespace FileSystem

open ScriptBundle.Path (points)

theorem foldlM_advance_points {fs : FileSystem} {place : Location}
    (h : fs.find? place = some .directory) (n : Nat) :
    (List.replicate n ".").foldlM fs.advance place = .ok place := by
  induction n with
  | zero => rfl
  | succ n ih =>
    have hstep : fs.advance place "." = .ok place := by simp [advance, h]
    rw [List.replicate_succ, List.foldlM_cons, hstep]
    exact ih

/-- With points in front a path spells what it did without. -/
theorem spelled_points (fs : FileSystem) {path : String} (hr : Path.isAbsolute path = false)
    (n : Nat) : fs.spelled (points n path) = fs.spelled path := by
  have hstay : ∀ place, (List.replicate n ".").foldl enter place = place := by
    intro place
    induction n with
    | zero => rfl
    | succ n ih => exact ih
  simp only [spelled, start, Path.isAbsolute_points hr, hr, Path.segments_points, List.foldl_append,
    hstay]

/-- With points in front a path leads where it did without, unless it is too long. -/
theorem resolve_points {fs : FileSystem} (linkless : fs.Linkless)
    (working : fs.find? fs.workingDirectory = some .directory) {path last : String}
    {init : List String} (hs : Path.segments path = init ++ [last]) (hl : last ≠ "")
    (hr : Path.isAbsolute path = false) {n : Nat} {place : Location} :
    fs.resolve (points n path) = .ok place ↔
      2 * n + path.utf8ByteSize < 4096 ∧ fs.resolve path = .ok place := by
  have hne : path ≠ "" := by
    rintro rfl
    have hin : last ∈ Path.segments "" := hs ▸ by simp
    exact hl (by simpa [Path.segments, Text.pieces] using hin)
  have hpoints : Path.segments (points n path) = List.replicate n "." ++ init ++ [last] := by
    rw [Path.segments_points, hs, List.append_assoc]
  have hnames : names (points n path) = List.replicate n "." ++ names path := by
    rw [names_eq hpoints hl, names_eq hs hl, List.append_assoc, List.filter_append]
    simp
  have hwalk : (names (points n path)).foldlM fs.advance (fs.start (points n path)) =
      (names path).foldlM fs.advance (fs.start path) := by
    have hstart : fs.start (points n path) = fs.start path := by
      simp [start, hr, Path.isAbsolute_points hr]
    have hhere : fs.find? (fs.start path) = some .directory := by simpa [start, hr] using working
    rw [hnames, List.foldlM_append, hstart, foldlM_advance_points hhere]
    rfl
  rw [resolve_eq_ok linkless, resolve_eq_ok linkless, hwalk, Path.size_points,
    Path.mem_points (by decide) (by decide)]
  constructor
  · rintro ⟨hzero, -, hsize, hplace⟩
    exact ⟨hsize, hzero, hne, by omega, hplace⟩
  · rintro ⟨hsize, hzero, -, -, hplace⟩
    exact ⟨hzero, Path.points_ne_empty hne n, hsize, hplace⟩

theorem isFile_points {fs : FileSystem} (linkless : fs.Linkless)
    (working : fs.find? fs.workingDirectory = some .directory) {path last : String}
    {init : List String} (hs : Path.segments path = init ++ [last]) (hl : last ≠ "")
    (hr : Path.isAbsolute path = false) {n : Nat} :
    fs.isFile (points n path) = true ↔
      2 * n + path.utf8ByteSize < 4096 ∧ fs.isFile path = true := by
  rw [isFile_iff, isFile_iff]
  simp only [resolve_points linkless working hs hl hr]
  grind

/-- A text that was read is read by the longer path too. -/
theorem readText_points {fs : FileSystem} (linkless : fs.Linkless)
    (working : fs.find? fs.workingDirectory = some .directory) {path last : String}
    {init : List String} (hs : Path.segments path = init ++ [last]) (hl : last ≠ "")
    (hr : Path.isAbsolute path = false) {n : Nat} (short : 2 * n + path.utf8ByteSize < 4096)
    {text : String} (h : fs.readText path = .ok text) : fs.readText (points n path) = .ok text := by
  obtain ⟨bytes, hb, ht⟩ := Trial.bind_eq_ok h
  obtain ⟨place, hp, hf⟩ := Trial.bind_eq_ok hb
  have hresolve := (resolve_points linkless working hs hl hr).2 ⟨short, hp⟩
  have hbytes : fs.readBytes (points n path) = .ok bytes := by
    rw [readBytes, hresolve]
    exact hf
  rw [readText, hbytes]
  exact ht

theorem readSource_points {fs : FileSystem} (linkless : fs.Linkless)
    (working : fs.find? fs.workingDirectory = some .directory) {path last : String}
    {init : List String} (hs : Path.segments path = init ++ [last]) (hl : last ≠ "")
    (hr : Path.isAbsolute path = false) {n : Nat} (short : 2 * n + path.utf8ByteSize < 4096)
    {text : String} (h : fs.readText path = .ok text) :
    readSource fs (points n path) = .ok text := by
  rw [readSource, readText_points linkless working hs hl hr short h]
  rfl

end FileSystem

namespace Resolver

open ScriptBundle.Path (points)

/-- A match by a longer path. -/
def lengthen (n : Nat) (m : Match) : Match := ⟨m.canonical, points n m.absolute⟩

variable {fs : FileSystem} {directory base : String}

theorem foldl_distinct_lengthen (n : Nat) (found done : List Match) :
    (found.map (lengthen n)).foldl
        (fun done m => if done.any (·.canonical = m.canonical) then done else done ++ [m])
        (done.map (lengthen n)) =
      (found.foldl
        (fun done m => if done.any (·.canonical = m.canonical) then done else done ++ [m])
        done).map (lengthen n) := by
  induction found generalizing done with
  | nil => rfl
  | cons m rest ih =>
    rw [List.map_cons, List.foldl_cons, List.foldl_cons, ← ih]
    congr 1
    have hany : (done.map (lengthen n)).any (·.canonical = (lengthen n m).canonical) =
        done.any (·.canonical = m.canonical) := by
      rw [List.any_map]
      rfl
    rw [hany]
    split <;> simp

theorem matchAt_points (linkless : fs.Linkless)
    (working : fs.find? fs.workingDirectory = some .directory) (hd : directory ≠ "")
    (hr : Path.isAbsolute directory = false) {k : Candidate}
    (hk : Path.isAbsolute k.fileName = false) (n : Nat) :
    matchAt fs (points n directory) base k =
      if 2 * n + (Path.join directory k.fileName).utf8ByteSize < 4096 then
        (matchAt fs directory base k).map (lengthen n)
      else none := by
  obtain ⟨above, -, hjoin⟩ := Path.segments_join directory
  have hs : ∃ init last, Path.segments (Path.join directory k.fileName) =
      init ++ [last ++ "." ++ sourceExtension] := by
    rcases List.eq_nil_or_concat (LogicalPath.segments k.path) with hnil | ⟨init, last, hlast⟩
    · exact absurd hnil (Path.segments_ne_nil k.path)
    · refine ⟨above ++ init, last, ?_⟩
      rw [hjoin _ hk, ← LogicalPath.segments_eq,
        segments_fileName (hlast.trans (List.concat_eq_append ..)), List.append_assoc]
  obtain ⟨init, last, hs⟩ := hs
  have hfile := FileSystem.isFile_points linkless working hs (ordinary_file last).1
    ((Path.isAbsolute_join hk).trans hr) (n := n)
  unfold matchAt
  dsimp only
  rw [Path.join_points hd hk]
  by_cases hsize : 2 * n + (Path.join directory k.fileName).utf8ByteSize < 4096
  · rw [if_pos hsize]
    by_cases hf : fs.isFile (Path.join directory k.fileName) = true
    · rw [if_pos hf, if_pos (hfile.2 ⟨hsize, hf⟩)]
      rfl
    · rw [if_neg hf, if_neg fun h => hf (hfile.1 h).2]
      rfl
  · rw [if_neg hsize, if_neg fun h => hsize (hfile.1 h).1]

/-- Below a directory with points in front a resolver finds what it finds without them, as far as
the paths are not too long. -/
theorem matchesIn_points (linkless : fs.Linkless)
    (working : fs.find? fs.workingDirectory = some .directory) (hd : directory ≠ "")
    (hr : Path.isAbsolute directory = false) {candidates : List Candidate}
    (hk : ∀ k ∈ candidates, Path.isAbsolute k.fileName = false) (n : Nat) :
    matchesIn fs (points n directory) base candidates =
      (matchesIn fs directory base (candidates.filter fun k =>
        2 * n + (Path.join directory k.fileName).utf8ByteSize < 4096)).map (lengthen n) := by
  have hfound : candidates.filterMap (matchAt fs (points n directory) base) =
      ((candidates.filter fun k =>
        2 * n + (Path.join directory k.fileName).utf8ByteSize < 4096).filterMap
          (matchAt fs directory base)).map (lengthen n) := by
    induction candidates with
    | nil => rfl
    | cons k rest ih =>
      rw [List.forall_mem_cons] at hk
      have hstep : matchAt fs (points n directory) base k = _ :=
        matchAt_points linkless working hd hr hk.1 n
      by_cases hsize : 2 * n + (Path.join directory k.fileName).utf8ByteSize < 4096
      · rw [if_pos hsize] at hstep
        rw [List.filter_cons_of_pos (by simpa using hsize), List.filterMap_cons, List.filterMap_cons,
          hstep, ih hk.2]
        cases matchAt fs directory base k <;> rfl
      · rw [if_neg hsize] at hstep
        rw [List.filter_cons_of_neg (by simpa using hsize), List.filterMap_cons, hstep, ih hk.2]
  unfold matchesIn
  rw [hfound]
  exact foldl_distinct_lengthen n _ []

end Resolver

end ScriptBundle
