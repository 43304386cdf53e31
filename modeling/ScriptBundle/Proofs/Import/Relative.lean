import ScriptBundle.Import.Record
import ScriptBundle.Proofs.Import.Spelling
import ScriptBundle.Proofs.Path.Equivalence

namespace ScriptBundle

open Python LogicalPath

/-- The packages that a module lies in, outermost first. -/
def Record.enclosing (r : Record) : List String := (segments r.canonical).dropLast

/-- The name of a module imported from a package with `level` points in front: the last `level - 1`
names of the package are dropped, and nothing lies above its first. -/
def absoluteName (package : String) (level : Nat) (module : Option String) : Option String :=
  let names := (Text.pieces '.' package.toList).map String.ofList
  let base := ".".intercalate (names.take (names.length - (level - 1)))
  if package = "" ∨ names.length < level then none
  else match module with
    | none => some base
    | some name => some (base ++ "." ++ name)

/-! ## Climbing out of packages -/

/-- Each `..` leaves the innermost package, and above the outermost it stays. -/
theorem LogicalPath.normalSegments_climb {packages : List String}
    (h : ∀ s ∈ packages, Ordinary s) (m : Nat) :
    normalSegments (packages ++ List.replicate m "..") =
      packages.take (packages.length - m) ++ List.replicate (m - packages.length) ".." := by
  induction m with
  | zero => simpa using normalSegments_ordinary h
  | succ m ih =>
    rw [List.replicate_succ', ← List.append_assoc, normalSegments_concat, ih]
    by_cases inside : m < packages.length
    · have bound : packages.length - (m + 1) < packages.length := by omega
      have innermost : packages.take (packages.length - m) =
          packages.take (packages.length - (m + 1)) ++ [packages[packages.length - (m + 1)]] := by
        rw [List.take_append_getElem bound]
        congr 1
        omega
      have ordinary := h _ (List.getElem_mem bound)
      have none : m - packages.length = 0 := by omega
      have noneNext : m + 1 - packages.length = 0 := by omega
      rw [innermost, none, noneNext, List.replicate_zero, List.append_nil, List.append_nil,
        List.reverse_concat, follow_up_ordinary ordinary, List.reverse_reverse]
    · have left : packages.length - m = 0 := by omega
      have leftNext : packages.length - (m + 1) = 0 := by omega
      have more : m + 1 - packages.length = m - packages.length + 1 := by omega
      rw [left, leftNext, more]
      simp [follow_up_replicate]

/-- A single point stays where it is, each further one is a `..`. -/
theorem LogicalPath.normalSegments_up (packages words : List String) {level : Nat}
    (h : 1 ≤ level) :
    normalSegments (packages ++ (up level ++ words)) =
      normalSegments (packages ++ List.replicate (level - 1) ".." ++ words) := by
  match level, h with
  | 1, _ => simpa [up] using normalSegments_idle packages words Idle.point
  | n + 2, _ => simp [up]

/-! ## Where a relative import leads -/

variable {r : Record}

theorem Record.enclosing_ordinary (normal : normalize r.canonical = r.canonical)
    (inside : ".." ∉ segments r.canonical) : ∀ s ∈ r.enclosing, Ordinary s := by
  rcases normalize_shape r.canonical with top | ⟨n, words, shape, some, ordinary⟩
  · rw [normal] at top
    have alone : (segments ".").dropLast = [] := by decide
    simp [Record.enclosing, top, alone]
  · have plain : ∀ s ∈ List.replicate n ".." ++ words, '/' ∉ s.toList := by
      intro s hs
      rcases List.mem_append.1 hs with hs | hs
      · rw [List.eq_of_mem_replicate hs]
        decide
      · exact (ordinary s hs).2
    have spelled : segments r.canonical = List.replicate n ".." ++ words := by
      rw [← normal, shape]
      exact Path.segments_intercalate some plain
    intro s hs
    have member : s ∈ List.replicate n ".." ++ words := spelled ▸ List.dropLast_subset _ hs
    rcases List.mem_append.1 member with up | down
    · rw [List.eq_of_mem_replicate up, ← spelled] at member
      exact absurd member inside
    · exact (ordinary s down).1

theorem Record.slash_not_mem_enclosing {s : String} (h : s ∈ r.enclosing) : '/' ∉ s.toList :=
  Path.not_mem_of_mem_segments (List.dropLast_subset _ h)

/-- A relative import leads out of as many packages as it has points after the first, and from there
down by its words. -/
theorem below_ofImport (normal : normalize r.canonical = r.canonical)
    (inside : ".." ∉ segments r.canonical) {level : Nat} (positive : 1 ≤ level)
    (module : Option DottedName) :
    below r.logicalDirectory (ofImport level (module.map DottedName.text)) =
      ofNormalSegments (r.enclosing.take (r.enclosing.length - (level - 1)) ++
        List.replicate (level - 1 - r.enclosing.length) ".." ++
        ((module.map DottedName.words).getD []).map Word.text) := by
  have words : ∀ s ∈ ((module.map DottedName.words).getD []).map Word.text, Ordinary s := by
    intro s hs
    obtain ⟨word, -, rfl⟩ := List.mem_map.1 hs
    exact word.ordinary
  have base : ∀ back, normalSegments (segments r.logicalDirectory ++ back) =
      normalSegments (r.enclosing ++ back) := by
    intro back
    rw [Record.logicalDirectory, segments_directory]
    split
    · rename_i none
      rw [Record.enclosing, none]
      exact normalSegments_idle [] back Idle.empty
    · rfl
  rw [below_eq, base, segments_ofImport (.inl (by omega)), normalSegments_up _ _ positive,
    normalSegments_append _ words, normalSegments_climb (Record.enclosing_ordinary normal inside)]

/-! ## What Python calls the module -/

theorem pieces_intercalate {names : List String} (some : names ≠ [])
    (plain : ∀ s ∈ names, '.' ∉ s.toList) :
    (Text.pieces '.' (".".intercalate names).toList).map String.ofList = names := by
  have hpoint : ".".toList = ['.'] := by decide
  have cut : (['.'].intercalate (names.map String.toList)).splitOn '.' = names.map String.toList :=
    List.splitOn_intercalate '.' (by simpa using plain) (by simpa using some)
  simp [Text.pieces_eq_splitOn, String.toList_intercalate, hpoint, cut, Function.comp_def]

theorem slashed_append (a b : String) : slashed (a ++ "." ++ b) = slashed a ++ "/" ++ slashed b := by
  apply String.toList_injective
  simp [slashed]

theorem ofSegments_append {a b : List String} (someA : a ≠ []) (someB : b ≠ [])
    (plainA : ∀ s ∈ a, '/' ∉ s.toList) (plainB : ∀ s ∈ b, '/' ∉ s.toList) :
    ofSegments a ++ "/" ++ ofSegments b = ofSegments (a ++ b) := by
  have joined : segments (ofSegments a ++ "/" ++ ofSegments b) = a ++ b := by
    rw [segments_join_slash]
    exact congrArg₂ (· ++ ·) (Path.segments_intercalate someA plainA)
      (Path.segments_intercalate someB plainB)
  rw [← joined]
  exact (Path.intercalate_segments _).symm

/-- Where there are packages enough, one is left. -/
theorem take_packages_ne_nil {packages : List String} {level : Nat} (positive : 1 ≤ level)
    (within : level ≤ packages.length) : packages.take (packages.length - (level - 1)) ≠ [] := by
  rw [Ne, List.take_eq_nil_iff, not_or]
  constructor
  · omega
  · apply List.ne_nil_of_length_pos
    omega

/-- The name of a relative import, where Python has one, is that of the place it leads to. -/
theorem slashed_absoluteName {packages : List String} (h : ∀ s ∈ packages, s ≠ "")
    (slashless : ∀ s ∈ packages, '/' ∉ s.toList) (pointless : ∀ s ∈ packages, '.' ∉ s.toList)
    {level : Nat} (positive : 1 ≤ level) (module : Option DottedName) :
    (absoluteName (".".intercalate packages) level (module.map DottedName.text)).map slashed =
      if level ≤ packages.length then
        some (ofSegments (packages.take (packages.length - (level - 1)) ++
          ((module.map DottedName.words).getD []).map Word.text))
      else none := by
  by_cases none : packages = []
  · have beyond : ¬ level ≤ 0 := by omega
    simp [absoluteName, none, beyond]
  · have names := pieces_intercalate none pointless
    have named : ".".intercalate packages ≠ "" := by
      intro empty
      rw [empty] at names
      have single : packages = [""] := names.symm
      exact h "" (by simp [single]) rfl
    unfold absoluteName
    rw [names]
    by_cases within : level ≤ packages.length
    · have known : ¬ (".".intercalate packages = "" ∨ packages.length < level) := by
        simp [named, within]
      have base : slashed (".".intercalate (packages.take (packages.length - (level - 1)))) =
          ofSegments (packages.take (packages.length - (level - 1))) :=
        slashed_names fun s hs => pointless s (List.mem_of_mem_take hs)
      rw [if_pos within, if_neg known]
      cases module with
      | none => simp [base]
      | some module =>
        have tail : slashed module.text = ofSegments (module.words.map Word.text) :=
          slashed_intercalate module.words
        have left := take_packages_ne_nil positive within
        simp only [Option.map_some, Option.getD_some, slashed_append, base, tail,
          Option.some.injEq]
        apply ofSegments_append left
        · simp [DottedName.words]
        · exact fun s hs => slashless s (List.mem_of_mem_take hs)
        · intro s hs
          obtain ⟨word, -, rfl⟩ := List.mem_map.1 hs
          exact word.not_mem
    · have beyond : ".".intercalate packages = "" ∨ packages.length < level := by omega
      rw [if_neg within, if_pos beyond]
      rfl

/-- **Relative imports lead where Python's do.** For a module in normal form without `..`, an import
with points in front leads out of as many packages as it has points after the first and from there
down its words, and above the top every further point is a `..`. Where Python has a name for it, that
is the name of this place. A dotted name, with any number of points in front, stands for the same
path. -/
theorem relative_imports :
    (∀ r : Record, normalize r.canonical = r.canonical → ".." ∉ segments r.canonical →
      ∀ level, 1 ≤ level → ∀ module : Option DottedName,
        let words := ((module.map DottedName.words).getD []).map Word.text
        let climbed := level - 1
        let place := below r.logicalDirectory (ofImport level (module.map DottedName.text))
        (climbed ≤ r.enclosing.length →
          place = ofNormalSegments (r.enclosing.take (r.enclosing.length - climbed) ++ words)) ∧
        (r.enclosing.length < climbed →
          place = ofSegments (List.replicate (climbed - r.enclosing.length) ".." ++ words)) ∧
        ((∀ s ∈ r.enclosing, '.' ∉ s.toList) →
          (absoluteName (".".intercalate r.enclosing) level
            (module.map DottedName.text)).map slashed =
              if level ≤ r.enclosing.length then some place else none)) ∧
    ∀ level, ∀ module : Option DottedName,
      (Reference.ofDotted (String.ofList (List.replicate level '.') ++
        (module.map DottedName.text).getD "")).path =
          ofImport level (module.map DottedName.text) := by
  constructor
  · intro r normal inside level positive module words climbed place
    have ordinary := Record.enclosing_ordinary normal inside
    have lead : place = _ := below_ofImport normal inside positive module
    have known : climbed ≤ r.enclosing.length →
        place = ofNormalSegments (r.enclosing.take (r.enclosing.length - climbed) ++ words) := by
      intro within
      have none : level - 1 - r.enclosing.length = 0 := by omega
      rw [lead, none, List.replicate_zero, List.append_nil]
    refine ⟨known, ?beyond, ?named⟩
    case beyond =>
      intro beyond
      have left : r.enclosing.length - (level - 1) = 0 := by omega
      have some : List.replicate (level - 1 - r.enclosing.length) ".." ++ words ≠ [] := by
        simp
        omega
      rw [lead, left, List.take_zero, List.nil_append, ofNormalSegments_of_ne_nil some]
    case named =>
      intro pointless
      rw [slashed_absoluteName (fun s hs => (ordinary s hs).1)
        (fun s hs => Record.slash_not_mem_enclosing hs) pointless positive]
      by_cases within : level ≤ r.enclosing.length
      · have some : r.enclosing.take (r.enclosing.length - (level - 1)) ++ words ≠ [] := by
          simp [take_packages_ne_nil positive within]
        rw [if_pos within, if_pos within, known (by omega), ofNormalSegments_of_ne_nil some]
      · rw [if_neg within, if_neg within]
  · intro level module
    apply path_ofDotted
    simp

theorem relative_imports_up_one :
    ∃ (r : Record) (name : DottedName), normalize r.canonical = r.canonical ∧
      r.enclosing = ["pkg", "sub"] ∧ name.text = "x.y" ∧
      below r.logicalDirectory (ofImport 2 (some name.text)) = "pkg/x/y" := by
  have led := (relative_imports.1 ⟨"pkg/sub/mod", "/pkg/sub/mod.py", ""⟩ (by decide) (by decide)
    2 (by decide) (some ⟨⟨"x", by decide, by decide⟩, [⟨"y", by decide, by decide⟩]⟩)).1 (by decide)
  exact ⟨_, _, by decide, by decide, by decide, led.trans (by decide)⟩

end ScriptBundle
