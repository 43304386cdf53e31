import ScriptBundle.Failure
import ScriptBundle.FileSystem.Basic
import ScriptBundle.Proofs.Path.Collapse

namespace ScriptBundle

namespace FileSystem

open LogicalPath (Ordinary normalSegments normalSegments_concat_cases)

variable (fs : FileSystem)

/-- No entry is a symbolic link. -/
def Linkless : Prop := ∀ e ∈ fs.entries, ∀ target, e.2 ≠ .link target

/-- Follow one name that is no link. -/
def advance (place : Location) (name : String) : Except IoError Location :=
  match fs.find? place with
  | some .directory =>
    if name = "." then .ok place
    else if name = ".." then .ok place.dropLast
    else if 255 < name.utf8ByteSize then .error .nameTooLong
    else if (fs.find? (place ++ [name])).isSome then .ok (place ++ [name])
    else .error .notFound
  | some (.file _ _) | some (.device _) => .error .notDirectory
  | _ => .error .notFound

/-- The place that a segment spells, seen from a place. -/
def enter (place : Location) (segment : String) : Location :=
  if segment = "" ∨ segment = "." then place
  else if segment = ".." then place.dropLast
  else place ++ [segment]

/-- Where a path starts. -/
def start (path : String) : Location := if Path.isAbsolute path then [] else fs.workingDirectory

/-- The place that a path spells, whatever is there. -/
def spelled (path : String) : Location := (Path.segments path).foldl enter (fs.start path)

variable {fs}

theorem Linkless.find? (h : fs.Linkless) (place : Location) (target : String) :
    fs.find? place ≠ some (.link target) := by
  intro hf
  unfold FileSystem.find? at hf
  split at hf
  · cases hf
  · obtain ⟨e, he, hl⟩ := Option.map_eq_some_iff.1 hf
    exact h e (List.mem_of_find?_eq_some he) target hl

theorem walkAcross_eq_foldlM (h : fs.Linkless)
    (across : Location → String → List String → Except IoError Location) (place : Location)
    (names : List String) :
    fs.walkAcross {} across place names = names.foldlM fs.advance place := by
  induction names generalizing place with
  | nil => rfl
  | cons name rest ih =>
    rw [walkAcross, List.foldlM_cons, advance]
    cases hd : fs.find? place with
    | none => rfl
    | some entry =>
      cases entry with
      | file | device => rfl
      | link target => exact absurd hd (h.find? place target)
      | directory =>
        dsimp only
        by_cases hp : name = "."
        · rw [if_pos hp, if_pos hp, ih]
          rfl
        rw [if_neg hp, if_neg hp]
        by_cases hu : name = ".."
        · rw [if_pos hu, if_pos hu, ih]
          rfl
        rw [if_neg hu, if_neg hu]
        by_cases hs : 255 < name.utf8ByteSize
        · rw [if_pos hs, if_pos hs]
          rfl
        rw [if_neg hs, if_neg hs]
        cases hn : fs.find? (place ++ [name]) with
        | none => simp
        | some entry =>
          cases entry with
          | link target => exact absurd hn (h.find? _ target)
          | file | directory | device =>
            simp only [Option.isSome_some, ↓reduceIte, ih]
            rfl

/-- Without links a walk takes its names one by one. -/
theorem walk_eq_foldlM (h : fs.Linkless) (links : Nat) (place : Location) (names : List String) :
    fs.walk {} links place names = names.foldlM fs.advance place := by
  cases links with
  | zero => exact walkAcross_eq_foldlM h _ place names
  | succ links => exact walkAcross_eq_foldlM h _ place names

/-- A path leads somewhere if it is a path at all and the walk along its names ends. -/
theorem locate_eq_ok {last : LastName} {path : String} {place : Location} :
    fs.locate last path = .ok place ↔ '\x00' ∉ path.toList ∧ path ≠ "" ∧ path.utf8ByteSize < 4096 ∧
      fs.walk last 40 (fs.start path) (names path) = .ok place := by
  unfold locate
  by_cases hz : '\x00' ∈ path.toList
  · simp [hz]
  by_cases he : path = ""
  · simp [he]
  by_cases hs : 4096 ≤ path.utf8ByteSize
  · simp [hz, he, hs, Nat.not_lt.2 hs]
  · simp [hz, he, hs, start, Nat.lt_of_not_le hs]

theorem resolve_eq_ok (h : fs.Linkless) {path : String} {place : Location} :
    fs.resolve path = .ok place ↔ '\x00' ∉ path.toList ∧ path ≠ "" ∧ path.utf8ByteSize < 4096 ∧
      (names path).foldlM fs.advance (fs.start path) = .ok place := by
  rw [← walk_eq_foldlM h 40]
  exact locate_eq_ok

theorem advance_eq_ok {place next : Location} {name : String} (h : fs.advance place name = .ok next)
    (hn : name ≠ "") : fs.find? place = some .directory ∧ next = enter place name := by
  unfold advance at h
  split at h
  · rename_i hd
    refine ⟨hd, ?_⟩
    unfold enter
    split at h
    · rename_i hp
      simpa [hp] using h.symm
    · rename_i hp
      split at h
      · rename_i hu
        simpa [hu] using h.symm
      · rename_i hu
        split at h
        · cases h
        · split at h
          · simpa [hn, hp, hu] using h.symm
          · cases h
  all_goals cases h

theorem foldlM_advance_eq_ok {place target : Location} {names : List String}
    (h : names.foldlM fs.advance place = .ok target) (hn : ∀ name ∈ names, name ≠ "") :
    target = names.foldl enter place := by
  induction names generalizing place with
  | nil =>
    cases h
    rfl
  | cons name rest ih =>
    rw [List.forall_mem_cons] at hn
    rw [List.foldlM_cons] at h
    obtain ⟨next, hnext, h⟩ := Trial.bind_eq_ok h
    rw [List.foldl_cons, ← (advance_eq_ok hnext hn.1).2]
    exact ih h hn.2

/-! ## Segments and names -/

theorem foldl_enter_filter (place : Location) (l : List String) :
    (l.filter (· ≠ "")).foldl enter place = l.foldl enter place := by
  induction l generalizing place with
  | nil => rfl
  | cons s rest ih =>
    by_cases hs : s = ""
    · subst hs
      exact ih place
    · rw [List.filter_cons_of_pos (by simpa using hs)]
      exact ih (enter place s)

theorem ne_empty_of_mem_names {path name : String} (h : name ∈ names path) : name ≠ "" := by
  unfold names at h
  dsimp only at h
  split at h
  · rcases List.mem_append.1 h with h | h
    · simpa using (List.mem_filter.1 h).2
    · rw [List.mem_singleton.1 h]
      decide
  · simpa using (List.mem_filter.1 h).2

/-- Names are the segments that are not empty, unless the path ends in a slash. -/
theorem names_eq {path last : String} {init : List String}
    (h : Path.segments path = init ++ [last]) (hl : last ≠ "") :
    names path = (init ++ [last]).filter (· ≠ "") := by
  have hslash := Path.getLast?_ne_slash h hl
  simp [names, hslash, h]

theorem enter_ordinary {segment : String} (h : Ordinary segment) (place : Location) :
    enter place segment = place ++ [segment] := by
  obtain ⟨he, hp, hu⟩ := h
  simp [enter, he, hp, hu]

theorem foldl_enter_ordinary {l : List String} (h : ∀ s ∈ l, Ordinary s) (place : Location) :
    l.foldl enter place = place ++ l := by
  induction l generalizing place with
  | nil => simp
  | cons s rest ih =>
    rw [List.forall_mem_cons] at h
    rw [List.foldl_cons, enter_ordinary h.1, ih h.2, List.append_assoc]
    rfl

/-- A path spells the same place as its normal form. -/
theorem foldl_enter_normalSegments (place : Location) (l : List String) :
    (normalSegments l).foldl enter place = l.foldl enter place := by
  induction l using List.reverseRecOn with
  | nil => rfl
  | append_singleton l s ih =>
    rw [List.foldl_append, ← ih, List.foldl_cons, List.foldl_nil]
    rcases normalSegments_concat_cases l s with ⟨hs, hn⟩ | hn | ⟨front, last, rfl, ho, hl, hn⟩
    · have hskip : s = "" ∨ s = "." := by
        simp only [Path.counts] at hs
        grind
      simp [hn, enter, hskip]
    · rw [hn, List.foldl_append, List.foldl_cons, List.foldl_nil]
    · rw [hn, hl, List.foldl_append, List.foldl_cons, List.foldl_nil, enter_ordinary ho]
      simp [enter]

/-! ## Where paths lead -/

/-- A path leads nowhere but to the place that it spells. -/
theorem spelled_of_resolve (h : fs.Linkless) {path last : String} {init : List String}
    (hs : Path.segments path = init ++ [last]) (hl : last ≠ "") {place : Location}
    (hr : fs.resolve path = .ok place) : place = fs.spelled path := by
  obtain ⟨-, -, -, hw⟩ := (resolve_eq_ok h).1 hr
  have hplace := foldlM_advance_eq_ok hw fun name hn => ne_empty_of_mem_names hn
  rw [hplace, names_eq hs hl, foldl_enter_filter, spelled, hs]

theorem isFile_iff {path : String} : fs.isFile path = true ↔
    ∃ place content mode, fs.resolve path = .ok place ∧
      fs.find? place = some (.file content mode) := by
  unfold isFile entry?
  cases fs.resolve path with
  | error e => simp
  | ok place =>
    cases hf : fs.find? place with
    | none => simp [hf]
    | some entry => cases entry <;> simp [hf]

/-- What a path goes through is a directory. -/
theorem directory_on_the_way (h : fs.Linkless) {path last : String} {front rest : List String}
    (hs : Path.segments path = front ++ (rest ++ [last])) (hl : last ≠ "") {place : Location}
    (hr : fs.resolve path = .ok place) :
    (front.filter (· ≠ "")).foldlM fs.advance (fs.start path) =
        .ok (front.foldl enter (fs.start path)) ∧
      fs.find? (front.foldl enter (fs.start path)) = some .directory := by
  obtain ⟨-, -, -, hw⟩ := (resolve_eq_ok h).1 hr
  rw [← List.append_assoc] at hs
  rw [names_eq hs hl, List.append_assoc, List.filter_append, List.foldlM_append] at hw
  obtain ⟨middle, hfront, hw⟩ := Trial.bind_eq_ok hw
  have hmiddle : middle = front.foldl enter (fs.start path) := by
    rw [foldlM_advance_eq_ok hfront (by simp), foldl_enter_filter]
  obtain ⟨name, more, hmore⟩ : ∃ name more, (rest ++ [last]).filter (· ≠ "") = name :: more := by
    apply List.exists_cons_of_ne_nil
    simp [List.filter_append, hl]
  have hname : name ≠ "" := by
    have : name ∈ (rest ++ [last]).filter (· ≠ "") := hmore ▸ List.mem_cons_self
    simpa using (List.mem_filter.1 this).2
  rw [hmore, List.foldlM_cons] at hw
  obtain ⟨next, hnext, -⟩ := Trial.bind_eq_ok hw
  exact ⟨hmiddle ▸ hfront, hmiddle ▸ (advance_eq_ok hnext hname).1⟩

/-- A file in a directory that some path goes through is reached by the path up to there. -/
theorem isFile_beside (h : fs.Linkless) {path other last name : String} {front rest : List String}
    (hs : Path.segments path = front ++ (rest ++ [last])) (hl : last ≠ "")
    (hfile : fs.isFile path = true) (ho : Path.segments other = front ++ [name])
    (hstart : Path.isAbsolute other = Path.isAbsolute path) (hzero : '\x00' ∉ other.toList)
    (hsize : other.utf8ByteSize < 4096) (hname : Ordinary name) (hshort : name.utf8ByteSize ≤ 255)
    {content : ByteArray} {mode : Nat}
    (hthere : fs.find? (front.foldl enter (fs.start path) ++ [name]) = some (.file content mode)) :
    fs.isFile other = true := by
  obtain ⟨place, -, -, hr, -⟩ := isFile_iff.1 hfile
  obtain ⟨hw, hd⟩ := directory_on_the_way h hs hl hr
  have hne : other ≠ "" := by
    rintro rfl
    have hin : name ∈ Path.segments "" := ho ▸ by simp
    exact hname.1 (by simpa [Path.segments, Text.pieces] using hin)
  have hadvance : fs.advance (front.foldl enter (fs.start path)) name =
      .ok (front.foldl enter (fs.start path) ++ [name]) := by
    simp [advance, hd, hname.2.1, hname.2.2, Nat.not_lt.2 hshort, hthere]
  refine isFile_iff.2 ⟨_, content, mode, (resolve_eq_ok h).2 ⟨hzero, hne, hsize, ?_⟩, hthere⟩
  have hstart : fs.start other = fs.start path := by simp [start, hstart]
  rw [names_eq ho hname.1, List.filter_append, List.foldlM_append, hstart, hw]
  simp [hname.1, hadvance]

end FileSystem

end ScriptBundle
