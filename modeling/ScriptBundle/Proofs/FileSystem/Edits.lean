import ScriptBundle.FileSystem.Edit
import ScriptBundle.Proofs.FileSystem.Linkless

namespace ScriptBundle

namespace Path

/-- A path is reached from another by going up, once or more often. -/
inductive Above : String → String → Prop
  | parent {above path : String} : parent? path = some above → Above above path
  | further {above between path : String} :
    parent? path = some between → Above above between → Above above path

end Path

/-- Entries of one kind. Links of one kind have one target. -/
inductive Entry.Alike : Entry → Entry → Prop
  | file (content content' : ByteArray) (mode mode' : Nat) :
    Alike (.file content mode) (.file content' mode')
  | directory : Alike .directory .directory
  | link (target : String) : Alike (.link target) (.link target)
  | device (content : ByteArray) : Alike (.device content) (.device content)

theorem Entry.Alike.refl (e : Entry) : e.Alike e := by
  cases e with
  | file content mode => exact .file content content mode mode
  | directory => exact .directory
  | link target => exact .link target
  | device content => exact .device content

theorem Entry.Alike.trans {d e f : Entry} (h : d.Alike e) (h' : e.Alike f) : d.Alike f := by
  cases h with
  | file content _ mode _ =>
    cases h' with
    | file _ content' _ mode' => exact .file content content' mode mode'
  | directory | link | device => exact h'

namespace FileSystem

theorem find?_put (fs : FileSystem) {place : Location} (h : place ≠ []) (entry : Entry)
    (other : Location) :
    (fs.put place entry).find? other = if other = place then some entry else fs.find? other := by
  by_cases hroot : other = []
  · simp [find?, hroot, h.symm]
  simp only [find?, hroot, ↓reduceIte]
  unfold put
  split
  · rename_i hany
    have hsame : (fun e : Location × Entry => decide (e.1 = other)) ∘
        (fun e => if e.1 = place then (place, entry) else e) = fun e => decide (e.1 = other) := by
      funext e
      by_cases he : e.1 = place <;> simp [he]
    simp only [List.find?_map, hsame]
    cases hf : fs.entries.find? (·.1 = other) with
    | none =>
      have hne : other ≠ place := by
        rintro rfl
        obtain ⟨e, he, hp⟩ := List.any_eq_true.1 hany
        exact List.find?_eq_none.1 hf e he hp
      simp [hne]
    | some e =>
      obtain rfl : e.1 = other := by simpa using List.find?_some hf
      by_cases ho : e.1 = place <;> simp [ho]
  · rename_i hany
    have hnone : fs.entries.find? (·.1 = place) = none :=
      List.find?_eq_none.2 fun e he hp => hany (List.any_eq_true.2 ⟨e, he, hp⟩)
    rw [List.find?_append]
    by_cases ho : other = place
    · simp [ho, hnone]
    · simp [ho, Ne.symm ho]

theorem find?_put_self (fs : FileSystem) {place : Location} (h : place ≠ []) (entry : Entry) :
    (fs.put place entry).find? place = some entry :=
  (find?_put fs h entry place).trans (if_pos rfl)

@[simp] theorem put_workingDirectory (fs : FileSystem) (place : Location) (entry : Entry) :
    (fs.put place entry).workingDirectory = fs.workingDirectory := by
  unfold put
  split <;> rfl

/-- What was there is there still. Files may have been written anew. -/
structure Keeps (fs later : FileSystem) : Prop where
  workingDirectory : later.workingDirectory = fs.workingDirectory
  entry : ∀ {place : Location} {e : Entry}, fs.find? place = some e →
    ∃ e', later.find? place = some e' ∧ e.Alike e'

namespace Keeps

variable {fs between later : FileSystem}

theorem refl (fs : FileSystem) : fs.Keeps fs := ⟨rfl, fun hf => ⟨_, hf, .refl _⟩⟩

theorem trans (h : fs.Keeps between) (h' : between.Keeps later) : fs.Keeps later := by
  refine ⟨h'.workingDirectory.trans h.workingDirectory, fun hf => ?_⟩
  obtain ⟨e, he, alike⟩ := h.entry hf
  obtain ⟨e', he', alike'⟩ := h'.entry he
  exact ⟨e', he', alike.trans alike'⟩

/-- The end of a walk that a walk through links comes to as well. -/
def Settled (later : FileSystem) (last : LastName) (place : Location) : Prop :=
  last = {} ∨ ∃ e, later.find? place = some e ∧ ∀ target, e ≠ .link target

theorem Settled.found {last : LastName} {place : Location} (h : Settled later last place)
    (missing : last.mayBeMissing = true) :
    ∃ e, later.find? place = some e ∧ ∀ target, e ≠ .link target := by
  rcases h with rfl | h
  · cases missing
  · exact h

theorem Settled.follows {last : LastName} {place : Location} (h : Settled later last place)
    {target : String} (hl : later.find? place = some (.link target)) : last.follow = true := by
  rcases h with rfl | ⟨e, he, hlink⟩
  · rfl
  · exact absurd (Option.some.inj (he.symm.trans hl)) (hlink target)

/-- Name by name both walks are at the same place. At the last one the second may find what the
first one missed, and goes on through a link where the first one may stop. -/
theorem walkAcross (h : fs.Keeps later) {last : LastName} {place : Location}
    (settled : Settled later last place)
    {across across' : Location → String → List String → Except IoError Location}
    (hacross : ∀ start target rest, across start target rest = .ok place →
      across' start target rest = .ok place) {start : Location} {names : List String}
    (hw : fs.walkAcross last across start names = .ok place) :
    later.walkAcross {} across' start names = .ok place := by
  induction names generalizing start with
  | nil => exact hw
  | cons name rest ih =>
    rw [FileSystem.walkAcross] at hw ⊢
    cases hd : fs.find? start with
    | none => simp [hd] at hw
    | some e =>
      obtain ⟨e', hd', alike⟩ := h.entry hd
      cases alike with
      | file | link | device => simp [hd] at hw
      | directory =>
        simp only [hd, hd'] at hw ⊢
        by_cases hp : name = "."
        · rw [if_pos hp] at hw ⊢
          exact ih hw
        rw [if_neg hp] at hw ⊢
        by_cases hu : name = ".."
        · rw [if_pos hu] at hw ⊢
          exact ih hw
        rw [if_neg hu] at hw ⊢
        by_cases hs : 255 < name.utf8ByteSize
        · rw [if_pos hs] at hw
          cases hw
        rw [if_neg hs] at hw ⊢
        cases hn : fs.find? (start ++ [name]) with
        | none =>
          simp only [hn] at hw
          split at hw
          · rename_i hend
            obtain ⟨hrest, missing⟩ := Bool.and_eq_true_iff.1 hend
            cases hw
            obtain ⟨e, he, hlink⟩ := settled.found missing
            cases e with
            | link target => exact absurd rfl (hlink target)
            | file | directory | device => simp [he, List.isEmpty_iff.1 hrest, FileSystem.walkAcross]
          · cases hw
        | some e =>
          obtain ⟨e', hn', alike⟩ := h.entry hn
          cases alike with
          | file | directory | device =>
            simp only [hn, hn'] at hw ⊢
            exact ih hw
          | link target =>
            simp only [hn, hn'] at hw ⊢
            split at hw
            · rename_i hend
              cases hw
              simp [settled.follows hn'] at hend
            · simpa using hacross _ _ _ hw

theorem walk (h : fs.Keeps later) {last : LastName} {place : Location}
    (settled : Settled later last place) {links : Nat} {start : Location} {names : List String}
    (hw : fs.walk last links start names = .ok place) :
    later.walk {} links start names = .ok place := by
  induction links generalizing start names with
  | zero => exact h.walkAcross settled (fun _ _ _ hc => by cases hc) hw
  | succ links ih => exact h.walkAcross settled (fun _ _ _ hc => ih hc) hw

theorem locate (h : fs.Keeps later) {last : LastName} {path : String} {place : Location}
    (settled : Settled later last place) (hl : fs.locate last path = .ok place) :
    later.resolve path = .ok place := by
  obtain ⟨hzero, hne, hsize, hw⟩ := locate_eq_ok.1 hl
  have hstart : later.start path = fs.start path := by simp [start, h.workingDirectory]
  exact locate_eq_ok.2 ⟨hzero, hne, hsize, hstart ▸ h.walk settled hw⟩

/-- A path leads where it did. -/
theorem resolve (h : fs.Keeps later) {path : String} {place : Location}
    (hl : fs.resolve path = .ok place) : later.resolve path = .ok place :=
  h.locate (.inl rfl) hl

/-- Putting keeps what is there if the entry is like the one in its place. -/
theorem put (fs : FileSystem) {place : Location} (hplace : place ≠ []) {entry : Entry}
    (alike : ∀ e, fs.find? place = some e → e.Alike entry) : fs.Keeps (fs.put place entry) := by
  refine ⟨put_workingDirectory fs place entry, fun {other e} hf => ?_⟩
  rw [find?_put fs hplace]
  by_cases ho : other = place
  · subst ho
    exact ⟨entry, if_pos rfl, alike e hf⟩
  · exact ⟨e, (if_neg ho).trans hf, .refl e⟩

end Keeps

/-- What is put where a path leads is found by that path, if it is no link. -/
theorem resolve_put {fs : FileSystem} {last : LastName} {path : String} {place : Location}
    (hl : fs.locate last path = .ok place) (hplace : place ≠ []) {entry : Entry}
    (alike : ∀ e, fs.find? place = some e → e.Alike entry)
    (hlink : ∀ target, entry ≠ .link target) : (fs.put place entry).resolve path = .ok place := by
  have settled : Keeps.Settled (fs.put place entry) last place :=
    .inr ⟨entry, find?_put_self fs hplace entry, hlink⟩
  exact (Keeps.put fs hplace alike).locate settled hl

/-- There may be new directories, which some paths lead to, and nothing else changed. -/
structure Adds (paths : String → Prop) (fs later : FileSystem) : Prop where
  workingDirectory : later.workingDirectory = fs.workingDirectory
  entry : ∀ place, later.find? place = fs.find? place ∨
    fs.find? place = none ∧ later.find? place = some .directory ∧
      ∃ path, paths path ∧ later.resolve path = .ok place

namespace Adds

variable {paths paths' : String → Prop} {fs between later : FileSystem}

theorem refl (paths : String → Prop) (fs : FileSystem) : Adds paths fs fs :=
  ⟨rfl, fun _ => .inl rfl⟩

theorem mono (h : Adds paths fs later) (hp : ∀ path, paths path → paths' path) :
    Adds paths' fs later := by
  refine ⟨h.workingDirectory, fun place => (h.entry place).imp_right ?_⟩
  rintro ⟨hnone, hmade, path, hpath, hleads⟩
  exact ⟨hnone, hmade, path, hp path hpath, hleads⟩

theorem keeps (h : Adds paths fs later) : fs.Keeps later := by
  refine ⟨h.workingDirectory, fun {place e} hf => ?_⟩
  rcases h.entry place with hsame | ⟨hnone, -⟩
  · exact ⟨e, hsame.trans hf, .refl e⟩
  · exact absurd (hnone.symm.trans hf) (by simp)

theorem trans (h : Adds paths fs between) (h' : Adds paths between later) :
    Adds paths fs later := by
  refine ⟨h'.workingDirectory.trans h.workingDirectory, fun place => ?_⟩
  rcases h'.entry place with hsame' | ⟨hnone, hmade⟩
  · rcases h.entry place with hsame | ⟨hnone, hmade, path, hpath, hleads⟩
    · exact .inl (hsame'.trans hsame)
    · exact .inr ⟨hnone, hsame'.trans hmade, path, hpath, h'.keeps.resolve hleads⟩
  · rcases h.entry place with hsame | ⟨-, hmade', -⟩
    · exact .inr ⟨hsame.symm.trans hnone, hmade⟩
    · exact absurd (hnone.symm.trans hmade') (by simp)

end Adds

variable {fs : FileSystem}

/-- What is written along a path is in a file where the path leads, or a device there took it. -/
theorem writeFile_eq_ok {path : String} {content : ByteArray} {written : FileSystem}
    (h : fs.writeFile path content = .ok written) :
    ∃ place, written.resolve path = .ok place ∧
      ((∃ mode, place ≠ [] ∧ written = fs.put place (.file content mode) ∧
          ∀ e, fs.find? place = some e → e.Alike (.file content mode)) ∨
        (∃ before, fs.find? place = some (.device before)) ∧ written = fs) := by
  unfold writeFile at h
  split at h
  · obtain ⟨_, -, h⟩ := Trial.bind_eq_ok h
    cases h
  obtain ⟨place, hl, h⟩ := Trial.bind_eq_ok h
  have hroot : place = [] → fs.find? place = some .directory := by
    rintro rfl
    rfl
  split at h
  · rename_i old mode hf
    cases h
    have hplace : place ≠ [] := fun he => by simp [hroot he] at hf
    have alike : ∀ e, fs.find? place = some e → e.Alike (.file content mode) := by
      intro e he
      cases hf.symm.trans he
      exact .file old content mode mode
    exact ⟨place, resolve_put hl hplace alike (by simp), .inl ⟨mode, hplace, rfl, alike⟩⟩
  · rename_i before hf
    cases h
    have leads : fs.resolve path = .ok place :=
      (Keeps.refl fs).locate (.inr ⟨.device before, hf, by simp⟩) hl
    exact ⟨place, leads, .inr ⟨⟨before, hf⟩, rfl⟩⟩
  · cases h
  · rename_i hf
    cases h
    have hplace : place ≠ [] := fun he => by simp [hroot he] at hf
    have alike : ∀ e, fs.find? place = some e → e.Alike (.file content plainMode) :=
      fun e he => absurd (hf.symm.trans he) (by simp)
    exact ⟨place, resolve_put hl hplace alike (by simp), .inl ⟨plainMode, hplace, rfl, alike⟩⟩

theorem setMode_file {path : String} {place : Location} {content : ByteArray} {before : Nat}
    (hl : fs.resolve path = .ok place) (hf : fs.find? place = some (.file content before))
    (mode : Nat) :
    fs.setMode path mode = .ok (fs.put place (.file content mode)) := by
  simp [setMode, hl, hf, bind, Except.bind]

/-- Marking a file keeps what is there. -/
theorem keeps_marked {place : Location} (hplace : place ≠ []) {content : ByteArray} {before : Nat}
    (hf : fs.find? place = some (.file content before)) (mode : Nat) :
    fs.Keeps (fs.put place (.file content mode)) := by
  refine Keeps.put fs hplace fun e he => ?_
  cases hf.symm.trans he
  exact .file content content before mode

theorem setMode_device {path : String} {place : Location} {content : ByteArray}
    (hl : fs.resolve path = .ok place) (hf : fs.find? place = some (.device content)) (mode : Nat) :
    fs.setMode path mode = .ok fs := by
  simp [setMode, hl, hf, bind, Except.bind]

end FileSystem

end ScriptBundle
