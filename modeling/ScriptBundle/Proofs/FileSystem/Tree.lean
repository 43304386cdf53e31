import ScriptBundle.FileSystem.Tree
import ScriptBundle.Proofs.FileSystem.Edits

namespace ScriptBundle.FileSystem

variable {fs made left : FileSystem} {path : String}

/-- A file that was made has its content and its mode, unless its path leads to a device. -/
theorem make_file {content : ByteArray} {executable : Bool}
    (h : fs.make path (.file content executable) = .ok made)
    (file : ∀ before, made.entry? path ≠ some (.device before)) :
    made.entry? path = some (.file content (if executable then executableMode else plainMode)) := by
  obtain ⟨between, -, h⟩ := Trial.bind_eq_ok h
  obtain ⟨written, hwrite, hmark⟩ := Trial.bind_eq_ok h
  obtain ⟨place, leads, ⟨mode, hplace, rfl, -⟩ | ⟨⟨before, hdevice⟩, rfl⟩⟩ := writeFile_eq_ok hwrite
  · have hfile := find?_put_self between hplace (.file content mode)
    rw [setMode_file leads hfile] at hmark
    obtain rfl := Except.ok.inj hmark
    unfold entry?
    rw [(keeps_marked hplace hfile _).resolve leads]
    exact find?_put_self _ hplace _
  · rw [setMode_device leads hdevice] at hmark
    obtain rfl := Except.ok.inj hmark
    refine absurd ?_ (file before)
    unfold entry?
    rw [leads]
    exact hdevice

/-- A link that was made stands where nothing stood, and nothing else changed. -/
theorem makeLink_adds {target : String} (h : fs.makeLink path target = .ok made) :
    ∃ place, fs.locate ⟨false, true⟩ path = .ok place ∧ fs.find? place = none ∧
      ∀ other, made.find? other =
        if other = place then some (.link target) else fs.find? other := by
  obtain ⟨place, hl, h⟩ := Trial.bind_eq_ok h
  split at h
  · cases h
  · rename_i hnone
    cases h
    have hplace : place ≠ [] := by
      rintro rfl
      cases hnone
    exact ⟨place, hl, hnone, find?_put fs hplace (.link target)⟩

/-- What is removed is gone with all that is below it, and nothing else is. -/
theorem find?_remove (h : fs.remove path = .ok left) :
    ∃ place, fs.locate ⟨false, false⟩ path = .ok place ∧
      ∀ other ≠ [], left.find? other = if place <+: other then none else fs.find? other := by
  obtain ⟨place, hl, h⟩ := Trial.bind_eq_ok h
  cases h
  refine ⟨place, hl, fun other hother => ?_⟩
  simp only [find?, if_neg hother, List.find?_filter]
  split
  · rename_i hbelow
    rw [List.find?_eq_none.2, Option.map_none]
    rintro e - hfound
    obtain ⟨hkept, rfl⟩ : place.isPrefixOf e.1 = false ∧ e.1 = other := by simpa using hfound
    rw [List.isPrefixOf_iff_prefix.2 hbelow] at hkept
    cases hkept
  · rename_i hapart
    have hkept : place.isPrefixOf other = false := by
      rwa [← Bool.not_eq_true, List.isPrefixOf_iff_prefix]
    congr 2
    funext e
    by_cases he : e.1 = other
    · simp [he, hkept]
    · simp [he]

end ScriptBundle.FileSystem
