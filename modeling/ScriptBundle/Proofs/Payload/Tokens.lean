import Mathlib.Data.Option.Basic
import ScriptBundle.Payload.Deflate.Write

namespace ScriptBundle.Payload.Deflate

variable {bytes : Array UInt8}

theorem push_extract {place : Nat} {b : UInt8} (h : bytes[place]? = some b) :
    (bytes.extract 0 place).push b = bytes.extract 0 (place + 1) := by
  obtain ⟨hlt, rfl⟩ := Array.getElem?_eq_some_iff.1 h
  rw [Array.push_extract_getElem hlt, Nat.min_eq_left (Nat.zero_le _)]

theorem commonLength_le (bytes : Array UInt8) (earlier later limit : Nat) :
    commonLength bytes earlier later limit ≤ limit := by
  induction limit generalizing earlier later with
  | zero => exact Nat.le_refl _
  | succ limit ih =>
    rw [commonLength]
    have := ih (earlier + 1) (later + 1)
    split
    · omega
    · split <;> omega

/-- There is no common byte behind the end. -/
theorem add_commonLength_le {later : Nat} (h : later ≤ bytes.size) (earlier limit : Nat) :
    later + commonLength bytes earlier later limit ≤ bytes.size := by
  induction limit generalizing earlier later with
  | zero => exact h
  | succ limit ih =>
    rw [commonLength]
    split
    · omega
    · rename_i b hb
      have hlt := (Array.getElem?_eq_some_iff.1 hb).1
      have hnext : later + 1 ≤ bytes.size := hlt
      have := ih hnext (earlier + 1)
      split <;> omega

/-- A copy of bytes that were compared goes on with the bytes, also where it reaches into itself. -/
theorem copyOnto_commonLength {earlier later limit length : Nat} (h : earlier < later)
    (hsize : later ≤ bytes.size) (hl : length ≤ commonLength bytes earlier later limit) :
    copyOnto (later - earlier) length (bytes.extract 0 later) =
      some (bytes.extract 0 (later + length)) := by
  induction length generalizing earlier later limit with
  | zero => rfl
  | succ length ih =>
    cases limit with
    | zero => exact absurd hl (Nat.not_succ_le_zero _)
    | succ limit =>
      rw [commonLength] at hl
      split at hl
      · exact absurd hl (Nat.not_succ_le_zero _)
      · rename_i b hb
        split at hl
        · rename_i hearlier
          have hlt := (Array.getElem?_eq_some_iff.1 hb).1
          have hdone : (bytes.extract 0 later).size = later := by
            rw [Array.size_extract]
            omega
          -- The byte is there already, also where this copy itself has written it.
          have hsource : (bytes.extract 0 later)[later - (later - earlier)]? = some b := by
            rw [Array.getElem?_extract, if_pos (by omega), ← hearlier]
            congr 1
            omega
          have hcommon : length ≤ commonLength bytes (earlier + 1) (later + 1) limit := by omega
          have hbefore : earlier + 1 < later + 1 := by omega
          have hinside : later + 1 ≤ bytes.size := hlt
          have hnext := ih hbefore hinside hcommon
          rw [Nat.add_sub_add_right, Nat.add_right_comm] at hnext
          rw [copyOnto, if_neg (by omega), hdone, hsource]
          dsimp only
          rw [push_extract hb, hnext, Nat.add_assoc]
        · exact absurd hl (Nat.not_succ_le_zero _)

theorem copyAt?_eq_some {seen : Seen} {place length distance : Nat}
    (h : copyAt? bytes seen place = some (length, distance)) :
    ∃ earlier < place, distance = place - earlier ∧ distance ≤ maxDistance ∧ minCopy ≤ length ∧
      length = commonLength bytes earlier place maxCopy := by
  simp only [copyAt?, Option.bind_eq_bind, Option.bind_eq_some_iff] at h
  obtain ⟨trigram, -, earlier, -, near, hnear, long, hlong, h⟩ := h
  cases h
  have hbounds := (Option.guard_eq_some' _).1 hnear
  exact ⟨earlier, hbounds.1, rfl, hbounds.2, (Option.guard_eq_some' _).1 hlong, rfl⟩

/-- A copy has a length and a distance that can be written. -/
def Token.Sendable : Token → Prop
  | .literal _ => True
  | .copy length distance =>
    minCopy ≤ length ∧ length ≤ maxCopy ∧ 1 ≤ distance ∧ distance ≤ maxDistance

/-- Tokens from a place on go on with the bytes, whatever places were noted. -/
theorem tokensFrom_spec (seen : Seen) {place : Nat} (h : place ≤ bytes.size) :
    (tokensFrom bytes seen place).foldlM Token.onto (bytes.extract 0 place) = some bytes ∧
      ∀ t ∈ tokensFrom bytes seen place, t.Sendable := by
  fun_induction tokensFrom bytes seen place with
  | case1 seen place hlt length distance hcopy ih =>
    obtain ⟨earlier, hearlier, rfl, hdistance, hmin, hlength⟩ := copyAt?_eq_some hcopy
    have hmax := commonLength_le bytes earlier place maxCopy
    have hinside := add_commonLength_le h earlier maxCopy
    have hstep : Token.onto (bytes.extract 0 place) (.copy (length + 1) (place - earlier)) =
        some (bytes.extract 0 (place + (length + 1))) :=
      copyOnto_commonLength hearlier h (Nat.le_of_eq hlength)
    obtain ⟨hexpand, hsendable⟩ := ih (by omega)
    refine ⟨?_, List.forall_mem_cons.2 ⟨⟨hmin, by omega, by omega, hdistance⟩, hsendable⟩⟩
    rw [List.foldlM_cons, hstep]
    exact hexpand
  | case2 seen place hlt hnone ih =>
    have hstep : Token.onto (bytes.extract 0 place) (.literal bytes[place]) =
        some (bytes.extract 0 (place + 1)) :=
      congrArg some (push_extract (Array.getElem?_eq_getElem hlt))
    obtain ⟨hexpand, hsendable⟩ := ih hlt
    refine ⟨?_, List.forall_mem_cons.2 ⟨trivial, hsendable⟩⟩
    rw [List.foldlM_cons, hstep]
    exact hexpand
  | case3 seen place hend =>
    have hplace : place = bytes.size := by omega
    simp [hplace]

theorem expand_tokensOf (bytes : Array UInt8) : expand (tokensOf bytes) = some bytes := by
  simpa [expand, tokensOf] using (tokensFrom_spec {} (Nat.zero_le bytes.size)).1

theorem sendable_tokensOf (bytes : Array UInt8) : ∀ t ∈ tokensOf bytes, t.Sendable :=
  (tokensFrom_spec {} (Nat.zero_le _)).2

end ScriptBundle.Payload.Deflate
