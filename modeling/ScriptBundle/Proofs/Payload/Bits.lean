import Mathlib.Algebra.Ring.Nat
import Mathlib.Data.Option.Basic
import ScriptBundle.Payload.Bits

namespace ScriptBundle.Payload

/-! ## Numbers -/

theorem byte_eq {a : UInt8} {n : Nat} (h : n % 256 = a.toNat) : UInt8.ofNat n = a := by
  apply UInt8.toNat_inj.1
  rw [UInt8.toNat_ofNat', h]

@[simp] theorem length_bitsOf (width n : Nat) : (bitsOf width n).length = width := by
  induction width generalizing n with
  | zero => rfl
  | succ width ih => simp [bitsOf, ih]

/-- Further zeros stand behind some bits. -/
theorem bitsOf_numberOf {bits : List Bool} {width : Nat} (h : bits.length ≤ width) :
    bitsOf width (numberOf bits) = bits ++ List.replicate (width - bits.length) false := by
  induction width generalizing bits with
  | zero =>
    obtain rfl : bits = [] := List.length_eq_zero_iff.1 (by omega)
    rfl
  | succ width ih =>
    cases bits with
    | nil => simpa [numberOf, bitsOf, List.replicate_succ] using @ih [] (by simp)
    | cons b rest =>
      have hlow : (b.toNat + 2 * numberOf rest) % 2 = b.toNat := by cases b <;> simp
      have hhigh : (b.toNat + 2 * numberOf rest) / 2 = numberOf rest := by
        have hb := b.toNat_le
        omega
      have hb : decide (b.toNat = 1) = b := by cases b <;> rfl
      simp only [List.length_cons] at h
      rw [numberOf, bitsOf, hlow, hhigh, hb, ih (by omega), List.length_cons, Nat.add_sub_add_right,
        List.cons_append]

/-! ## Readings -/

/-- A reading takes some bits for a value, whatever comes behind them. -/
def Reads {α : Type} (x : BitReading α) (bits : List Bool) (a : α) : Prop :=
  ∀ rest, x.run (bits ++ rest) = some (a, rest)

variable {α β : Type}

theorem reads_pure (a : α) : Reads (pure a) [] a := fun _ => rfl

theorem Reads.bind {x : BitReading α} {f : α → BitReading β} {front back : List Bool} {a : α}
    {b : β} (hx : Reads x front a) (hf : Reads (f a) back b) :
    Reads (x >>= f) (front ++ back) b := by
  intro rest
  rw [List.append_assoc, StateT.run_bind, hx]
  exact hf rest

/-- What takes no bits may go before a reading. -/
theorem Reads.bind_nil {x : BitReading α} {f : α → BitReading β} {bits : List Bool} {a : α} {b : β}
    (hx : Reads x [] a) (hf : Reads (f a) bits b) : Reads (x >>= f) bits b :=
  hx.bind hf

/-- What takes no further bits may come behind a reading. -/
theorem Reads.bind_last {x : BitReading α} {f : α → BitReading β} {bits : List Bool} {a : α} {b : β}
    (hx : Reads x bits a) (hf : Reads (f a) [] b) : Reads (x >>= f) bits b := by
  simpa using hx.bind hf

theorem Reads.bind_pure {x : BitReading α} {bits : List Bool} {a : α} (hx : Reads x bits a)
    (f : α → β) : Reads (x >>= fun a => Pure.pure (f a)) bits (f a) :=
  hx.bind_last (reads_pure (f a))

theorem reads_lift {x : Option α} {a : α} (h : x = some a) :
    Reads (liftM x : BitReading α) [] a := by
  intro rest
  rw [h]
  rfl

theorem reads_guard {p : Prop} [Decidable p] (h : p) : Reads (guard p : BitReading Unit) [] () := by
  intro rest
  simp [guard, h]

theorem reads_bit (b : Bool) : Reads BitReading.bit [b] b := fun _ => rfl

theorem reads_number {width n : Nat} (h : n < 2 ^ width) :
    Reads (BitReading.number width) (bitsOf width n) n := by
  induction width generalizing n with
  | zero =>
    obtain rfl : n = 0 := by simpa using h
    exact reads_pure 0
  | succ width ih =>
    have hhalf : n / 2 < 2 ^ width := by
      rw [Nat.pow_succ] at h
      omega
    have hn : (decide (n % 2 = 1)).toNat + 2 * (n / 2) = n := by
      rcases Nat.mod_two_eq_zero_or_one n with h | h <;> simp [h] <;> omega
    have hhigh := (ih hhalf).bind_pure fun m => (decide (n % 2 = 1)).toNat + 2 * m
    rw [hn] at hhigh
    exact (reads_bit (n % 2 = 1)).bind hhigh

/-! ## Bytes -/

theorem bitsOfBytes_cons (a : UInt8) (rest : List UInt8) :
    bitsOfBytes (a :: rest) = bitsOf 8 a.toNat ++ bitsOfBytes rest :=
  List.flatMap_cons

theorem bitsOfBytes_append (front back : List UInt8) :
    bitsOfBytes (front ++ back) = bitsOfBytes front ++ bitsOfBytes back :=
  List.flatMap_append

theorem length_bitsOfBytes (bytes : List UInt8) :
    (bitsOfBytes bytes).length = 8 * bytes.length := by
  induction bytes with
  | nil => rfl
  | cons a rest ih =>
    rw [bitsOfBytes_cons, List.length_append, length_bitsOf, ih, List.length_cons]
    omega

theorem reads_bytes (bytes : List UInt8) :
    Reads (BitReading.bytes bytes.length) (bitsOfBytes bytes) bytes := by
  induction bytes with
  | nil => exact reads_pure []
  | cons a rest ih =>
    have ha : UInt8.ofNat a.toNat = a := byte_eq (Nat.mod_eq_of_lt a.toNat_lt)
    have hrest := ih.bind_pure fun rest => UInt8.ofNat a.toNat :: rest
    rw [ha] at hrest
    rw [bitsOfBytes_cons]
    refine (reads_number a.toNat_lt).bind ?_
    rwa [ha]

theorem numberOf_lt (bits : List Bool) : numberOf bits < 2 ^ bits.length := by
  induction bits with
  | nil => decide
  | cons b rest ih =>
    have hb : b.toNat ≤ 1 := Bool.toNat_le b
    rw [numberOf, List.length_cons, Nat.pow_succ]
    omega

/-- Bits that were put into bytes come back with zeros behind them, fewer than fill a byte. -/
theorem bitsOfBytes_bytesOfBits (bits : List Bool) :
    ∃ zeros < 8, bitsOfBytes (bytesOfBits bits) = bits ++ List.replicate zeros false ∧
      (bits.length + zeros) % 8 = 0 := by
  fun_induction bytesOfBits bits with
  | case1 => exact ⟨0, by decide, rfl, rfl⟩
  | case2 b rest ih =>
    obtain ⟨zeros, hzeros, hbits, hwhole⟩ := ih
    have hpos : 0 < (b :: rest).length := Nat.succ_pos _
    generalize b :: rest = bits at *
    have hlength : (bits.take 8).length ≤ 8 := List.length_take_le 8 bits
    have hbyte : (UInt8.ofNat (numberOf (bits.take 8))).toNat = numberOf (bits.take 8) := by
      have hlt := numberOf_lt (bits.take 8)
      have hpow : 2 ^ (bits.take 8).length ≤ 2 ^ 8 := Nat.pow_le_pow_right (by decide) hlength
      rw [UInt8.toNat_ofNat']
      exact Nat.mod_eq_of_lt (by omega)
    rw [bitsOfBytes_cons, hbyte, bitsOf_numberOf hlength]
    rw [List.length_drop] at hwhole
    by_cases hshort : bits.length ≤ 8
    · rw [List.drop_of_length_le hshort, List.take_of_length_le hshort]
      exact ⟨8 - bits.length, by omega, by simp [bytesOfBits, bitsOfBytes], by omega⟩
    · have hfull : 8 - (bits.take 8).length = 0 := by
        rw [List.length_take]
        omega
      refine ⟨zeros, hzeros, ?_, by omega⟩
      rw [hbits, hfull, List.replicate_zero, List.append_nil, ← List.append_assoc,
        List.take_append_drop]

/-- The zeros that fill up the last byte before some bytes are passed over. -/
theorem align_run {zeros : Nat} (h : zeros < 8) (bytes : List UInt8) :
    BitReading.align.run (List.replicate zeros false ++ bitsOfBytes bytes) =
      some ((), bitsOfBytes bytes) := by
  have hzeros : (List.replicate zeros false ++ bitsOfBytes bytes).length % 8 = zeros := by
    rw [List.length_append, List.length_replicate, length_bitsOfBytes]
    omega
  have hdrop : (List.replicate zeros false ++ bitsOfBytes bytes).drop zeros = bitsOfBytes bytes :=
    List.drop_left' List.length_replicate
  change some ((), _) = _
  rw [hzeros, hdrop]

end ScriptBundle.Payload
