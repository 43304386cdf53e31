import ScriptBundle.Payload.Base64
import ScriptBundle.Proofs.Payload.Bits

namespace ScriptBundle.Payload.Base64

def IsDigit (c : Char) : Prop :=
  ('A' ≤ c ∧ c ≤ 'Z') ∨ ('a' ≤ c ∧ c ≤ 'z') ∨ ('0' ≤ c ∧ c ≤ '9') ∨ c = '+' ∨ c = '/'

/-- Groups of four digits, where one or two `=` may fill up the last. -/
def Padded (text : List Char) : Prop :=
  text.length % 4 = 0 ∧ ∃ digits padding, text = digits ++ padding ∧
    (∀ c ∈ digits, IsDigit c) ∧ (padding = [] ∨ padding = ['='] ∨ padding = ['=', '='])

instance : DecidablePred IsDigit := fun c => by
  unfold IsDigit
  infer_instance

theorem digit_spec : ∀ n < 64, value? (digit n) = some n ∧ digit n ≠ '=' ∧ IsDigit (digit n) := by
  decide

theorem value?_digit {n : Nat} (h : n < 64) : value? (digit n) = some n := (digit_spec n h).1

theorem digit_ne {n : Nat} (h : n < 64) : digit n ≠ '=' := (digit_spec n h).2.1

theorem isDigit_digit {n : Nat} (h : n < 64) : IsDigit (digit n) := (digit_spec n h).2.2

/-- A group of four digits is read as three bytes, whatever comes behind it. -/
theorem decode_group {p q r s : Nat} (hp : p < 64) (hq : q < 64) (hr : r < 64) (hs : s < 64)
    (rest : List Char) :
    decode (digit p :: digit q :: digit r :: digit s :: rest) = (decode rest).map fun bytes =>
      UInt8.ofNat (p * 4 + q / 16) :: UInt8.ofNat (q % 16 * 16 + r / 4) ::
        UInt8.ofNat (r % 4 * 64 + s) :: bytes := by
  rw [decode]
  · simp only [value?_digit, hp, hq, hr, hs, Option.bind_eq_bind, Option.bind_some, Option.pure_def]
    cases decode rest <;> rfl
  · intro _ h
    exact absurd h (digit_ne hs)
  · intro h
    exact absurd h (digit_ne hs)

/-- Two digits that are filled up are read as one byte. -/
theorem decode_two {p q : Nat} (hp : p < 64) (hq : q < 64) (hzero : q % 16 = 0) :
    decode [digit p, digit q, '=', '='] = some [UInt8.ofNat (p * 4 + q / 16)] := by
  simp [decode, value?_digit hp, value?_digit hq, hzero, guard]

/-- Three digits that are filled up are read as two bytes. -/
theorem decode_three {p q r : Nat} (hp : p < 64) (hq : q < 64) (hr : r < 64) (hzero : r % 4 = 0) :
    decode [digit p, digit q, digit r, '='] =
      some [UInt8.ofNat (p * 4 + q / 16), UInt8.ofNat (q % 16 * 16 + r / 4)] := by
  rw [decode]
  · simp [value?_digit hp, value?_digit hq, value?_digit hr, hzero, guard]
  · exact digit_ne hr

theorem decode_encode (bytes : List UInt8) : decode (encode bytes) = some bytes := by
  fun_induction encode bytes with
  | case1 => rfl
  | case2 a =>
    have ha := a.toNat_lt
    rw [decode_two (by omega) (by omega) (by omega), byte_eq (a := a) (by omega)]
  | case3 a b =>
    have ha := a.toNat_lt
    have hb := b.toNat_lt
    rw [decode_three (by omega) (by omega) (by omega) (by omega), byte_eq (a := a) (by omega),
      byte_eq (a := b) (by omega)]
  | case4 a b c rest ih =>
    have ha := a.toNat_lt
    have hb := b.toNat_lt
    have hc := c.toNat_lt
    rw [decode_group (by omega) (by omega) (by omega) (by omega), ih, Option.map_some,
      byte_eq (a := a) (by omega), byte_eq (a := b) (by omega), byte_eq (a := c) (by omega)]

theorem Padded.group {p q r s : Nat} (hp : p < 64) (hq : q < 64) (hr : r < 64) (hs : s < 64)
    {rest : List Char} (h : Padded rest) :
    Padded (digit p :: digit q :: digit r :: digit s :: rest) := by
  obtain ⟨hlength, digits, padding, rfl, hdigits, hpadding⟩ := h
  refine ⟨by simp only [List.length_cons]; omega,
    digit p :: digit q :: digit r :: digit s :: digits, padding, rfl, ?_, hpadding⟩
  simp only [List.forall_mem_cons]
  exact ⟨isDigit_digit hp, isDigit_digit hq, isDigit_digit hr, isDigit_digit hs, hdigits⟩

theorem padded_encode (bytes : List UInt8) : Padded (encode bytes) := by
  fun_induction encode bytes with
  | case1 => exact ⟨rfl, [], [], rfl, by simp, .inl rfl⟩
  | case2 a =>
    have ha := a.toNat_lt
    refine ⟨by simp, [digit (a.toNat / 4), digit (a.toNat % 4 * 16)], ['=', '='], rfl, ?_,
      .inr (.inr rfl)⟩
    simp only [List.forall_mem_cons]
    exact ⟨isDigit_digit (by omega), isDigit_digit (by omega), by simp⟩
  | case3 a b =>
    have ha := a.toNat_lt
    have hb := b.toNat_lt
    refine ⟨by simp, [digit (a.toNat / 4), digit (a.toNat % 4 * 16 + b.toNat / 16),
      digit (b.toNat % 16 * 4)], ['='], rfl, ?_, .inr (.inl rfl)⟩
    simp only [List.forall_mem_cons]
    exact ⟨isDigit_digit (by omega), isDigit_digit (by omega), isDigit_digit (by omega), by simp⟩
  | case4 a b c rest ih =>
    have ha := a.toNat_lt
    have hb := b.toNat_lt
    have hc := c.toNat_lt
    exact ih.group (by omega) (by omega) (by omega) (by omega)

end ScriptBundle.Payload.Base64
