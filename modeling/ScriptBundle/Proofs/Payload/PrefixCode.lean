import ScriptBundle.Payload.PrefixCode
import ScriptBundle.Proofs.Payload.Bits

namespace ScriptBundle.Payload

theorem bitsOf_succ (width n : Nat) :
    bitsOf (width + 1) n = bitsOf width n ++ [decide (n / 2 ^ width % 2 = 1)] := by
  induction width generalizing n with
  | zero => simp [bitsOf]
  | succ width ih =>
    rw [bitsOf, ih, bitsOf, Nat.div_div_eq_div_mul, Nat.pow_succ', List.cons_append]

namespace PrefixCode

/-- The codewords of each length fit below the shorter ones. -/
def Fits (code : PrefixCode) : Prop := (roomFrom 1 code.levels).isSome = true

/-! ## Reading a codeword -/

variable {symbol : Nat} {word : List Bool}

theorem run_symbolFrom (passed first : Nat) (level : Array Nat) (levels : List (Array Nat))
    (b : Bool) (rest : List Bool) :
    (symbolFrom passed first (level :: levels)).run (b :: rest) =
      match level[2 * passed + b.toNat - first]? with
      | some symbol => some (symbol, rest)
      | none =>
        (symbolFrom (2 * passed + b.toNat) (2 * (first + level.size)) levels).run rest := by
  change (match level[2 * passed + b.toNat - first]? with
    | some symbol => (pure symbol : BitReading Nat)
    | none => symbolFrom (2 * passed + b.toNat) (2 * (first + level.size)) levels).run rest = _
  split <;> rfl

theorem toNat_decide_mod_two (n : Nat) : (decide (n % 2 = 1)).toNat = n % 2 := by
  rcases Nat.mod_two_eq_zero_or_one n with h | h <;> simp [h]

/-- The next bit of a number, highest first. -/
theorem next_bit (v k : Nat) : 2 * (v / 2 ^ (k + 1)) + (decide (v / 2 ^ k % 2 = 1)).toNat =
    v / 2 ^ k := by
  rw [toNat_decide_mod_two, Nat.pow_succ, ← Nat.div_div_eq_div_mul]
  omega

/-- A codeword found in further levels is read there, from the bits passed so far on. It stands
above all that is shorter, so no shorter codeword is read. -/
theorem reads_codewordFrom {levels : List (Array Nat)} {depth first room : Nat}
    (fits : (roomFrom room levels).isSome = true) (hroom : first + 2 * room = 2 ^ depth)
    (h : codewordFrom symbol depth first levels = some word) :
    ∃ more v, word = (bitsOf (depth + more) v).reverse ∧ first * 2 ^ more ≤ v ∧
      v < 2 ^ (depth + more) ∧
      Reads (symbolFrom (v / 2 ^ (more + 1)) first levels) (bitsOf (more + 1) v).reverse
        symbol := by
  -- `first` and the room left make up a power of two at every depth. That is what keeps a longer
  -- codeword above all symbols of a shorter level, so that the reading goes past them.
  induction levels generalizing depth first room with
  | nil => cases h
  | cons level levels ih =>
    rw [roomFrom] at fits
    split at fits
    · rename_i hsize
      rw [codewordFrom] at h
      split at h
      · rename_i index hindex
        obtain ⟨hlt, hsymbol, -⟩ := List.idxOf?_eq_some_iff.1 hindex
        cases h
        rw [Array.length_toList] at hlt
        refine ⟨0, first + index, rfl, by omega, by rw [Nat.add_zero]; omega, fun rest => ?_⟩
        have hhit : level[(first + index) / 2 ^ 0 - first]? = some symbol := by
          simp [hlt, ← hsymbol]
        rw [bitsOf_succ, List.reverse_append, List.reverse_singleton, List.singleton_append,
          List.cons_append, run_symbolFrom, next_bit, hhit]
        rfl
      · rename_i hnone
        have hnext : 2 * (first + level.size) + 2 * (2 * room - level.size) = 2 ^ (depth + 1) := by
          rw [Nat.pow_succ]
          omega
        obtain ⟨more, v, hword, hfirst, hv, hreads⟩ := ih fits hnext h
        have habove : 2 * (first + level.size) * 2 ^ more =
            (first + level.size) * 2 ^ (more + 1) := by
          rw [Nat.pow_succ, Nat.mul_comm 2, Nat.mul_assoc, Nat.mul_comm 2]
        refine ⟨more + 1, v, by rw [hword]; congr 2; omega, ?_,
          by rwa [Nat.add_right_comm] at hv, ?_⟩
        · rw [habove, Nat.add_mul] at hfirst
          omega
        · intro rest
          have hpast : first + level.size ≤ v / 2 ^ (more + 1) :=
            (Nat.le_div_iff_mul_le (Nat.two_pow_pos _)).2 (habove ▸ hfirst)
          have hmiss : level[v / 2 ^ (more + 1) - first]? = none :=
            Array.getElem?_eq_none (by omega)
          rw [bitsOf_succ, List.reverse_append, List.reverse_singleton, List.singleton_append,
            List.cons_append, run_symbolFrom, next_bit, hmiss]
          exact hreads rest
    · cases fits

/-- In a code that fits, a codeword is read as its symbol. -/
theorem reads_symbol {code : PrefixCode} (fits : code.Fits)
    (h : code.codeword? symbol = some word) : Reads code.symbol word symbol := by
  have hroom : 0 + 2 * 1 = 2 ^ 1 := rfl
  obtain ⟨more, v, rfl, -, hv, hreads⟩ := reads_codewordFrom fits hroom h
  rw [Nat.add_comm] at hv ⊢
  rwa [Nat.div_eq_of_lt hv] at hreads

theorem codeword?_ne_nil {code : PrefixCode} (fits : code.Fits)
    (h : code.codeword? symbol = some word) : word ≠ [] := by
  have hroom : 0 + 2 * 1 = 2 ^ 1 := rfl
  obtain ⟨more, v, rfl, -⟩ := reads_codewordFrom fits hroom h
  intro hnil
  have hlength := congrArg List.length hnil
  simp only [List.length_reverse, length_bitsOf, List.length_nil] at hlength
  omega

theorem codewordFrom_isSome {levels : List (Array Nat)} {level : Array Nat} (hl : level ∈ levels)
    (hs : symbol ∈ level) (depth first : Nat) :
    (codewordFrom symbol depth first levels).isSome = true := by
  induction levels generalizing depth first with
  | nil => cases hl
  | cons next levels ih =>
    rw [codewordFrom]
    split
    · rfl
    · rename_i hnone
      rcases List.mem_cons.1 hl with rfl | hl
      · rw [List.idxOf?_eq_none_iff] at hnone
        exact absurd (Array.mem_toList_iff.2 hs) hnone
      · exact ih hl _ _

/-! ## Codes by lengths -/

theorem mem_symbolsOfLength {lengths : List Nat} {length symbol : Nat} :
    symbol ∈ symbolsOfLength lengths length ↔ lengths[symbol]? = some length := by
  simp only [symbolsOfLength, List.mem_toArray, List.mem_filterMap, Prod.exists,
    List.mem_zipIdx_iff_getElem?]
  constructor
  · rintro ⟨l, s, hs, h⟩
    split at h
    · cases h
      simp_all
    · cases h
  · intro h
    exact ⟨length, symbol, h, if_pos rfl⟩

theorem size_symbolsOfLength (lengths : List Nat) (length : Nat) :
    (symbolsOfLength lengths length).size = lengths.count length := by
  unfold symbolsOfLength
  rw [List.size_toArray]
  suffices h : ∀ start, ((lengths.zipIdx start).filterMap fun p =>
      if p.1 = length then some p.2 else none).length = lengths.count length from h 0
  induction lengths with
  | nil => simp
  | cons l rest ih =>
    intro start
    rw [List.zipIdx_cons, List.count_cons]
    by_cases hl : l = length
    · simp [hl, ih]
    · simp [hl, ih]

theorem codeword?_ofLengths {lengths : List Nat} {length : Nat}
    (hs : lengths[symbol]? = some length) (hpos : 0 < length) (hmax : length ≤ maxLength) :
    ∃ word, (ofLengths lengths).codeword? symbol = some word := by
  refine Option.isSome_iff_exists.1 (codewordFrom_isSome ?_ (mem_symbolsOfLength.2 hs) 1 0)
  refine List.mem_map.2 ⟨length - 1, List.mem_range.2 (by omega), ?_⟩
  rw [Nat.sub_add_cancel hpos]

/-- Codewords of the first lengths, and what is above them, counted in codewords of the last of
these lengths. -/
def slots (size : Nat → Nat) : Nat → Nat
  | 0 => 0
  | depth + 1 => 2 * slots size depth + size depth

theorem roomFrom_append (room : Nat) (front back : List (Array Nat)) :
    roomFrom room (front ++ back) = (roomFrom room front).bind (roomFrom · back) := by
  induction front generalizing room with
  | nil => rfl
  | cons level front ih =>
    rw [List.cons_append, roomFrom, roomFrom]
    split
    · exact ih _
    · rfl

/-- The room that is left is what the codewords do not take. -/
theorem roomFrom_range (level : Nat → Array Nat) (depth room : Nat) :
    roomFrom 1 ((List.range depth).map level) = some room ↔
      slots (fun n => (level n).size) depth + room = 2 ^ depth := by
  induction depth generalizing room with
  | zero =>
    simp only [List.range_zero, List.map_nil, roomFrom, Option.some.injEq, slots, Nat.zero_add,
      Nat.pow_zero]
    exact eq_comm
  | succ depth ih =>
    rw [List.range_succ, List.map_append, roomFrom_append, Option.bind_eq_some_iff, slots,
      Nat.pow_succ]
    constructor
    · rintro ⟨before, hbefore, h⟩
      have htaken := (ih before).1 hbefore
      simp only [List.map_singleton, roomFrom] at h
      split at h
      · cases h
        omega
      · cases h
    · intro h
      refine ⟨2 ^ depth - slots (fun n => (level n).size) depth, (ih _).2 (by omega), ?_⟩
      have hfits : (level depth).size ≤
          2 * (2 ^ depth - slots (fun n => (level n).size) depth) := by omega
      simp only [List.map_singleton, roomFrom, if_pos hfits, Option.some.injEq]
      omega

theorem roomFrom_ofLengths (lengths : List Nat) (room : Nat) :
    roomFrom 1 (ofLengths lengths).levels = some room ↔
      slots (fun n => lengths.count (n + 1)) maxLength + room = 2 ^ maxLength := by
  rw [ofLengths, roomFrom_range]
  simp only [size_symbolsOfLength]

end PrefixCode

end ScriptBundle.Payload
