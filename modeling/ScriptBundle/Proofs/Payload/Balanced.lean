import ScriptBundle.Payload.Deflate.Write
import ScriptBundle.Proofs.Payload.PrefixCode

/-!
# Balanced codes

A code is made for the symbols in use: some of one length, the others longer by one.
-/

namespace ScriptBundle.Payload

namespace PrefixCode

/-! ## Lengths -/

/-- The number of short lengths is no more than there are lengths at all. -/
theorem shorts_le {count : Nat} (h : 1 ≤ count) :
    Nat.pow 2 (Nat.log2 count + 1) - count ≤ count := by
  have hlow : 2 ^ Nat.log2 count ≤ count := Nat.log2_self_le (by omega)
  have hpow : Nat.pow 2 (Nat.log2 count + 1) = 2 ^ Nat.log2 count * 2 := Nat.pow_succ ..
  omega

theorem lt_pow_log2 (count : Nat) : count < Nat.pow 2 (Nat.log2 count + 1) := Nat.lt_log2_self

theorem log2_pos {count : Nat} (h : 2 ≤ count) : 1 ≤ Nat.log2 count :=
  (Nat.le_log2 (by omega)).2 (by simpa using h)

theorem length_balancedLengths {count : Nat} (h : 1 ≤ count) :
    (balancedLengths count).length = count := by
  unfold balancedLengths
  split
  · simp_all
  · have hle := shorts_le h
    simp only [List.length_append, List.length_replicate]
    omega

theorem mem_balancedLengths {count l : Nat} (h : 1 ≤ count) (hl : l ∈ balancedLengths count) :
    0 < l ∧ l ≤ Nat.log2 count + 1 := by
  unfold balancedLengths at hl
  split at hl
  · rw [List.mem_singleton.1 hl]
    omega
  · have hpos : 1 ≤ Nat.log2 count := log2_pos (by omega)
    rcases List.mem_append.1 hl with hl | hl
    · rw [List.eq_of_mem_replicate hl]
      omega
    · rw [List.eq_of_mem_replicate hl]
      omega

theorem slots_add (f g : Nat → Nat) (depth : Nat) :
    slots (fun n => f n + g n) depth = slots f depth + slots g depth := by
  induction depth with
  | zero => rfl
  | succ depth ih =>
    rw [slots, slots, slots, ih]
    omega

/-- The room that codewords of one length take. -/
theorem slots_single {length : Nat} (h : 0 < length) (count depth : Nat) :
    slots (fun n => (List.replicate count length).count (n + 1)) depth =
      if length ≤ depth then count * 2 ^ (depth - length) else 0 := by
  induction depth with
  | zero =>
    rw [if_neg (by omega)]
    rfl
  | succ depth ih =>
    rw [slots, ih, List.count_replicate]
    simp only [beq_iff_eq]
    rcases Nat.lt_trichotomy length (depth + 1) with hlt | heq | hgt
    · have hsub : depth + 1 - length = (depth - length) + 1 := by omega
      rw [if_pos (by omega), if_neg (by omega), if_pos (by omega), hsub, Nat.pow_succ]
      simp only [Nat.add_zero, Nat.mul_left_comm, Nat.mul_comm]
    · rw [if_neg (by omega), if_pos heq, if_pos (by omega), heq, Nat.sub_self]
      omega
    · rw [if_neg (by omega), if_neg (by omega), if_neg (by omega)]

/-- Balanced lengths use up all the room there is. -/
theorem slots_balanced {count depth : Nat} (h : 2 ≤ count) (hdepth : Nat.log2 count < depth) :
    slots (fun n => (balancedLengths count).count (n + 1)) depth = 2 ^ depth := by
  have hone : ¬ count = 1 := by omega
  have hpos := log2_pos h
  have hle : Nat.pow 2 (Nat.log2 count + 1) - count ≤ count := shorts_le (by omega)
  have hlt := lt_pow_log2 count
  obtain ⟨rest, rfl⟩ : ∃ rest, depth = Nat.log2 count + 1 + rest :=
    ⟨depth - (Nat.log2 count + 1), by omega⟩
  unfold balancedLengths
  simp only [if_neg hone, List.count_append]
  rw [slots_add, slots_single hpos, slots_single (Nat.succ_pos _), if_pos (by omega),
    if_pos (by omega)]
  generalize hshorts : Nat.pow 2 (Nat.log2 count + 1) - count = shorts at *
  have hfirst : Nat.log2 count + 1 + rest - Nat.log2 count = rest + 1 := by omega
  have hsecond : Nat.log2 count + 1 + rest - (Nat.log2 count + 1) = rest := by omega
  have hall : shorts * 2 + (count - shorts) = 2 ^ (Nat.log2 count + 1) := by
    have : Nat.pow 2 (Nat.log2 count + 1) = 2 ^ (Nat.log2 count + 1) := rfl
    omega
  rw [hfirst, hsecond, Nat.pow_add 2 (Nat.log2 count + 1), ← hall, Nat.pow_succ, Nat.add_mul,
    Nat.mul_assoc, Nat.mul_comm 2]

/-! ## Lengths at symbols -/

@[simp] theorem length_spread (used : List Bool) (lengths : List Nat) :
    (spread used lengths).length = used.length := by
  fun_induction spread used lengths <;> simp_all

theorem count_spread {l : Nat} (hl : l ≠ 0) (used : List Bool) (lengths : List Nat) :
    (spread used lengths).count l = (lengths.take (used.count true)).count l := by
  fun_induction spread used lengths with
  | case1 used length lengths ih => simp [List.count_cons, ih]
  | case2 b used lengths hnot ih =>
    cases b with
    | false => simp [hl.symm, ih]
    | true =>
      cases lengths with
      | nil => simp [hl.symm, ih]
      | cons length lengths => exact absurd rfl (hnot _ _ rfl)
  | case3 => simp

theorem getElem?_spread {used : List Bool} {lengths : List Nat} {i : Nat}
    (h : used[i]? = some true) (enough : used.count true ≤ lengths.length) :
    ∃ l ∈ lengths, (spread used lengths)[i]? = some l := by
  fun_induction spread used lengths generalizing i with
  | case1 used length lengths ih =>
    cases i with
    | zero => exact ⟨length, List.mem_cons_self, rfl⟩
    | succ i =>
      simp only [List.count_cons_self, List.length_cons] at enough
      obtain ⟨l, hl, hi⟩ := ih h (by omega)
      exact ⟨l, List.mem_cons_of_mem _ hl, hi⟩
  | case2 b used lengths hnot ih =>
    cases i with
    | zero =>
      obtain rfl : b = true := by simpa using h
      cases lengths with
      | nil => simp at enough
      | cons length lengths => exact absurd rfl (hnot _ _ rfl)
    | succ i =>
      refine ih h (Nat.le_trans ?_ enough)
      rw [List.count_cons]
      omega
  | case3 => cases h

theorem mem_spread {used : List Bool} {lengths : List Nat} {l : Nat} (h : l ∈ spread used lengths) :
    l = 0 ∨ l ∈ lengths := by
  fun_induction spread used lengths with
  | case1 used length lengths ih =>
    rcases List.mem_cons.1 h with rfl | h
    · exact .inr List.mem_cons_self
    · exact (ih h).imp_right (List.mem_cons_of_mem _)
  | case2 b used lengths hnot ih =>
    rcases List.mem_cons.1 h with rfl | h
    · exact .inl rfl
    · exact ih h
  | case3 => cases h

/-- How many of the first symbols are in use. -/
def inUse (count : Nat) (symbols : List Nat) : Nat :=
  ((List.range count).map symbols.contains).count true

variable {count : Nat} {symbols lengths : List Nat}

theorem inUse_le (count : Nat) (symbols : List Nat) : inUse count symbols ≤ count := by
  have hle := List.count_le_length (a := true) (l := (List.range count).map symbols.contains)
  rwa [List.length_map, List.length_range] at hle

theorem getElem?_used {symbol : Nat} (hs : symbol ∈ symbols) (h : symbol < count) :
    ((List.range count).map symbols.contains)[symbol]? = some true := by
  simp [h, hs]

theorem inUse_pos {symbol : Nat} (hs : symbol ∈ symbols) (h : symbol < count) :
    1 ≤ inUse count symbols :=
  List.count_pos_iff.2 (List.mem_of_getElem? (getElem?_used hs h))

theorem two_le_inUse {s t : Nat} (hs : s ∈ symbols) (ht : t ∈ symbols) (hne : s ≠ t) (h : s < count)
    (h' : t < count) : 2 ≤ inUse count symbols := by
  unfold inUse
  rw [List.count_eq_countP, List.countP_map, List.countP_eq_length_filter]
  have mem : ∀ u ∈ symbols, u < count →
      u ∈ (List.range count).filter ((fun b => b == true) ∘ symbols.contains) := by
    intro u hu hlt
    simp [hu, hlt]
  have hsmem := mem s hs h
  have htmem := mem t ht h'
  generalize (List.range count).filter ((fun b => b == true) ∘ symbols.contains) = found at *
  match found with
  | [] => cases hsmem
  | [u] =>
    rw [List.mem_singleton] at hsmem htmem
    exact absurd (hsmem.trans htmem.symm) hne
  | _ :: _ :: _ => simp

theorem log2_inUse (h : 1 ≤ inUse count symbols) :
    Nat.log2 (inUse count symbols) ≤ Nat.log2 count := by
  have hle := inUse_le count symbols
  rw [Nat.le_log2 (by omega)]
  exact Nat.le_trans (Nat.log2_self_le (by omega)) hle

theorem mem_balanced {l : Nat} (h : l ∈ balanced count symbols) : l ≤ Nat.log2 count + 1 := by
  rcases mem_spread h with rfl | hl
  · exact Nat.zero_le _
  · by_cases hnone : inUse count symbols = 0
    · change l ∈ balancedLengths (inUse count symbols) at hl
      rw [hnone] at hl
      obtain rfl : l = 0 := by simpa [balancedLengths] using hl
      exact Nat.zero_le _
    · have hpos : 1 ≤ inUse count symbols := by omega
      have hlog := log2_inUse hpos
      have hmem := (mem_balancedLengths hpos hl).2
      omega

/-! ## Codes -/

/-- Lengths that are balanced for the symbols in use, up to zeros at their end. -/
def Balanced (count : Nat) (symbols lengths : List Nat) : Prop :=
  ∃ zeros, balanced count symbols = lengths ++ List.replicate zeros 0

theorem Balanced.count_eq (h : Balanced count symbols lengths) {l : Nat} (hl : l ≠ 0) :
    lengths.count l =
      ((balancedLengths (inUse count symbols)).take (inUse count symbols)).count l := by
  obtain ⟨zeros, h⟩ := h
  have hcount := congrArg (List.count l) h
  have hzeros : (List.replicate zeros 0).count l = 0 := by
    rw [List.count_replicate, if_neg (by simpa using hl.symm)]
  rw [List.count_append, hzeros, Nat.add_zero, balanced, count_spread hl] at hcount
  exact hcount.symm

theorem Balanced.count_of_pos (h : Balanced count symbols lengths) (hpos : 1 ≤ inUse count symbols)
    {l : Nat} (hl : l ≠ 0) : lengths.count l = (balancedLengths (inUse count symbols)).count l := by
  rw [h.count_eq hl, List.take_of_length_le (Nat.le_of_eq (length_balancedLengths hpos))]

theorem Balanced.word (h : Balanced count symbols lengths) (bound : Nat.log2 count < maxLength)
    {symbol : Nat} (hs : symbol ∈ symbols) (hlt : symbol < count) :
    ∃ word, (ofLengths lengths).codeword? symbol = some word := by
  obtain ⟨zeros, h⟩ := h
  have hpos := inUse_pos hs hlt
  have enough := Nat.le_of_eq (length_balancedLengths hpos).symm
  obtain ⟨l, hl, hi⟩ := getElem?_spread (getElem?_used hs hlt) enough
  obtain ⟨hlow, hhigh⟩ := mem_balancedLengths hpos hl
  have hlog := log2_inUse hpos
  change (balanced count symbols)[symbol]? = some l at hi
  suffices hlengths : lengths[symbol]? = some l from codeword?_ofLengths hlengths hlow (by omega)
  rw [h, List.getElem?_append] at hi
  split at hi
  · exact hi
  · simp [List.getElem?_replicate] at hi
    omega

/-- Lengths for less than two symbols take no more than half the room. -/
theorem Balanced.count_few (h : Balanced count symbols lengths) (few : inUse count symbols ≤ 1)
    (n : Nat) : lengths.count (n + 1) = if n = 0 then inUse count symbols else 0 := by
  rw [h.count_eq (Nat.succ_ne_zero n)]
  rcases Nat.le_one_iff_eq_zero_or_eq_one.1 few with hnone | hone
  · simp [hnone]
  · cases n <;> simp [hone, balancedLengths]

theorem Balanced.isComplete (h : Balanced count symbols lengths)
    (bound : Nat.log2 count < maxLength) (two : 2 ≤ inUse count symbols) :
    (ofLengths lengths).isComplete = true := by
  have hpos : 1 ≤ inUse count symbols := by omega
  have hlog := log2_inUse hpos
  have hslots : slots (fun n => lengths.count (n + 1)) maxLength = 2 ^ maxLength := by
    rw [funext fun n => h.count_of_pos hpos (Nat.succ_ne_zero n), slots_balanced two (by omega)]
  simpa [PrefixCode.isComplete] using (roomFrom_ofLengths lengths 0).2 (by omega)

theorem size_ofLengths (lengths : List Nat) :
    (ofLengths lengths).size = ((List.range maxLength).map fun n => lengths.count (n + 1)).sum := by
  rw [size, ofLengths, List.foldl_map, List.sum_eq_foldl, List.foldl_map]
  simp only [size_symbolsOfLength]

theorem Balanced.isUsable (h : Balanced count symbols lengths)
    (bound : Nat.log2 count < maxLength) : (ofLengths lengths).isUsable = true := by
  by_cases few : inUse count symbols ≤ 1
  · have hsize : (ofLengths lengths).size = inUse count symbols := by
      rw [size_ofLengths, List.map_congr_left fun n _ => h.count_few few n]
      simp [maxLength, List.range_succ]
    simp [PrefixCode.isUsable, hsize, few]
  · simp [PrefixCode.isUsable, h.isComplete bound (by omega)]

theorem Balanced.fits (h : Balanced count symbols lengths) (bound : Nat.log2 count < maxLength) :
    (ofLengths lengths).Fits := by
  by_cases few : inUse count symbols ≤ 1
  · have hslots : slots (fun n => lengths.count (n + 1)) maxLength =
        inUse count symbols * 2 ^ 14 := by
      rw [funext (h.count_few few)]
      simp [maxLength, slots]
      omega
    refine Option.isSome_iff_exists.2 ⟨2 ^ maxLength - inUse count symbols * 2 ^ 14,
      (roomFrom_ofLengths lengths _).2 ?_⟩
    have : 2 ^ maxLength = 2 * 2 ^ 14 := by decide
    omega
  · have := h.isComplete bound (by omega)
    simp only [PrefixCode.isComplete, decide_eq_true_eq] at this
    rw [Fits, this]
    rfl

end PrefixCode

end ScriptBundle.Payload
