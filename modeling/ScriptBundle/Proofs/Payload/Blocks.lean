import ScriptBundle.Proofs.Payload.CodeLengths

namespace ScriptBundle.Payload

open BitReading

variable {α : Type}

/-- A reading may depend on the number of bits that are left. -/
theorem reads_length {f : Nat → BitReading α} {bits : List Bool} {a : α}
    (h : ∀ n, bits.length < n → Reads (f n) bits a) :
    Reads (do f ((← get).length + 1)) bits a := by
  intro rest
  have enough : bits.length < (bits ++ rest).length + 1 := by
    rw [List.length_append]
    omega
  exact h _ enough rest

namespace Deflate

open PrefixCode

/-! ## Symbols -/

theorem Token.Sendable.mark_lt {t : Token} (h : t.Sendable) : t.mark.symbol < literalCount := by
  cases t with
  | literal byte => exact Nat.lt_trans byte.toNat_lt (by decide)
  | copy length distance =>
    obtain ⟨b, index, hb, -, hmark⟩ := markOf_length h.1 h.2.1
    have hlt : index < lengthBands.length := (List.getElem?_eq_some_iff.1 hb).1
    have hlength : lengthBands.length = 29 := rfl
    rw [Token.mark, hmark]
    simp only [firstLengthSymbol, literalCount]
    omega

theorem Token.Sendable.distanceMark_lt {t : Token} (h : t.Sendable) {m : Mark}
    (hm : t.distanceMark? = some m) : m.symbol < distanceCount := by
  cases t with
  | literal byte => cases hm
  | copy length distance =>
    obtain ⟨b, index, hb, -, hmark⟩ := markOf_distance h.2.2.1 h.2.2.2
    have hlt : index < distanceBands.length := (List.getElem?_eq_some_iff.1 hb).1
    rw [Token.distanceMark?, hmark] at hm
    cases hm
    exact hlt

/-! ## Blocks without codes -/

theorem fixedLiterals_fits : fixedLiterals.Fits := by
  unfold PrefixCode.Fits
  decide +kernel

theorem fixedDistances_fits : fixedDistances.Fits := by
  unfold PrefixCode.Fits
  decide +kernel

/-- Lengths without a zero give every symbol a codeword. -/
theorem codeword?_of_forall {lengths : List Nat} (h : ∀ l ∈ lengths, 0 < l ∧ l ≤ maxLength)
    {symbol : Nat} (hs : symbol < lengths.length) :
    ∃ word, (PrefixCode.ofLengths lengths).codeword? symbol = some word := by
  obtain ⟨hpos, hmax⟩ := h _ (List.getElem_mem hs)
  exact codeword?_ofLengths (List.getElem?_eq_getElem hs) hpos hmax

theorem known_fixedLiterals {m : Mark} (h : m.symbol < literalCount) :
    m.Known fixedLiterals literalCount := by
  refine ⟨h, codeword?_of_forall (fun l hl => ?_) ?_⟩
  · simp only [List.mem_append, List.mem_replicate] at hl
    simp only [maxLength]
    omega
  · simp only [List.length_append, List.length_replicate]
    exact Nat.lt_trans h (by decide)

theorem known_fixedDistances {m : Mark} (h : m.symbol < distanceCount) :
    m.Known fixedDistances distanceCount := by
  refine ⟨h, codeword?_of_forall (by decide) ?_⟩
  rw [List.length_replicate]
  exact Nat.lt_trans h (by decide)

variable {ts : List Token} {all : Array UInt8}

/-- A block behind which nothing comes is all the data. -/
theorem reads_last {bits : List Bool} (h : Reads (block #[]) bits all) :
    Reads inflate (true :: bits) all.toList := by
  refine reads_length (f := fun n => do return (← blocks n #[]).toList) fun n hn => ?_
  obtain ⟨fuel, rfl⟩ : ∃ fuel, n = fuel + 1 := ⟨n - 1, by omega⟩
  refine Reads.bind_pure ?_ Array.toList
  exact (reads_bit true).bind (h.bind_last (reads_pure all))

theorem reads_writeFixed (sendable : ∀ t ∈ ts, t.Sendable) (expands : expand ts = some all) :
    Reads inflate (writeFixed ts) all.toList := by
  have known : ∀ t ∈ ts, t.Known fixedLiterals fixedDistances := fun t ht =>
    ⟨known_fixedLiterals (sendable t ht).mark_lt,
      fun m hm => known_fixedDistances ((sendable t ht).distanceMark_lt hm)⟩
  have ends : (Mark.mk endOfBlock []).Known fixedLiterals literalCount :=
    known_fixedLiterals (by decide)
  refine reads_last ((reads_number (n := 1) (by decide)).bind ?_)
  exact reads_length (f := fun n => tokens fixedLiterals fixedDistances n #[]) fun n hn =>
    reads_tokens fixedLiterals_fits fixedDistances_fits sendable known ends expands hn

/-! ## Blocks with codes -/

theorem balanced_trimLengths {least count : Nat} (h : least ≤ count) (symbols : List Nat) :
    Balanced count symbols (trimLengths least (balanced count symbols)) :=
  (trimLengths_spec (by simpa [balanced] using h)).1

theorem length_trimLengths {least count : Nat} (h : least ≤ count) (symbols : List Nat) :
    least ≤ (trimLengths least (balanced count symbols)).length ∧
      (trimLengths least (balanced count symbols)).length ≤ count := by
  have hlength : (balanced count symbols).length = count := by simp [balanced]
  have hspec := (trimLengths_spec (hlength.symm ▸ h)).2
  rwa [hlength] at hspec

theorem lt_of_mem_trimLengths {least count l : Nat} (h : least ≤ count)
    (bound : Nat.log2 count < maxLength) {symbols : List Nat}
    (hl : l ∈ trimLengths least (balanced count symbols)) : l < 16 := by
  have hmem := mem_balanced (mem_of_mem_trimLengths (by simpa [balanced] using h) hl)
  simp only [maxLength] at bound
  omega

/-- There are no more lengths than symbols in use. -/
theorem countP_spread_le (used : List Bool) (lengths : List Nat) :
    (spread used lengths).countP (· ≠ 0) ≤ lengths.length := by
  fun_induction spread used lengths with
  | case1 used length lengths ih =>
    rw [List.countP_cons, List.length_cons]
    split <;> omega
  | case2 b used lengths hnot ih => simpa using ih
  | case3 => simp

/-- If more symbols are in use than a whole byte counts, but not all that there are, both short and
long codewords are made. -/
theorem mem_balancedLengths_of_lt {count : Nat} (hmin : 256 < count) (hmax : count < 512) :
    8 ∈ balancedLengths count ∧ 9 ∈ balancedLengths count := by
  have hlog : Nat.log2 count = 8 := (Nat.log2_eq_iff (by omega)).2 ⟨by omega, by omega⟩
  have hpow : Nat.pow 2 (8 + 1) = 512 := rfl
  unfold balancedLengths
  rw [if_neg (by omega)]
  simp only [hlog, hpow, List.mem_append, List.mem_replicate]
  exact ⟨.inl ⟨by omega, trivial⟩, .inr ⟨by omega, trivial⟩⟩

/-- The lengths for at least two symbols are never all the same: either some symbol is not in use,
or there are too many of them for codewords of one length. -/
theorem exists_differ {symbols lengths : List Nat} (h : Balanced literalCount symbols lengths)
    (long : 256 < lengths.length) (used : 1 ≤ inUse literalCount symbols) :
    ∃ n ∈ lengths, ∃ m ∈ lengths, n ≠ m := by
  have present : ∀ l ∈ balancedLengths (inUse literalCount symbols), l ≠ 0 → l ∈ lengths := by
    intro l hl hne
    rw [← List.count_pos_iff, h.count_of_pos used hne, List.count_pos_iff]
    exact hl
  have hlength := length_balancedLengths used
  by_cases hzero : 0 ∈ lengths
  · obtain ⟨l, hl⟩ := List.exists_mem_of_length_pos (hlength ▸ used)
    have hpos := (mem_balancedLengths used hl).1
    exact ⟨0, hzero, l, present l hl (by omega), by omega⟩
  · -- Every symbol that has a length is in use, so more than 256 of them are.
    obtain ⟨zeros, hall⟩ := h
    have hcount : lengths.countP (· ≠ 0) = lengths.length :=
      List.countP_eq_length.2 fun l hl => by simpa using ne_of_mem_of_not_mem hl hzero
    have hle : (balanced literalCount symbols).countP (· ≠ 0) ≤ _ := countP_spread_le _ _
    rw [hall, List.countP_append, hcount, ← inUse, hlength] at hle
    have hmax := inUse_le literalCount symbols
    have hmany : 256 < inUse literalCount symbols := by omega
    obtain ⟨hshort, hlong⟩ :=
      mem_balancedLengths_of_lt hmany (Nat.lt_of_le_of_lt hmax (by decide))
    exact ⟨8, present 8 hshort (by decide), 9, present 9 hlong (by decide), by decide⟩

def literalSymbols (ts : List Token) : List Nat := endOfBlock :: ts.map (·.mark.symbol)

def distanceSymbols (ts : List Token) : List Nat :=
  ts.filterMap fun t => t.distanceMark?.map (·.symbol)

def literalLengths (ts : List Token) : List Nat :=
  trimLengths 257 (balanced literalCount (literalSymbols ts))

def distanceLengths (ts : List Token) : List Nat :=
  trimLengths 1 (balanced distanceCount (distanceSymbols ts))

theorem balanced_literalLengths (ts : List Token) :
    Balanced literalCount (literalSymbols ts) (literalLengths ts) :=
  balanced_trimLengths (by decide) _

theorem balanced_distanceLengths (ts : List Token) :
    Balanced distanceCount (distanceSymbols ts) (distanceLengths ts) :=
  balanced_trimLengths (by decide) _

theorem announced (ts : List Token) : Announced (literalLengths ts) (distanceLengths ts) where
  literals_length := length_trimLengths (by decide) _
  distances_length := length_trimLengths (by decide) _
  small := by
    intro l hl
    rcases List.mem_append.1 hl with hl | hl
    · exact lt_of_mem_trimLengths (by decide) (by decide) hl
    · exact lt_of_mem_trimLengths (by decide) (by decide) hl
  differ := by
    have hlong : 256 < (literalLengths ts).length :=
      (length_trimLengths (by decide) (literalSymbols ts)).1
    obtain ⟨n, hn, m, hm, hne⟩ := exists_differ (balanced_literalLengths ts) hlong
      (inUse_pos List.mem_cons_self (by decide : endOfBlock < literalCount))
    exact ⟨n, List.mem_append_left _ hn, m, List.mem_append_left _ hm, hne⟩
  literals_usable := (balanced_literalLengths ts).isUsable (by decide)
  distances_usable := (balanced_distanceLengths ts).isUsable (by decide)

theorem known_token {t : Token} (ht : t ∈ ts) (h : t.Sendable) :
    t.Known (.ofLengths (literalLengths ts)) (.ofLengths (distanceLengths ts)) := by
  refine ⟨⟨h.mark_lt, ?_⟩, fun m hm => ⟨h.distanceMark_lt hm, ?_⟩⟩
  · exact (balanced_literalLengths ts).word (by decide)
      (List.mem_cons_of_mem _ (List.mem_map_of_mem ht)) h.mark_lt
  · refine (balanced_distanceLengths ts).word (by decide) ?_ (h.distanceMark_lt hm)
    exact List.mem_filterMap.2 ⟨t, ht, by rw [hm]; rfl⟩

theorem known_endOfBlock (ts : List Token) :
    (Mark.mk endOfBlock []).Known (.ofLengths (literalLengths ts)) literalCount :=
  ⟨by decide, (balanced_literalLengths ts).word (by decide) List.mem_cons_self (by decide)⟩

theorem reads_writeBalanced (sendable : ∀ t ∈ ts, t.Sendable) (expands : expand ts = some all) :
    Reads inflate (writeBalanced ts) all.toList := by
  have hwrite : writeBalanced ts = true :: (bitsOf 2 2 ++
      (writeCodes (literalLengths ts) (distanceLengths ts) ++
        writeTokens (.ofLengths (literalLengths ts)) (.ofLengths (distanceLengths ts)) ts)) := by
    simp only [writeBalanced, literalLengths, literalSymbols, distanceLengths, distanceSymbols,
      List.cons_append, List.append_assoc]
  rw [hwrite]
  have known := fun t ht => known_token ht (sendable t ht)
  have hliterals : (ofLengths (literalLengths ts)).Fits :=
    (balanced_literalLengths ts).fits (by decide)
  have hdistances : (ofLengths (distanceLengths ts)).Fits :=
    (balanced_distanceLengths ts).fits (by decide)
  have htokens := reads_length fun n hn =>
    reads_tokens hliterals hdistances sendable known (known_endOfBlock ts) expands hn
  exact reads_last ((reads_number (n := 2) (by decide)).bind ((reads_codes (announced ts)).bind
    htokens))

/-! ## All data -/

/-- Compressed data are read back, whatever comes behind them. -/
theorem reads_deflate (bytes : Array UInt8) : Reads inflate (deflate bytes) bytes.toList := by
  have sendable := sendable_tokensOf bytes
  have expands := expand_tokensOf bytes
  unfold deflate
  split
  · exact reads_writeFixed sendable expands
  · exact reads_writeBalanced sendable expands

end Deflate

end ScriptBundle.Payload
