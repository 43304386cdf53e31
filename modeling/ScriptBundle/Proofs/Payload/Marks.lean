import ScriptBundle.Payload.Deflate.Read
import ScriptBundle.Proofs.Payload.Balanced
import ScriptBundle.Proofs.Payload.Tokens

namespace ScriptBundle.Payload.Deflate

open BitReading

/-! ## Bands -/

/-- Bands in order that leave out no number from `low` on and below `high`. -/
def covers : Nat → Nat → List Band → Bool
  | low, high, [] => high ≤ low
  | low, high, b :: rest => b.first ≤ low && covers (b.first + 2 ^ b.bits) high rest

theorem exists_band {bands : List Band} {low high n : Nat} (h : covers low high bands = true)
    (hlow : low ≤ n) (hhigh : n < high) : ∃ b ∈ bands, b.contains n = true := by
  induction bands generalizing low with
  | nil =>
    simp only [covers, decide_eq_true_eq] at h
    omega
  | cons b rest ih =>
    simp only [covers, Bool.and_eq_true, decide_eq_true_eq] at h
    by_cases hb : n < b.first + 2 ^ b.bits
    · have hle : b.first ≤ n := Nat.le_trans h.1 hlow
      exact ⟨b, List.mem_cons_self, by simp [Band.contains, hle]; exact hb⟩
    · obtain ⟨c, hc, hn⟩ := ih h.2 (by omega)
      exact ⟨c, List.mem_cons_of_mem _ hc, hn⟩

theorem bandOf?_eq_some {bands : List Band} {n index : Nat} {b : Band}
    (h : bandOf? bands n = some (b, index)) : bands[index]? = some b ∧ b.contains n = true := by
  have hmem := List.mem_of_find?_eq_some h
  exact ⟨List.mem_zipIdx_iff_getElem?.1 (List.mem_reverse.1 hmem), by simpa using List.find?_some h⟩

/-- The mark of a number that lies in some band says which band it is and where in it the number
stands. -/
theorem markOf_spec {bands : List Band} {low high n : Nat} (h : covers low high bands = true)
    (hlow : low ≤ n) (hhigh : n < high) (first : Nat) :
    ∃ b index, bands[index]? = some b ∧ b.contains n = true ∧
      markOf bands first n = ⟨first + index, bitsOf b.bits (n - b.first)⟩ := by
  obtain ⟨b, hb, hn⟩ := exists_band h hlow hhigh
  obtain ⟨index, hindex⟩ := List.mem_iff_getElem?.1 hb
  have hsome : (bandOf? bands n).isSome = true := by
    rw [bandOf?, List.find?_isSome]
    exact ⟨(b, index), List.mem_reverse.2 (List.mem_zipIdx_iff_getElem?.2 hindex), hn⟩
  obtain ⟨⟨b, index⟩, hband⟩ := Option.isSome_iff_exists.1 hsome
  obtain ⟨hindex, hn⟩ := bandOf?_eq_some hband
  exact ⟨b, index, hindex, hn, by rw [markOf, hband]⟩

/-- Every length of a copy has a mark. -/
theorem markOf_length {n : Nat} (hmin : minCopy ≤ n) (hmax : n ≤ maxCopy) :
    ∃ b index, lengthBands[index]? = some b ∧ b.contains n = true ∧
      markOf lengthBands firstLengthSymbol n =
        ⟨firstLengthSymbol + index, bitsOf b.bits (n - b.first)⟩ := by
  have hcovers : covers minCopy (maxCopy + 1) lengthBands = true := by decide
  exact markOf_spec hcovers hmin (Nat.lt_succ_of_le hmax) firstLengthSymbol

/-- Every distance of a copy has a mark. -/
theorem markOf_distance {n : Nat} (hnear : 1 ≤ n) (hfar : n ≤ maxDistance) :
    ∃ b index, distanceBands[index]? = some b ∧ b.contains n = true ∧
      markOf distanceBands 0 n = ⟨index, bitsOf b.bits (n - b.first)⟩ := by
  have hcovers : covers 1 (maxDistance + 1) distanceBands = true := by decide
  simpa using markOf_spec hcovers hnear (Nat.lt_succ_of_le hfar) 0

theorem reads_band {b : Band} {n : Nat} (h : b.contains n = true) :
    Reads b.read (bitsOf b.bits (n - b.first)) n := by
  simp only [Band.contains, Bool.and_eq_true, decide_eq_true_eq] at h
  have hlt : n - b.first < 2 ^ b.bits := by
    have : Nat.pow 2 b.bits = 2 ^ b.bits := rfl
    omega
  have hread := (reads_number hlt).bind_pure (b.first + ·)
  rwa [Nat.add_sub_cancel' h.1] at hread

/-! ## Tokens -/

/-- A code has a codeword for the symbol of a mark, which is one of the first symbols. -/
def Mark.Known (code : PrefixCode) (count : Nat) (m : Mark) : Prop :=
  m.symbol < count ∧ ∃ word, code.codeword? m.symbol = some word

theorem Mark.Known.write {code : PrefixCode} {count : Nat} {m : Mark} (h : m.Known code count)
    (fits : code.Fits) :
    ∃ word, m.write (codewords code count) = word ++ m.further ∧ word ≠ [] ∧
      Reads code.symbol word m.symbol := by
  obtain ⟨hlt, word, hword⟩ := h
  refine ⟨word, ?_, PrefixCode.codeword?_ne_nil fits hword, PrefixCode.reads_symbol fits hword⟩
  simp [Mark.write, codewords, hlt, hword]

/-- The codes have codewords for the symbols of a token. -/
def Token.Known (literals distances : PrefixCode) (t : Token) : Prop :=
  t.mark.Known literals literalCount ∧
    ∀ m, t.distanceMark? = some m → m.Known distances distanceCount

variable {literals distances : PrefixCode}

theorem reads_token (hl : literals.Fits) (hd : distances.Fits) {t : Token} (sendable : t.Sendable)
    (known : t.Known literals distances) :
    Reads (token literals distances)
      (t.write (codewords literals literalCount) (codewords distances distanceCount)) (some t) := by
  obtain ⟨word, hwrite, -, hread⟩ := known.1.write hl
  cases t with
  | literal byte =>
    have hlt : byte.toNat < endOfBlock := byte.toNat_lt
    have hbyte : UInt8.ofNat byte.toNat = byte := byte_eq (Nat.mod_eq_of_lt byte.toNat_lt)
    rw [Token.write, hwrite, List.append_assoc]
    refine hread.bind ?_
    simp only [Token.mark, hlt, if_true, hbyte]
    exact reads_pure _
  | copy length distance =>
    obtain ⟨hmin, hmax, hnear, hfar⟩ := sendable
    obtain ⟨b, index, hb, hlength, hmark⟩ := markOf_length hmin hmax
    obtain ⟨b', index', hb', hdistance, hmark'⟩ := markOf_distance hnear hfar
    have hmarks : (Token.copy length distance).mark = _ := hmark
    have hmarks' : (Token.copy length distance).distanceMark? = some _ := congrArg some hmark'
    obtain ⟨word', hwrite', -, hread'⟩ := (known.2 _ hmarks').write hd
    rw [Token.write, hwrite, hmarks', Option.map_some, Option.getD_some, hwrite', List.append_assoc]
    rw [hmarks] at hread ⊢
    refine hread.bind ?_
    have hcopy : ¬ firstLengthSymbol + index < endOfBlock ∧
        ¬ firstLengthSymbol + index = endOfBlock := by
      simp only [firstLengthSymbol, endOfBlock]
      omega
    simp only [hcopy.1, hcopy.2, if_false, Nat.add_sub_cancel_left, hb]
    refine Reads.bind_nil (reads_lift rfl) ((reads_band hlength).bind (hread'.bind ?_))
    exact Reads.bind_nil (reads_lift hb') ((reads_band hdistance).bind_pure _)

theorem reads_endOfBlock (hl : literals.Fits)
    (known : (Mark.mk endOfBlock []).Known literals literalCount) :
    Reads (token literals distances) (Mark.write (codewords literals literalCount) ⟨endOfBlock, []⟩)
      none := by
  obtain ⟨word, hwrite, -, hread⟩ := known.write hl
  rw [hwrite]
  refine hread.bind ?_
  rw [if_neg (Nat.lt_irrefl _), if_pos rfl]
  exact reads_pure none

/-- A token takes at least one bit. -/
theorem write_ne_nil (hl : literals.Fits) {t : Token} (known : t.Known literals distances) :
    t.write (codewords literals literalCount) (codewords distances distanceCount) ≠ [] := by
  obtain ⟨word, hwrite, hword, -⟩ := known.1.write hl
  rw [Token.write, hwrite]
  simp [hword]

theorem writeTokens_cons (literals distances : PrefixCode) (t : Token) (ts : List Token) :
    writeTokens literals distances (t :: ts) =
      t.write (codewords literals literalCount) (codewords distances distanceCount) ++
        writeTokens literals distances ts := by
  simp only [writeTokens, List.flatMap_cons, List.append_assoc]

/-- All tokens of a block are read back behind some bytes, up to the end of the block. -/
theorem reads_tokens (hl : literals.Fits) (hd : distances.Fits) {ts : List Token}
    (sendable : ∀ t ∈ ts, t.Sendable) (known : ∀ t ∈ ts, t.Known literals distances)
    (ends : (Mark.mk endOfBlock []).Known literals literalCount) {done all : Array UInt8}
    (expands : ts.foldlM Token.onto done = some all) {fuel : Nat}
    (enough : (writeTokens literals distances ts).length < fuel) :
    Reads (tokens literals distances fuel done) (writeTokens literals distances ts) all := by
  induction ts generalizing done fuel with
  | nil =>
    obtain rfl : done = all := by simpa using expands
    cases fuel with
    | zero => exact absurd enough (Nat.not_lt_zero _)
    | succ fuel => exact (reads_endOfBlock hl ends).bind_last (reads_pure done)
  | cons t ts ih =>
    obtain ⟨hsendable, sendable⟩ := List.forall_mem_cons.1 sendable
    obtain ⟨hknown, known⟩ := List.forall_mem_cons.1 known
    rw [List.foldlM_cons, Option.bind_eq_bind, Option.bind_eq_some_iff] at expands
    obtain ⟨next, hnext, expands⟩ := expands
    have hbits := List.length_pos_iff.2 (write_ne_nil hl hknown)
    rw [writeTokens_cons, List.length_append] at enough
    rw [writeTokens_cons]
    cases fuel with
    | zero => exact absurd enough (Nat.not_lt_zero _)
    | succ fuel =>
      have hfuel : (writeTokens literals distances ts).length < fuel := by omega
      have hrest := ih sendable known expands hfuel
      exact (reads_token hl hd hsendable hknown).bind (Reads.bind_nil (reads_lift hnext) hrest)

end ScriptBundle.Payload.Deflate
