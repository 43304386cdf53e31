import ScriptBundle.Proofs.Payload.Marks

namespace ScriptBundle.Payload.Deflate

open BitReading PrefixCode

/-! ## Lengths without the zeros at their end -/

theorem exists_zeros (lengths : List Nat) :
    ∃ zeros, lengths =
      (lengths.reverse.dropWhile (· = 0)).reverse ++ List.replicate zeros 0 := by
  refine ⟨(lengths.reverse.takeWhile (· = 0)).reverse.length, ?_⟩
  have hzeros : (lengths.reverse.takeWhile (· = 0)).reverse =
      List.replicate (lengths.reverse.takeWhile (· = 0)).reverse.length 0 := by
    refine List.eq_replicate_of_mem fun l hl => ?_
    simpa using List.all_eq_true.1 List.all_takeWhile l (List.mem_reverse.1 hl)
  rw [← hzeros, ← List.reverse_append, List.takeWhile_append_dropWhile, List.reverse_reverse]

theorem trimLengths_spec {least : Nat} {lengths : List Nat} (h : least ≤ lengths.length) :
    (∃ zeros, lengths = trimLengths least lengths ++ List.replicate zeros 0) ∧
      least ≤ (trimLengths least lengths).length ∧
      (trimLengths least lengths).length ≤ lengths.length := by
  obtain ⟨zeros, hzeros⟩ := exists_zeros (lengths.drop least)
  have hall : lengths = trimLengths least lengths ++ List.replicate zeros 0 := by
    rw [trimLengths, List.append_assoc, ← hzeros, List.take_append_drop]
  refine ⟨⟨zeros, hall⟩, ?_, ?_⟩
  · rw [trimLengths, List.length_append, List.length_take, Nat.min_eq_left h]
    exact Nat.le_add_right _ _
  · have hlength := congrArg List.length hall
    rw [List.length_append] at hlength
    omega

theorem mem_of_mem_trimLengths {least l : Nat} {lengths : List Nat} (h : least ≤ lengths.length)
    (hl : l ∈ trimLengths least lengths) : l ∈ lengths := by
  obtain ⟨⟨zeros, hall⟩, -⟩ := trimLengths_spec h
  rw [hall]
  exact List.mem_append_left _ hl

/-! ## Items -/

/-- An item that can be written. -/
def Run.Sendable : Run → Prop
  | .length n => n < 16
  | .again count => 3 ≤ count ∧ count ≤ 6
  | .zeros count => 3 ≤ count ∧ count ≤ 138

theorem mem_zeroRuns {count : Nat} {r : Run} (h : r ∈ zeroRuns count) :
    r = .length 0 ∨ ∃ n, r = .zeros n ∧ 3 ≤ n ∧ n ≤ 138 := by
  unfold zeroRuns at h
  rcases List.mem_append.1 h with h | h
  · exact .inr ⟨138, List.eq_of_mem_replicate h, by decide, by decide⟩
  · split at h
    · exact .inr ⟨count % 138, List.mem_singleton.1 h, by assumption, by omega⟩
    · exact .inl (List.eq_of_mem_replicate h)

theorem zeroRuns_ne_nil {count : Nat} (h : 0 < count) : zeroRuns count ≠ [] := by
  unfold zeroRuns
  intro hnil
  obtain ⟨hfull, hrest⟩ := List.append_eq_nil_iff.1 hnil
  have hdiv : count / 138 = 0 := by simpa using hfull
  split at hrest
  · cases hrest
  · have hmod : count % 138 = 0 := by simpa using hrest
    omega

theorem expand_replicate {r : Run} {n : Nat}
    (h : ∀ done, r.onto done = some (done ++ List.replicate n 0)) (k : Nat) (done : List Nat) :
    (List.replicate k r).foldlM Run.onto done = some (done ++ List.replicate (k * n) 0) := by
  induction k generalizing done with
  | zero => simp
  | succ k ih =>
    rw [List.replicate_succ, List.foldlM_cons, h, Option.bind_eq_bind, Option.bind_some, ih,
      List.append_assoc, List.replicate_append_replicate, Nat.succ_mul, Nat.add_comm]

theorem expand_zeroRuns (count : Nat) (done : List Nat) :
    (zeroRuns count).foldlM Run.onto done = some (done ++ List.replicate count 0) := by
  have hcount : count / 138 * 138 + count % 138 = count := Nat.div_add_mod' count 138
  unfold zeroRuns
  rw [List.foldlM_append, expand_replicate (n := 138) fun _ => rfl, Option.bind_eq_bind,
    Option.bind_some]
  split
  · rw [List.foldlM_cons, Run.onto, Option.bind_eq_bind, Option.bind_some, List.append_assoc,
      List.replicate_append_replicate, hcount]
    rfl
  · rw [expand_replicate (n := 1) fun _ => rfl, Nat.mul_one, List.append_assoc,
      List.replicate_append_replicate, hcount]

/-- Items stand for the lengths they were made from, behind the zeros passed before. -/
theorem expand_runsFrom (zeros : Nat) (lengths done : List Nat) :
    (runsFrom zeros lengths).foldlM Run.onto done =
      some (done ++ List.replicate zeros 0 ++ lengths) := by
  induction lengths generalizing zeros done with
  | nil => rw [runsFrom, expand_zeroRuns, List.append_nil]
  | cons n lengths ih =>
    rw [runsFrom]
    split
    · rename_i hn
      rw [ih, hn, List.replicate_succ', List.append_assoc, List.append_assoc, List.append_assoc,
        List.singleton_append]
    · rw [List.foldlM_append, expand_zeroRuns, Option.bind_eq_bind, Option.bind_some,
        List.foldlM_cons, Run.onto, Option.bind_eq_bind, Option.bind_some, ih, List.replicate_zero,
        List.append_nil, List.append_assoc _ [n], List.singleton_append]

theorem sendable_zeroRuns {count : Nat} {r : Run} (h : r ∈ zeroRuns count) : r.Sendable := by
  rcases mem_zeroRuns h with rfl | ⟨n, rfl, hbounds⟩
  · exact Nat.succ_pos _
  · exact hbounds

theorem sendable_runsFrom {lengths : List Nat} (small : ∀ l ∈ lengths, l < 16) (zeros : Nat) :
    ∀ r ∈ runsFrom zeros lengths, r.Sendable := by
  induction lengths generalizing zeros with
  | nil => exact fun r hr => sendable_zeroRuns hr
  | cons n lengths ih =>
    obtain ⟨hn, small⟩ := List.forall_mem_cons.1 small
    rw [runsFrom]
    split
    · exact ih small _
    · intro r hr
      rcases List.mem_append.1 hr with hr | hr
      · exact sendable_zeroRuns hr
      · rcases List.mem_cons.1 hr with rfl | hr
        · exact hn
        · exact ih small _ r hr

theorem Run.Sendable.symbol_lt {r : Run} (h : r.Sendable) : r.mark.symbol < headerOrder.length := by
  cases r with
  | length n => exact Nat.lt_trans h (by decide)
  | again count => exact (by decide : 16 < headerOrder.length)
  | zeros count =>
    rw [Run.mark]
    split
    · exact (by decide : 17 < headerOrder.length)
    · exact (by decide : 18 < headerOrder.length)

/-- A zero is sent as a length or in a run of zeros. -/
theorem symbol_zeroRuns {count : Nat} {r : Run} (h : r ∈ zeroRuns count) :
    r.mark.symbol = 0 ∨ 16 < r.mark.symbol := by
  rcases mem_zeroRuns h with rfl | ⟨n, rfl, -⟩
  · exact .inl rfl
  · rw [Run.mark]
    split
    · exact .inr (by decide : 16 < 17)
    · exact .inr (by decide : 16 < 18)

theorem exists_zero_item {zeros : Nat} (h : 0 < zeros) (lengths : List Nat) :
    ∃ r ∈ runsFrom zeros lengths, r.mark.symbol = 0 ∨ 16 < r.mark.symbol := by
  induction lengths generalizing zeros with
  | nil =>
    obtain ⟨r, hr⟩ := List.exists_mem_of_ne_nil _ (zeroRuns_ne_nil h)
    exact ⟨r, hr, symbol_zeroRuns hr⟩
  | cons n lengths ih =>
    rw [runsFrom]
    split
    · exact ih (Nat.succ_pos zeros)
    · obtain ⟨r, hr⟩ := List.exists_mem_of_ne_nil _ (zeroRuns_ne_nil h)
      exact ⟨r, List.mem_append_left _ hr, symbol_zeroRuns hr⟩

/-- Every length is sent as itself, or in a run of zeros. -/
theorem exists_item {lengths : List Nat} {l : Nat} (h : l ∈ lengths) (zeros : Nat) :
    ∃ r ∈ runsFrom zeros lengths, r.mark.symbol = l ∨ (l = 0 ∧ 16 < r.mark.symbol) := by
  induction lengths generalizing zeros with
  | nil => cases h
  | cons n lengths ih =>
    rw [runsFrom]
    by_cases hn : n = 0
    · rw [if_pos hn]
      rcases List.mem_cons.1 h with rfl | h
      · obtain ⟨r, hr, hsymbol⟩ := exists_zero_item (Nat.succ_pos zeros) lengths
        exact ⟨r, hr, by omega⟩
      · exact ih h _
    · rw [if_neg hn]
      rcases List.mem_cons.1 h with rfl | h
      · exact ⟨.length l, List.mem_append_right _ List.mem_cons_self, .inl rfl⟩
      · obtain ⟨r, hr, hsymbol⟩ := ih h 0
        exact ⟨r, List.mem_append_right _ (List.mem_cons_of_mem _ hr), hsymbol⟩

/-- Lengths that are not all the same are sent in at least two symbols. -/
theorem two_symbols {lengths : List Nat} (small : ∀ l ∈ lengths, l < 16) {n m : Nat}
    (hn : n ∈ lengths) (hm : m ∈ lengths) (hne : n ≠ m) :
    2 ≤ inUse headerOrder.length (((runsFrom 0 lengths).map Run.mark).map (·.symbol)) := by
  obtain ⟨r, hr, hrsymbol⟩ := exists_item hn 0
  obtain ⟨s, hs, hssymbol⟩ := exists_item hm 0
  have hnlt := small n hn
  have hmlt := small m hm
  refine two_le_inUse (List.mem_map_of_mem (List.mem_map_of_mem hr))
    (List.mem_map_of_mem (List.mem_map_of_mem hs)) ?_ (sendable_runsFrom small 0 r hr).symbol_lt
    (sendable_runsFrom small 0 s hs).symbol_lt
  omega

/-! ## Reading items -/

variable {header : PrefixCode}

theorem reads_run (fits : header.Fits) {r : Run} (sendable : r.Sendable)
    (known : r.mark.Known header headerOrder.length) :
    Reads (run header) (r.mark.write (codewords header headerOrder.length)) r := by
  obtain ⟨word, hwrite, -, hread⟩ := known.write fits
  rw [hwrite]
  refine hread.bind ?_
  cases r with
  | length n =>
    have hn : n < 16 := sendable
    simp only [Run.mark, hn, if_true]
    exact reads_pure _
  | again count =>
    obtain ⟨hmin, hmax⟩ := sendable
    have hfits : count - 3 < 2 ^ 2 := by omega
    have hcount := (reads_number hfits).bind_pure
      fun more => Run.again (3 + more)
    rwa [Nat.add_sub_cancel' hmin] at hcount
  | zeros count =>
    obtain ⟨hmin, hmax⟩ := sendable
    by_cases hfew : count ≤ 10
    · have hfits : count - 3 < 2 ^ 3 := by omega
      have hcount := (reads_number hfits).bind_pure
        fun more => Run.zeros (3 + more)
      rw [Nat.add_sub_cancel' hmin] at hcount
      simp only [Run.mark, hfew, if_true]
      exact hcount
    · have hfits : count - 11 < 2 ^ 7 := by omega
      have hcount := (reads_number hfits).bind_pure
        fun more => Run.zeros (11 + more)
      rw [Nat.add_sub_cancel' (by omega)] at hcount
      simp only [Run.mark, hfew, if_false]
      exact hcount

/-- An item adds at least one length. -/
theorem Run.Sendable.length_lt {r : Run} (h : r.Sendable) {done next : List Nat}
    (hnext : r.onto done = some next) : done.length < next.length := by
  cases r with
  | length n =>
    cases hnext
    simp
  | again count =>
    obtain ⟨n, -, rfl⟩ := Option.map_eq_some_iff.1 hnext
    simp only [List.length_append, List.length_replicate]
    exact Nat.lt_add_of_pos_right (Nat.lt_of_lt_of_le (by decide) h.1)
  | zeros count =>
    cases hnext
    simp only [List.length_append, List.length_replicate]
    exact Nat.lt_add_of_pos_right (Nat.lt_of_lt_of_le (by decide) h.1)

theorem length_le_of_expand {items : List Run} (sendable : ∀ r ∈ items, r.Sendable)
    {done all : List Nat} (expands : items.foldlM Run.onto done = some all) :
    done.length ≤ all.length := by
  induction items generalizing done with
  | nil =>
    obtain rfl : done = all := by simpa using expands
    exact Nat.le_refl _
  | cons r items ih =>
    obtain ⟨hr, sendable⟩ := List.forall_mem_cons.1 sendable
    rw [List.foldlM_cons, Option.bind_eq_bind, Option.bind_eq_some_iff] at expands
    obtain ⟨next, hnext, expands⟩ := expands
    exact Nat.le_trans (Nat.le_of_lt (hr.length_lt hnext)) (ih sendable expands)

/-- Items are read back until as many lengths are there as were announced. -/
theorem reads_codeLengths (fits : header.Fits) {items : List Run}
    (sendable : ∀ r ∈ items, r.Sendable)
    (known : ∀ r ∈ items, r.mark.Known header headerOrder.length) {done all : List Nat}
    (expands : items.foldlM Run.onto done = some all) {fuel : Nat}
    (enough : all.length < done.length + fuel) :
    Reads (codeLengths header all.length fuel done)
      ((items.map Run.mark).flatMap (Mark.write (codewords header headerOrder.length))) all := by
  induction items generalizing done fuel with
  | nil =>
    obtain rfl : done = all := by simpa using expands
    cases fuel with
    | zero => exact absurd enough (Nat.lt_irrefl _)
    | succ fuel =>
      rw [codeLengths, if_pos rfl]
      exact reads_pure done
  | cons r items ih =>
    obtain ⟨hr, sendable⟩ := List.forall_mem_cons.1 sendable
    obtain ⟨hknown, known⟩ := List.forall_mem_cons.1 known
    rw [List.foldlM_cons, Option.bind_eq_bind, Option.bind_eq_some_iff] at expands
    obtain ⟨next, hnext, expands⟩ := expands
    have hlonger := hr.length_lt hnext
    have hle := length_le_of_expand sendable expands
    cases fuel with
    | zero => omega
    | succ fuel =>
      -- This item still adds a length, so not all of them are there yet.
      rw [codeLengths, if_neg (by omega), if_neg (by omega), List.map_cons, List.flatMap_cons]
      have hfuel : all.length < next.length + fuel := by omega
      have hrest := ih sendable known expands hfuel
      exact (reads_run fits hr hknown).bind (Reads.bind_nil (reads_lift hnext) hrest)

/-! ## The header's own code -/

theorem reads_numbers {width : Nat} {ns : List Nat} (h : ∀ n ∈ ns, n < 2 ^ width) :
    Reads (numbers width ns.length) (ns.flatMap (bitsOf width)) ns := by
  induction ns with
  | nil => exact reads_pure []
  | cons n ns ih =>
    obtain ⟨hn, h⟩ := List.forall_mem_cons.1 h
    rw [List.flatMap_cons]
    exact (reads_number hn).bind ((ih h).bind_pure _)

/-- What a list of places gives for one of them, if only zeros were left out at its end. -/
theorem find?_sent {f : Nat → Nat} {order sent : List Nat} {zeros symbol : Nat}
    (h : order.map f = sent ++ List.replicate zeros 0) (hs : symbol ∈ order) :
    (((order.zip sent).find? (·.1 = symbol)).map (·.2)).getD 0 = f symbol := by
  induction order generalizing sent with
  | nil => cases hs
  | cons first order ih =>
    cases sent with
    | nil =>
      have hmem := List.mem_map_of_mem (f := f) hs
      rw [h, List.nil_append] at hmem
      rw [List.eq_of_mem_replicate hmem]
      rfl
    | cons l sent =>
      rw [List.map_cons, List.cons_append, List.cons.injEq] at h
      by_cases heq : first = symbol
      · simp [heq, ← h.1]
      · have hs : symbol ∈ order := (List.mem_cons.1 hs).resolve_left (Ne.symm heq)
        simpa [heq] using ih h.2 hs

def itemSymbols (lengths : List Nat) : List Nat :=
  ((runsFrom 0 lengths).map Run.mark).map (·.symbol)

def ownLengths (lengths : List Nat) : List Nat := balanced headerOrder.length (itemSymbols lengths)

/-- The lengths of the header's own code as they are sent. -/
def sentLengths (lengths : List Nat) : List Nat :=
  trimLengths 4 (headerOrder.map fun symbol => (ownLengths lengths).getD symbol 0)

theorem length_ownLengths (lengths : List Nat) :
    (ownLengths lengths).length = headerOrder.length := by
  simp [ownLengths, balanced]

theorem sentLengths_spec (lengths : List Nat) :
    headerLengths (sentLengths lengths) = ownLengths lengths ∧
      4 ≤ (sentLengths lengths).length ∧ (sentLengths lengths).length ≤ headerOrder.length ∧
      ∀ l ∈ sentLengths lengths, l < 2 ^ 3 := by
  have hordered : ∀ symbol < headerOrder.length, symbol ∈ headerOrder := by decide
  have hown := length_ownLengths lengths
  have hleast : 4 ≤ (headerOrder.map fun symbol => (ownLengths lengths).getD symbol 0).length := by
    simp [headerOrder]
  obtain ⟨⟨zeros, hzeros⟩, hmin, hmax⟩ := trimLengths_spec hleast
  refine ⟨?_, hmin, by rwa [List.length_map] at hmax, fun l hl => ?_⟩
  · refine List.ext_getElem (by simp [headerLengths, hown]) fun symbol hlt hlt' => ?_
    simp only [headerLengths, List.getElem_map, List.getElem_range]
    rw [sentLengths, find?_sent hzeros (hordered symbol (hown ▸ hlt')), List.getD_eq_getElem?_getD,
      List.getElem?_eq_getElem hlt', Option.getD_some]
  · obtain ⟨symbol, hsymbol, rfl⟩ := List.mem_map.1 (mem_of_mem_trimLengths hleast hl)
    rw [List.getD_eq_getElem?_getD]
    cases hget : (ownLengths lengths)[symbol]? with
    | none => decide
    | some l => exact Nat.lt_of_le_of_lt (mem_balanced (List.mem_of_getElem? hget)) (by decide)

theorem balanced_ownLengths (lengths : List Nat) :
    Balanced headerOrder.length (itemSymbols lengths) (ownLengths lengths) :=
  ⟨0, (List.append_nil _).symm⟩

/-! ## Both codes -/

/-- The lengths of two codes as they can be sent along. -/
structure Announced (literals distances : List Nat) : Prop where
  literals_length : 257 ≤ literals.length ∧ literals.length ≤ literalCount
  distances_length : 1 ≤ distances.length ∧ distances.length ≤ distanceCount
  small : ∀ l ∈ literals ++ distances, l < 16
  differ : ∃ n ∈ literals ++ distances, ∃ m ∈ literals ++ distances, n ≠ m
  literals_usable : (ofLengths literals).isUsable = true
  distances_usable : (ofLengths distances).isUsable = true

theorem writeCodes_eq (literals distances : List Nat) :
    writeCodes literals distances =
      bitsOf 5 (literals.length - 257) ++ (bitsOf 5 (distances.length - 1) ++
        (bitsOf 4 ((sentLengths (literals ++ distances)).length - 4) ++
          ((sentLengths (literals ++ distances)).flatMap (bitsOf 3) ++
            ((runsFrom 0 (literals ++ distances)).map Run.mark).flatMap (Mark.write (codewords
              (.ofLengths (ownLengths (literals ++ distances))) headerOrder.length))))) := by
  simp only [List.append_assoc, writeCodes, sentLengths, ownLengths, itemSymbols]

/-- The codes of a block are read back. -/
theorem reads_codes {literals distances : List Nat} (h : Announced literals distances) :
    Reads codes (writeCodes literals distances) (.ofLengths literals, .ofLengths distances) := by
  obtain ⟨hl, hl'⟩ := h.literals_length
  obtain ⟨hd, hd'⟩ := h.distances_length
  obtain ⟨n, hn, m, hm, hne⟩ := h.differ
  have hbound : Nat.log2 headerOrder.length < maxLength := by decide
  obtain ⟨hsent, hmin, hmax, hnarrow⟩ := sentLengths_spec (literals ++ distances)
  have hbalanced := balanced_ownLengths (literals ++ distances)
  have hsendable := sendable_runsFrom h.small 0
  have hknown : ∀ r ∈ runsFrom 0 (literals ++ distances), r.mark.Known
      (.ofLengths (ownLengths (literals ++ distances))) headerOrder.length := fun r hr =>
    ⟨(hsendable r hr).symbol_lt, hbalanced.word hbound
      (List.mem_map_of_mem (List.mem_map_of_mem hr)) (hsendable r hr).symbol_lt⟩
  have hcomplete := hbalanced.isComplete hbound (two_symbols h.small hn hm hne)
  have hexpand : (runsFrom 0 (literals ++ distances)).foldlM Run.onto [] =
      some (literals ++ distances) := expand_runsFrom 0 _ []
  have henough : (literals ++ distances).length <
      ([] : List Nat).length + (literals.length + distances.length + 1) := by simp
  have hlengths := reads_codeLengths (hbalanced.fits hbound) hsendable hknown hexpand henough
  simp only [literalCount, distanceCount] at hl' hd'
  have horder : headerOrder.length = 19 := rfl
  rw [writeCodes_eq]
  refine (reads_number (by omega)).bind ((reads_number (by omega)).bind
    ((reads_number (by omega)).bind ?_))
  rw [Nat.add_sub_cancel' hl, Nat.add_sub_cancel' hd, Nat.add_sub_cancel' hmin]
  refine Reads.bind_nil (reads_guard ⟨hl', hd'⟩) ((reads_numbers hnarrow).bind ?_)
  rw [hsent]
  rw [List.length_append] at hlengths
  refine Reads.bind_nil (reads_guard hcomplete) (hlengths.bind_last ?_)
  rw [List.take_left, List.drop_left]
  exact Reads.bind_nil (reads_guard ⟨h.literals_usable, h.distances_usable⟩) (reads_pure _)

end ScriptBundle.Payload.Deflate
