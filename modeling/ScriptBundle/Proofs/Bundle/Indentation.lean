import ScriptBundle.Bundle.Assemble

/-!
# Text one level deeper

`indent` puts blanks in front of the lines of a script and does not know what they hold.

Where a text in three quotes ends does not change one level deeper (`measureLines_hang`), but the
text does, unless all its further lines are empty.
-/

namespace ScriptBundle

open Text Template Python

/-- What stands in front of a line one level deeper. -/
def margin (text : List Char) : List Char :=
  if isEmptyLine (text.takeWhile (· ≠ '\n')) then [] else indentation.toList

/-- A text one level deeper, but for the line that it starts in. -/
def hang : List Char → List Char
  | [] => []
  | c :: rest => if c = '\n' then c :: (margin rest ++ hang rest) else c :: hang rest

@[simp]
theorem hang_lineFeed (rest : List Char) :
    hang ('\n' :: rest) = '\n' :: (margin rest ++ hang rest) :=
  rfl

theorem hang_cons {c : Char} (h : c ≠ '\n') (rest : List Char) :
    hang (c :: rest) = c :: hang rest :=
  if_neg h

theorem hang_front {front : List Char} (line : '\n' ∉ front) (rest : List Char) :
    hang (front ++ rest) = front ++ hang rest := by
  induction front with
  | nil => rfl
  | cons c front ih =>
    obtain ⟨hc, line⟩ := not_or.1 (fun h => line (List.mem_cons.2 h))
    rw [List.cons_append, hang_cons (Ne.symm hc), ih line, List.cons_append]

theorem isEmptyLine_append (front back : List Char) :
    isEmptyLine (front ++ back) = (isEmptyLine front && isEmptyLine back) :=
  List.all_append

theorem flatMap_piecesFrom (line text : List Char) :
    (piecesFrom line text).flatMap
        (fun line => if isEmptyLine line then line else indentation.toList ++ line) =
      (if isEmptyLine (line.reverse ++ text.takeWhile (· ≠ '\n')) then []
        else indentation.toList) ++ (line.reverse ++ hang text) := by
  induction text generalizing line with
  | nil =>
    cases line with
    | nil => rfl
    | cons c line =>
      simp only [piecesFrom, List.isEmpty_cons, Bool.false_eq_true, if_false,
        List.flatMap_singleton, List.takeWhile_nil, List.append_nil, hang]
      split <;> simp
  | cons c rest ih =>
    by_cases hc : c = '\n'
    · subst hc
      have hline : isEmptyLine ('\n' :: line).reverse = isEmptyLine line.reverse := by
        rw [List.reverse_cons, isEmptyLine_append]
        simp [isEmptyLine]
      simp only [piecesFrom, if_true, List.flatMap_cons, ih, hline, hang_lineFeed, margin]
      split <;> simp_all
    · simp only [piecesFrom, if_neg hc, ih, hang_cons hc, List.reverse_cons, List.append_assoc,
        List.singleton_append, List.takeWhile_cons, decide_not, decide_eq_false hc, Bool.not_false,
        if_true]

/-- A text one level deeper has a margin in front of it and hangs below its first line. -/
theorem indent_eq (text : List Char) : indent text = margin text ++ hang text :=
  flatMap_piecesFrom [] text

/-! ## Texts of literals -/

/-- Whether a text starts with the end of an empty line. -/
def endsEmpty (text : List Char) : Bool := (text.dropWhile (· = '\r')).head? = some '\n'

/-- What stands between a character of a literal and the text behind it one level deeper. -/
def gap (c : Char) (behind : List Char) : List Char :=
  if c = '\n' && !endsEmpty behind then indentation.toList else []

/-- The text of a literal one level deeper, read with the blanks in front of its lines. -/
def hangText : List Char → List Char
  | [] => []
  | c :: rest => c :: (gap c rest ++ hangText rest)

theorem gap_eq_nil {c : Char} {behind : List Char} :
    gap c behind = [] ↔ (c = '\n' → endsEmpty behind = true) := by
  unfold gap
  split <;> simp_all [indentation]

theorem gap_of_ne {c : Char} (h : c ≠ '\n') (behind : List Char) : gap c behind = [] :=
  gap_eq_nil.2 fun hc => absurd hc h

variable {quote : Char}

theorem ne_quote (hq : Scanner.isQuote quote = true) {c : Char} (hc : Scanner.isQuote c = false) :
    c ≠ quote := by
  rintro rfl
  rw [hq] at hc
  cases hc

/-- A line that goes on behind a text is not empty. -/
theorem margin_append {c : Char} (hn : c ≠ '\n') (hr : c ≠ '\r') (text rest : List Char) :
    margin (text ++ c :: rest) = if endsEmpty text then [] else indentation.toList := by
  induction text with
  | nil => simp [margin, endsEmpty, isEmptyLine, hn, hr]
  | cons d text ih =>
    by_cases hd : d = '\n'
    · simp [margin, endsEmpty, isEmptyLine, hd]
    · by_cases hreturn : d = '\r'
      · simpa [margin, endsEmpty, isEmptyLine, hreturn] using ih
      · simp [margin, endsEmpty, isEmptyLine, hd, hreturn]

theorem hang_append_cons {c : Char} (hn : c ≠ '\n') (hr : c ≠ '\r') (text rest : List Char) :
    hang (text ++ c :: rest) = hangText text ++ c :: hang rest := by
  induction text with
  | nil => exact hang_cons hn rest
  | cons d text ih =>
    by_cases hd : d = '\n'
    · subst hd
      rw [List.cons_append, hang_lineFeed, margin_append hn hr, ih, hangText, gap]
      split <;> simp_all
    · rw [List.cons_append, hang_cons hd, ih, hangText, gap_of_ne hd]
      rfl

theorem hang_append (hq : Scanner.isQuote quote = true) (text rest : List Char) :
    hang (text ++ quote :: rest) = hangText text ++ quote :: hang rest :=
  hang_append_cons (ne_quote hq (by decide)).symm (ne_quote hq (by decide)).symm text rest

theorem length_le_hangText (text : List Char) : text.length ≤ (hangText text).length := by
  induction text with
  | nil => exact Nat.le_refl _
  | cons c rest ih =>
    simp only [hangText, List.length_cons, List.length_append]
    omega

/-- A text stays as it is if and only if all lines behind its first are empty. -/
theorem hangText_eq_self (text : List Char) :
    hangText text = text ↔ ∀ front back, text = front ++ '\n' :: back → endsEmpty back = true := by
  induction text with
  | nil => simp [hangText]
  | cons c rest ih =>
    constructor
    · intro h front back hsplit
      have hlength := congrArg List.length h
      have hrest := length_le_hangText rest
      simp only [hangText, List.length_cons, List.length_append] at hlength
      have hgap : gap c rest = [] := List.length_eq_zero_iff.1 (by omega)
      rw [hangText, hgap, List.nil_append, List.cons_inj_right] at h
      cases front with
      | nil =>
        obtain ⟨rfl, rfl⟩ := List.cons.inj hsplit
        exact gap_eq_nil.1 hgap rfl
      | cons d front => exact ih.1 h front back (List.cons.inj hsplit).2
    · intro h
      have hgap : gap c rest = [] := gap_eq_nil.2 fun hc => h [] rest (by rw [hc, List.nil_append])
      have hrest : hangText rest = rest :=
        ih.2 fun front back hsplit => h (c :: front) back (by rw [hsplit, List.cons_append])
      rw [hangText, hgap, hrest, List.nil_append]

theorem measureLines_gap (hq : Scanner.isQuote quote = true) (c : Char) (behind text : List Char)
    (n : Nat) :
    measureLines quote (gap c behind ++ text) n =
      measureLines quote text (n + (gap c behind).length) := by
  have hblank := ne_quote hq (c := ' ') (by decide)
  unfold gap
  split
  · simp [indentation, measureLines, hblank]
  · rfl

theorem measureLines_cons {c : Char} (hc : c ≠ '\\') (text : List Char) (n : Nat) :
    measureLines quote (c :: text) n =
      if c = quote ∧ text.take 2 = [quote, quote] then (n, true)
      else measureLines quote text (n + 1) := by
  rw [measureLines]
  · simp
  · exact fun _ _ h => absurd h hc
  · exact fun h => absurd h hc

theorem le_measureLines (quote : Char) (text : List Char) (n : Nat) :
    n ≤ (measureLines quote text n).1 := by
  fun_induction measureLines quote text n with
  | case1 | case4 => omega
  | case2 | case3 | case5 => simp

/-- Two quotes behind a text stand where they stood. -/
theorem take_hangText {text rest : List Char} (hq : Scanner.isQuote quote = true)
    (h : (hangText text ++ quote :: quote :: rest).take 2 = [quote, quote]) (more : List Char) :
    (text ++ quote :: quote :: more).take 2 = [quote, quote] := by
  have hn := ne_quote hq (c := '\n') (by decide)
  match text with
  | [] => rfl
  | c :: text =>
    obtain rfl : c = quote := by
      rw [hangText, List.cons_append] at h
      exact (List.cons.inj h).1
    rw [hangText, gap_of_ne hn.symm] at h
    cases text with
    | nil => rfl
    | cons d text =>
      simp only [hangText, List.nil_append, List.cons_append, List.take_succ_cons, List.take_zero,
        List.cons.injEq, and_true, true_and] at h ⊢
      exact h

/-- The quotes that end a text stand where they stood. -/
theorem measureLines_hang (hq : Scanner.isQuote quote = true) {text : List Char} {n k : Nat}
    (h : measureLines quote text n = (n + k, true)) :
    ∃ inner rest, text = inner ++ quote :: quote :: quote :: rest ∧ inner.length = k ∧
      ∀ more m, measureLines quote (hangText inner ++ quote :: quote :: quote :: more) m =
        (m + (hangText inner).length, true) := by
  have hbackslash := ne_quote hq (c := '\\') (by decide)
  fun_induction measureLines quote text n generalizing k with
  | case1 c text n ih =>
    have hk := le_measureLines quote text (n + 2)
    rw [h] at hk
    obtain ⟨inner, rest, rfl, hlength, ih⟩ := @ih (k - 2) (by rw [h]; congr 1; omega)
    refine ⟨'\\' :: c :: inner, rest, rfl, by simp only [List.length_cons]; omega, fun more m => ?_⟩
    rw [hangText, gap_of_ne (by decide), hangText]
    simp only [List.nil_append, List.cons_append, List.append_assoc, measureLines,
      measureLines_gap hq, ih, List.length_cons, List.length_append]
    congr 1
    omega
  | case2 => simp at h
  | case3 c text n hfirst hlast hend =>
    obtain rfl : k = 0 := by simpa using h
    simp only [Bool.and_eq_true, decide_eq_true_eq] at hend
    obtain ⟨rfl, htwo⟩ := hend
    match text, htwo with
    | d :: e :: rest, htwo =>
      obtain ⟨rfl, rfl⟩ : d = c ∧ e = c := by simpa using htwo
      refine ⟨[], rest, rfl, rfl, fun more m => ?_⟩
      simp [hangText, measureLines_cons hbackslash.symm]
  | case4 c text n hfirst hlast hopen ih =>
    have hk := le_measureLines quote text (n + 1)
    rw [h] at hk
    obtain ⟨inner, rest, rfl, hlength, ih⟩ := @ih (k - 1) (by rw [h]; congr 1; omega)
    have hc : c ≠ '\\' := by
      rintro rfl
      match inner with
      | [] => exact hfirst _ _ rfl rfl
      | d :: inner => exact hfirst _ _ rfl rfl
    refine ⟨c :: inner, rest, rfl, by simp only [List.length_cons]; omega, fun more m => ?_⟩
    have hopen' : ¬ (c = quote ∧
        (gap c inner ++ hangText inner ++ quote :: quote :: quote :: more).take 2 =
          [quote, quote]) := by
      rintro ⟨rfl, htwo⟩
      rw [gap_of_ne (ne_quote hq (by decide)).symm, List.nil_append] at htwo
      simp [take_hangText hq htwo] at hopen
    rw [hangText, List.cons_append, measureLines_cons hc, if_neg hopen', List.append_assoc,
      measureLines_gap hq, ih]
    simp only [List.length_cons, List.length_append]
    congr 1
    omega
  | case5 => simp at h

end ScriptBundle
