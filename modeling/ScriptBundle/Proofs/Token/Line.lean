import ScriptBundle.Proofs.Token.Range

/-!
# Lexemes on one line

Numbers, words, marks and comments end on the line that they start on, so they are told from the
characters left on that line, whatever stands below.
-/

namespace ScriptBundle.Python

open ScriptBundle.Text

/-- Texts with the same characters left on the line. The end of the first text may stand for the
end of the line. -/
inductive SameLine : List Char → List Char → Prop
  | stop (t' : List Char) : SameLine [] ('\n' :: t')
  | lineFeed (t t' : List Char) : SameLine ('\n' :: t) ('\n' :: t')
  | cons {c : Char} {z z' : List Char} (inside : c ≠ '\n') (behind : SameLine z z') :
    SameLine (c :: z) (c :: z')

/-- The number of characters left on the line. -/
def lineLength (z : List Char) : Nat := (z.takeWhile (· ≠ '\n')).length

@[simp]
theorem lineLength_nil : lineLength [] = 0 := rfl

theorem lineLength_cons {c : Char} (hc : c ≠ '\n') (t : List Char) :
    lineLength (c :: t) = lineLength t + 1 := by
  simp [lineLength, hc]

variable {z z' : List Char} {n m : Nat}

namespace SameLine

theorem line (h : SameLine z z') : SameLine (z.takeWhile (· ≠ '\n')) z' := by
  induction h with
  | stop t' => exact .stop t'
  | lineFeed t t' => exact .stop t'
  | cons inside _ ih =>
    rw [List.takeWhile_cons_of_pos (by simpa using inside)]
    exact .cons inside ih

theorem drop (h : SameLine z z') (hn : n ≤ lineLength z) : SameLine (z.drop n) (z'.drop n) := by
  induction h generalizing n with
  | stop t' =>
    obtain rfl := Nat.le_zero.1 hn
    exact .stop t'
  | lineFeed t t' =>
    obtain rfl := Nat.le_zero.1 hn
    exact .lineFeed t t'
  | cons inside behind ih =>
    cases n with
    | zero => exact .cons inside behind
    | succ n =>
      rw [lineLength_cons inside] at hn
      exact ih (Nat.le_of_succ_le_succ hn)

theorem take (h : SameLine z z') (hn : n ≤ lineLength z) : z'.take n = z.take n := by
  induction h generalizing n with
  | stop t' =>
    obtain rfl := Nat.le_zero.1 hn
    rfl
  | lineFeed t t' =>
    obtain rfl := Nat.le_zero.1 hn
    rfl
  | cons inside behind ih =>
    cases n with
    | zero => rfl
    | succ n =>
      rw [lineLength_cons inside] at hn
      rw [List.take_succ_cons, List.take_succ_cons, ih (Nat.le_of_succ_le_succ hn)]

theorem head?_eq_some (h : SameLine z z') {c : Char} (hc : c ≠ '\n') :
    z'.head? = some c ↔ z.head? = some c := by
  cases h with
  | stop => simp [hc.symm]
  | lineFeed => exact Iff.rfl
  | cons => exact Iff.rfl

theorem eq_lineFeed {t' : List Char} (h : SameLine z ('\n' :: t')) (hne : z ≠ []) :
    ∃ t, z = '\n' :: t := by
  cases h with
  | stop => exact absurd rfl hne
  | lineFeed t => exact ⟨t, rfl⟩
  | cons inside => exact absurd rfl inside

theorem take_eq (h : SameLine z z') (word : List Char) (line : '\n' ∉ word) :
    z'.take word.length = word ↔ z.take word.length = word := by
  induction word generalizing z z' with
  | nil => simp
  | cons c word ih =>
    obtain ⟨hc, line⟩ := not_or.1 (fun h => line (List.mem_cons.2 h))
    cases h with
    | stop | lineFeed => simp [hc]
    | cons _ h => simp [ih h line]

theorem take_two (h : SameLine z z') {c d : Char} (hc : c ≠ '\n') (hd : d ≠ '\n') :
    z'.take 2 = [c, d] ↔ z.take 2 = [c, d] :=
  h.take_eq [c, d] (by simp [hc.symm, hd.symm])

/-- What is told from the line alone takes no more characters than the line has. -/
theorem le_lineLength {g : List Char → Nat} (hg : ∀ {z z'}, SameLine z z' → g z' = g z)
    (hle : ∀ z, g z ≤ z.length) (h : SameLine z z') : g z ≤ lineLength z := by
  rw [← hg h, hg h.line]
  exact hle _

theorem takeWhile_eq (h : SameLine z z') {p : Char → Bool} (hp : p '\n' = false) :
    z'.takeWhile p = z.takeWhile p := by
  induction h with
  | stop => simp [hp]
  | lineFeed => simp [hp]
  | cons _ _ ih => rw [List.takeWhile_cons, List.takeWhile_cons, ih]

end SameLine

theorem length_takeWhile_le_lineLength (z : List Char) {p : Char → Bool} (hp : p '\n' = false) :
    (z.takeWhile p).length ≤ lineLength z := by
  induction z with
  | nil => exact Nat.le_refl _
  | cons c z ih =>
    rw [List.takeWhile_cons]
    split
    · have hc : c ≠ '\n' := by
        rintro rfl
        simp_all
      rw [lineLength_cons hc, List.length_cons]
      exact Nat.succ_le_succ ih
    · exact Nat.zero_le _

theorem lineLength_drop (h : n ≤ lineLength z) : lineLength (z.drop n) = lineLength z - n := by
  induction z generalizing n with
  | nil =>
    rw [List.drop_nil, lineLength_nil, Nat.zero_sub]
  | cons c z ih =>
    cases n with
    | zero => rfl
    | succ n =>
      have hc : c ≠ '\n' := by
        rintro rfl
        exact Nat.not_succ_le_zero n h
      rw [lineLength_cons hc] at h ⊢
      rw [List.drop_succ_cons, ih (Nat.le_of_succ_le_succ h), Nat.add_sub_add_right]

/-! ## Marks -/

namespace SameLine

theorem one_ne (h : SameLine z z') {c : Char} (hc : c ≠ '\n') (hz : ∀ t, z = c :: t → False) :
    ∀ t, z' = c :: t → False := by
  rintro t rfl
  cases h with
  | stop | lineFeed => exact hc rfl
  | cons => exact hz _ rfl

theorem two_ne (h : SameLine z z') {c d : Char} (hc : c ≠ '\n') (hd : d ≠ '\n')
    (hz : ∀ t, z = c :: d :: t → False) : ∀ t, z' = c :: d :: t → False := by
  rintro t rfl
  cases h with
  | stop | lineFeed => exact hc rfl
  | cons _ h => exact h.one_ne hd (fun t ht => hz t (by rw [ht])) _ rfl

theorem three_ne (h : SameLine z z') {c d e : Char} (hc : c ≠ '\n') (hd : d ≠ '\n')
    (he : e ≠ '\n') (hz : ∀ t, z = c :: d :: e :: t → False) :
    ∀ t, z' = c :: d :: e :: t → False := by
  rintro t rfl
  cases h with
  | stop | lineFeed => exact hc rfl
  | cons _ h => exact h.two_ne hd he (fun t ht => hz t (by rw [ht])) _ rfl

end SameLine

/-- The mark that a text starts with has up to three characters, none of them a line feed. -/
theorem symbol?_sameLine (h : SameLine z z') : symbol? z' = symbol? z := by
  conv_rhs => unfold symbol?
  split
  case h_49 =>
    apply symbol?.eq_49
    all_goals first
      | exact h.one_ne (by decide) ‹_›
      | exact h.two_ne (by decide) (by decide) ‹_›
      | exact h.three_ne (by decide) (by decide) (by decide) ‹_›
  -- A mark that is no start of a longer one stays, and so does one that is not gone on with.
  all_goals
    cases h with | cons _ h =>
    first
    | rfl
    | (rw [symbol?]
       all_goals first
         | exact h.one_ne (by decide) ‹_›
         | exact h.two_ne (by decide) (by decide) ‹_›)
    | (cases h with | cons _ h =>
       first
       | rfl
       | (rw [symbol?]
          exact h.one_ne (by decide) ‹_›)
       | (cases h with | cons _ h => rfl))

/-! ## Numbers -/

theorem measureDigits_sameLine {p : Char → Bool} (hp : p '\n' = false) (hscore : p '_' = false)
    (h : SameLine z z') (n : Nat) : measureDigits p z' n = measureDigits p z n := by
  have hcons : ∀ {c : Char} {t : List Char} {n : Nat}, c ≠ '_' →
      measureDigits p (c :: t) n = if p c then measureDigits p t (n + 1) else n := fun hc =>
    measureDigits.eq_2 _ _ _ _ fun _ _ h => absurd h hc
  fun_induction measureDigits p z n generalizing z' with
  | case1 d t n hd ih =>
    cases h with | cons _ h =>
    cases h with
    | lineFeed => exact absurd hd (by simp [hp])
    | cons _ h => rw [measureDigits, if_pos hd, ih h]
  | case2 d t n hd =>
    cases h with | cons _ h =>
    cases h with
    | lineFeed => rw [measureDigits, if_neg (by simp [hp])]
    | cons _ h => rw [measureDigits, if_neg hd]
  | case3 c t n hne hc ih =>
    have hc' : c ≠ '_' := by
      rintro rfl
      exact absurd hc (by simp [hscore])
    cases h with
    | lineFeed => exact absurd hc (by simp [hp])
    | cons _ h => rw [hcons hc', if_pos hc, ih h]
  | case4 c t n hne hc =>
    cases h with
    | lineFeed => rw [hcons (by decide), if_neg hc]
    | cons _ h =>
      by_cases hc' : c = '_'
      · cases h with
        | stop => rw [hc', measureDigits, if_neg (by simp [hp])]
        | lineFeed => exact (hne _ _ hc' rfl).elim
        | cons => exact (hne _ _ hc' rfl).elim
      · rw [hcons hc', if_neg hc]
  | case5 n =>
    cases h
    rw [hcons (by decide), if_neg (by simp [hp])]

theorem measureDigits_le (p : Char → Bool) (text : List Char) (n : Nat) :
    measureDigits p text n ≤ n + text.length := by
  fun_induction measureDigits p text n with grind

theorem measureExponent_behind (h : SameLine z z') :
    measureExponent ('e' :: z') = measureExponent ('e' :: z) := by
  have hdigits : ∀ {t t' : List Char} (n : Nat), SameLine t t' →
      measureDigits Char.isDigit t' n = measureDigits Char.isDigit t n := fun n h =>
    measureDigits_sameLine (by decide) (by decide) h n
  have hplain : ∀ {d : Char}, d ≠ '+' → d ≠ '-' → ∀ t, measureExponent ('e' :: d :: t) =
      if d.isDigit then measureDigits Char.isDigit (d :: t) 1 else 0 := by
    intro d hplus hminus t
    simp [measureExponent, hplus, hminus]
  cases h with
  | stop | lineFeed => rfl
  | @cons d t t' inside h =>
    by_cases hplus : d = '+'
    · subst hplus
      cases h with
      | stop | lineFeed => rfl
      | cons inside h => simp only [measureExponent, hdigits 2 (.cons inside h)]
    · by_cases hminus : d = '-'
      · subst hminus
        cases h with
        | stop | lineFeed => rfl
        | cons inside h => simp only [measureExponent, hdigits 2 (.cons inside h)]
      · rw [hplain hplus hminus, hplain hplus hminus, hdigits 1 (.cons inside h)]

theorem measureExponent_sameLine (h : SameLine z z') : measureExponent z' = measureExponent z := by
  cases h with
  | stop | lineFeed => rfl
  | @cons c t t' inside h =>
    by_cases hsmall : c = 'e'
    · rw [hsmall, measureExponent_behind h]
    · by_cases hlarge : c = 'E'
      · rw [hlarge]
        exact measureExponent_behind h
      · simp [measureExponent, hsmall, hlarge]

theorem measureExponent_le (text : List Char) : measureExponent text ≤ text.length := by
  have hdigits := measureDigits_le Char.isDigit
  fun_cases measureExponent text
  all_goals first
    | exact Nat.zero_le _
    | (refine Nat.le_trans (hdigits _ _) (Nat.le_of_eq ?_)
       simp only [List.length_cons]
       omega)

/-- The point and the digits of a number behind its whole part, and whether an underscore stands
where the first of them should. -/
def fractionShape : List Char → Nat × Bool
  | '.' :: '_' :: _ => (1, true)
  | '.' :: t => (measureDigits Char.isDigit t 1, false)
  | _ => (0, false)

/-- A number in base ten by its length without a last letter; `more` characters of it stand behind
its whole part. -/
def decimalEnd (text : List Char) (length more : Nat) : NumberShape :=
  match text.drop length with
  | 'j' :: _ | 'J' :: _ => .good (length + 1) .imaginary
  | _ =>
    if more ≠ 0 then .good length .float
    else if text.head? = some '0' && (text.take length).any (fun c => c ≠ '0' && c ≠ '_') then
      .bad length 0
    else .good length .integer

theorem decimalShape_eq (text : List Char) :
    decimalShape text =
      let whole := measureDigits Char.isDigit text 0
      let behind := text.drop whole
      let (fraction, broken) := fractionShape behind
      if broken then .bad (whole + 2) (whole + 1)
      else
        let exponent := measureExponent (behind.drop fraction)
        decimalEnd text (whole + fraction + exponent) (fraction + exponent) :=
  rfl

theorem fractionShape_sameLine (h : SameLine z z') : fractionShape z' = fractionShape z := by
  cases h with
  | stop | lineFeed => rfl
  | @cons c t t' inside h =>
    by_cases hpoint : c = '.'
    · subst hpoint
      have hplain : ∀ {t : List Char}, (∀ u, t = '_' :: u → False) →
          fractionShape ('.' :: t) = (measureDigits Char.isDigit t 1, false) := fun ht =>
        fractionShape.eq_2 _ ht
      by_cases hscore : ∃ u, t = '_' :: u
      · obtain ⟨u, rfl⟩ := hscore
        cases h
        rfl
      · have ht : ∀ u, t = '_' :: u → False := fun u hu => hscore ⟨u, hu⟩
        rw [hplain ht, hplain (h.one_ne (by decide) ht),
          measureDigits_sameLine (by decide) (by decide) h]
    · simp [fractionShape, hpoint]

theorem fractionShape_le (text : List Char) : (fractionShape text).1 ≤ text.length := by
  fun_cases fractionShape text with
  | case1 => simp
  | case2 t =>
    have := measureDigits_le Char.isDigit t 1
    rw [List.length_cons]
    omega
  | case3 => exact Nat.zero_le _

theorem decimalEnd_sameLine (h : SameLine z z') {length : Nat} (hlength : length ≤ lineLength z)
    (more : Nat) : decimalEnd z' length more = decimalEnd z length more := by
  have hzero := h.head?_eq_some (c := '0') (by decide)
  have hbehind := h.drop hlength
  unfold decimalEnd
  rw [h.take hlength]
  generalize z.drop length = behind at hbehind
  generalize z'.drop length = behind' at hbehind
  cases hbehind with
  | stop | lineFeed => simp [hzero]
  | @cons c t t' inside h =>
    by_cases hsmall : c = 'j'
    · simp [hsmall]
    · by_cases hlarge : c = 'J'
      · simp [hlarge]
      · simp [hsmall, hlarge, hzero]

theorem decimalShape_sameLine (h : SameLine z z') : decimalShape z' = decimalShape z := by
  have hdigits : ∀ {z z'}, SameLine z z' →
      measureDigits Char.isDigit z' 0 = measureDigits Char.isDigit z 0 := fun h =>
    measureDigits_sameLine (by decide) (by decide) h 0
  have hwhole : measureDigits Char.isDigit z 0 ≤ lineLength z :=
    h.le_lineLength (g := (measureDigits Char.isDigit · 0)) hdigits fun z => by
      simpa using measureDigits_le Char.isDigit z 0
  rw [decimalShape_eq, decimalShape_eq, hdigits h]
  generalize measureDigits Char.isDigit z 0 = whole at hwhole
  have hbehind := h.drop hwhole
  have hfraction : (fractionShape (z.drop whole)).1 ≤ lineLength (z.drop whole) :=
    hbehind.le_lineLength (fun h => by rw [fractionShape_sameLine h]) fractionShape_le
  dsimp only
  rw [fractionShape_sameLine hbehind]
  generalize fractionShape (z.drop whole) = shape at hfraction
  obtain ⟨fraction, broken⟩ := shape
  cases broken with
  | true => rfl
  | false =>
    have hpower := hbehind.drop hfraction
    have hexponent := hpower.le_lineLength measureExponent_sameLine measureExponent_le
    dsimp only
    rw [if_neg Bool.false_ne_true, if_neg Bool.false_ne_true, measureExponent_sameLine hpower]
    apply decimalEnd_sameLine h
    rw [lineLength_drop hfraction, lineLength_drop hwhole] at hexponent
    rw [lineLength_drop hwhole] at hfraction
    omega

theorem decimalEnd_le {text : List Char} {length more : Nat} {form : NumberForm}
    (hlength : length ≤ text.length) (h : decimalEnd text length more = .good n form) :
    n ≤ text.length := by
  have hletter : ∀ {c : Char} {t : List Char}, text.drop length = c :: t →
      length + 1 ≤ text.length := by
    intro c t hdrop
    have hdropped := congrArg List.length hdrop
    rw [List.length_drop, List.length_cons] at hdropped
    omega
  unfold decimalEnd at h
  split at h
  · rename_i hdrop
    cases h
    exact hletter hdrop
  · rename_i hdrop
    cases h
    exact hletter hdrop
  · split at h
    · cases h
      exact hlength
    · split at h
      · cases h
      · cases h
        exact hlength

theorem decimalShape_le {text : List Char} {form : NumberForm}
    (h : decimalShape text = .good n form) : n ≤ text.length := by
  have hwhole := measureDigits_le Char.isDigit text 0
  rw [decimalShape_eq] at h
  generalize measureDigits Char.isDigit text 0 = whole at h hwhole
  have hfraction := fractionShape_le (text.drop whole)
  dsimp only at h
  generalize fractionShape (text.drop whole) = shape at h hfraction
  obtain ⟨fraction, broken⟩ := shape
  cases broken with
  | true => cases h
  | false =>
    have hexponent := measureExponent_le ((text.drop whole).drop fraction)
    dsimp only at h
    rw [if_neg Bool.false_ne_true] at h
    generalize measureExponent ((text.drop whole).drop fraction) = exponent at h hexponent
    simp only [List.length_drop] at hfraction hexponent
    have hlength : whole + fraction + exponent ≤ text.length := by omega
    exact decimalEnd_le hlength h

theorem radixShape_sameLine {p : Char → Bool} (hp : p '\n' = false) (hscore : p '_' = false)
    (h : SameLine z z') : radixShape p z' = radixShape p z := by
  unfold radixShape
  rw [measureDigits_sameLine hp hscore h]

theorem numberShape_sameLine (h : SameLine z z') : numberShape z' = numberShape z := by
  fun_cases numberShape z with
  | case7 hx hX ho hO hb hB =>
    rw [numberShape.eq_7]
    · exact decimalShape_sameLine h
    all_goals exact h.two_ne (by decide) (by decide) ‹_›
  | _ =>
    cases h with | cons _ h =>
    cases h with | cons _ h =>
    exact radixShape_sameLine (by decide) (by decide) h

theorem numberShape_le {text : List Char} {form : NumberForm}
    (h : numberShape text = .good n form) : n ≤ text.length := by
  have hradix : ∀ {p : Char → Bool} {t : List Char}, radixShape p t = .good n form →
      n ≤ t.length + 2 := by
    intro p t ht
    have hle := measureDigits_le p t 0
    unfold radixShape at ht
    split at ht
    · cases ht
    · cases ht
      omega
  fun_cases numberShape text with
  | case7 =>
    rw [numberShape.eq_7] at h
    · exact decimalShape_le h
    all_goals assumption
  | _ => exact hradix h

/-- A number ends on its line. -/
theorem le_lineLength_of_numberShape (h : SameLine z z') {form : NumberForm}
    (hshape : numberShape z = .good n form) : n ≤ lineLength z := by
  have hfound : numberShape (z.takeWhile (· ≠ '\n')) = .good n form := by
    rw [← numberShape_sameLine h.line, numberShape_sameLine h, hshape]
  exact numberShape_le hfound

/-- So does a mark. -/
theorem le_lineLength_of_symbol? (h : SameLine z z') {mark : Symbol}
    (hsymbol : symbol? z = some (mark, n)) : n ≤ lineLength z := by
  have hfound : symbol? (z.takeWhile (· ≠ '\n')) = some (mark, n) := by
    rw [← symbol?_sameLine h.line, symbol?_sameLine h, hsymbol]
  exact symbol?_le hfound

end ScriptBundle.Python
