import ScriptBundle.Proofs.Token.Steps

/-!
# Texts behind a lexeme

The length of a lexeme is told from its own characters and one character behind them. So the text
behind may be exchanged for another with the same first character. The same goes for an `f` there
and a `p`, which no length tells apart.
-/

namespace ScriptBundle.Python

open ScriptBundle.Text

/-- Texts with the same first character, or an `f` and a `p` in its place. -/
inductive Swapped : List Char → List Char → Prop
  | same (c : Char) (t t' : List Char) : Swapped (c :: t) (c :: t')
  | letter (t t' : List Char) : Swapped ('f' :: t) ('p' :: t')

namespace Swapped

variable {z z' : List Char}

/-- The same text may stand in front. -/
theorem append (text : List Char) (h : Swapped z z') : Swapped (text ++ z) (text ++ z') := by
  cases text with
  | nil => exact h
  | cons c t => exact .same c _ _

/-- Texts that start alike are exchanged for one another. -/
theorem ofAppend {text : List Char} (h : text ≠ []) (z z' : List Char) :
    Swapped (text ++ z) (text ++ z') := by
  cases text with
  | nil => exact absurd rfl h
  | cons c t => exact .same c _ _

/-- A character that is no `p` is not brought in. -/
theorem head_ne {c : Char} (h : Swapped z z') (hc : ∀ t, z = c :: t → False) (hp : c ≠ 'p') :
    ∀ t, z' = c :: t → False := by
  rintro t rfl
  cases h with
  | same => exact hc _ rfl
  | letter => exact hp rfl

theorem lt_length {text : List Char} {k : Nat} (h : Swapped (text.drop k) z) :
    k < text.length := by
  refine Nat.lt_of_not_le fun hle => ?_
  rw [List.drop_eq_nil_of_le hle] at h
  cases h

/-- What stands in front of texts that are exchanged stays. -/
theorem take_append {text : List Char} {j k : Nat} (h : Swapped (text.drop k) z) (hjk : j ≤ k) :
    (text.take k ++ z).take j = text.take j := by
  have hlt := h.lt_length
  rw [List.take_append_of_le_length (by rw [List.length_take]; omega), List.take_take,
    Nat.min_eq_left hjk]

theorem drop_append {text : List Char} {k : Nat} (h : Swapped (text.drop k) z) :
    (text.take k ++ z).drop k = z := by
  have hlt := h.lt_length
  rw [List.drop_append_of_le_length (by rw [List.length_take]; omega),
    List.drop_eq_nil_of_le (by rw [List.length_take]; omega), List.nil_append]

theorem drop_append_of_le {text : List Char} {j k : Nat} (h : Swapped (text.drop k) z)
    (hjk : j ≤ k) : (text.take k ++ z).drop j = (text.drop j).take (k - j) ++ z := by
  have hlt := h.lt_length
  rw [List.drop_append_of_le_length (by rw [List.length_take]; omega), List.drop_take]

/-- A stretch of what stands in front stays. -/
theorem take_drop_append {text : List Char} {j l k : Nat} (h : Swapped (text.drop k) z)
    (hk : j + l ≤ k) : ((text.take k ++ z).drop j).take l = (text.drop j).take l := by
  rw [List.take_drop, h.take_append hk, ← List.take_drop]

end Swapped

/-- A function of texts that looks at `k` characters of a text and at the one behind them. -/
def LooksAt {α : Type} (g : List Char → α) (text : List Char) (k : Nat) : Prop :=
  ∀ z, Swapped (text.drop k) z → g (text.take k ++ z) = g text

namespace LooksAt

variable {α : Type} {g g' : List Char → α} {text : List Char} {k : Nat}

theorem here (h : ∀ z, Swapped text z → g z = g text) : LooksAt g text 0 := h

/-- Some characters in front are looked at as well. -/
theorem extend (h : LooksAt g' text k) (chunk : List Char) (htext : g (chunk ++ text) = g' text)
    (hg : ∀ z, Swapped (text.drop k) z →
      g (chunk ++ (text.take k ++ z)) = g' (text.take k ++ z)) :
    LooksAt g (chunk ++ text) (chunk.length + k) := by
  intro z hz
  rw [List.drop_length_add_append] at hz
  rw [List.take_length_add_append, List.append_assoc, hg z hz, htext]
  exact h z hz

/-- It is enough that they are followed by a text that starts alike. -/
theorem behind (h : LooksAt g' text k) (chunk : List Char)
    (hg : ∀ z, Swapped text z ∨ z = text → g (chunk ++ z) = g' z) :
    LooksAt g (chunk ++ text) (chunk.length + k) := by
  refine h.extend chunk (hg text (.inr rfl)) fun z hz => hg _ (.inl ?_)
  have happend := hz.append (text.take k)
  rwa [List.take_append_drop] at happend

/-- So is one character in front. -/
theorem cons {c : Char} (h : LooksAt g' text k)
    (hg : ∀ z, Swapped text z ∨ z = text → g (c :: z) = g' z) : LooksAt g (c :: text) (k + 1) := by
  rw [Nat.add_comm]
  exact behind h [c] hg

/-- What is looked at behind some characters stays as well. -/
theorem drop {j : Nat} {z : List Char} (h : LooksAt g (text.drop j) k)
    (hz : Swapped (text.drop (j + k)) z) :
    g ((text.take (j + k) ++ z).drop j) = g (text.drop j) := by
  rw [hz.drop_append_of_le (Nat.le_add_right j k), Nat.add_sub_cancel_left]
  refine h z ?_
  rwa [List.drop_drop]

end LooksAt

/-! ## Lengths -/

theorem measureWhile_eq (p : Char → Bool) (text : List Char) (n : Nat) :
    measureWhile p text n = n + (text.takeWhile p).length := by
  induction text generalizing n with
  | nil => rfl
  | cons c t ih =>
    rw [measureWhile, List.takeWhile_cons]
    split
    · rw [ih, List.length_cons]
      omega
    · rfl

theorem measureBlanks_le (text : List Char) (n : Nat) :
    (measureBlanks text n).1 ≤ n + text.length := by
  fun_induction measureBlanks text n with grind

theorem measureIndent_le (text : List Char) (i : Indentation) (first : Option Indentation)
    (n : Nat) : (measureIndent text i first n).2.1 ≤ n + text.length := by
  fun_induction measureIndent text i first n with grind

/-- Blanks end at the same place before any text that starts alike. -/
theorem measureBlanks_looksAt {text : List Char} {n m : Nat}
    (h : measureBlanks text n = (m, false)) :
    n ≤ m ∧ LooksAt (measureBlanks · n) text (m - n) := by
  induction text, n using measureBlanks.induct with
  | case1 t n ih =>
    obtain ⟨hle, hlooks⟩ := ih h
    refine ⟨by omega, ?_⟩
    rw [show m - n = 3 + (m - (n + 3)) by omega]
    exact hlooks.behind ['\\', '\r', '\n'] fun _ _ => rfl
  | case2 t n hline ih =>
    rw [measureBlanks.eq_2 _ _ hline] at h
    obtain ⟨hle, hlooks⟩ := ih h
    refine ⟨by omega, ?_⟩
    rw [show m - n = 2 + (m - (n + 2)) by omega]
    refine hlooks.behind ['\\', '\r'] fun z hz => measureBlanks.eq_2 _ _ ?_
    obtain hz | rfl := hz
    · exact hz.head_ne hline (by decide)
    · exact hline
  | case3 t n ih =>
    obtain ⟨hle, hlooks⟩ := ih h
    refine ⟨by omega, ?_⟩
    rw [show m - n = 2 + (m - (n + 2)) by omega]
    exact hlooks.behind ['\\', '\n'] fun _ _ => rfl
  | case4 t n hreturn hreturn' hline =>
    rw [measureBlanks.eq_4 _ _ hreturn hreturn' hline] at h
    cases h
  | case5 c t n _ _ _ hslash hblank ih =>
    have hstep : ∀ t, measureBlanks (c :: t) n = measureBlanks t (n + 1) := by
      intro t
      rw [measureBlanks.eq_5 _ _ _ (fun _ h => absurd h hslash) (fun _ h => absurd h hslash)
        (fun _ h => absurd h hslash) hslash, if_pos hblank]
    rw [hstep] at h
    obtain ⟨hle, hlooks⟩ := ih h
    refine ⟨by omega, ?_⟩
    rw [show m - n = m - (n + 1) + 1 by omega]
    exact hlooks.cons fun z _ => hstep z
  | case6 c t n _ _ _ hslash hblank =>
    have hstep : ∀ t, measureBlanks (c :: t) n = (n, false) := by
      intro t
      rw [measureBlanks.eq_5 _ _ _ (fun _ h => absurd h hslash) (fun _ h => absurd h hslash)
        (fun _ h => absurd h hslash) hslash, if_neg hblank]
    rw [hstep] at h
    cases h
    refine ⟨Nat.le_refl _, ?_⟩
    rw [Nat.sub_self]
    refine .here fun z hz => ?_
    cases hz with
    | same => exact (hstep _).trans (hstep _).symm
    | letter => exact (hstep _).symm
  | case7 n =>
    cases h
    rw [Nat.sub_self]
    exact ⟨Nat.le_refl _, .here fun z hz => nomatch hz⟩

/-- So does the indentation of a line. -/
theorem measureIndent_looksAt {text : List Char} {i indent : Indentation}
    {first : Option Indentation} {n m : Nat}
    (h : measureIndent text i first n = (indent, m, false)) :
    n ≤ m ∧ LooksAt (measureIndent · i first n) text (m - n) := by
  induction text, i, first, n using measureIndent.induct with
  | case1 t i first n ih | case2 t i first n ih | case3 t i first n ih =>
    obtain ⟨hle, hlooks⟩ := ih h
    refine ⟨by omega, ?_⟩
    rw [show m - n = m - (n + 1) + 1 by omega]
    exact hlooks.cons fun _ _ => rfl
  | case4 t i first n ih =>
    obtain ⟨hle, hlooks⟩ := ih h
    refine ⟨by omega, ?_⟩
    rw [show m - n = 3 + (m - (n + 3)) by omega]
    exact hlooks.behind ['\\', '\r', '\n'] fun _ _ => rfl
  | case5 t i first n hline ih =>
    rw [measureIndent.eq_5 _ _ _ _ hline] at h
    obtain ⟨hle, hlooks⟩ := ih h
    refine ⟨by omega, ?_⟩
    rw [show m - n = 2 + (m - (n + 2)) by omega]
    refine hlooks.behind ['\\', '\r'] fun z hz => measureIndent.eq_5 _ _ _ _ ?_
    obtain hz | rfl := hz
    · exact hz.head_ne hline (by decide)
    · exact hline
  | case6 t i first n ih =>
    obtain ⟨hle, hlooks⟩ := ih h
    refine ⟨by omega, ?_⟩
    rw [show m - n = 2 + (m - (n + 2)) by omega]
    exact hlooks.behind ['\\', '\n'] fun _ _ => rfl
  | case7 t i first n hreturn hreturn' hline =>
    rw [measureIndent.eq_7 _ _ _ _ hreturn hreturn' hline] at h
    cases h
  | case8 t i first n hblank htab hfeed hr1 hr2 hr3 hslash =>
    have hstep : ∀ {text}, (∀ t, text = ' ' :: t → False) → (∀ t, text = '\t' :: t → False) →
        (∀ t, text = '\x0c' :: t → False) → (∀ t, text = '\\' :: t → False) →
        measureIndent text i first n = (first.getD i, n, false) := fun h1 h2 h3 h4 =>
      measureIndent.eq_8 _ _ _ _ h1 h2 h3 (fun _ => h4 _) (fun _ => h4 _) (fun _ => h4 _) h4
    have hhere := hstep hblank htab hfeed hslash
    rw [hhere] at h
    cases h
    refine ⟨Nat.le_refl _, ?_⟩
    rw [Nat.sub_self]
    refine .here fun z hz => (hstep ?_ ?_ ?_ ?_).trans hhere.symm
    · exact hz.head_ne hblank (by decide)
    · exact hz.head_ne htab (by decide)
    · exact hz.head_ne hfeed (by decide)
    · exact hz.head_ne hslash (by decide)

theorem measureLine_cons (quote : Char) {c : Char} (hc : c ≠ '\\') (t : List Char) (n : Nat) :
    measureLine quote (c :: t) n =
      if c = quote then (n, true)
      else if c = '\n' || c = '\r' then (n, false) else measureLine quote t (n + 1) :=
  measureLine.eq_4 _ _ _ _ (fun _ h => absurd h hc) (fun _ _ h => absurd h hc)
    fun h => absurd h hc

theorem measureLines_cons (quote : Char) {c : Char} (hc : c ≠ '\\') (t : List Char) (n : Nat) :
    measureLines quote (c :: t) n =
      if c = quote && t.take 2 = [quote, quote] then (n, true)
      else measureLines quote t (n + 1) :=
  measureLines.eq_3 _ _ _ _ (fun _ _ h => absurd h hc) fun h => absurd h hc

/-- A backslash is followed by something or by nothing. -/
theorem ne_slash {c : Char} {t : List Char}
    (hcons : ∀ (d : Char) (t' : List Char), c = '\\' → t = d :: t' → False)
    (hnil : c = '\\' → t = [] → False) : c ≠ '\\' := by
  intro h
  cases t with
  | nil => exact hnil h rfl
  | cons d t' => exact hcons d t' h rfl

/-- A string's text on one line is looked at up to its quote. -/
theorem measureLine_looksAt {quote : Char} {text : List Char} {n m : Nat}
    (h : measureLine quote text n = (m, true)) :
    n ≤ m ∧ LooksAt (measureLine quote · n) text (m - n + 1) ∧ text[m - n]? = some quote := by
  induction text, n using measureLine.induct quote with
  | case1 t n ih =>
    obtain ⟨hle, hlooks, hlast⟩ := ih h
    refine ⟨by omega, ?_, ?_⟩
    · rw [show m - n + 1 = 3 + (m - (n + 3) + 1) by omega]
      exact hlooks.behind ['\\', '\r', '\n'] fun _ _ => rfl
    · rw [show m - n = m - (n + 3) + 3 by omega]
      exact hlast
  | case2 c t n hline ih =>
    rw [measureLine.eq_2 _ _ _ _ hline] at h
    obtain ⟨hle, hlooks, hlast⟩ := ih h
    refine ⟨by omega, ?_, ?_⟩
    · rw [show m - n + 1 = 2 + (m - (n + 2) + 1) by omega]
      refine hlooks.behind ['\\', c] fun z hz => measureLine.eq_2 _ _ _ _ ?_
      intro t' hc
      obtain hz | rfl := hz
      · exact hz.head_ne (fun t => hline t hc) (by decide) t'
      · exact hline t' hc
    · rw [show m - n = m - (n + 2) + 2 by omega]
      exact hlast
  | case3 n => cases h
  | case4 t n _ hcons hnil =>
    have hstep : ∀ t, measureLine quote (quote :: t) n = (n, true) := fun t => by
      rw [measureLine_cons quote (ne_slash hcons hnil), if_pos rfl]
    rw [hstep] at h
    cases h
    refine ⟨Nat.le_refl _, ?_, by simp⟩
    rw [Nat.sub_self]
    exact fun z _ => (hstep _).trans (hstep _).symm
  | case5 c t n _ hcons hnil hc hend =>
    rw [measureLine_cons quote (ne_slash hcons hnil), if_neg hc, if_pos hend] at h
    cases h
  | case6 c t n _ hcons hnil hc hend ih =>
    have hstep : ∀ t, measureLine quote (c :: t) n = measureLine quote t (n + 1) := fun t => by
      rw [measureLine_cons quote (ne_slash hcons hnil), if_neg hc, if_neg hend]
    rw [hstep] at h
    obtain ⟨hle, hlooks, hlast⟩ := ih h
    rw [show m - n = m - (n + 1) + 1 by omega]
    exact ⟨by omega, hlooks.cons fun z _ => hstep z, hlast⟩
  | case7 n => cases h

/-- A string's text over lines is looked at up to its quotes. -/
theorem measureLines_looksAt {quote : Char} {text : List Char} {n m : Nat}
    (h : measureLines quote text n = (m, true)) :
    n ≤ m ∧ LooksAt (measureLines quote · n) text (m - n + 3) ∧ m - n + 3 ≤ text.length := by
  induction text, n using measureLines.induct quote with
  | case1 c t n ih =>
    rw [measureLines] at h
    obtain ⟨hle, hlooks, hlength⟩ := ih h
    rw [show m - n + 3 = 2 + (m - (n + 2) + 3) by omega]
    refine ⟨by omega, ?_, ?_⟩
    · exact hlooks.behind ['\\', c] fun z _ => measureLines.eq_1 _ _ _ _
    · rw [List.length_cons, List.length_cons]
      omega
  | case2 n => cases h
  | case3 c t n hcons hnil hquotes =>
    have hstep : ∀ t, t.take 2 = [quote, quote] → measureLines quote (c :: t) n = (n, true) := by
      intro t ht
      simp only [Bool.and_eq_true, decide_eq_true_eq] at hquotes
      rw [measureLines_cons quote (ne_slash hcons hnil), if_pos]
      simp only [hquotes.1, ht, decide_true, Bool.and_self]
    simp only [Bool.and_eq_true, decide_eq_true_eq] at hquotes
    have hhere := hstep t hquotes.2
    have hlength := congrArg List.length hquotes.2
    rw [hhere] at h
    cases h
    rw [Nat.sub_self]
    refine ⟨Nat.le_refl _, fun z _ => (hstep (t.take 2 ++ z) ?_).trans hhere.symm, ?_⟩
    · rw [hquotes.2]
      rfl
    · simp only [List.length_take, List.length_cons, List.length_nil] at hlength ⊢
      omega
  | case4 c t n hcons hnil hquotes ih =>
    have hstep : ∀ t', t'.take 2 = t.take 2 →
        measureLines quote (c :: t') n = measureLines quote t' (n + 1) := by
      intro t' ht
      rw [measureLines_cons quote (ne_slash hcons hnil), ht, if_neg hquotes]
    rw [hstep t rfl] at h
    obtain ⟨hle, hlooks, hlength⟩ := ih h
    rw [show m - n + 3 = 1 + (m - (n + 1) + 3) by omega]
    refine ⟨by omega, ?_, ?_⟩
    · refine hlooks.extend [c] (hstep t rfl) fun z hz => hstep _ (hz.take_append ?_)
      omega
    · rw [List.length_cons]
      omega
  | case5 n => cases h

end ScriptBundle.Python
