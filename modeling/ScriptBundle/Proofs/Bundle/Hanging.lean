import ScriptBundle.Proofs.Bundle.Indentation
import ScriptBundle.Proofs.Token.Line

/-!
# Lexemes one level deeper

What a lexeme measures over line ends is measured one level deeper as well, with the blanks in front
of the lines in it. Let `'\n' :: t` be what stands behind a text.
-/

namespace ScriptBundle

open Text Template Python

variable {r t : List Char} {n k : Nat}

/-- One level deeper, a line is the same. -/
theorem sameLine_hang (r t : List Char) : SameLine r (hang r ++ '\n' :: t) := by
  induction r with
  | nil => exact .stop t
  | cons c r ih =>
    by_cases hc : c = '\n'
    · subst hc
      exact .lineFeed _ _
    · rw [hang_cons hc]
      exact .cons hc ih

/-- The first `n` characters of a text are `k` characters one level deeper. -/
def Spans (t r : List Char) (n k : Nat) : Prop :=
  (hang r ++ '\n' :: t).drop k = hang (r.drop n) ++ '\n' :: t

namespace Spans

theorem zero (t r : List Char) : Spans t r 0 0 := rfl

theorem cons {c : Char} (hc : c ≠ '\n') (h : Spans t r n k) : Spans t (c :: r) (n + 1) (k + 1) := by
  unfold Spans
  rw [hang_cons hc]
  exact h

theorem lineFeed (h : Spans t r n k) : Spans t ('\n' :: r) (n + 1) ((margin r).length + k + 1) := by
  unfold Spans
  rw [hang_lineFeed, List.cons_append, List.drop_succ_cons, List.append_assoc,
    List.drop_length_add_append]
  exact h

theorem of_le (t : List Char) (h : n ≤ lineLength r) : Spans t r n n := by
  induction r generalizing n with
  | nil =>
    obtain rfl := Nat.le_zero.1 h
    exact zero t []
  | cons c r ih =>
    cases n with
    | zero => exact zero t (c :: r)
    | succ n =>
      have hc : c ≠ '\n' := by
        rintro rfl
        exact Nat.not_succ_le_zero n h
      rw [lineLength_cons hc] at h
      exact (ih (Nat.le_of_succ_le_succ h)).cons hc

theorem trans {n' k' : Nat} (h : Spans t r n k) (h' : Spans t (r.drop n) n' k') :
    Spans t r (n + n') (k + k') := by
  unfold Spans at h h' ⊢
  rw [← List.drop_drop, ← List.drop_drop, h, h']

end Spans

/-! ## Tidy texts -/

/-- Whether the code of a line stands behind tabs and then blanks alone. -/
def startsTidily (line : List Char) : Bool :=
  let start := (measureIndent line {} none 0).2.1
  let tabs := (line.takeWhile (· = '\t')).length
  let blanks := ((line.dropWhile (· = '\t')).takeWhile (· = ' ')).length
  Scanner.idle (line.drop start) || start = tabs + blanks

/-- Whether all lines but the first start tidily, and each carriage return belongs to a line
feed. -/
def isTidy : List Char → Bool
  | [] => true
  | c :: rest =>
    (c ≠ '\n' || startsTidily rest) && (c ≠ '\r' || rest.head? = some '\n') && isTidy rest

theorem isTidy_cons {c : Char} (h : isTidy (c :: r) = true) :
    (c = '\n' → startsTidily r = true) ∧ (c = '\r' → r.head? = some '\n') ∧ isTidy r = true := by
  simp only [isTidy, Bool.and_eq_true, Bool.or_eq_true, decide_eq_true_eq] at h
  obtain ⟨⟨hline, hreturn⟩, hrest⟩ := h
  exact ⟨fun hc => hline.resolve_left (absurd hc), fun hc => hreturn.resolve_left (absurd hc), hrest⟩

theorem isTidy_drop (h : isTidy r = true) (n : Nat) : isTidy (r.drop n) = true := by
  induction n generalizing r with
  | zero => exact h
  | succ n ih =>
    cases r with
    | nil => exact h
    | cons c r => exact ih (isTidy_cons h).2.2

/-! ## Blanks -/

theorem measureBlanks_blanks (z : List Char) (n : Nat) :
    measureBlanks (indentation.toList ++ z) n = measureBlanks z (n + 4) :=
  rfl

theorem measureBlanks_margin (r z : List Char) (n : Nat) :
    measureBlanks (margin r ++ z) n = measureBlanks z (n + (margin r).length) := by
  unfold margin
  split
  · rfl
  · exact measureBlanks_blanks z n

theorem measureBlanks_hang {m : Nat} (h : measureBlanks r n = (m, false)) (tidy : isTidy r = true)
    (t : List Char) :
    ∃ k, Spans t r (m - n) k ∧
      ∀ n', measureBlanks (hang r ++ '\n' :: t) n' = (n' + k, false) := by
  have hplain : ∀ {c : Char}, c ≠ '\\' → ∀ z n, measureBlanks (c :: z) n =
      if c = ' ' || c = '\t' || c = '\x0c' then measureBlanks z (n + 1) else (n, false) := by
    intro c hc z n
    exact measureBlanks.eq_5 _ _ _ (fun _ h => absurd h hc) (fun _ h => absurd h hc)
      (fun _ h => absurd h hc) hc
  fun_induction measureBlanks r n with
  | case1 r n ih =>
    have hle := (measureBlanks_looksAt h).1
    obtain ⟨k, hspans, hmeasure⟩ := ih h (isTidy_cons (isTidy_cons (isTidy_cons tidy).2.2).2.2).2.2
    refine ⟨(margin r).length + k + 3, ?_, fun n' => ?_⟩
    · rw [show m - n = m - (n + 3) + 3 by omega]
      exact (hspans.lineFeed.cons (by decide)).cons (by decide)
    · change measureBlanks (margin r ++ hang r ++ '\n' :: t) (n' + 3) = _
      rw [List.append_assoc, measureBlanks_margin, hmeasure]
      congr 1
      omega
  | case2 r n hline ih =>
    obtain ⟨r', rfl⟩ := List.head?_eq_some_iff.1 ((isTidy_cons (isTidy_cons tidy).2.2).2.1 rfl)
    exact (hline r' rfl).elim
  | case3 r n ih =>
    have hle := (measureBlanks_looksAt h).1
    obtain ⟨k, hspans, hmeasure⟩ := ih h (isTidy_cons (isTidy_cons tidy).2.2).2.2
    refine ⟨(margin r).length + k + 2, ?_, fun n' => ?_⟩
    · rw [show m - n = m - (n + 2) + 2 by omega]
      exact hspans.lineFeed.cons (by decide)
    · change measureBlanks (margin r ++ hang r ++ '\n' :: t) (n' + 2) = _
      rw [List.append_assoc, measureBlanks_margin, hmeasure]
      congr 1
      omega
  | case4 r n hreturn hreturn' hline => cases h
  | case5 c r n h1 h2 h3 hslash hblank ih =>
    have hle := (measureBlanks_looksAt h).1
    have hc : c ≠ '\n' := by
      rintro rfl
      exact absurd hblank (by decide)
    obtain ⟨k, hspans, hmeasure⟩ := ih h (isTidy_cons tidy).2.2
    refine ⟨k + 1, ?_, fun n' => ?_⟩
    · rw [show m - n = m - (n + 1) + 1 by omega]
      exact hspans.cons hc
    · rw [hang_cons hc, List.cons_append, hplain hslash, if_pos hblank, hmeasure]
      congr 1
      omega
  | case6 c r n h1 h2 h3 hslash hblank =>
    cases h
    refine ⟨0, ?_, fun n' => ?_⟩
    · rw [Nat.sub_self]
      exact .zero t (c :: r)
    · have hcons : ∃ z, hang (c :: r) ++ '\n' :: t = c :: z := by
        by_cases hc : c = '\n'
        · subst hc
          exact ⟨_, rfl⟩
        · rw [hang_cons hc]
          exact ⟨_, rfl⟩
      obtain ⟨z, hz⟩ := hcons
      rw [hz, hplain hslash, if_neg hblank]
      rfl
  | case7 n =>
    cases h
    refine ⟨0, ?_, fun n' => rfl⟩
    rw [Nat.sub_self]
    exact .zero t []

theorem measureIndent_blanks (z : List Char) (i : Indentation) (first : Option Indentation)
    (n : Nat) :
    ∃ j, measureIndent (indentation.toList ++ z) i first n = measureIndent z j first (n + 4) :=
  ⟨_, rfl⟩

theorem measureIndent_margin (r z : List Char) (i : Indentation) (first : Option Indentation)
    (n : Nat) :
    ∃ j, measureIndent (margin r ++ z) i first n =
      measureIndent z j first (n + (margin r).length) := by
  unfold margin
  split
  · exact ⟨i, rfl⟩
  · exact measureIndent_blanks z i first n

theorem measureIndent_hang {i indent : Indentation} {first : Option Indentation} {m : Nat}
    (h : measureIndent r i first n = (indent, m, false)) (tidy : isTidy r = true)
    (t : List Char) :
    ∃ k, Spans t r (m - n) k ∧
      ∀ i' first' n', (measureIndent (hang r ++ '\n' :: t) i' first' n').2 = (n' + k, false) := by
  -- A blank takes one character, whatever it does to the indentation.
  have hblank : ∀ {c : Char} {r : List Char} {i : Indentation} {first : Option Indentation}
      {n : Nat}, c ≠ '\n' →
      (∀ z i first n, ∃ j first', measureIndent (c :: z) i first n =
        measureIndent z j first' (n + 1)) →
      measureIndent r i first (n + 1) = (indent, m, false) →
      (∃ k, Spans t r (m - (n + 1)) k ∧ ∀ i' first' n',
        (measureIndent (hang r ++ '\n' :: t) i' first' n').2 = (n' + k, false)) →
      ∃ k, Spans t (c :: r) (m - n) k ∧ ∀ i' first' n',
        (measureIndent (hang (c :: r) ++ '\n' :: t) i' first' n').2 = (n' + k, false) := by
    intro c r i first n hc hstep h ⟨k, hspans, hmeasure⟩
    have hle := (measureIndent_looksAt h).1
    refine ⟨k + 1, ?_, fun i' first' n' => ?_⟩
    · rw [show m - n = m - (n + 1) + 1 by omega]
      exact hspans.cons hc
    · obtain ⟨j, first'', hj⟩ := hstep (hang r ++ '\n' :: t) i' first' n'
      rw [hang_cons hc, List.cons_append, hj, hmeasure]
      congr 1
      omega
  fun_induction measureIndent r i first n with
  | case1 r i first n ih | case2 r i first n ih | case3 r i first n ih =>
    exact hblank (by decide) (fun _ _ _ _ => ⟨_, _, rfl⟩) h (ih h (isTidy_cons tidy).2.2)
  | case4 r i first n ih =>
    have hle := (measureIndent_looksAt h).1
    obtain ⟨k, hspans, hmeasure⟩ := ih h (isTidy_cons (isTidy_cons (isTidy_cons tidy).2.2).2.2).2.2
    refine ⟨(margin r).length + k + 3, ?_, fun i' first' n' => ?_⟩
    · rw [show m - n = m - (n + 3) + 3 by omega]
      exact (hspans.lineFeed.cons (by decide)).cons (by decide)
    · change (measureIndent (margin r ++ hang r ++ '\n' :: t) i' _ (n' + 3)).2 = _
      obtain ⟨j, hj⟩ := measureIndent_margin r (hang r ++ '\n' :: t) i' _ (n' + 3)
      rw [List.append_assoc, hj, hmeasure]
      congr 1
      omega
  | case5 r i first n hline ih =>
    obtain ⟨r', rfl⟩ := List.head?_eq_some_iff.1 ((isTidy_cons (isTidy_cons tidy).2.2).2.1 rfl)
    exact (hline r' rfl).elim
  | case6 r i first n ih =>
    have hle := (measureIndent_looksAt h).1
    obtain ⟨k, hspans, hmeasure⟩ := ih h (isTidy_cons (isTidy_cons tidy).2.2).2.2
    refine ⟨(margin r).length + k + 2, ?_, fun i' first' n' => ?_⟩
    · rw [show m - n = m - (n + 2) + 2 by omega]
      exact hspans.lineFeed.cons (by decide)
    · change (measureIndent (margin r ++ hang r ++ '\n' :: t) i' _ (n' + 2)).2 = _
      obtain ⟨j, hj⟩ := measureIndent_margin r (hang r ++ '\n' :: t) i' _ (n' + 2)
      rw [List.append_assoc, hj, hmeasure]
      congr 1
      omega
  | case7 r i first n => cases h
  | case8 r i first n hspace htab hfeed h1 h2 h3 hslash =>
    cases h
    refine ⟨0, ?_, fun i' first' n' => ?_⟩
    · rw [Nat.sub_self]
      exact .zero t r
    · have hsame := sameLine_hang r t
      have hslash := hsame.one_ne (by decide) hslash
      rw [measureIndent.eq_8 _ _ _ _ (hsame.one_ne (by decide) hspace)
        (hsame.one_ne (by decide) htab) (hsame.one_ne (by decide) hfeed) (fun _ => hslash _)
        (fun _ => hslash _) (fun _ => hslash _) hslash]
      rfl

/-! ## Indentation -/

/-- Indentations of a line of code that starts with tabs and then blanks, and of the same line one
level deeper. -/
inductive Deeper : Indentation → Indentation → Prop
  | blanks (b : Nat) : Deeper ⟨b, b⟩ ⟨b + 4, b + 4⟩
  | tabs (k b : Nat) : Deeper ⟨8 * (k + 1) + b, k + 1 + b⟩ ⟨8 * (k + 1) + b, k + 1 + b + 4⟩

theorem compare?_eq_some {i j : Indentation} {o : Ordering} :
    i.compare? j = some o ↔ compare i.column j.column = o ∧ compare i.length j.length = o := by
  unfold Indentation.compare?
  dsimp only
  constructor
  · intro h
    split at h
    · rename_i heq
      cases h
      exact ⟨rfl, heq.symm⟩
    · cases h
  · rintro ⟨rfl, h⟩
    rw [if_pos h.symm]

theorem Deeper.compare? {i j i' j' : Indentation} (h : Deeper i j) (h' : Deeper i' j')
    {o : Ordering} (ho : i.compare? i' = some o) : j.compare? j' = some o := by
  rw [compare?_eq_some] at ho ⊢
  cases o <;> cases h <;> cases h' <;>
    simp only [Nat.compare_eq_lt, Nat.compare_eq_gt, Nat.compare_eq_eq] at ho ⊢ <;> omega

theorem Deeper.gt {i j : Indentation} (h : Deeper i j) : j.compare? {} = some .gt := by
  rw [compare?_eq_some, Nat.compare_eq_gt, Nat.compare_eq_gt]
  cases h <;> dsimp only <;> omega

def behindTabs (i : Indentation) (k : Nat) : Indentation :=
  if k = 0 then i else ⟨8 * (i.column / 8 + k), i.length + k⟩

theorem deeper_behindTabs (k b : Nat) :
    Deeper ⟨(behindTabs {} k).column + b, (behindTabs {} k).length + b⟩
      ⟨(behindTabs ⟨4, 4⟩ k).column + b, (behindTabs ⟨4, 4⟩ k).length + b⟩ := by
  cases k with
  | zero =>
    have hblanks := Deeper.blanks b
    rw [Nat.add_comm b 4] at hblanks
    simpa [behindTabs] using hblanks
  | succ k =>
    have htabs := Deeper.tabs k b
    rw [Nat.add_right_comm _ b 4, Nat.add_comm _ 4] at htabs
    simpa [behindTabs] using htabs

theorem measureIndent_replicate_tab (k : Nat) (z : List Char) (i : Indentation)
    (first : Option Indentation) (n : Nat) :
    measureIndent (List.replicate k '\t' ++ z) i first n =
      measureIndent z (behindTabs i k) first (n + k) := by
  induction k generalizing i n with
  | zero => rfl
  | succ k ih =>
    have htabs : behindTabs i.addTab k = behindTabs i (k + 1) := by
      rw [behindTabs, behindTabs, if_neg (Nat.succ_ne_zero k), Indentation.addTab]
      split
      · subst_vars
        congr 1
        omega
      · dsimp only
        congr 1
        · omega
        · omega
    rw [List.replicate_succ, List.cons_append, measureIndent, ih, htabs]
    congr 1
    omega

theorem measureIndent_replicate_blank (b : Nat) (z : List Char) (i : Indentation)
    (first : Option Indentation) (n : Nat) :
    measureIndent (List.replicate b ' ' ++ z) i first n =
      measureIndent z ⟨i.column + b, i.length + b⟩ first (n + b) := by
  induction b generalizing i n with
  | zero => rfl
  | succ b ih =>
    rw [List.replicate_succ, List.cons_append, measureIndent, ih]
    simp only [Indentation.addBlank]
    congr 1
    · congr 1 <;> omega
    · omega

/-- Where no blank is left, the indentation is found. -/
theorem measureIndent_self {z : List Char} {i indent : Indentation}
    (h : measureIndent z i none n = (indent, n, false)) :
    indent = i ∧ ∀ c u, z = c :: u → c ≠ ' ' ∧ c ≠ '\t' ∧ c ≠ '\x0c' ∧ c ≠ '\\' := by
  have hmore : ∀ {text i first d}, 0 < d → measureIndent text i first (n + d) ≠
      (indent, n, false) := by
    intro text i first d hd heq
    have hle := Scanner.le_measureIndent text i first (n + d)
    rw [heq] at hle
    dsimp only at hle
    omega
  unfold measureIndent at h
  split at h
  case h_7 => cases h
  case h_8 hspace htab hfeed _ _ _ hslash =>
    cases h
    refine ⟨rfl, ?_⟩
    rintro c u rfl
    refine ⟨?_, ?_, ?_, ?_⟩
    · exact fun hc => hspace u (by rw [hc])
    · exact fun hc => htab u (by rw [hc])
    · exact fun hc => hfeed u (by rw [hc])
    · exact fun hc => hslash u (by rw [hc])
  all_goals exact absurd h (hmore (by decide))

theorem takeWhile_eq_replicate (d : Char) (z : List Char) :
    z.takeWhile (· = d) = List.replicate (z.takeWhile (· = d)).length d := by
  apply List.eq_replicate_iff.2
  constructor
  · rfl
  · intro c hc
    have hall := List.all_eq_true.1 (List.all_takeWhile (p := fun c => decide (c = d)) (l := z)) c hc
    exact of_decide_eq_true hall

theorem lineLength_append {front : List Char} (line : '\n' ∉ front) (z : List Char) :
    lineLength (front ++ z) = front.length + lineLength z := by
  induction front with
  | nil => simp
  | cons c front ih =>
    obtain ⟨hc, line⟩ := not_or.1 (fun h => line (List.mem_cons.2 h))
    rw [List.cons_append, lineLength_cons (Ne.symm hc), ih line, List.length_cons]
    omega

theorem endsEmpty_eq_false {front : List Char} (line : '\n' ∉ front) : endsEmpty front = false := by
  apply decide_eq_false
  intro h
  have hmem := List.mem_of_mem_head? h
  exact line ((List.dropWhile_sublist _).mem hmem)

/-- Code follows, and no blank, comment or line end before it. -/
def StartsCode (z : List Char) : Prop :=
  ∃ c u, z = c :: u ∧ c ∉ [' ', '\t', '\x0c', '\\', '\n', '\r', '#']

theorem measureIndent_deeper {indent : Indentation} {m : Nat}
    (h : measureIndent r {} none 0 = (indent, m, false)) (tidy : startsTidily r = true)
    (code : ¬Scanner.idle (r.drop m) = true) (t : List Char) :
    ∃ deeper, Deeper indent deeper ∧ StartsCode (r.drop m) ∧ m ≤ lineLength r ∧
      measureIndent (margin r ++ (hang r ++ '\n' :: t)) {} none 0 =
        (deeper, (margin r).length + m, false) := by
  unfold startsTidily at tidy
  simp only [h, Bool.or_eq_true, decide_eq_true_eq] at tidy
  replace tidy := tidy.resolve_left code
  obtain ⟨k, b, z, hm, rfl⟩ : ∃ k b z, m = k + b ∧
      r = List.replicate k '\t' ++ (List.replicate b ' ' ++ z) := by
    refine ⟨_, _, ((r.dropWhile (· = '\t')).dropWhile (· = ' ')), tidy, ?_⟩
    rw [← takeWhile_eq_replicate, ← takeWhile_eq_replicate, List.takeWhile_append_dropWhile,
      List.takeWhile_append_dropWhile]
  subst hm
  clear tidy
  rw [measureIndent_replicate_tab, measureIndent_replicate_blank, Nat.zero_add] at h
  obtain ⟨rfl, hhead⟩ := measureIndent_self h
  have hdrop : (List.replicate k '\t' ++ (List.replicate b ' ' ++ z)).drop (k + b) = z := by
    simp [List.drop_append]
  rw [hdrop] at code
  cases z with
  | nil => exact absurd rfl code
  | cons c u =>
    obtain ⟨hspace, htab, hfeed, hslash⟩ := hhead c u rfl
    simp only [Scanner.idle, Bool.or_eq_true, decide_eq_true_eq, not_or] at code
    obtain ⟨⟨⟨hline, hreturn⟩, hcomment⟩, -⟩ := code
    have hblanks : '\n' ∉ List.replicate b ' ' := fun h => absurd (List.eq_of_mem_replicate h) (by decide)
    have htabs : '\n' ∉ List.replicate k '\t' := fun h => absurd (List.eq_of_mem_replicate h) (by decide)
    have hmargin : margin (List.replicate k '\t' ++ (List.replicate b ' ' ++ c :: u)) =
        indentation.toList := by
      rw [← List.append_assoc, margin_append hline hreturn, endsEmpty_eq_false]
      · rfl
      · exact fun h => (List.mem_append.1 h).elim htabs hblanks
    have hfound : ∀ z i n, measureIndent (c :: z) i none n = (i, n, false) := by
      intro z i n
      apply measureIndent.eq_8
      · exact fun _ h => hspace (List.cons.inj h).1
      · exact fun _ h => htab (List.cons.inj h).1
      · exact fun _ h => hfeed (List.cons.inj h).1
      all_goals exact fun _ h => hslash (List.cons.inj h).1
    refine ⟨⟨(behindTabs ⟨4, 4⟩ k).column + b, (behindTabs ⟨4, 4⟩ k).length + b⟩, ?_, ?_, ?_, ?_⟩
    · exact deeper_behindTabs k b
    · exact ⟨c, u, hdrop, by simp [hspace, htab, hfeed, hslash, hline, hreturn, hcomment]⟩
    · rw [lineLength_append htabs, lineLength_append hblanks]
      simp only [List.length_replicate]
      omega
    · rw [hmargin, hang_front htabs, hang_front hblanks, hang_cons hline]
      change measureIndent (List.replicate k '\t' ++ (List.replicate b ' ' ++ c :: hang u) ++
        '\n' :: t) ⟨4, 4⟩ none 4 = _
      rw [List.append_assoc, List.append_assoc, measureIndent_replicate_tab,
        measureIndent_replicate_blank, List.cons_append, hfound, Nat.add_assoc]
      rfl

/-! ## Texts of strings -/

variable {quote c : Char} {rest rest' : List Char}

theorem sameLine_hangText (hc : c ≠ '\n') (h : SameLine rest rest') (inner : List Char) :
    SameLine (inner ++ c :: rest) (hangText inner ++ c :: rest') := by
  induction inner with
  | nil => exact .cons hc h
  | cons d inner ih =>
    rw [List.cons_append, hangText]
    by_cases hd : d = '\n'
    · subst hd
      exact .lineFeed _ _
    · rw [gap_of_ne hd]
      exact .cons hd ih

theorem hangText_cons (hc : c ≠ '\n') (inner : List Char) :
    hangText (c :: inner) = c :: hangText inner := by
  rw [hangText, gap_of_ne hc, List.nil_append]

theorem measureLine_gap (hq : Scanner.isQuote quote = true) (c : Char) (behind z : List Char)
    (n : Nat) :
    measureLine quote (gap c behind ++ z) n = measureLine quote z (n + (gap c behind).length) := by
  have hblank := ne_quote hq (c := ' ') (by decide)
  unfold gap
  split
  · simp [indentation, measureLine, hblank]
  · rfl

theorem le_measureLine (quote : Char) (text : List Char) (n : Nat) :
    n ≤ (measureLine quote text n).1 := by
  fun_induction measureLine quote text n with grind

/-- The quote that ends a text on one line ends it one level deeper. -/
theorem measureLine_hang (hq : Scanner.isQuote quote = true) {text : List Char}
    (h : measureLine quote text n = (n + k, true)) :
    ∃ inner rest, text = inner ++ quote :: rest ∧ inner.length = k ∧
      ∀ rest' m, SameLine rest rest' → measureLine quote (hangText inner ++ quote :: rest') m =
        (m + (hangText inner).length, true) := by
  have hline := (ne_quote hq (c := '\n') (by decide)).symm
  have hslash := (ne_quote hq (c := '\\') (by decide)).symm
  fun_induction measureLine quote text n generalizing k with
  | case1 text n ih =>
    have hle := le_measureLine quote text (n + 3)
    rw [h] at hle
    obtain ⟨inner, rest, rfl, hlength, ih⟩ := @ih (k - 3) (by rw [h]; congr 1; omega)
    refine ⟨'\\' :: '\r' :: '\n' :: inner, rest, rfl, ?_, fun rest' m hrest => ?_⟩
    · simp only [List.length_cons]
      omega
    · rw [hangText_cons (by decide), hangText_cons (by decide), hangText]
      simp only [List.cons_append, List.append_assoc, measureLine, measureLine_gap hq,
        ih rest' _ hrest, List.length_cons, List.length_append]
      congr 1
      omega
  | case2 c text n hcr ih =>
    have hle := le_measureLine quote text (n + 2)
    rw [h] at hle
    obtain ⟨inner, rest, rfl, hlength, ih⟩ := @ih (k - 2) (by rw [h]; congr 1; omega)
    refine ⟨'\\' :: c :: inner, rest, rfl, ?_, fun rest' m hrest => ?_⟩
    · simp only [List.length_cons]
      omega
    · rw [hangText_cons (by decide), hangText]
      simp only [List.cons_append, List.append_assoc]
      rw [measureLine.eq_2, measureLine_gap hq, ih rest' _ hrest]
      · simp only [List.length_cons, List.length_append]
        congr 1
        omega
      · rintro t rfl ht
        rw [gap_of_ne (by decide), List.nil_append] at ht
        have hsame := sameLine_hangText hline hrest inner
        rw [ht] at hsame
        obtain ⟨u, hu⟩ := hsame.eq_lineFeed (by simp)
        exact hcr u rfl hu
  | case3 n => simp at h
  | case4 text n _ hcons hnil =>
    obtain rfl : k = 0 := by simpa using h
    refine ⟨[], text, rfl, rfl, fun rest' m _ => ?_⟩
    rw [hangText, List.nil_append, measureLine_cons _ hslash, if_pos rfl]
    rfl
  | case5 c text n _ hcons hnil hc hend => simp at h
  | case6 c text n _ hcons hnil hc hend ih =>
    have hle := le_measureLine quote text (n + 1)
    rw [h] at hle
    obtain ⟨inner, rest, rfl, hlength, ih⟩ := @ih (k - 1) (by rw [h]; congr 1; omega)
    refine ⟨c :: inner, rest, rfl, ?_, fun rest' m hrest => ?_⟩
    · simp only [List.length_cons]
      omega
    · have hc' : c ≠ '\n' := by
        rintro rfl
        exact hend rfl
      rw [hangText_cons hc', List.cons_append, measureLine_cons _ (ne_slash hcons hnil), if_neg hc,
        if_neg hend, ih rest' _ hrest, List.length_cons]
      congr 1
      omega
  | case7 n => simp at h

variable {form : StringForm} {inSpec named : Bool}

/-- A character that opens nothing and ends nothing but the string. -/
theorem measureText_plain (hslash : c ≠ '\\') (hopen : c ≠ '{') (hclose : c ≠ '}')
    (z : List Char) (n : Nat) :
    measureText form inSpec named (c :: z) n =
      if !form.triple && (c = '\n' || c = '\r') then (n, true)
      else if c = form.quote && (!form.triple || z.take 2 = [c, c]) then (n, false)
      else measureText form inSpec named z (n + 1) := by
  rw [measureText]
  all_goals
    intros
    contradiction

theorem ne_brace {named : Bool} (h : named = true → c = '}' → False)
    (h' : named = false → c = '}' → False) : c ≠ '}' := by
  cases named with
  | true => exact h rfl
  | false => exact h' rfl

theorem measureText_gap (hq : Scanner.isQuote form.quote = true) (c : Char) (behind z : List Char)
    (n : Nat) :
    measureText form inSpec named (gap c behind ++ z) n =
      measureText form inSpec named z (n + (gap c behind).length) := by
  have hblank := ne_quote hq (c := ' ') (by decide)
  have hone : ∀ z n, measureText form inSpec named (' ' :: z) n =
      measureText form inSpec named z (n + 1) := by
    intro z n
    rw [measureText_plain (by decide) (by decide) (by decide)]
    simp [hblank]
  unfold gap
  split
  · simp [indentation, hone]
  · rfl

theorem le_measureText (form : StringForm) (inSpec named : Bool) (text : List Char) (n : Nat) :
    n ≤ (measureText form inSpec named text n).1 := by
  fun_induction measureText form inSpec named text n with grind

/-- A text that the line goes on behind. -/
theorem spans_hangText (hc : c ≠ '\n') (hc' : c ≠ '\r') (text rest : List Char) :
    Spans t (text ++ c :: rest) text.length (hangText text).length := by
  unfold Spans
  rw [hang_append_cons hc hc', List.drop_left, hang_cons hc, List.append_assoc, List.drop_left]

/-- A text between replacement fields of `k` characters ends at the same place one level deeper. -/
def EndsText (form : StringForm) (inSpec named : Bool) (text : List Char) (k : Nat) : Prop :=
  ∃ inner c rest, text = inner ++ c :: rest ∧ inner.length = k ∧ c ≠ '\n' ∧ c ≠ '\r' ∧
    ∀ rest' n, SameLine rest rest' →
      measureText form inSpec named (hangText inner ++ c :: rest') n =
        (n + (hangText inner).length, false)

theorem hangText_append {front : List Char} (line : '\n' ∉ front) (inner : List Char) :
    hangText (front ++ inner) = front ++ hangText inner := by
  induction front with
  | nil => rfl
  | cons d front ih =>
    obtain ⟨hd, line⟩ := not_or.1 (fun h => line (List.mem_cons.2 h))
    rw [List.cons_append, hangText_cons (Ne.symm hd), ih line, List.cons_append]

namespace EndsText

variable {named' : Bool} {text front : List Char}

theorem stop (hc : c ≠ '\n') (hc' : c ≠ '\r')
    (h : ∀ z n, SameLine text z → measureText form inSpec named (c :: z) n = (n, false)) :
    EndsText form inSpec named (c :: text) 0 :=
  ⟨[], c, text, rfl, rfl, hc, hc', fun rest' n hrest => h rest' n hrest⟩

/-- Characters of the line in front of a text. -/
theorem append (h : EndsText form inSpec named' text k) (front : List Char) (line : '\n' ∉ front)
    (hfront : ∀ z n, SameLine text z → measureText form inSpec named (front ++ z) n =
      measureText form inSpec named' z (n + front.length)) :
    EndsText form inSpec named (front ++ text) (front.length + k) := by
  obtain ⟨inner, c, rest, rfl, rfl, hc, hc', hinner⟩ := h
  refine ⟨front ++ inner, c, rest, by simp, by simp, hc, hc', fun rest' n hrest => ?_⟩
  rw [hangText_append line, List.append_assoc, hfront _ _ (sameLine_hangText hc hrest inner),
    hinner _ _ hrest, List.length_append, Nat.add_assoc]

/-- A line end in front of a text, with characters of its line. -/
theorem appendLine (h : EndsText form inSpec named' text k) (front : List Char)
    (hq : Scanner.isQuote form.quote = true) (line : '\n' ∉ front)
    (hfront : ∀ z n, measureText form inSpec named (front ++ '\n' :: z) n =
      measureText form inSpec named' z (n + front.length + 1)) :
    EndsText form inSpec named (front ++ '\n' :: text) (front.length + 1 + k) := by
  obtain ⟨inner, c, rest, rfl, rfl, hc, hc', hinner⟩ := h
  refine ⟨front ++ '\n' :: inner, c, rest, by simp, ?_, hc, hc', fun rest' n hrest => ?_⟩
  · rw [List.length_append, List.length_cons, Nat.add_assoc, Nat.add_comm 1]
  · rw [hangText_append line, hangText, List.append_assoc, List.cons_append, List.append_assoc,
      hfront, measureText_gap hq, hinner _ _ hrest]
    simp only [List.length_append, List.length_cons]
    congr 1
    omega

theorem ne_nil (h : EndsText form inSpec named text k) : text ≠ [] := by
  obtain ⟨inner, c, rest, rfl, -⟩ := h
  simp

variable {n : Nat}

/-- What is measured from some characters on is measured from behind them. -/
theorem exists_of_measureText {j : Nat}
    (h : measureText form inSpec named text (n + j) = (n + k, false)) : ∃ i, k = j + i := by
  have hle := le_measureText form inSpec named text (n + j)
  rw [h] at hle
  exact ⟨k - j, by omega⟩

/-- One step of measuring that stays in the line. -/
theorem step (front : List Char)
    (h : measureText form inSpec named' text (n + front.length) = (n + k, false))
    (ih : ∀ i, measureText form inSpec named' text (n + front.length) =
      (n + front.length + i, false) → EndsText form inSpec named' text i)
    (line : '\n' ∉ front)
    (hfront : text ≠ [] → ∀ z n, SameLine text z → measureText form inSpec named (front ++ z) n =
      measureText form inSpec named' z (n + front.length)) :
    EndsText form inSpec named (front ++ text) k := by
  obtain ⟨i, rfl⟩ := exists_of_measureText h
  have ends := ih i (by rw [h, Nat.add_assoc])
  exact ends.append front line (hfront ends.ne_nil)

/-- One step of measuring that ends a line. -/
theorem stepLine (front : List Char)
    (h : measureText form inSpec named' text (n + (front.length + 1)) = (n + k, false))
    (ih : ∀ i, measureText form inSpec named' text (n + (front.length + 1)) =
      (n + (front.length + 1) + i, false) → EndsText form inSpec named' text i)
    (hq : Scanner.isQuote form.quote = true) (line : '\n' ∉ front)
    (hfront : ∀ z n, measureText form inSpec named (front ++ '\n' :: z) n =
      measureText form inSpec named' z (n + front.length + 1)) :
    EndsText form inSpec named (front ++ '\n' :: text) k := by
  obtain ⟨i, rfl⟩ := exists_of_measureText h
  exact (ih i (by rw [h]; congr 1; omega)).appendLine front hq line hfront

end EndsText

/-- What ends a text between replacement fields ends it one level deeper. -/
theorem measureText_hang (hq : Scanner.isQuote form.quote = true) {text : List Char}
    (h : measureText form inSpec named text n = (n + k, false)) :
    EndsText form inSpec named text k := by
  have hline := (ne_quote hq (c := '\n') (by decide)).symm
  have hreturn := (ne_quote hq (c := '\r') (by decide)).symm
  fun_induction measureText form inSpec named text n generalizing k with
  | case1 | case8 | case16 => simp at h
  | case2 named text n ih | case3 named text n ih =>
    refine .step ['\\'] h (fun _ => ih) (by decide) fun _ z n hz => ?_
    cases hz with | cons _ hz =>
    rw [List.singleton_append, measureText]
    rfl
  | case4 named text n hraw ih =>
    refine .step ['\\', 'N'] h (fun _ => ih) (by decide) fun _ z n hz => ?_
    cases hz with | cons _ hz =>
    rw [List.cons_append, List.singleton_append, measureText, if_pos hraw]
    rfl
  | case5 named text n hraw ih =>
    refine .step ['\\', 'N', '{'] h (fun _ => ih) (by decide) fun _ z n _ => ?_
    rw [List.cons_append, List.cons_append, List.singleton_append, measureText, if_neg hraw]
    rfl
  | case6 named text n ih =>
    refine .stepLine ['\\', '\r'] h (fun _ => ih) hq (by decide) fun z n => ?_
    rw [List.cons_append, List.singleton_append, measureText]
    rfl
  | case7 named c text n hopen hclose hname hcr ih =>
    by_cases hc : c = '\n'
    · subst hc
      refine .stepLine ['\\'] h (fun _ => ih) hq (by decide) fun z n => ?_
      rw [List.singleton_append, measureText]
      · rfl
      all_goals
        intros
        contradiction
    · refine .step ['\\', c] h (fun _ => ih) (by simp [Ne.symm hc]) fun hnil z n hz => ?_
      rw [List.cons_append, List.singleton_append, measureText]
      · rfl
      · exact hopen
      · exact hclose
      · exact fun t hc => hz.one_ne (by decide) (fun t => hname t hc) t
      · rintro t hc rfl
        obtain ⟨t, rfl⟩ := hz.eq_lineFeed hnil
        exact hcr t hc rfl
  | case9 named text n hspec | case13 text n hspec =>
    obtain rfl : k = 0 := by simpa using h
    refine .stop (by decide) (by decide) fun z n hz => ?_
    cases hz with | cons _ hz =>
    rw [measureText, if_pos hspec]
  | case10 named text n hspec ih =>
    refine .step ['{', '{'] h (fun _ => ih) (by decide) fun _ z n _ => ?_
    rw [List.cons_append, List.singleton_append, measureText, if_neg hspec]
    rfl
  | case11 named text n hother | case15 text n hother =>
    obtain rfl : k = 0 := by simpa using h
    refine .stop (by decide) (by decide) fun z n hz => ?_
    rw [measureText]
    exact hz.one_ne (by decide) hother
  | case12 text n ih =>
    refine .step ['}'] h (fun _ => ih) (by decide) fun _ z n _ => ?_
    rw [List.singleton_append, measureText]
    rfl
  | case14 text n hspec ih =>
    refine .step ['}', '}'] h (fun _ => ih) (by decide) fun _ z n _ => ?_
    rw [List.cons_append, List.singleton_append, measureText, if_neg hspec]
    rfl
  | case17 named c text n _ _ _ _ hslash hslash' _ hopen hclose _ hclose' hend hquote =>
    obtain rfl : k = 0 := by simpa using h
    have hbrace := ne_brace hclose hclose'
    simp only [Bool.and_eq_true, Bool.or_eq_true, decide_eq_true_eq] at hquote
    obtain ⟨rfl, htwo⟩ := hquote
    refine .stop hline hreturn fun z n hz => ?_
    rw [measureText_plain (ne_slash hslash hslash') hopen hbrace, if_neg hend, if_pos]
    simp only [hz.take_two hline hline, Bool.and_eq_true, Bool.or_eq_true, decide_eq_true_eq]
    exact ⟨trivial, htwo⟩
  | case18 named c text n _ _ _ _ hslash hslash' _ hopen hclose _ hclose' hend hquote ih =>
    have hbrace := ne_brace hclose hclose'
    by_cases hc : c = '\n'
    · subst hc
      refine .stepLine [] h (fun _ => ih) hq (by simp) fun z n => ?_
      rw [List.nil_append, measureText_plain (by decide) (by decide) (by decide), if_neg hend,
        if_neg]
      · rfl
      · simp [hline.symm]
    · refine .step [c] h (fun _ => ih) (by simp [Ne.symm hc]) fun _ z n hz => ?_
      rw [List.singleton_append, measureText_plain (ne_slash hslash hslash') hopen hbrace,
        if_neg hend, if_neg]
      · rfl
      · simpa only [hz.take_two hc hc] using hquote

end ScriptBundle
