import ScriptBundle.Proofs.Bundle.Deeper

namespace ScriptBundle

open Text Template Python

variable {t : List Char} {s d : Scanner} {n k m : Nat}

/-- What the scanner goes on with behind blanks. -/
def behindBlanks (s : Scanner) : List Char :=
  s.rest.drop
    (if s.line = .atStart then (measureIndent s.rest {} none 0).2.1 else (measureBlanks s.rest 0).1)

/-! ## Code -/

theorem inCode_of_nil (hstrings : s.strings = []) : InCode s := by
  intro opened outer hs
  rw [hstrings] at hs
  cases hs

theorem idle_hang (z t : List Char) : Scanner.idle (hang z ++ '\n' :: t) = Scanner.idle z := by
  cases z with
  | nil => rfl
  | cons c z =>
    by_cases hc : c = '\n'
    · subst hc
      rfl
    · rw [hang_cons hc]
      rfl

theorem stepCode_idle (hline : s.line = .atStart) {indent : Indentation}
    (hm : measureIndent s.rest {} none 0 = (indent, m, false))
    (hidle : Scanner.idle (s.rest.drop m) = true) : s.stepCode = (s.advance m).stepCharacter := by
  unfold Scanner.stepCode
  rw [if_pos hline, Scanner.stepIndent_idle hm hidle]

theorem stepCode_behind (hline : s.line ≠ .atStart) (hm : measureBlanks s.rest 0 = (m, false)) :
    s.stepCode = (s.advance m).stepCharacter := by
  unfold Scanner.stepCode
  rw [if_neg hline, hm]
  rfl

theorem measureBlanks_code {z : List Char} (code : StartsCode z) (n : Nat) :
    measureBlanks z n = (n, false) := by
  obtain ⟨c, u, rfl, hc⟩ := code
  simp only [List.mem_cons, List.not_mem_nil, or_false, not_or] at hc
  obtain ⟨hspace, htab, hfeed, hslash, -⟩ := hc
  have hblank : ¬(c = ' ' || c = '\t' || c = '\x0c') = true := by simp [hspace, htab, hfeed]
  rw [measureBlanks.eq_5 _ _ _ (fun _ h => absurd h hslash) (fun _ h => absurd h hslash)
    (fun _ h => absurd h hslash) hslash, if_neg hblank]

/-- Behind blanks, the scanners are at the same place of a line. -/
theorem Below.behind (h : Below t s d) (free : s.pending = none)
    (hm : s.line = .afterIndent → m = 0) (hrest : d.rest.drop k = hang (s.rest.drop m) ++ '\n' :: t) :
    Beside t (s.advance m) (d.advance k) :=
  { h with
    sound := {
      tidy := isTidy_drop h.sound.tidy m
      pending := fun hpending => absurd free hpending
      code := fun hline => by
        rw [hm hline]
        exact h.sound.code hline
      quotes := h.sound.quotes }
    rest := hrest
    free := free }

theorem Below.skipBlanks (h : Below t s d) (hm : measureBlanks s.rest 0 = (m, false)) :
    ∃ k, measureBlanks d.rest 0 = (k, false) ∧
      d.rest.drop k = hang (s.rest.drop m) ++ '\n' :: t := by
  obtain ⟨k, hspans, hk⟩ := measureBlanks_hang hm h.sound.tidy t
  cases h.standing with
  | inLine hrest =>
    refine ⟨k, ?_, ?_⟩
    · rw [hrest, hk, Nat.zero_add]
    · rw [hrest, hspans, Nat.sub_zero]
  | atLine hrest =>
    refine ⟨(margin s.rest).length + k, ?_, ?_⟩
    · rw [hrest, measureBlanks_margin, hk, Nat.zero_add]
    · rw [hrest, List.drop_length_add_append, hspans, Nat.sub_zero]

theorem Below.skipIndent (h : Below t s d) {indent : Indentation}
    (hm : measureIndent s.rest {} none 0 = (indent, m, false)) :
    ∃ k, (measureIndent d.rest {} none 0).2 = (k, false) ∧
      d.rest.drop k = hang (s.rest.drop m) ++ '\n' :: t := by
  obtain ⟨k, hspans, hk⟩ := measureIndent_hang hm h.sound.tidy t
  cases h.standing with
  | inLine hrest =>
    refine ⟨k, ?_, ?_⟩
    · rw [hrest, hk, Nat.zero_add]
    · rw [hrest, hspans, Nat.sub_zero]
  | atLine hrest =>
    obtain ⟨j, hj⟩ := measureIndent_margin s.rest (hang s.rest ++ '\n' :: t) {} none 0
    refine ⟨(margin s.rest).length + k, ?_, ?_⟩
    · rw [hrest, hj, hk, Nat.zero_add]
    · rw [hrest, List.drop_length_add_append, hspans, Nat.sub_zero]

/-- The first piece of a line that is empty or holds only a comment. -/
theorem Below.stepIndent_idle (h : Below t s d) (free : s.pending = none) (code : InCode s)
    (hline : s.line = .atStart) {indent : Indentation}
    (hm : measureIndent s.rest {} none 0 = (indent, m, false))
    (hidle : Scanner.idle (s.rest.drop m) = true) (hend : s.rest.drop m ≠ [])
    (hfault : s.stepIndent.1.fault = none) : FoundBelow t s.stepIndent d.stepIndent := by
  obtain ⟨k, hk, hrest⟩ := h.skipIndent hm
  have hafter : s.line ≠ .afterIndent := by
    rw [hline]
    decide
  have hbeside := h.behind free (fun hline => absurd hline hafter) hrest
  rw [Scanner.stepIndent_idle hm hidle] at hfault ⊢
  rw [Scanner.stepIndent_idle (Prod.ext rfl hk) (by rw [hrest, idle_hang, hidle])]
  exact hbeside.stepCharacter h.inside hend (.inl code) hfault

/-- A block that is left is left one level deeper as well. -/
theorem Alongside.leave (h : Alongside s d) {i : Indentation}
    (horder : s.currentIndent.compare? i = some .gt) :
    Alongside { s with indents := s.indents.tail } { d with indents := d.indents.tail } := by
  refine { h with indents := ?_ }
  obtain ⟨front, hfront, hindents⟩ := h.indents
  have hlength := Scanner.tail_indents_lt horder
  dsimp only
  rw [hindents]
  cases hs : s.indents with
  | nil =>
    rw [hs] at hlength
    exact absurd hlength (Nat.lt_irrefl _)
  | cons j outer =>
    rw [hs] at hfront
    cases hfront with
    | cons _ hbehind => exact ⟨_, hbehind, rfl⟩

/-- Enough blocks are closed for a line of an indentation, or more are to be closed. -/
def Reaches (s : Scanner) (indent : Indentation) : Prop :=
  s.currentIndent.compare? indent = some .eq ∨ s.currentIndent.compare? indent = some .gt

theorem Reaches.below {indent deeper : Indentation} (h : Reaches s indent) (hs : Alongside s d)
    (hdeeper : Deeper indent deeper) : Reaches d deeper :=
  h.imp (hs.currentIndent.compare? hdeeper) (hs.currentIndent.compare? hdeeper)

/-- The end of a block, unless the line behind it is in no block that is open. -/
def closeBlock (next : Scanner) (indent : Indentation) (dedent invalid : Lexeme) : Lexeme × Scanner :=
  match next.currentIndent.compare? indent with
  | some .eq | some .gt => (dedent, next)
  | _ => (invalid, next)

theorem closeBlock_spec {indent : Indentation} {dedent invalid : Lexeme}
    (hfault : invalid.fault ≠ none) :
    (Reaches s indent → closeBlock s indent dedent invalid = (dedent, s)) ∧
      (¬Reaches s indent → (closeBlock s indent dedent invalid).1.fault ≠ none) := by
  unfold closeBlock Reaches
  cases s.currentIndent.compare? indent with
  | none => simp [hfault]
  | some order => cases order <;> simp [hfault]

section Lines

variable {indent : Indentation} (hm : measureIndent s.rest {} none 0 = (indent, m, false))
  (hidle : ¬Scanner.idle (s.rest.drop m) = true)
include hm hidle

/-- A line of code that opens a block. -/
theorem stepIndent_opens (horder : s.currentIndent.compare? indent = some .lt) :
    s.stepIndent = (⟨.token .indent, s.pos, s.pos + m, none⟩,
      { s.advance m with line := .afterIndent, indents := indent :: s.indents }) := by
  unfold Scanner.stepIndent
  simp only [hm, Bool.false_eq_true, if_false]
  refine (if_neg hidle).trans ?_
  rw [horder]
  rfl

/-- A line of code that closes a block. -/
theorem stepIndent_closes (horder : s.currentIndent.compare? indent = some .gt) {next : Scanner}
    (hnext : next = { s.advance m with
      line := .afterIndent, indents := s.indents.tail, pending := some indent }) :
    (Reaches next indent → s.stepIndent = (⟨.token .dedent, next.pos, next.pos, none⟩, next)) ∧
      (¬Reaches next indent → s.stepIndent.1.fault ≠ none) := by
  have hstep : s.stepIndent = closeBlock next indent ⟨.token .dedent, next.pos, next.pos, none⟩
      ⟨.token .invalid, s.pos, next.pos, some s.pos⟩ := by
    subst hnext
    unfold Scanner.stepIndent
    simp only [hm, Bool.false_eq_true, if_false]
    refine (if_neg hidle).trans ?_
    rw [horder]
    rfl
  rw [hstep]
  exact closeBlock_spec (by simp)

end Lines

/-- In front of the code of a line, the blanks that the line has one level deeper are still to
come. -/
theorem Below.atLine (h : Below t s d) (hline : s.line = .atStart) {indent : Indentation}
    (hm : measureIndent s.rest {} none 0 = (indent, m, false))
    (hidle : ¬Scanner.idle (s.rest.drop m) = true) :
    d.rest = margin s.rest ++ (hang s.rest ++ '\n' :: t) ∧ startsTidily s.rest = true := by
  cases h.standing with
  | atLine hrest htidy => exact ⟨hrest, htidy⟩
  | inLine _ hends =>
    exfalso
    apply hidle
    cases hs : s.rest with
    | nil => exact congrArg Scanner.idle List.drop_nil
    | cons c u =>
      rw [hs] at hm
      obtain rfl | rfl := hends hline c u hs
      · cases hm
        rfl
      · cases hm
        rfl

/-- The first piece of a line of code. -/
theorem Below.stepIndent_code (h : Below t s d) (free : s.pending = none)
    (hstrings : s.strings = []) {indent : Indentation}
    (hm : measureIndent s.rest {} none 0 = (indent, m, false))
    (hidle : ¬Scanner.idle (s.rest.drop m) = true) (hline : s.line = .atStart)
    (hfault : s.stepIndent.1.fault = none) : FoundBelow t s.stepIndent d.stepIndent := by
  obtain ⟨hrest, htidy⟩ := h.atLine hline hm hidle
  obtain ⟨deeper, hdeeper, hcode, hlength, hk⟩ := measureIndent_deeper hm htidy hidle t
  rw [← hrest] at hk
  have hdrop : d.rest.drop ((margin s.rest).length + m) = hang (s.rest.drop m) ++ '\n' :: t := by
    rw [hrest, List.drop_length_add_append]
    exact Spans.of_le t hlength
  have hidle' : ¬Scanner.idle (d.rest.drop ((margin s.rest).length + m)) = true := by
    rw [hdrop, idle_hang]
    exact hidle
  have hbeside : Beside t { s.advance m with line := .afterIndent }
      { d.advance ((margin s.rest).length + m) with line := .afterIndent } := { h with
    line := rfl
    sound := {
      tidy := isTidy_drop h.sound.tidy m
      pending := fun hpending => absurd free hpending
      code := fun _ => hcode
      quotes := h.sound.quotes }
    rest := hdrop
    free := free }
  have hinside : s.strings ≠ [] → LinePlace.afterIndent = .inside := fun h => absurd hstrings h
  cases horder : s.currentIndent.compare? indent with
  | none =>
    obtain ⟨other, hstep, hother⟩ := Scanner.stepIndent_eq hm
    rw [horder] at hother
    rw [hstep, if_neg hidle] at hfault
    exact absurd hfault hother
  | some order =>
    have horder' := h.currentIndent.compare? hdeeper horder
    cases order with
    | eq =>
      rw [Scanner.stepIndent_code hm hidle horder] at hfault ⊢
      rw [Scanner.stepIndent_code hk hidle' horder']
      apply hbeside.stepCharacter hinside _ (.inl (inCode_of_nil hstrings)) hfault
      obtain ⟨c, u, hc, -⟩ := hcode
      simp [Scanner.advance, hc]
    | lt =>
      rw [stepIndent_opens hm hidle horder, stepIndent_opens hk hidle' horder']
      refine ⟨rfl, rfl, { hbeside with
        indents := ?_
        sound := { hbeside.sound with }
        inside := hinside
        standing := .within hdrop (by simp) }⟩
      obtain ⟨front, hfront, hindents⟩ := h.indents
      exact ⟨deeper :: front, .cons hdeeper hfront, congrArg (deeper :: ·) hindents⟩
    | gt =>
      have hleave := hbeside.leave (i := indent) horder
      have hcloses := stepIndent_closes hm hidle horder rfl
      by_cases hreaches : Reaches
        { s.advance m with line := .afterIndent, indents := s.indents.tail, pending := some indent }
        indent
      · rw [hcloses.1 hreaches,
          (stepIndent_closes hk hidle' horder' rfl).1 (hreaches.below { hleave with
            pending := .some hdeeper } hdeeper)]
        exact ⟨rfl, rfl, { hleave with
          pending := .some hdeeper
          sound := { hbeside.sound with
            pending := fun _ => ⟨rfl, hstrings⟩ }
          inside := hinside
          standing := .within hdrop (by simp) }⟩
      · exact absurd hfault (hcloses.2 hreaches)

/-- No string is open at the start of a line. -/
theorem Below.strings_eq_nil (h : Below t s d) (hline : s.line ≠ .inside) : s.strings = [] := by
  by_contra hstrings
  exact hline (h.inside hstrings)

/-- The next piece of code. -/
theorem Below.stepCode (h : Below t s d) (free : s.pending = none)
    (code : InCode s ∨ StartsCode s.rest) (hend : behindBlanks s ≠ [])
    (hfault : s.stepCode.1.fault = none) : FoundBelow t s.stepCode d.stepCode := by
  obtain ⟨hline, hstep, indent, m, hm⟩ | ⟨hline, m, hm, hstep⟩ := Scanner.stepCode_cases hfault
  · have hstrings := h.strings_eq_nil (by simp [hline])
    have hstep' : d.stepCode = d.stepIndent := if_pos (h.line.trans hline)
    rw [behindBlanks, if_pos hline, hm] at hend
    rw [hstep] at hfault ⊢
    rw [hstep']
    by_cases hidle : Scanner.idle (s.rest.drop m) = true
    · exact h.stepIndent_idle free (inCode_of_nil hstrings) hline hm hidle hend hfault
    · exact h.stepIndent_code free hstrings hm hidle hline hfault
  · obtain ⟨k, hk, hrest⟩ := h.skipBlanks hm
    have hzero : StartsCode s.rest → m = 0 := by
      intro hcode
      rw [measureBlanks_code hcode] at hm
      cases hm
      rfl
    have hbeside := h.behind free (fun hline => hzero (h.sound.code hline)) hrest
    rw [behindBlanks, if_neg hline, hm] at hend
    rw [hstep] at hfault ⊢
    rw [stepCode_behind (by rwa [h.line]) hk]
    apply hbeside.stepCharacter h.inside hend _ hfault
    refine code.imp id fun hcode => ?_
    rw [hzero hcode]
    exact hcode

/-! ## Texts of open strings -/

/-- Where no text is left and no quotes follow, a brace follows. -/
theorem startsCode_of_measureText {form : StringForm} {inSpec : Bool} {text : List Char}
    (h : measureText form inSpec false text 0 = (0, false))
    (hquotes : text.take (if form.triple then 3 else 1) ≠
      List.replicate (if form.triple then 3 else 1) form.quote) : StartsCode text := by
  have hmore : ∀ {named text n}, measureText form inSpec named text (n + 1) ≠ (0, false) := by
    intro named text n heq
    have hle := le_measureText form inSpec named text (n + 1)
    rw [heq] at hle
    exact Nat.not_succ_le_zero n hle
  cases text with
  | nil => cases h
  | cons c u =>
    by_cases hopen : c = '{'
    · exact ⟨c, u, rfl, by simp [hopen]⟩
    by_cases hclose : c = '}'
    · exact ⟨c, u, rfl, by simp [hclose]⟩
    exfalso
    by_cases hslash : c = '\\'
    · subst hslash
      unfold measureText at h
      split at h
      case h_4 => split at h <;> exact hmore h
      case h_13 hslash hslash' _ _ heq _ _ _ =>
        exact ne_slash hslash hslash' (List.cons.inj heq).1.symm
      all_goals first
        | exact hmore h
        | simp_all
    · rw [measureText_plain hslash hopen hclose] at h
      split at h
      · cases h
      · split at h
        · rename_i hquote
          simp only [Bool.and_eq_true, decide_eq_true_eq] at hquote
          obtain ⟨rfl, htwo⟩ := hquote
          cases htriple : form.triple <;> simp_all [List.replicate]
        · exact hmore h

section OpenStrings

variable {opened : OpenString} {outer : List OpenString} (h : Below t s d)
  (hs : s.strings = opened :: outer)
include h hs

theorem Below.free : s.pending = none := by
  by_contra hpending
  rw [(h.sound.pending hpending).2] at hs
  cases hs

/-- The text of a string goes on one level deeper. -/
theorem Below.inText {n k : Nat} (hrest : d.rest.drop k = hang (s.rest.drop n) ++ '\n' :: t)
    {strings : List OpenString} (hstrings : strings <:+ s.strings) :
    Below t { s.advance n with strings } { d.advance k with strings } := by
  have hline : s.line = .inside := h.inside (by simp [hs])
  exact { h with
    strings := rfl
    sound := {
      tidy := isTidy_drop h.sound.tidy n
      pending := fun hpending => absurd (h.free hs) hpending
      code := fun hafter => by
        rw [show s.line = .afterIndent from hafter] at hline
        cases hline
      quotes := fun o ho => h.sound.quotes o (hstrings.subset ho) }
    inside := fun _ => hline
    standing := .within hrest (by simp [Scanner.advance, hline]) }

/-- Text up to a replacement field or the end of its string is measured with its blanks. -/
theorem Below.skipText (hrest : d.rest = hang s.rest ++ '\n' :: t) {inSpec : Bool}
    (hm : measureText opened.form inSpec false s.rest 0 = (n, false)) :
    ∃ k, measureText opened.form inSpec false d.rest 0 = (k, false) ∧
      d.rest.drop k = hang (s.rest.drop n) ++ '\n' :: t ∧
      d.rest.take k = hangText (s.rest.take n) ∧ (k = 0 ↔ n = 0) := by
  have hq := h.sound.quotes opened (by simp [hs])
  obtain ⟨inner, c, behind, hinner, rfl, hc, hc', hmeasure⟩ :=
    measureText_hang hq (hm.trans (by rw [Nat.zero_add]))
  have hrest' : d.rest = hangText inner ++ c :: (hang behind ++ '\n' :: t) := by
    rw [hrest, hinner, hang_append_cons hc hc', List.append_assoc, List.cons_append]
  refine ⟨(hangText inner).length, ?_, ?_, ?_, ?_⟩
  · rw [hrest', hmeasure _ _ (sameLine_hang behind t), Nat.zero_add]
  · rw [hrest, hinner]
    exact spans_hangText hc hc' inner behind
  · rw [hrest', hinner, List.take_left, List.take_left]
  · cases inner <;> simp [hangText]

/-- The quotes that end a string end it one level deeper. -/
theorem Below.skipQuotes (hrest : d.rest = hang s.rest ++ '\n' :: t) (n : Nat) :
    (d.rest.take n = List.replicate n opened.form.quote ↔
      s.rest.take n = List.replicate n opened.form.quote) ∧
    (s.rest.take n = List.replicate n opened.form.quote →
      d.rest.drop n = hang (s.rest.drop n) ++ '\n' :: t) := by
  have hq := h.sound.quotes opened (by simp [hs])
  have hline : '\n' ∉ List.replicate n opened.form.quote := fun hline =>
    ne_quote hq (c := '\n') (by decide) (List.eq_of_mem_replicate hline)
  constructor
  · have htake := (sameLine_hang s.rest t).take_eq _ hline
    rwa [← hrest, List.length_replicate] at htake
  · intro hquotes
    have hlength : n ≤ lineLength s.rest := by
      rw [← List.take_append_drop n s.rest, hquotes, lineLength_append hline, List.length_replicate]
      exact Nat.le_add_right _ _
    rw [hrest]
    exact Spans.of_le t hlength

/-- The next piece of a string's text. Where there is none, a replacement field follows. -/
theorem Below.stepText (hcode : ¬opened.inCode s.nesting = true)
    (hfault : ∀ p ∈ s.stepText opened, p.1.fault = none) :
    Option.Rel (FoundBelow t) (s.stepText opened) (d.stepText opened) ∧
      (s.stepText opened = none → StartsCode s.rest) := by
  have hrest : d.rest = hang s.rest ++ '\n' :: t := by
    cases h.standing with
    | inLine hrest => exact hrest
    | atLine _ _ code => exact absurd (code opened outer hs) hcode
  obtain ⟨closing, hclosing⟩ : ∃ n, n = if opened.form.triple then 3 else 1 := ⟨_, rfl⟩
  obtain ⟨hquotes, hdrop⟩ := h.skipQuotes hs hrest closing
  unfold Scanner.stepText at hfault ⊢
  dsimp only at hfault ⊢
  rw [h.nesting, h.strings]
  rw [← hclosing] at hfault ⊢
  by_cases hend : s.rest.take closing = List.replicate closing opened.form.quote
  · rw [if_pos hend, if_pos (hquotes.2 hend)]
    have hnext := h.inText hs (hdrop hend) (List.tail_suffix s.strings)
    exact ⟨.some ⟨rfl, rfl, { hnext with }⟩, by simp⟩
  rw [if_neg hend] at hfault ⊢
  rw [if_neg (hquotes.not.2 hend)]
  obtain ⟨n, hm⟩ : ∃ n, measureText opened.form (opened.inSpec s.nesting) false s.rest 0 =
      (n, false) := by
    cases hm : measureText opened.form (opened.inSpec s.nesting) false s.rest 0 with
    | mk n cut =>
      cases cut with
      | true => simp [hm] at hfault
      | false => exact ⟨n, rfl⟩
  obtain ⟨k, hk, hbehind, htext, hzero⟩ := h.skipText hs hrest hm
  rw [hm, hk]
  dsimp only
  rw [if_neg Bool.false_ne_true, if_neg Bool.false_ne_true]
  by_cases hn : n = 0
  · rw [if_pos hn, if_pos (hzero.2 hn)]
    subst hn
    exact ⟨.none, fun _ => startsCode_of_measureText hm (hclosing ▸ hend)⟩
  · rw [if_neg hn, if_neg (hzero.not.2 hn)]
    have hnext := h.inText hs hbehind (List.suffix_refl s.strings)
    nth_rewrite 2 [← h.strings] at hnext
    refine ⟨.some ⟨rfl, ?_, hnext⟩, by simp⟩
    rw [htext]
    rfl

end OpenStrings

/-! ## Steps -/

theorem behindBlanks_ne_nil (hline : s.line ≠ .atStart) (code : StartsCode s.rest) :
    behindBlanks s ≠ [] := by
  rw [behindBlanks, if_neg hline, measureBlanks_code code]
  obtain ⟨c, u, hs, -⟩ := code
  simp [hs]

section Pending

variable {target : Indentation} (hstrings : s.strings = []) (hpending : s.pending = some target)
include hstrings hpending

/-- Behind the blocks that a line closes, its code goes on. -/
theorem step_resumes {order : Ordering} (horder : s.currentIndent.compare? target = some order)
    (hgt : order ≠ .gt) : s.step = { s with pending := none }.stepCode := by
  obtain ⟨rest, pos, nesting, line, indents, pending, strings⟩ := s
  subst hstrings hpending
  unfold Scanner.step
  simp only [horder]

theorem step_apart (horder : s.currentIndent.compare? target = none) : s.step.1.fault ≠ none := by
  obtain ⟨rest, pos, nesting, line, indents, pending, strings⟩ := s
  subst hstrings hpending
  unfold Scanner.step
  simp [horder]

/-- A line closes one more block. -/
theorem step_closes (horder : s.currentIndent.compare? target = some .gt) {next : Scanner}
    (hnext : next = { s with indents := s.indents.tail }) :
    (Reaches next target → s.step = (⟨.token .dedent, s.pos, s.pos, none⟩, next)) ∧
      (¬Reaches next target → s.step.1.fault ≠ none) := by
  have hstep : s.step = closeBlock next target ⟨.token .dedent, s.pos, s.pos, none⟩
      ⟨.token .invalid, s.pos, s.pos, some s.pos⟩ := by
    subst hnext
    obtain ⟨rest, pos, nesting, line, indents, pending, strings⟩ := s
    subst hstrings hpending
    unfold Scanner.step
    simp only [horder]
    rfl
  rw [hstep]
  exact closeBlock_spec (by simp)

end Pending

theorem Standing.congr {s' d' : Scanner} (h : Standing t s d) (hs : s'.rest = s.rest)
    (hd : d'.rest = d.rest) (hline : s'.line = s.line) (hnesting : s'.nesting = s.nesting)
    (hstrings : s'.strings = s.strings) : Standing t s' d' := by
  cases h with
  | inLine hrest ends =>
    apply Standing.inLine
    · rw [hd, hs, hrest]
    · rwa [hline, hs]
  | atLine hrest tidy code =>
    apply Standing.atLine
    · rw [hd, hs, hrest]
    · rwa [hs]
    · rwa [InCode, hstrings, hnesting]

/-- A step that closes blocks or goes on with code behind them. -/
theorem Below.stepPending (h : Below t s d) (hstrings : s.strings = []) {target deeper : Indentation}
    (hs : s.pending = some target) (hd : d.pending = some deeper) (hdeeper : Deeper target deeper)
    (hfault : s.step.1.fault = none) : FoundBelow t s.step d.step := by
  have hstrings' := h.strings.trans hstrings
  have hline : s.line = .afterIndent := (h.sound.pending (by simp [hs])).1
  have hcode := h.sound.code hline
  have resumes : ∀ order, s.currentIndent.compare? target = some order → order ≠ .gt →
      FoundBelow t s.step d.step := by
    intro order horder hgt
    have hgoes : Below t { s with pending := none } { d with pending := none } := { h with
      pending := .none
      sound := { h.sound with pending := fun hpending => absurd rfl hpending }
      standing := h.standing.congr rfl rfl rfl rfl rfl }
    rw [step_resumes hstrings hs horder hgt] at hfault ⊢
    rw [step_resumes hstrings' hd (h.currentIndent.compare? hdeeper horder) hgt]
    exact hgoes.stepCode rfl (.inl (inCode_of_nil hstrings))
      (behindBlanks_ne_nil (by simp [hline]) hcode) hfault
  cases horder : s.currentIndent.compare? target with
  | none => exact absurd hfault (step_apart hstrings hs horder)
  | some order =>
    cases order with
    | lt => exact resumes .lt horder (by decide)
    | eq => exact resumes .eq horder (by decide)
    | gt =>
      have hleave := h.leave horder
      have hcloses := step_closes hstrings hs horder rfl
      by_cases hreaches : Reaches { s with indents := s.indents.tail } target
      · rw [hcloses.1 hreaches, (step_closes hstrings' hd
          (h.currentIndent.compare? hdeeper horder) rfl).1 (hreaches.below hleave hdeeper)]
        exact ⟨rfl, rfl, { hleave with
          sound := { h.sound with }
          inside := h.inside
          standing := h.standing.congr rfl rfl rfl rfl rfl }⟩
      · exact absurd hfault (hcloses.2 hreaches)

/-- **A step one level deeper** finds the same, up to the end of the text. -/
theorem Below.step (h : Below t s d) (hend : InCode s → behindBlanks s ≠ [])
    (hfault : s.step.1.fault = none) : FoundBelow t s.step d.step := by
  cases hs : s.strings with
  | nil =>
    have hcode := inCode_of_nil hs
    cases hpending : s.pending with
    | none =>
      rw [Scanner.step_eq_stepCode hs hpending] at hfault ⊢
      rw [Scanner.step_eq_stepCode (h.strings.trans hs) (h.pending_eq_none hpending)]
      exact h.stepCode hpending (.inl hcode) (hend hcode) hfault
    | some target =>
      have hrel := h.pending
      rw [hpending] at hrel
      generalize hd : d.pending = pending at hrel
      cases hrel with
      | some hdeeper => exact h.stepPending hs hpending hd hdeeper hfault
  | cons opened outer =>
    have free := h.free hs
    unfold Scanner.step at hfault ⊢
    rw [hs] at hfault
    rw [h.strings, hs]
    dsimp only at hfault ⊢
    rw [h.nesting]
    by_cases hcode : opened.inCode s.nesting = true
    · have hcode' : InCode s := by
        intro o rest ho
        cases hs.symm.trans ho
        exact hcode
      rw [if_pos hcode] at hfault ⊢
      rw [if_pos hcode]
      exact h.stepCode free (.inl hcode') (hend hcode') hfault
    · rw [if_neg hcode] at hfault ⊢
      rw [if_neg hcode]
      obtain ⟨hrel, hbrace⟩ := h.stepText hs hcode fun p hp => by
        rw [Option.mem_def.1 hp] at hfault
        exact hfault
      generalize hq : d.stepText opened = q at hrel
      generalize hp : s.stepText opened = p at hrel hbrace hfault
      cases hrel with
      | some hfound => exact hfound
      | none =>
        have hline : s.line = .inside := h.inside (by simp [hs])
        exact h.stepCode free (.inr (hbrace rfl))
          (behindBlanks_ne_nil (by simp [hline]) (hbrace rfl)) hfault

end ScriptBundle
