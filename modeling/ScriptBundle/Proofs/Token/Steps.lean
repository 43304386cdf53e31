import ScriptBundle.Python.Token.Scan

namespace ScriptBundle.Python

open ScriptBundle.Text

def Kind.isWord : Kind → Bool
  | .name _ | .keyword _ => true
  | _ => false

/-- The step that may be left to end a line. -/
def LinePlace.work : LinePlace → Nat
  | .inside => 1
  | .atStart | .afterIndent => 0

namespace Scanner

/-- Bounds the steps that are left: each takes a character, closes a block or ends the last line. A
character may open a block and starts a line, so it counts three times. -/
def work (s : Scanner) : Nat :=
  3 * s.rest.length + s.indents.length + s.line.work

/-- A piece is found in a text that starts at a place, and the scanner goes on behind it with less
work than before. Words are not empty. -/
structure MovesFrom (place : Nat) (text : List Char) (bound : Nat) (l : Lexeme) (next : Scanner) :
    Prop where
  start : place ≤ l.start
  stop : l.start ≤ l.stop
  pos : next.pos = l.stop
  rest : next.rest = text.drop (l.stop - place)
  work : l.piece ≠ .token .endOfFile → next.work < bound
  word : ∀ kind, l.piece = .token kind → kind.isWord = true → l.start < l.stop

/-- A step moves on unless it finds a fault. -/
def Moves (s : Scanner) (p : Lexeme × Scanner) : Prop :=
  p.1.fault = none → MovesFrom s.pos s.rest s.work p.1 p.2

variable {s : Scanner} {n : Nat}

theorem moves_reject {fault : Nat} : s.Moves (s.reject n fault) := fun h => nomatch h

theorem work_advance_le : (s.advance n).work ≤ s.work := by
  have : (s.rest.drop n).length ≤ s.rest.length := by simp
  simp only [work, advance]
  omega

/-- A scanner that differs in what a step leaves alone moves on as well. -/
theorem Moves.of {s' : Scanner} {p : Lexeme × Scanner} (h : s'.Moves p) (hpos : s'.pos = s.pos)
    (hrest : s'.rest = s.rest) (hwork : s'.work ≤ s.work) : s.Moves p := by
  intro hfault
  obtain ⟨hstart, hstop, hnext, hdrop, hless, hword⟩ := h hfault
  rw [hpos] at hstart hdrop
  rw [hrest] at hdrop
  exact ⟨hstart, hstop, hnext, hdrop, fun hfile => Nat.lt_of_lt_of_le (hless hfile) hwork, hword⟩

theorem length_drop_lt (hrest : s.rest ≠ []) (hn : 0 < n) :
    (s.rest.drop n).length < s.rest.length := by
  have := List.length_pos_iff.2 hrest
  rw [List.length_drop]
  omega

/-- What moves on behind some characters moves on. -/
theorem Moves.behind {p : Lexeme × Scanner} (h : (s.advance n).Moves p) : s.Moves p := by
  intro hfault
  obtain ⟨hstart, hstop, hpos, hrest, hwork, hword⟩ := h hfault
  simp only [advance] at hstart hrest
  refine ⟨by omega, hstop, hpos, ?_, fun hfile => ?_, hword⟩
  · rw [hrest, List.drop_drop]
    congr 1
    omega
  · exact Nat.lt_of_lt_of_le (hwork hfile) work_advance_le

theorem moves_accept (hrest : s.rest ≠ []) (hn : 0 < n) (kind : Kind) :
    s.Moves (s.accept n kind) := by
  have hlength := length_drop_lt hrest hn
  refine fun _ => ⟨Nat.le_refl _, Nat.le_add_right _ _, rfl, ?_, fun _ => ?_, fun _ _ _ => ?_⟩
  · simp [accept, advance]
  · simp only [work, accept, advance, LinePlace.work]
    omega
  · simp only [accept]
    omega

theorem moves_stepEnd : s.Moves s.stepEnd := by
  unfold stepEnd
  split
  · exact fun h => nomatch h
  · split
    · rename_i hline
      refine fun _ => ⟨Nat.le_refl _, Nat.le_refl _, rfl, by simp, fun _ => ?_, ?_⟩
      · simp [work, hline, LinePlace.work]
      · rintro kind ⟨⟩ hword
        cases hword
    · split
      · rename_i indents
        refine fun _ => ⟨Nat.le_refl _, Nat.le_refl _, rfl, by simp, fun _ => ?_, ?_⟩
        · simp [work, indents]
        · rintro kind ⟨⟩ hword
          cases hword
      · refine fun _ => ⟨Nat.le_refl _, Nat.le_refl _, rfl, by simp, fun h => absurd rfl h, ?_⟩
        rintro kind ⟨⟩ hword
        cases hword

@[simp]
theorem mapString_pos (f : OpenString → OpenString) : (s.mapString f).pos = s.pos := by
  unfold mapString
  split <;> rfl

@[simp]
theorem mapString_rest (f : OpenString → OpenString) : (s.mapString f).rest = s.rest := by
  unfold mapString
  split <;> rfl

@[simp]
theorem mapString_work (f : OpenString → OpenString) : (s.mapString f).work = s.work := by
  unfold mapString
  split <;> rfl

theorem moves_stepLineEnd (hrest : s.rest ≠ []) (hn : 0 < n) : s.Moves (s.stepLineEnd n) := by
  have hlength := length_drop_lt hrest hn
  unfold stepLineEnd
  split
  · refine fun _ => ⟨Nat.le_refl _, Nat.le_add_right _ _, rfl, by simp [advance], fun _ => ?_, ?_⟩
    · simp only [work, advance, LinePlace.work]
      omega
    · rintro kind ⟨⟩ hword
      cases hword
  · refine fun _ => ⟨Nat.le_refl _, Nat.le_add_right _ _, by simp [advance], by simp [advance],
      fun _ => ?_, fun _ h => nomatch h⟩
    rw [mapString_work]
    simp only [work, advance]
    omega

theorem moves_stepString (hrest : s.rest ≠ []) (letters : Nat) (form : StringForm) (quote : Char) :
    s.Moves (s.stepString letters form quote) := by
  have hopening : 0 < letters + if (s.rest.drop (letters + 1)).take 2 = [quote, quote] then 3 else 1 := by
    split <;> omega
  unfold stepString
  extract_lets text triple form opening body
  split
  · intro hfault
    have haccept := moves_accept hrest hopening (.replacementStart form) hfault
    exact ⟨haccept.start, haccept.stop, haccept.pos, haccept.rest, haccept.work, haccept.word⟩
  · split
    rename_i length closed _
    extract_lets closing
    have hpositive : 0 < opening + length + closing :=
      Nat.lt_of_lt_of_le hopening (by simp only [opening, triple, text]; omega)
    have haccept := moves_accept hrest hpositive (.string form (body.take length)) rfl
    intro hfault
    exact ⟨haccept.start, haccept.stop, haccept.pos, haccept.rest, haccept.work, haccept.word⟩

theorem moves_stepWord (hrest : s.rest ≠ []) (c : Char) (start : isIdentifierStart c = true)
    (t : List Char) : s.Moves (s.stepWord c start t) := by
  unfold stepWord
  dsimp only
  split
  · split
    · exact moves_accept hrest (by simp [letters]) _
    · exact moves_accept hrest (by simp [letters]) _
  · exact moves_accept hrest (by simp [letters]) _

theorem moves_stepIdentifier (hrest : s.rest ≠ []) (c : Char) (start : isIdentifierStart c = true)
    (t : List Char) : s.Moves (s.stepIdentifier c start t) := by
  have hword := moves_stepWord hrest c start t
  unfold stepIdentifier
  split
  · split
    · split
      · exact moves_stepString hrest _ _ _
      · exact hword
    · split
      · split
        · split
          · exact moves_stepString hrest _ _ _
          · exact hword
        · exact hword
      · exact hword
  · exact hword

theorem symbol?_pos {text : List Char} {mark : Symbol} {length : Nat}
    (h : symbol? text = some (mark, length)) : 0 < length := by
  unfold symbol? at h
  split at h <;> cases h <;> decide

theorem moves_stepSymbol (hrest : s.rest ≠ []) : s.Moves s.stepSymbol := by
  unfold stepSymbol
  cases hsymbol : symbol? s.rest with
  | none => exact moves_reject
  | some found =>
    obtain ⟨mark, length⟩ := found
    have hlength := symbol?_pos hsymbol
    cases mark with
    | lpar | lsqb | lbrace =>
      exact moves_accept (s := { s with nesting := s.nesting + 1 }) hrest Nat.one_pos _
    | rpar | rsqb =>
      exact moves_accept (s := { s with nesting := s.nesting - 1 }) hrest Nat.one_pos _
    | rbrace =>
      dsimp only
      split
      · split
        · exact moves_reject
        · refine Moves.of (moves_accept ?_ Nat.one_pos _) (mapString_pos _) (mapString_rest _) ?_
          · exact fun h => hrest ((mapString_rest _).symm.trans h)
          · exact Nat.le_of_eq (mapString_work _)
      · exact moves_accept (s := { s with nesting := s.nesting - 1 }) hrest Nat.one_pos _
    | colon | colonEqual =>
      dsimp only
      split
      · split
        · refine Moves.of (moves_accept ?_ Nat.one_pos _) (mapString_pos _) (mapString_rest _) ?_
          · exact fun h => hrest ((mapString_rest _).symm.trans h)
          · exact Nat.le_of_eq (mapString_work _)
        · exact moves_accept hrest hlength _
      · exact moves_accept hrest hlength _
    | _ => exact moves_accept hrest hlength _

/-! ## Lengths -/

theorem le_measureWhile (p : Char → Bool) (text : List Char) (n : Nat) :
    n ≤ measureWhile p text n := by
  induction text generalizing n with
  | nil => exact Nat.le_refl n
  | cons c t ih =>
    rw [measureWhile]
    split
    · exact Nat.le_trans (Nat.le_succ n) (ih (n + 1))
    · exact Nat.le_refl n

theorem le_measureDigits (p : Char → Bool) (text : List Char) (n : Nat) :
    n ≤ measureDigits p text n := by
  fun_induction measureDigits p text n with grind

theorem measureDigits_pos {c : Char} (h : c.isDigit = true) (t : List Char) :
    0 < measureDigits Char.isDigit (c :: t) 0 := by
  have hscore : c ≠ '_' := by
    rintro rfl
    exact absurd h (by decide)
  have := le_measureDigits Char.isDigit t 1
  unfold measureDigits
  split
  · rename_i heq
    exact absurd (List.cons.inj heq).1 hscore
  · rename_i heq
    obtain ⟨rfl, rfl⟩ := List.cons.inj heq
    rw [if_pos h]
    exact this
  · rename_i heq
    cases heq

def StartsNumber : List Char → Prop
  | c :: t => c.isDigit = true ∨ c = '.' ∧ (t.head?.map Char.isDigit).getD false = true
  | [] => False

theorem decimalShape_pos {text : List Char} (h : StartsNumber text) {length : Nat}
    {form : NumberForm} (hshape : decimalShape text = .good length form) : 0 < length := by
  unfold decimalShape at hshape
  extract_lets whole behind at hshape
  split at hshape
  rename_i fraction broken hfraction
  have hpositive : broken = false → 0 < whole + fraction := by
    cases text with
    | nil => exact h.elim
    | cons c t =>
      obtain hdigit | ⟨rfl, hdigit⟩ := h
      · have := measureDigits_pos hdigit t
        exact fun _ => Nat.add_pos_left this fraction
      · have hwhole : whole = 0 := rfl
        have hbehind : behind = '.' :: t := by simp only [behind, hwhole, List.drop_zero]
        rw [hbehind] at hfraction
        rintro rfl
        split at hfraction
        · cases hfraction
        · rename_i heq
          cases hfraction
          exact Nat.add_pos_right _ (le_measureDigits _ _ 1)
        · rename_i hnone
          exact (hnone t rfl).elim
  split at hshape
  · cases hshape
  · rename_i hbroken
    have := hpositive (Bool.eq_false_iff.2 hbroken)
    extract_lets exponent total at hshape
    have htotal : total = whole + fraction + exponent := rfl
    split at hshape
    · simp only [NumberShape.good.injEq] at hshape
      omega
    · simp only [NumberShape.good.injEq] at hshape
      omega
    · split at hshape
      · simp only [NumberShape.good.injEq] at hshape
        omega
      · split at hshape
        · cases hshape
        · simp only [NumberShape.good.injEq] at hshape
          omega

theorem numberShape_pos {text : List Char} (h : StartsNumber text) {length : Nat}
    {form : NumberForm} (hshape : numberShape text = .good length form) : 0 < length := by
  have hradix : ∀ {isDigit : Char → Bool} {digits : List Char},
      radixShape isDigit digits = .good length form → 0 < length := by
    intro isDigit digits hradix
    unfold radixShape at hradix
    split at hradix
    · cases hradix
    · cases hradix
      omega
  unfold numberShape at hshape
  split at hshape
  · exact hradix hshape
  · exact hradix hshape
  · exact hradix hshape
  · exact hradix hshape
  · exact hradix hshape
  · exact hradix hshape
  · exact decimalShape_pos h hshape

theorem moves_stepNumber (h : StartsNumber s.rest) : s.Moves s.stepNumber := by
  have hrest : s.rest ≠ [] := by
    intro hnil
    rw [hnil] at h
    exact h
  unfold stepNumber
  split
  · rename_i hshape
    exact moves_accept hrest (numberShape_pos h hshape) _
  · exact fun hfault => nomatch hfault

theorem moves_stepCharacter : s.Moves s.stepCharacter := by
  unfold stepCharacter
  split
  · exact moves_stepEnd
  · rename_i c t heq
    have hrest : s.rest ≠ [] := by simp [heq]
    split
    · exact moves_stepIdentifier hrest _ _ _
    · split
      · exact moves_stepNumber (heq ▸ .inl ‹_›)
      · split
        · have hlength := le_measureWhile (fun c => c ≠ '\n' && c ≠ '\r') t 1
          have hdrop := length_drop_lt (n := measureWhile _ t 1) hrest hlength
          refine fun _ => ⟨Nat.le_refl _, Nat.le_add_right _ _, rfl, ?_, fun _ => ?_, ?_⟩
          · simp [advance]
          · simp only [work, advance]
            omega
          · intro _ h
            cases h
        · split
          · exact moves_stepString hrest _ _ _
          · split
            · rename_i hpoint
              simp only [Bool.and_eq_true, decide_eq_true_eq] at hpoint
              exact moves_stepNumber (heq ▸ .inr hpoint)
            · split
              · exact moves_stepLineEnd hrest Nat.one_pos
              · split
                · exact moves_stepLineEnd hrest (by split <;> decide)
                · exact moves_stepSymbol hrest

theorem le_measureIndent (text : List Char) (i : Indentation) (first : Option Indentation)
    (n : Nat) : n ≤ (measureIndent text i first n).2.1 := by
  fun_induction measureIndent text i first n with grind

/-- A line without blanks at its start has no indentation. -/
theorem measureIndent_zero {text : List Char} {indent : Indentation} {stray : Bool}
    (h : measureIndent text {} none 0 = (indent, 0, stray)) : indent = {} := by
  have hone : ∀ {text i first n}, measureIndent text i first (n + 1) ≠ (indent, 0, stray) := by
    intro text i first n heq
    have hle := le_measureIndent text i first (n + 1)
    rw [heq] at hle
    exact Nat.not_succ_le_zero n hle
  unfold measureIndent at h
  split at h
  all_goals first
    | exact absurd h hone
    | (cases h; rfl)

theorem compare?_empty_ne_gt (i : Indentation) : Indentation.compare? {} i ≠ some .gt := by
  obtain ⟨column, length⟩ := i
  unfold Indentation.compare?
  extract_lets byColumn
  split
  · exact fun h => Nat.not_lt_zero column (Nat.compare_eq_gt.1 (Option.some.inj h))
  · exact fun h => nomatch h

theorem compare?_ne_lt_empty (i : Indentation) : i.compare? {} ≠ some .lt := by
  obtain ⟨column, length⟩ := i
  unfold Indentation.compare?
  extract_lets byColumn
  split
  · exact fun h => Nat.not_lt_zero column (Nat.compare_eq_lt.1 (Option.some.inj h))
  · exact fun h => nomatch h

/-- A block can only be left where one is open. -/
theorem tail_indents_lt {i : Indentation} (h : s.currentIndent.compare? i = some .gt) :
    s.indents.tail.length < s.indents.length := by
  unfold currentIndent at h
  cases hindents : s.indents with
  | nil =>
    rw [hindents] at h
    exact absurd h (compare?_empty_ne_gt i)
  | cons => simp

theorem moves_stepIndent (hline : s.line = .atStart) : s.Moves s.stepIndent := by
  unfold stepIndent
  split
  rename_i indent length stray hmeasure
  split
  · exact moves_reject
  · extract_lets next idle next' last
    split
    · exact moves_stepCharacter.behind
    · rename_i hidle
      have hsource : s.rest ≠ [] := by
        intro hnil
        refine hidle ?_
        simp only [idle, next, advance, hnil, List.drop_nil]
      split
      · have hnext : next.Moves next'.stepCharacter :=
          moves_stepCharacter.of rfl rfl (Nat.add_le_add_left (Nat.zero_le _) _)
        exact hnext.behind
      · rename_i hcompare
        have hlength : 0 < length := by
          refine Nat.pos_of_ne_zero fun hzero => ?_
          rw [hzero] at hmeasure
          rw [measureIndent_zero hmeasure] at hcompare
          exact compare?_ne_lt_empty _ hcompare
        have hdrop := length_drop_lt (s := s) (n := length) hsource hlength
        refine fun _ => ⟨Nat.le_refl _, Nat.le_add_right _ _, rfl, ?_, fun _ => ?_, ?_⟩
        · simp only [next', next, advance, Nat.add_sub_cancel_left]
        · simp only [work, next', next, advance, hline, LinePlace.work, List.length_cons]
          omega
        · rintro kind ⟨⟩ hword
          cases hword
      · rename_i hcompare
        have htail := tail_indents_lt hcompare
        split
        · refine fun _ => ⟨Nat.le_add_right _ _, Nat.le_refl _, rfl, ?_, fun _ => ?_, ?_⟩
          · simp only [last, next', next, advance, Nat.add_sub_cancel_left]
          · have hdrop : (s.rest.drop length).length ≤ s.rest.length := by simp
            simp only [work, last, next', next, advance, hline, LinePlace.work]
            omega
          · rintro kind ⟨⟩ hword
            cases hword
        · refine fun _ => ⟨Nat.le_add_right _ _, Nat.le_refl _, rfl, ?_, fun _ => ?_, ?_⟩
          · simp only [last, next', next, advance, Nat.add_sub_cancel_left]
          · have hdrop : (s.rest.drop length).length ≤ s.rest.length := by simp
            simp only [work, last, next', next, advance, hline, LinePlace.work]
            omega
          · rintro kind ⟨⟩ hword
            cases hword
        · exact fun hfault => nomatch hfault
      · exact fun hfault => nomatch hfault

theorem moves_stepCode : s.Moves s.stepCode := by
  unfold stepCode
  split
  · exact moves_stepIndent ‹_›
  · dsimp only
    split
    · exact moves_reject
    · exact moves_stepCharacter.behind

theorem moves_stepText {opened : OpenString} {p : Lexeme × Scanner}
    (h : s.stepText opened = some p) : s.Moves p := by
  unfold stepText at h
  extract_lets form closing inSpec at h
  have hclosing : 0 < closing := by
    simp only [closing]
    split <;> decide
  split at h
  · rename_i hquotes
    have hrest : s.rest ≠ [] := by
      intro hnil
      rw [hnil, List.take_nil] at hquotes
      have := congrArg List.length hquotes
      simp only [List.length_nil, List.length_replicate] at this
      omega
    have hdrop := length_drop_lt hrest hclosing
    cases h
    refine fun _ => ⟨Nat.le_refl _, Nat.le_add_right _ _, rfl, ?_, fun _ => ?_, fun _ _ _ => ?_⟩
    · simp only [advance, Nat.add_sub_cancel_left]
    · simp only [work, advance]
      omega
    · exact Nat.lt_add_of_pos_right hclosing
  · split at h
    rename_i length cut hmeasure
    split at h
    · cases h
      exact fun hfault => nomatch hfault
    · rename_i hcut
      split at h
      · cases h
      · rename_i hlength
        have hrest : s.rest ≠ [] := by
          intro hnil
          rw [hnil, measureText] at hmeasure
          cases hmeasure
          exact hcut rfl
        have hdrop := length_drop_lt hrest (Nat.pos_of_ne_zero hlength)
        cases h
        refine fun _ => ⟨Nat.le_refl _, Nat.le_add_right _ _, rfl, ?_, fun _ => ?_, ?_⟩
        · simp only [advance, Nat.add_sub_cancel_left]
        · simp only [work, advance]
          omega
        · rintro kind ⟨⟩ hword
          cases hword

/-- **A step moves on**: unless it finds a fault, its piece is behind the place where it started, the
scanner goes on behind the piece, and less work is left. -/
theorem step_moves (s : Scanner) : s.Moves s.step := by
  unfold step
  split
  · split
    · exact moves_stepCode
    · cases htext : s.stepText _ with
      | none => exact moves_stepCode
      | some p => exact moves_stepText htext
  · split
    · exact moves_stepCode
    · split
      · rename_i hcompare
        have htail := tail_indents_lt hcompare
        extract_lets next
        split
        · refine fun _ => ⟨Nat.le_refl _, Nat.le_refl _, rfl, ?_, fun _ => ?_, ?_⟩
          · simp [next]
          · simp only [work, next]
            omega
          · rintro kind ⟨⟩ hword
            cases hword
        · refine fun _ => ⟨Nat.le_refl _, Nat.le_refl _, rfl, ?_, fun _ => ?_, ?_⟩
          · simp [next]
          · simp only [work, next]
            omega
          · rintro kind ⟨⟩ hword
            cases hword
        · exact fun hfault => nomatch hfault
      · exact moves_stepCode.of rfl rfl (Nat.le_refl _)
      · exact fun hfault => nomatch hfault

end Scanner

end ScriptBundle.Python
