import ScriptBundle.Proofs.Token.Local

namespace ScriptBundle.Python
open ScriptBundle.Text

theorem symbol?_le {text : List Char} {mark : Symbol} {length : Nat}
    (h : symbol? text = some (mark, length)) : length ≤ text.length := by
  unfold symbol? at h
  split at h <;> cases h <;> simp

namespace Scanner
variable {s : Scanner} {n : Nat}

/-- A calm piece without a fault lies in the text. -/
def InText (s : Scanner) (p : Lexeme × Scanner) : Prop :=
  p.1.fault = none → p.1.piece.isCalm = true → p.2.pos ≤ s.pos + s.rest.length

theorem InText.behind {p : Lexeme × Scanner} (hn : n ≤ s.rest.length)
    (h : (s.advance n).InText p) : s.InText p := by
  intro hfault hcalm
  have hle := h hfault hcalm
  simp only [advance, List.length_drop] at hle
  omega

theorem inText_accept {kind : Kind} (hn : n ≤ s.rest.length) : s.InText (s.accept n kind) :=
  fun _ _ => Nat.add_le_add_left hn s.pos

theorem inText_stepEnd : s.InText s.stepEnd := by
  have hle : s.pos ≤ s.pos + s.rest.length := Nat.le_add_right _ _
  unfold stepEnd
  split
  · exact fun _ _ => hle
  · split
    · exact fun _ _ => hle
    · split <;> exact fun _ _ => hle

theorem inText_stepLineEnd (hn : n ≤ s.rest.length) : s.InText (s.stepLineEnd n) := by
  have hle := Nat.add_le_add_left hn s.pos
  unfold stepLineEnd
  split
  · exact fun _ _ => hle
  · intro _ _
    rw [mapString_pos]
    exact hle

theorem inText_stepString (letters : Nat) (form : StringForm) (quote : Char) :
    s.InText (s.stepString letters form quote) := by
  intro hfault hcalm
  have hflavour := flavour_of_isCalm hcalm
  obtain ⟨length, htriple, hmeasure⟩ | ⟨length, htriple, hmeasure⟩ :=
    stepString_closed hflavour hfault
  · have hlength := (measureLines_looksAt hmeasure).2.2
    rw [stepString_triple hflavour htriple hmeasure] at hfault hcalm ⊢
    refine inText_accept ?_ hfault hcalm
    rw [List.length_drop] at hlength
    omega
  · have hlast := (measureLine_looksAt hmeasure).2.2
    obtain ⟨hlength, -⟩ := List.getElem?_eq_some_iff.1 hlast
    rw [stepString_single hflavour htriple hmeasure] at hfault hcalm ⊢
    refine inText_accept ?_ hfault hcalm
    rw [List.length_drop] at hlength
    omega

theorem inText_stepWord {c : Char} {t : List Char} (start : isIdentifierStart c = true)
    (hrest : s.rest = c :: t) : s.InText (s.stepWord c start t) := by
  have hletters : (letters c t).length ≤ s.rest.length := by
    rw [hrest, letters, List.length_cons, List.length_cons]
    exact Nat.succ_le_succ ((List.takeWhile_sublist _).length_le)
  unfold stepWord
  dsimp only
  split
  · split <;> exact inText_accept hletters
  · exact inText_accept hletters

theorem inText_stepIdentifier {c : Char} {t : List Char} (start : isIdentifierStart c = true)
    (hrest : s.rest = c :: t) : s.InText (s.stepIdentifier c start t) := by
  obtain hword | ⟨form, d, t', rfl, hd, hform⟩ | ⟨form, d, quote, t', rfl, hd, hquote, hform⟩ :=
    stepIdentifier_cases (s := s) c start t
  · rw [hword]
    exact inText_stepWord start hrest
  · rw [stepIdentifier_one hd hform]
    exact inText_stepString _ _ _
  · rw [stepIdentifier_two hd hquote hform]
    exact inText_stepString _ _ _

theorem inText_stepSymbol : s.InText s.stepSymbol := by
  unfold stepSymbol
  cases hsymbol : symbol? s.rest with
  | none => exact fun h => nomatch h
  | some found =>
    obtain ⟨mark, length⟩ := found
    have hle := symbol?_le hsymbol
    have hpos := symbol?_pos hsymbol
    have hone : 1 ≤ s.rest.length := by omega
    cases mark with
    | lpar => exact inText_accept (s := { s with nesting := s.nesting + 1 }) hone
    | rpar => exact inText_accept (s := { s with nesting := s.nesting - 1 }) hone
    | dot | ellipsis | comma | star | semi => exact inText_accept hle
    | rbrace | colon | colonEqual =>
      dsimp only
      split
      · split <;> exact fun _ h => nomatch h
      · exact fun _ h => nomatch h
    | _ => exact fun _ h => nomatch h

theorem inText_stepNumber : s.InText s.stepNumber := by
  unfold stepNumber
  split
  · exact fun _ h => nomatch h
  · exact fun h => nomatch h

theorem inText_stepCharacter : s.InText s.stepCharacter := by
  unfold stepCharacter
  split
  · exact inText_stepEnd
  · rename_i c t hrest
    have hone : 1 ≤ s.rest.length := by simp [hrest]
    split
    · exact inText_stepIdentifier _ hrest
    · split
      · exact inText_stepNumber
      · split
        · intro _ _
          have hle := (List.takeWhile_sublist (l := t) fun c => c ≠ '\n' && c ≠ '\r').length_le
          simp only [advance, hrest, List.length_cons, measureWhile_eq]
          omega
        · split
          · exact inText_stepString _ _ _
          · split
            · exact inText_stepNumber
            · split
              · exact inText_stepLineEnd hone
              · split
                · refine inText_stepLineEnd ?_
                  split
                  · rename_i hline
                    obtain ⟨t', rfl⟩ := List.head?_eq_some_iff.1 hline
                    simp [hrest]
                  · exact hone
                · exact inText_stepSymbol

/-- **No calm piece** goes on behind the end of the text. -/
theorem inText_step (hstrings : s.strings = []) (hpending : s.pending = none) :
    s.InText s.step := by
  intro hfault hcalm
  rw [step_eq_stepCode hstrings hpending] at hfault hcalm ⊢
  have hindent : s.stepCode.1.piece ≠ .token .indent := by
    intro h
    rw [h] at hcalm
    cases hcalm
  have hdedent : s.stepCode.1.piece ≠ .token .dedent := by
    intro h
    rw [h] at hcalm
    cases hcalm
  obtain ⟨m, u, henters⟩ := stepCode_enters hfault hindent hdedent
  rw [henters.here] at hfault hcalm ⊢
  have hle := inText_stepCharacter hfault hcalm
  have hm := henters.le
  rw [henters.pos, henters.rest, List.length_drop] at hle
  omega

end Scanner

namespace Scan

variable {a b : Scan} {l : List Token}

/-- A run over calm tokens ends in the text. -/
theorem Runs.pos_le_length (h : Runs a l b) (ha : a.Plain)
    (hcalm : ∀ t ∈ l, t.kind.isCalm = true) :
    b.scanner.pos ≤ a.scanner.pos + a.scanner.rest.length := by
  induction h with
  | refl => exact Nat.le_add_right _ _
  | @step a b c found later first rest ih =>
    have hfound : ∀ t ∈ found, t.kind.isCalm = true := fun t ht =>
      hcalm t (List.mem_append_left _ (Option.mem_toList.2 ht))
    obtain ⟨_, hkeeps, -⟩ := next?_keeps first ha hfound
    have hb : b.Plain := ⟨hkeeps.strings.trans ha.strings, hkeeps.pending.trans ha.pending⟩
    have hle := ih hb fun t ht => hcalm t (List.mem_append_right _ ht)
    obtain ⟨lexeme, hstep, hfault, htoken, hnone⟩ := step_of_next? first
    have hpiece : lexeme.piece.isCalm = true := by
      cases found with
      | none => rcases hnone rfl with h | h <;> rw [h] <;> rfl
      | some t =>
        rw [htoken t rfl]
        exact hfound t rfl
    have hin := Scanner.inText_step ha.strings ha.pending
    rw [hstep] at hin
    have hhere : b.scanner.pos ≤ a.scanner.pos + a.scanner.rest.length := hin hfault hpiece
    have hmoved := next?_moved first
    have hpos := hmoved.pos
    rw [hmoved.rest, List.length_drop] at hle
    omega

end Scan

end ScriptBundle.Python
