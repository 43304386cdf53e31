import ScriptBundle.Proofs.Bundle.Hanging

namespace ScriptBundle

open Text Template Python

/-- A kind one level deeper: strings hold the blanks in front of their lines. -/
def hangKind : Kind → Kind
  | .string form text => .string form (hangText text)
  | .replacementText form text inSpec => .replacementText form (hangText text) inSpec
  | kind => kind

/-- A piece one level deeper. -/
def hangPiece : Piece → Piece
  | .token kind => .token (hangKind kind)
  | .comment => .comment
  | .lineEnd => .lineEnd

/-- The scanner goes on with code, not with the text of a string. -/
def InCode (s : Scanner) : Prop :=
  ∀ opened outer, s.strings = opened :: outer → opened.inCode s.nesting = true

/-- What holds of a scanner in a tidy text between its steps. -/
structure Sound (s : Scanner) : Prop where
  tidy : isTidy s.rest = true
  pending : s.pending ≠ none → s.line = .afterIndent ∧ s.strings = []
  code : s.line = .afterIndent → StartsCode s.rest
  quotes : ∀ opened ∈ s.strings, Scanner.isQuote opened.form.quote = true

/-- A scanner in the same situation one level deeper, but for the place. -/
structure Alongside (s d : Scanner) : Prop where
  nesting : d.nesting = s.nesting
  line : d.line = s.line
  strings : d.strings = s.strings
  indents : ∃ front, List.Forall₂ Deeper s.indents front ∧ d.indents = front ++ [⟨4, 4⟩]
  pending : Option.Rel Deeper s.pending d.pending

/-- A scanner at the same place of a line one level deeper, with `'\n' :: t` behind the text. -/
structure Beside (t : List Char) (s d : Scanner) : Prop extends Alongside s d where
  sound : Sound s
  rest : d.rest = hang s.rest ++ '\n' :: t
  free : s.pending = none

/-- Where a scanner stands one level deeper: at the same place of a line, or at the start of the
line that the other one has got to, with the blanks in front of it still to come. -/
inductive Standing (t : List Char) (s d : Scanner) : Prop
  | inLine (rest : d.rest = hang s.rest ++ '\n' :: t)
    (ends : s.line = .atStart → ∀ c u, s.rest = c :: u → c = '\n' ∨ c = '\r')
  | atLine (rest : d.rest = margin s.rest ++ (hang s.rest ++ '\n' :: t))
    (tidy : startsTidily s.rest = true) (code : InCode s)

/-- A scanner is one level deeper where another one is. -/
structure Below (t : List Char) (s d : Scanner) : Prop extends Alongside s d where
  sound : Sound s
  inside : s.strings ≠ [] → s.line = .inside
  standing : Standing t s d

/-- The results of two steps: the one below finds the same, one level deeper. -/
structure FoundBelow (t : List Char) (p q : Lexeme × Scanner) : Prop where
  fault : q.1.fault = none
  piece : q.1.piece = hangPiece p.1.piece
  next : Below t p.2 q.2

variable {t : List Char} {s d : Scanner} {n k : Nat}

theorem Standing.within (rest : d.rest = hang s.rest ++ '\n' :: t) (line : s.line ≠ .atStart) :
    Standing t s d :=
  .inLine rest fun hline => absurd hline line

theorem Alongside.currentIndent (h : Alongside s d) :
    Deeper s.currentIndent d.currentIndent := by
  obtain ⟨front, hfront, hindents⟩ := h.indents
  unfold Scanner.currentIndent
  rw [hindents]
  cases hs : s.indents with
  | nil =>
    rw [hs] at hfront
    cases hfront
    exact .blanks 0
  | cons i outer =>
    rw [hs] at hfront
    cases hfront with | cons hi => exact hi

theorem Alongside.pending_eq_none (h : Alongside s d) (hs : s.pending = none) :
    d.pending = none := by
  have hpending := h.pending
  rw [hs] at hpending
  generalize d.pending = pending at hpending
  cases hpending
  rfl

namespace Beside

theorem sameLine (h : Beside t s d) : SameLine s.rest d.rest := by
  rw [h.rest]
  exact sameLine_hang s.rest t

theorem withNesting (h : Beside t s d) (nesting : Nat) :
    Beside t { s with nesting } { d with nesting } :=
  { h with nesting := rfl, sound := { h.sound with } }

theorem withStrings (h : Beside t s d) (strings : List OpenString)
    (quotes : ∀ opened ∈ strings, Scanner.isQuote opened.form.quote = true) :
    Beside t { s with strings } { d with strings } :=
  { h with
    strings := rfl
    sound := { h.sound with
      pending := fun hpending => absurd h.free hpending
      quotes } }

theorem mapString (h : Beside t s d) {f : OpenString → OpenString}
    (hform : ∀ opened, (f opened).form = opened.form) :
    Beside t (s.mapString f) (d.mapString f) := by
  unfold Scanner.mapString
  cases hs : s.strings with
  | nil =>
    rw [h.strings, hs]
    exact h
  | cons opened outer =>
    rw [h.strings, hs]
    apply h.withStrings
    intro o ho
    obtain rfl | ho := List.mem_cons.1 ho
    · rw [hform]
      exact h.sound.quotes opened (by simp [hs])
    · exact h.sound.quotes o (by simp [hs, ho])

/-- A token, which may be longer one level deeper. -/
theorem accept_spans (h : Beside t s d) (spans : Spans t s.rest n k) (kind : Kind) :
    FoundBelow t (s.accept n kind) (d.accept k (hangKind kind)) where
  fault := rfl
  piece := rfl
  next := {
    nesting := h.nesting
    line := rfl
    strings := h.strings
    indents := h.indents
    pending := h.pending
    sound := {
      tidy := isTidy_drop h.sound.tidy n
      pending := fun hpending => absurd h.free hpending
      code := by simp [Scanner.accept]
      quotes := h.sound.quotes }
    inside := fun _ => rfl
    standing := by
      apply Standing.within
      · simp only [Scanner.accept, Scanner.advance, h.rest]
        exact spans
      · simp [Scanner.accept] }

/-- A token on one line that is no text. -/
theorem accept (h : Beside t s d) (hn : n ≤ lineLength s.rest) (kind : Kind)
    (hkind : hangKind kind = kind) : FoundBelow t (s.accept n kind) (d.accept n kind) := by
  have haccept := h.accept_spans (Spans.of_le t hn) kind
  rwa [hkind] at haccept

end Beside

/-! ## Words and numbers -/

theorem ne_lineFeed_of_start {c : Char} (start : isIdentifierStart c = true) : c ≠ '\n' := by
  rintro rfl
  exact absurd start (by decide)

theorem stepWord_eq {c : Char} (start : isIdentifierStart c = true) (u : List Char) :
    ∃ kind, hangKind kind = kind ∧
      ∀ s : Scanner, s.stepWord c start u = s.accept (Scanner.letters c u).length kind := by
  unfold Scanner.stepWord
  dsimp only
  split
  · split
    · exact ⟨_, rfl, fun _ => rfl⟩
    · exact ⟨_, rfl, fun _ => rfl⟩
  · exact ⟨_, rfl, fun _ => rfl⟩

theorem Beside.stepWord (h : Beside t s d) {c : Char} (start : isIdentifierStart c = true)
    {u u' : List Char} (hs : s.rest = c :: u) (hu : SameLine u u') :
    FoundBelow t (s.stepWord c start u) (d.stepWord c start u') := by
  have hcontinue : isIdentifierContinue '\n' = false := by decide
  have hletters : Scanner.letters c u' = Scanner.letters c u := by
    rw [Scanner.letters, Scanner.letters, hu.takeWhile_eq hcontinue]
  have hword : d.stepWord c start u' = d.stepWord c start u := by
    unfold Scanner.stepWord
    simp only [hletters]
  obtain ⟨kind, hkind, hstep⟩ := stepWord_eq start u
  rw [hword, hstep, hstep]
  apply h.accept _ kind hkind
  rw [hs, lineLength_cons (ne_lineFeed_of_start start), Scanner.letters, List.length_cons]
  exact Nat.succ_le_succ (length_takeWhile_le_lineLength u hcontinue)

theorem Beside.stepNumber (h : Beside t s d) (hfault : s.stepNumber.1.fault = none) :
    FoundBelow t s.stepNumber d.stepNumber := by
  unfold Scanner.stepNumber at hfault ⊢
  rw [numberShape_sameLine h.sameLine]
  cases hshape : numberShape s.rest with
  | good length form =>
    have hlength := le_lineLength_of_numberShape h.sameLine hshape
    dsimp only
    rw [h.sameLine.take hlength]
    exact h.accept hlength _ rfl
  | bad length fault =>
    rw [hshape] at hfault
    cases hfault

/-! ## Strings -/

section Strings

variable {form : StringForm} {front behind : List Char} {quote : Char}

/-- A text between what opens it and the quotes that close it. -/
theorem spans_string (hq : Scanner.isQuote quote = true) (line : '\n' ∉ front) (b : Nat)
    (inner rest : List Char) :
    Spans t (front ++ (inner ++ quote :: (List.replicate b quote ++ rest)))
      (front.length + inner.length + (b + 1)) (front.length + (hangText inner).length + (b + 1)) := by
  have hline := (ne_quote hq (c := '\n') (by decide)).symm
  have hreturn := (ne_quote hq (c := '\r') (by decide)).symm
  have htext := spans_hangText (t := t) hline hreturn (front ++ inner)
    (List.replicate b quote ++ rest)
  rw [List.append_assoc, hangText_append line, List.length_append, List.length_append] at htext
  apply htext.trans
  rw [← List.append_assoc, ← List.length_append, List.drop_left]
  apply Spans.of_le
  rw [lineLength_cons hline, lineLength_append, List.length_replicate]
  · omega
  · exact fun h => hline (List.eq_of_mem_replicate h).symm

theorem drop_front (front : List Char) (quote : Char) (z : List Char) :
    (front ++ quote :: z).drop (front.length + 1) = z := by
  rw [← List.drop_drop, List.drop_left]
  rfl

/-- A string on one line, which may be continued. -/
theorem Beside.stepString_single (h : Beside t s d) (hq : Scanner.isQuote quote = true)
    (line : '\n' ∉ front) (hs : s.rest = front ++ quote :: behind)
    (hflavour : ¬(form.flavour = .formatted || form.flavour = .template) = true)
    (htriple : behind.take 2 ≠ [quote, quote])
    (hmeasure : measureLine quote behind 0 = (n, true)) :
    FoundBelow t (s.stepString front.length form quote) (d.stepString front.length form quote) := by
  have hline := (ne_quote hq (c := '\n') (by decide)).symm
  obtain ⟨inner, rest, rfl, rfl, hinner⟩ := measureLine_hang hq
    (hmeasure.trans (by rw [Nat.zero_add]))
  have hd : d.rest = front ++ quote :: (hangText inner ++ quote :: (hang rest ++ '\n' :: t)) := by
    rw [h.rest, hs, hang_front line, hang_cons hline, hang_append hq]
    simp
  have hsame := sameLine_hangText hline (sameLine_hang rest t) inner
  have hfound := hinner (hang rest ++ '\n' :: t) 0 (sameLine_hang rest t)
  rw [Nat.zero_add] at hfound
  have hopen : '\n' ∉ front ++ [quote] := by simp [line, hline.symm]
  have hspans := spans_string (t := t) hq hopen 0 inner rest
  rw [List.append_assoc, List.length_append, List.length_singleton] at hspans
  have hstep := h.accept_spans (hs ▸ hspans) (.string { form with quote, triple := false } inner)
  have hmeasured : measureLine quote (d.rest.drop (front.length + 1)) 0 =
      ((hangText inner).length, true) := by
    rw [hd, drop_front, hfound]
  rw [Scanner.stepString_single (s := s) hflavour (by rwa [hs, drop_front])
      (by rwa [hs, drop_front]),
    Scanner.stepString_single (s := d) hflavour
      (by rwa [hd, drop_front, ne_eq, hsame.take_two hline hline]) hmeasured]
  simpa [hs, hd, drop_front, hangKind] using hstep

/-- A string in three quotes. -/
theorem Beside.stepString_triple (h : Beside t s d) (hq : Scanner.isQuote quote = true)
    (line : '\n' ∉ front) (hs : s.rest = front ++ quote :: quote :: quote :: behind)
    (hflavour : ¬(form.flavour = .formatted || form.flavour = .template) = true)
    (hmeasure : measureLines quote behind 0 = (n, true)) :
    FoundBelow t (s.stepString front.length form quote) (d.stepString front.length form quote) := by
  have hline := (ne_quote hq (c := '\n') (by decide)).symm
  obtain ⟨inner, rest, rfl, rfl, hinner⟩ := measureLines_hang hq
    (hmeasure.trans (by rw [Nat.zero_add]))
  have hd : d.rest = front ++ quote :: quote :: quote ::
      (hangText inner ++ quote :: quote :: quote :: (hang rest ++ '\n' :: t)) := by
    rw [h.rest, hs, hang_front line, hang_cons hline, hang_cons hline, hang_cons hline,
      hang_append hq, hang_cons hline, hang_cons hline]
    simp
  have hdrop : ∀ z : List Char,
      (front ++ quote :: quote :: quote :: z).drop (front.length + 3) = z := by
    intro z
    rw [← List.drop_drop, List.drop_left]
    rfl
  have hfound := hinner (hang rest ++ '\n' :: t) 0
  rw [Nat.zero_add] at hfound
  have hopen : '\n' ∉ front ++ [quote, quote, quote] := by simp [line, hline.symm]
  have hspans := spans_string (t := t) hq hopen 2 inner rest
  rw [List.append_assoc, List.length_append] at hspans
  have hstep := h.accept_spans (hs ▸ hspans) (.string { form with quote, triple := true } inner)
  have hmeasured : measureLines quote (d.rest.drop (front.length + 3)) 0 =
      ((hangText inner).length, true) := by
    rw [hd, hdrop, hfound]
  rw [Scanner.stepString_triple (s := s) hflavour (by rw [hs, drop_front]; rfl)
      (by rwa [hs, hdrop]),
    Scanner.stepString_triple (s := d) hflavour (by rw [hd, drop_front]; rfl) hmeasured]
  simpa [hs, hd, hdrop, hangKind] using hstep

/-- The start of a string with replacement fields. -/
theorem Beside.stepString_open (h : Beside t s d) (hq : Scanner.isQuote quote = true)
    (line : '\n' ∉ front) (hs : s.rest = front ++ quote :: behind)
    (hflavour : (form.flavour = .formatted || form.flavour = .template) = true) :
    FoundBelow t (s.stepString front.length form quote) (d.stepString front.length form quote) := by
  have hline := (ne_quote hq (c := '\n') (by decide)).symm
  have hd : d.rest = front ++ quote :: (hang behind ++ '\n' :: t) := by
    rw [h.rest, hs, hang_front line, hang_cons hline]
    simp
  have htriple := (sameLine_hang behind t).take_two hline hline
  have hlength : front.length + (if behind.take 2 = [quote, quote] then 3 else 1) ≤
      lineLength s.rest := by
    rw [hs, lineLength_append line, lineLength_cons hline]
    split
    · rename_i htwo
      match behind, htwo with
      | _ :: _ :: rest, htwo =>
        obtain ⟨rfl, rfl⟩ : _ = quote ∧ _ = quote := by simpa using htwo
        rw [lineLength_cons hline, lineLength_cons hline]
        omega
    · omega
  have hopened := h.withStrings
    (⟨{ form with quote, triple := decide (behind.take 2 = [quote, quote]) }, s.nesting, 0⟩ ::
      s.strings) (by
      intro opened hopened
      obtain rfl | hopened := List.mem_cons.1 hopened
      · exact hq
      · exact h.sound.quotes opened hopened)
  have hstep := hopened.accept hlength
    (.replacementStart { form with quote, triple := decide (behind.take 2 = [quote, quote]) })
    rfl
  unfold Scanner.stepString
  simp only [hs, hd, drop_front, htriple, hflavour, if_true, h.nesting]
  simp only [Scanner.accept, Scanner.advance, hs, hd, h.strings] at hstep ⊢
  exact hstep

/-- A string. -/
theorem Beside.stepString (h : Beside t s d) (front : List Char)
    (hq : Scanner.isQuote quote = true) (line : '\n' ∉ front) (hs : s.rest = front ++ quote :: behind)
    (hfault : (s.stepString front.length form quote).1.fault = none) :
    FoundBelow t (s.stepString front.length form quote) (d.stepString front.length form quote) := by
  by_cases hflavour : (form.flavour = .formatted || form.flavour = .template) = true
  · exact h.stepString_open hq line hs hflavour
  · obtain ⟨n, htriple, hmeasure⟩ | ⟨n, htriple, hmeasure⟩ :=
      Scanner.stepString_closed hflavour hfault
    · rw [hs, drop_front] at htriple
      match behind, htriple with
      | _ :: _ :: behind, htriple =>
        obtain ⟨rfl, rfl⟩ : _ = quote ∧ _ = quote := by simpa using htriple
        apply h.stepString_triple hq line hs hflavour
        rw [hs, ← List.drop_drop, List.drop_left] at hmeasure
        exact hmeasure
    · rw [hs, drop_front] at htriple hmeasure
      exact h.stepString_single hq line hs hflavour htriple hmeasure

end Strings

/-! ## Identifiers -/

theorem stringForm?_lineFeed (c : Char) : stringForm? [c, '\n'] = none := by
  have hraw : isRawLetter '\n' = false := by decide
  have hflavour : flavour? '\n' = none := by decide
  simp [stringForm?, hraw, hflavour]

theorem Beside.stepIdentifier (h : Beside t s d) {c : Char} (start : isIdentifierStart c = true)
    {u u' : List Char} (hs : s.rest = c :: u) (hu : SameLine u u')
    (hfault : (s.stepIdentifier c start u).1.fault = none) :
    FoundBelow t (s.stepIdentifier c start u) (d.stepIdentifier c start u') := by
  have hc := (ne_lineFeed_of_start start).symm
  have hquote : ∀ {q : Char}, Scanner.isQuote q = true → q ≠ '\n' := fun hq =>
    (ne_quote hq (by decide)).symm
  -- The letters open a string in one text when they do so in the other.
  have one : ∀ {form q v v'}, u = q :: v → u' = q :: v' → Scanner.isQuote q = true →
      stringForm? [c] = some form →
      FoundBelow t (s.stepIdentifier c start u) (d.stepIdentifier c start u') := by
    rintro form q v v' rfl rfl hq hform
    rw [Scanner.stepIdentifier_one hq hform] at hfault ⊢
    rw [Scanner.stepIdentifier_one hq hform]
    exact h.stepString [c] hq (by simpa using hc) hs hfault
  have two : ∀ {form e q v v'}, u = e :: q :: v → u' = e :: q :: v' → ¬Scanner.isQuote e = true →
      Scanner.isQuote q = true → stringForm? [c, e] = some form →
      FoundBelow t (s.stepIdentifier c start u) (d.stepIdentifier c start u') := by
    rintro form e q v v' rfl rfl he hq hform
    have hline : '\n' ≠ e := by
      rintro rfl
      rw [stringForm?_lineFeed] at hform
      cases hform
    rw [Scanner.stepIdentifier_two he hq hform] at hfault ⊢
    rw [Scanner.stepIdentifier_two he hq hform]
    exact h.stepString [c, e] hq (by simp [hc, hline]) hs hfault
  obtain hword | ⟨form, q, v, rfl, hq, hform⟩ | ⟨form, e, q, v, rfl, he, hq, hform⟩ :=
    Scanner.stepIdentifier_cases (s := s) c start u
  · obtain hword' | ⟨form, q, v, rfl, hq, hform⟩ | ⟨form, e, q, v, rfl, he, hq, hform⟩ :=
      Scanner.stepIdentifier_cases (s := d) c start u'
    · rw [hword, hword']
      exact h.stepWord start hs hu
    · cases hu with
      | stop | lineFeed => exact absurd rfl (hquote hq)
      | cons => exact one rfl rfl hq hform
    · cases hu with
      | stop | lineFeed =>
        rw [stringForm?_lineFeed] at hform
        cases hform
      | cons _ hu =>
        cases hu with
        | stop | lineFeed => exact absurd rfl (hquote hq)
        | cons => exact two rfl rfl he hq hform
  · cases hu with
    | lineFeed => exact absurd rfl (hquote hq)
    | cons => exact one rfl rfl hq hform
  · cases hu with
    | lineFeed =>
      rw [stringForm?_lineFeed] at hform
      cases hform
    | cons _ hu =>
      cases hu with
      | lineFeed => exact absurd rfl (hquote hq)
      | cons => exact two rfl rfl he hq hform

/-! ## Marks -/

@[simp]
theorem form_closeSpec (opened : OpenString) (nesting : Nat) :
    (opened.closeSpec nesting).form = opened.form := by
  unfold OpenString.closeSpec
  split <;> rfl

theorem Beside.stepSymbol (h : Beside t s d) (hfault : s.stepSymbol.1.fault = none) :
    FoundBelow t s.stepSymbol d.stepSymbol := by
  unfold Scanner.stepSymbol at hfault ⊢
  rw [symbol?_sameLine h.sameLine]
  cases hsymbol : symbol? s.rest with
  | none =>
    rw [hsymbol] at hfault
    cases hfault
  | some found =>
    obtain ⟨mark, length⟩ := found
    rw [hsymbol] at hfault
    have hlength := le_lineLength_of_symbol? h.sameLine hsymbol
    have hone := Nat.le_trans (Scanner.symbol?_pos hsymbol) hlength
    have hmark := h.accept hlength (.symbol mark) rfl
    cases mark with
    | lpar | lsqb | lbrace =>
      dsimp only
      rw [h.nesting]
      exact (h.withNesting (s.nesting + 1)).accept hone _ rfl
    | rpar | rsqb =>
      dsimp only
      rw [h.nesting]
      exact (h.withNesting (s.nesting - 1)).accept hone _ rfl
    | rbrace =>
      have hbrace := (h.withNesting (s.nesting - 1)).accept hone
        (.symbol .rbrace) rfl
      have hclose := h.mapString (f := (·.closeSpec s.nesting)) (by simp)
      have hspec := (hclose.withNesting (s.nesting - 1)).accept (by simpa using hone)
        (.symbol .rbrace) rfl
      dsimp only at hfault ⊢
      cases hs : s.strings with
      | nil => simpa only [h.strings, h.nesting, hs] using hbrace
      | cons opened outer =>
        rw [hs] at hfault
        dsimp only at hfault
        split at hfault
        · cases hfault
        · rename_i hnesting
          simpa only [h.strings, h.nesting, hs, if_neg hnesting] using hspec
    | colon | colonEqual =>
      have hopen := h.mapString (f := fun o => { o with specs := o.specs + 1 }) (by simp)
      have hspec := hopen.accept (by simpa using hone) (.symbol .colon) rfl
      dsimp only
      cases hs : s.strings with
      | nil => simpa only [h.strings, h.nesting, hs] using hmark
      | cons opened outer =>
        by_cases hopens : opened.opensSpec s.nesting = true
        · simpa only [h.strings, h.nesting, hs, if_pos hopens] using hspec
        · simpa only [h.strings, h.nesting, hs, if_neg hopens] using hmark
    | _ => exact hmark

/-! ## Line ends -/

theorem mapString_closeSpec (code : InCode s) : s.mapString (·.closeSpec s.nesting) = s := by
  unfold Scanner.mapString
  split
  · rename_i opened outer hs
    have hspec : opened.inSpec s.nesting = false := by
      rw [OpenString.inSpec, code opened outer hs, Bool.not_true, Bool.and_false]
    have hclose : opened.closeSpec s.nesting = opened := by
      rw [OpenString.closeSpec, hspec, if_neg Bool.false_ne_true]
    dsimp only
    rw [hclose, ← hs]
  · rfl

theorem InCode.strings_eq_nil (code : InCode s) (nesting : s.nesting = 0) : s.strings = [] := by
  cases hs : s.strings with
  | nil => rfl
  | cons opened outer =>
    have hcode := code opened outer hs
    rw [nesting, OpenString.inCode, Nat.zero_sub] at hcode
    exact absurd (of_decide_eq_true hcode) (Nat.not_lt_zero _)

/-- A line end. The next line stands behind blanks one level deeper. -/
theorem Beside.stepLineEnd (h : Beside t s d) (code : InCode s)
    (inside : s.strings ≠ [] → s.line = .inside) (front : List Char) {u : List Char}
    (hfront : front = [] ∨ front = ['\r']) (hs : s.rest = front ++ '\n' :: u) :
    FoundBelow t (s.stepLineEnd (front.length + 1)) (d.stepLineEnd (front.length + 1)) := by
  have hline : '\n' ∉ front := by
    obtain rfl | rfl := hfront <;> decide
  have hafter : s.line ≠ .afterIndent := by
    intro hline
    obtain ⟨c, v, hcode, hc⟩ := h.sound.code hline
    rw [hs] at hcode
    obtain rfl | rfl := hfront <;> cases hcode <;> simp at hc
  have hrest : s.rest.drop (front.length + 1) = u := by
    rw [hs, drop_front]
  have hrest' : d.rest.drop (front.length + 1) = margin u ++ (hang u ++ '\n' :: t) := by
    rw [h.rest, hs, hang_front hline, hang_lineFeed, List.append_assoc, List.cons_append,
      drop_front, List.append_assoc]
  have htidy := isTidy_drop h.sound.tidy front.length
  rw [hs, List.drop_left] at htidy
  obtain ⟨hstarts, -, htidy⟩ := isTidy_cons htidy
  have hbelow : ∀ line, line ≠ .afterIndent → (s.strings ≠ [] → line = .inside) →
      Below t { s.advance (front.length + 1) with line }
        { d.advance (front.length + 1) with line } := fun line hline inside => {
    h with
    line := rfl
    sound := {
      tidy := by simpa only [Scanner.advance, hrest] using htidy
      pending := fun hpending => absurd h.free hpending
      code := fun hline' => absurd hline' hline
      quotes := h.sound.quotes }
    inside
    standing := by
      apply Standing.atLine
      · simp only [Scanner.advance, hrest, hrest']
      · simpa only [Scanner.advance, hrest] using hstarts rfl
      · exact code }
  have hclose : (s.advance (front.length + 1)).mapString (·.closeSpec s.nesting) =
      s.advance (front.length + 1) :=
    mapString_closeSpec (s := s.advance (front.length + 1)) code
  have hclose' : (d.advance (front.length + 1)).mapString (·.closeSpec s.nesting) =
      d.advance (front.length + 1) := by
    rw [← h.nesting]
    apply mapString_closeSpec (s := d.advance (front.length + 1))
    intro opened outer hstrings
    exact h.nesting ▸ code opened outer (h.strings.symm.trans hstrings)
  unfold Scanner.stepLineEnd
  rw [h.nesting, h.line, hclose, hclose']
  split
  · rename_i hnewline
    simp only [Bool.and_eq_true, decide_eq_true_eq] at hnewline
    exact ⟨rfl, rfl, hbelow .atStart (by decide)
      fun hstrings => absurd (code.strings_eq_nil hnewline.1) hstrings⟩
  · have hnext := hbelow s.line hafter inside
    nth_rewrite 2 [← h.line] at hnext
    exact ⟨rfl, rfl, hnext⟩

/-! ## Characters -/

/-- A comment goes up to the end of its line. -/
theorem Beside.stepComment (h : Beside t s d) (inside : s.strings ≠ [] → s.line = .inside)
    {u u' : List Char} (hs : s.rest = '#' :: u) (hu : SameLine u u') :
    FoundBelow t
      (⟨.comment, s.pos, s.pos + measureWhile Scanner.inComment u 1, none⟩,
        s.advance (measureWhile Scanner.inComment u 1))
      (⟨.comment, d.pos, d.pos + measureWhile Scanner.inComment u' 1, none⟩,
        d.advance (measureWhile Scanner.inComment u' 1)) := by
  have hend : Scanner.inComment '\n' = false := by decide
  have hmeasure : measureWhile Scanner.inComment u' 1 = measureWhile Scanner.inComment u 1 := by
    rw [measureWhile_eq, measureWhile_eq, hu.takeWhile_eq hend]
  have hlength : measureWhile Scanner.inComment u 1 ≤ lineLength s.rest := by
    rw [hs, lineLength_cons (by decide), measureWhile_eq, Nat.add_comm]
    exact Nat.succ_le_succ (length_takeWhile_le_lineLength u hend)
  have hbehind : s.rest.drop (measureWhile Scanner.inComment u 1) =
      u.dropWhile Scanner.inComment := by
    rw [hs, measureWhile_eq, Nat.add_comm, List.drop_succ_cons]
    nth_rewrite 2 [← List.takeWhile_append_dropWhile (p := Scanner.inComment) (l := u)]
    rw [List.drop_left]
  have hafter : s.line ≠ .afterIndent := by
    intro hline
    obtain ⟨c, v, hcode, hc⟩ := h.sound.code hline
    rw [hs] at hcode
    cases hcode
    simp at hc
  rw [hmeasure]
  refine ⟨rfl, rfl, { h with
    sound := {
      tidy := isTidy_drop h.sound.tidy _
      pending := fun hpending => absurd h.free hpending
      code := fun hline => absurd hline hafter
      quotes := h.sound.quotes }
    inside
    standing := ?_ }⟩
  apply Standing.inLine
  · simp only [Scanner.advance, h.rest]
    exact Spans.of_le t hlength
  · rintro - c v hc
    have hhead := List.head?_dropWhile_not Scanner.inComment u
    simp only [Scanner.advance, hbehind] at hc
    rw [hc] at hhead
    simpa [Scanner.inComment, or_iff_not_imp_left] using hhead

/-- A piece that starts at the next character, which is no blank. -/
theorem Beside.stepCharacter (h : Beside t s d) (inside : s.strings ≠ [] → s.line = .inside)
    (hrest : s.rest ≠ []) (code : InCode s ∨ StartsCode s.rest)
    (hfault : s.stepCharacter.1.fault = none) :
    FoundBelow t s.stepCharacter d.stepCharacter := by
  obtain ⟨c, u, hs⟩ := List.exists_cons_of_ne_nil hrest
  replace code : (c = '\n' ∨ c = '\r') → InCode s := by
    rintro hc
    refine code.resolve_right fun ⟨c', u', hs', hcode⟩ => ?_
    cases hs.symm.trans hs'
    obtain rfl | rfl := hc <;> simp at hcode
  by_cases hline : c = '\n'
  · subst hline
    have hstep : ∀ {s : Scanner} {u}, s.rest = '\n' :: u → s.stepCharacter = s.stepLineEnd 1 := by
      intro s u hs
      unfold Scanner.stepCharacter
      simp only [hs]
      rfl
    have hs' : d.rest = '\n' :: (margin u ++ hang u ++ '\n' :: t) := by
      rw [h.rest, hs, hang_lineFeed]
      rfl
    rw [hstep hs, hstep hs']
    exact h.stepLineEnd (code (.inl rfl)) inside [] (.inl rfl) hs
  obtain ⟨u', hs', hu⟩ : ∃ u', d.rest = c :: u' ∧ SameLine u u' := by
    rw [h.rest, hs, hang_cons hline]
    exact ⟨_, rfl, sameLine_hang u t⟩
  have hdigit : (u'.head?.map Char.isDigit).getD false = (u.head?.map Char.isDigit).getD false := by
    cases hu <;> rfl
  have htidy := h.sound.tidy
  rw [hs] at htidy
  have hnumber := h.stepNumber
  have hmark := h.stepSymbol
  unfold Scanner.stepCharacter at hfault ⊢
  simp only [hs, hs'] at hfault ⊢
  by_cases start : isIdentifierStart c = true
  · simp only [dif_pos start] at hfault ⊢
    exact h.stepIdentifier start hs hu hfault
  simp only [dif_neg start] at hfault ⊢
  by_cases hnumeral : c.isDigit = true
  · simp only [if_pos hnumeral] at hfault ⊢
    exact hnumber hfault
  simp only [if_neg hnumeral] at hfault ⊢
  by_cases hcomment : c = '#'
  · simp only [if_pos hcomment] at hfault ⊢
    subst hcomment
    exact h.stepComment inside hs hu
  simp only [if_neg hcomment] at hfault ⊢
  by_cases hquote : Scanner.isQuote c = true
  · simp only [if_pos hquote] at hfault ⊢
    exact h.stepString [] hquote (by simp) hs hfault
  simp only [if_neg hquote, if_neg hline] at hfault ⊢
  rw [hdigit]
  by_cases hpoint : (c = '.' && (u.head?.map Char.isDigit).getD false) = true
  · simp only [if_pos hpoint] at hfault ⊢
    exact hnumber hfault
  simp only [if_neg hpoint] at hfault ⊢
  by_cases hreturn : c = '\r'
  · simp only [if_pos hreturn]
    subst hreturn
    obtain ⟨v, rfl⟩ := List.head?_eq_some_iff.1 ((isTidy_cons htidy).2.1 rfl)
    cases hu
    · exact h.stepLineEnd (code (.inr rfl)) inside ['\r'] (.inr rfl) hs
    · contradiction
  · simp only [if_neg hreturn] at hfault ⊢
    exact hmark hfault

end ScriptBundle
