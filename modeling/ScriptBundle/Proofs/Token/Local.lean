import ScriptBundle.Proofs.Token.Calm
import ScriptBundle.Proofs.Token.Swap

namespace ScriptBundle.Python

open ScriptBundle.Text

namespace Kind

/-- Tokens that may stand before the imports that open a module. -/
def isFront : Kind → Bool
  | .keyword k => k = .«pass»
  | .string _ _ | .newline => true
  | .symbol mark => match mark with
    | .lpar | .rpar | .semi => true
    | _ => false
  | _ => false

theorem isCalm_of_isFront {kind : Kind} (h : kind.isFront = true) : kind.isCalm = true := by
  cases kind with
  | symbol mark => cases mark <;> first | rfl | cases h
  | _ => first | rfl | cases h

end Kind

namespace Piece

def isFront : Piece → Bool
  | .token kind => kind.isFront
  | .comment | .lineEnd => true

theorem isCalm_of_isFront {piece : Piece} (h : piece.isFront = true) : piece.isCalm = true := by
  cases piece with
  | token kind => exact kind.isCalm_of_isFront h
  | comment | lineEnd => rfl

end Piece

namespace Scanner

def before (s : Scanner) (text : List Char) : Scanner := { s with rest := text }

/-- A way to step takes `k` characters and finds the same whatever stands behind the first
character behind them. -/
structure Finds (step : Scanner → Lexeme × Scanner) (s : Scanner) (k : Nat) : Prop where
  pos : 0 < k
  rest : (step s).2.rest = s.rest.drop k
  swap : ∀ z, Swapped (s.rest.drop k) z →
    step (s.before (s.rest.take k ++ z)) = ((step s).1, (step s).2.before z)

/-- A way to step looks at one character behind what it finds, if that may stand at the front of a
module and is no end of the source. -/
def Local (step : Scanner → Lexeme × Scanner) (s : Scanner) : Prop :=
  (step s).1.fault = none → (step s).1.piece.isFront = true → (step s).2.rest ≠ [] →
    ∃ k, Finds step s k

variable {s : Scanner} {step step' : Scanner → Lexeme × Scanner} {n k : Nat}

theorem finds_accept (kind : Kind) (hn : 0 < n) : Finds (·.accept n kind) s n where
  pos := hn
  rest := rfl
  swap := by
    intro z hz
    unfold accept advance before
    rw [hz.drop_append]

/-- What one way to step finds another one finds if they agree. -/
theorem Finds.congr (h : Finds step' s k) (hs : step s = step' s)
    (hz : ∀ z, Swapped (s.rest.drop k) z →
      step (s.before (s.rest.take k ++ z)) = step' (s.before (s.rest.take k ++ z))) :
    Finds step s k where
  pos := h.pos
  rest := hs ▸ h.rest
  swap := fun z hswap => by rw [hz z hswap, hs, h.swap z hswap]

theorem stepString_single {letters : Nat} {form : StringForm} {quote : Char} {length : Nat}
    (hflavour : ¬(form.flavour = .formatted || form.flavour = .template) = true)
    (htriple : (s.rest.drop (letters + 1)).take 2 ≠ [quote, quote])
    (hmeasure : measureLine quote (s.rest.drop (letters + 1)) 0 = (length, true)) :
    s.stepString letters form quote = s.accept (letters + 1 + length + 1)
      (.string { form with quote, triple := false } ((s.rest.drop (letters + 1)).take length)) := by
  unfold stepString
  simp only [htriple, decide_false, if_neg hflavour]
  simp [hmeasure, accept]

theorem stepString_triple {letters : Nat} {form : StringForm} {quote : Char} {length : Nat}
    (hflavour : ¬(form.flavour = .formatted || form.flavour = .template) = true)
    (htriple : (s.rest.drop (letters + 1)).take 2 = [quote, quote])
    (hmeasure : measureLines quote (s.rest.drop (letters + 3)) 0 = (length, true)) :
    s.stepString letters form quote = s.accept (letters + 3 + length + 3)
      (.string { form with quote, triple := true } ((s.rest.drop (letters + 3)).take length)) := by
  unfold stepString
  simp only [htriple, decide_true, if_neg hflavour]
  simp [hmeasure, accept]

/-- A string over lines is found between its quotes. -/
theorem finds_stepString_triple {letters : Nat} {form : StringForm} {quote : Char} {length : Nat}
    (hflavour : ¬(form.flavour = .formatted || form.flavour = .template) = true)
    (htriple : (s.rest.drop (letters + 1)).take 2 = [quote, quote])
    (hmeasure : measureLines quote (s.rest.drop (letters + 3)) 0 = (length, true)) :
    Finds (·.stepString letters form quote) s (letters + 3 + length + 3) := by
  refine (finds_accept _ (by omega)).congr (stepString_triple hflavour htriple hmeasure) ?_
  intro z hz
  have hbody := hz.take_drop_append (j := letters + 3) (l := length) (by omega)
  rw [← hbody]
  refine stepString_triple hflavour ((hz.take_drop_append (by omega)).trans htriple) ?_
  rw [← hmeasure]
  exact (measureLines_looksAt hmeasure).2.1.drop hz

/-- A string on one line is found between its quotes. -/
theorem finds_stepString_single {letters : Nat} {form : StringForm} {quote : Char} {length : Nat}
    (hquote : quote ≠ 'p')
    (hflavour : ¬(form.flavour = .formatted || form.flavour = .template) = true)
    (htriple : (s.rest.drop (letters + 1)).take 2 ≠ [quote, quote])
    (hmeasure : measureLine quote (s.rest.drop (letters + 1)) 0 = (length, true)) :
    Finds (·.stepString letters form quote) s (letters + 1 + length + 1) := by
  obtain ⟨-, hlooks, hlast⟩ := measureLine_looksAt hmeasure
  refine (finds_accept _ (by omega)).congr (stepString_single hflavour htriple hmeasure) ?_
  intro z hz
  have hbody := hz.take_drop_append (j := letters + 1) (l := length) (by omega)
  rw [← hbody]
  refine stepString_single hflavour ?_ ?_
  · cases length with
    | succ length =>
      rw [before, hz.take_drop_append (by omega)]
      exact htriple
    | zero =>
      intro hquotes
      rw [before, hz.drop_append_of_le (by omega)] at hquotes
      obtain ⟨body, hbody⟩ : ∃ body, s.rest.drop (letters + 1) = quote :: body :=
        List.head?_eq_some_iff.1 (List.head?_eq_getElem?.trans hlast)
      have hbehind : s.rest.drop (letters + 1 + 0 + 1) = body := by
        rw [← List.drop_drop, Nat.add_zero, hbody]
        rfl
      rw [hbody] at htriple hquotes
      rw [hbehind] at hz
      cases z with
      | nil => simp at hquotes
      | cons c t =>
        have hc : c = quote := by simpa using hquotes
        refine hz.head_ne (c := quote) ?_ hquote t (by rw [hc])
        rintro t' rfl
        exact htriple rfl
  · rw [← hmeasure]
    exact hlooks.drop hz

/-- A string without replacement fields is closed, over lines or on one line. -/
theorem stepString_closed {letters : Nat} {form : StringForm} {quote : Char}
    (hflavour : ¬(form.flavour = .formatted || form.flavour = .template) = true)
    (hfault : (s.stepString letters form quote).1.fault = none) :
    (∃ length, (s.rest.drop (letters + 1)).take 2 = [quote, quote] ∧
      measureLines quote (s.rest.drop (letters + 3)) 0 = (length, true)) ∨
    ∃ length, (s.rest.drop (letters + 1)).take 2 ≠ [quote, quote] ∧
      measureLine quote (s.rest.drop (letters + 1)) 0 = (length, true) := by
  unfold stepString at hfault
  by_cases htriple : (s.rest.drop (letters + 1)).take 2 = [quote, quote]
  · simp only [htriple, decide_true, if_neg hflavour] at hfault
    cases hmeasure : measureLines quote (s.rest.drop (letters + 3)) 0 with
    | mk length closed =>
      cases closed with
      | true => exact .inl ⟨length, htriple, rfl⟩
      | false => simp [hmeasure] at hfault
  · simp only [htriple, decide_false, if_neg hflavour] at hfault
    cases hmeasure : measureLine quote (s.rest.drop (letters + 1)) 0 with
    | mk length closed =>
      cases closed with
      | true => exact .inr ⟨length, htriple, rfl⟩
      | false => simp [hmeasure] at hfault

/-- A string at the front of a module has no replacement fields. -/
theorem flavour_of_isCalm {letters : Nat} {form : StringForm} {quote : Char}
    (hcalm : (s.stepString letters form quote).1.piece.isCalm = true) :
    ¬(form.flavour = .formatted || form.flavour = .template) = true := by
  intro hflavour
  unfold stepString at hcalm
  simp only [if_pos hflavour] at hcalm
  cases hcalm

/-- A string without replacement fields is found between its quotes. -/
theorem finds_stepString {letters : Nat} {form : StringForm} {quote : Char} (hquote : quote ≠ 'p')
    (hfault : (s.stepString letters form quote).1.fault = none)
    (hfront : (s.stepString letters form quote).1.piece.isFront = true) :
    ∃ k, letters < k ∧ Finds (·.stepString letters form quote) s k := by
  have hflavour := flavour_of_isCalm (Piece.isCalm_of_isFront hfront)
  obtain ⟨length, htriple, hmeasure⟩ | ⟨length, htriple, hmeasure⟩ :=
    stepString_closed hflavour hfault
  · exact ⟨_, by omega, finds_stepString_triple hflavour htriple hmeasure⟩
  · exact ⟨_, by omega, finds_stepString_single hquote hflavour htriple hmeasure⟩

/-- No word goes on with this text. -/
def Stops (text : List Char) : Prop := ∀ c t, text = c :: t → isIdentifierContinue c = false

theorem stops_dropWhile (t : List Char) : Stops (t.dropWhile isIdentifierContinue) := by
  intro c t' h
  have hhead := List.head?_dropWhile_not isIdentifierContinue t
  rw [h] at hhead
  exact hhead

theorem Stops.takeWhile_eq_nil {text : List Char} (h : Stops text) :
    text.takeWhile isIdentifierContinue = [] := by
  cases text with
  | nil => rfl
  | cons c t => rw [List.takeWhile_cons, h c t rfl, if_neg Bool.false_ne_true]

theorem Stops.swapped {z z' : List Char} (h : Stops z) (hz : Swapped z z') : Stops z' := by
  cases hz with
  | same c t t' =>
    intro d u hd
    obtain ⟨rfl, -⟩ := List.cons.inj hd
    exact h c t rfl
  | letter t => exact absurd (h 'f' t rfl) (by decide)

/-- A keyword is spelled up to where no word goes on. -/
theorem stepWord_keyword {c : Char} {start : isIdentifierStart c = true} {t : List Char}
    {k : Keyword} (h : (s.stepWord c start t).1.piece = .token (.keyword k)) :
    s.stepWord c start t = s.accept k.text.toList.length (.keyword k) ∧
      ∃ z, c :: t = k.text.toList ++ z ∧ Stops z := by
  unfold stepWord at h ⊢
  dsimp only at h ⊢
  split
  · rename_i hascii
    rw [if_pos hascii] at h
    split
    · rename_i k' hk
      rw [hk] at h
      cases h
      have hspelled : k.text = String.ofList (letters c t) := by
        simpa using List.find?_some hk
      rw [hspelled, String.toList_ofList]
      refine ⟨rfl, t.dropWhile isIdentifierContinue, ?_, stops_dropWhile t⟩
      rw [letters, List.cons_append, List.takeWhile_append_dropWhile]
    · rename_i hk
      rw [hk] at h
      cases h
  · rename_i hascii
    rw [if_neg hascii] at h
    cases h

theorem stepString_kind {letters : Nat} {form : StringForm} {quote : Char} {kind : Kind}
    (hstring : ∀ form text, kind ≠ .string form text)
    (hstart : ∀ form, kind ≠ .replacementStart form) :
    (s.stepString letters form quote).1.piece ≠ .token kind := by
  unfold stepString
  extract_lets text triple form opening body
  split
  · exact fun h => hstart _ (Piece.token.inj h).symm
  · exact fun h => hstring _ _ (Piece.token.inj h).symm

/-- One letter that opens a string. -/
theorem stepIdentifier_one {c d : Char} {form : StringForm} (hd : isQuote d = true)
    (hform : stringForm? [c] = some form) (start : isIdentifierStart c = true) (t : List Char) :
    s.stepIdentifier c start (d :: t) = s.stepString 1 form d := by
  unfold stepIdentifier
  simp only [hd, if_true, hform]

/-- Two letters that open a string. -/
theorem stepIdentifier_two {c d quote : Char} {form : StringForm} (hd : ¬isQuote d = true)
    (hquote : isQuote quote = true) (hform : stringForm? [c, d] = some form)
    (start : isIdentifierStart c = true) (t : List Char) :
    s.stepIdentifier c start (d :: quote :: t) = s.stepString 2 form quote := by
  unfold stepIdentifier
  simp only [if_neg hd, hquote, if_true, hform]

/-- A word, or the letters that open a string. -/
theorem stepIdentifier_cases (c : Char) (start : isIdentifierStart c = true) (t : List Char) :
    s.stepIdentifier c start t = s.stepWord c start t ∨
      (∃ form d t', t = d :: t' ∧ isQuote d = true ∧ stringForm? [c] = some form) ∨
      ∃ form d quote t', t = d :: quote :: t' ∧ ¬isQuote d = true ∧ isQuote quote = true ∧
        stringForm? [c, d] = some form := by
  cases t with
  | nil => exact .inl rfl
  | cons d t =>
    by_cases hd : isQuote d = true
    · cases hform : stringForm? [c] with
      | some form => exact .inr (.inl ⟨form, d, t, rfl, hd, rfl⟩)
      | none =>
        left
        unfold stepIdentifier
        simp only [hd, if_true, hform]
    · cases t with
      | nil =>
        left
        unfold stepIdentifier
        simp only [if_neg hd]
      | cons quote t =>
        by_cases hquote : isQuote quote = true
        · cases hform : stringForm? [c, d] with
          | some form => exact .inr (.inr ⟨form, d, quote, t, rfl, hd, hquote, hform⟩)
          | none =>
            left
            unfold stepIdentifier
            simp only [if_neg hd, hquote, if_true, hform]
        · left
          unfold stepIdentifier
          simp only [if_neg hd, if_neg hquote]

theorem stepIdentifier_keyword {c : Char} {start : isIdentifierStart c = true} {t : List Char}
    {k : Keyword} (h : (s.stepIdentifier c start t).1.piece = .token (.keyword k)) :
    s.stepIdentifier c start t = s.accept k.text.toList.length (.keyword k) ∧
      ∃ z, c :: t = k.text.toList ++ z ∧ Stops z := by
  obtain hword | ⟨form, d, t', rfl, hd, hform⟩ | ⟨form, d, quote, t', rfl, hd, hquote, hform⟩ :=
    stepIdentifier_cases (s := s) c start t
  · rw [hword] at h ⊢
    exact stepWord_keyword h
  · rw [stepIdentifier_one hd hform] at h
    exact absurd h (stepString_kind (by simp) (by simp))
  · rw [stepIdentifier_two hd hquote hform] at h
    exact absurd h (stepString_kind (by simp) (by simp))

/-- The word `pass` is found wherever no word goes on behind it. -/
theorem stepCharacter_pass {z : List Char} (hrest : s.rest = 'p' :: 'a' :: 's' :: 's' :: z)
    (hz : Stops z) : s.stepCharacter = s.accept 4 (.keyword .«pass») := by
  have hstart : isIdentifierStart 'p' = true := by decide
  have hletters : letters 'p' ('a' :: 's' :: 's' :: z) = ['p', 'a', 's', 's'] := by
    have hs : isIdentifierContinue 's' = true := by decide
    have hcontinue : ∀ c ∈ ['a', 's', 's'], isIdentifierContinue c = true := by
      simp only [List.forall_mem_cons]
      exact ⟨by decide, hs, hs, List.forall_mem_nil _⟩
    have hspan : (['a', 's', 's'] ++ z).takeWhile isIdentifierContinue =
        ['a', 's', 's'] ++ z.takeWhile isIdentifierContinue :=
      List.takeWhile_append_of_pos hcontinue
    change ('a' :: 's' :: 's' :: z).takeWhile isIdentifierContinue = _ at hspan
    rw [letters, hspan, hz.takeWhile_eq_nil]
    rfl
  unfold stepCharacter
  simp only [hrest]
  rw [dif_pos hstart]
  change s.stepWord 'p' hstart ('a' :: 's' :: 's' :: z) = _
  unfold stepWord
  simp only [hletters]
  rfl

theorem stepWord_front {c : Char} {start : isIdentifierStart c = true} {t : List Char}
    (h : (s.stepWord c start t).1.piece.isFront = true) :
    (s.stepWord c start t).1.piece = .token (.keyword .«pass») := by
  unfold stepWord at h ⊢
  dsimp only at h ⊢
  split
  · rename_i hascii
    rw [if_pos hascii] at h
    split
    · rename_i k hk
      rw [hk] at h
      exact congrArg (Piece.token ∘ Kind.keyword) (of_decide_eq_true h)
    · rename_i hk
      rw [hk] at h
      cases h
  · rename_i hascii
    rw [if_neg hascii] at h
    cases h

theorem stepCharacter_start {c : Char} {t : List Char} (start : isIdentifierStart c = true)
    (hrest : s.rest = c :: t) : s.stepCharacter = s.stepIdentifier c start t := by
  unfold stepCharacter
  simp only [hrest, dif_pos start]

theorem isQuote_ne {c : Char} (h : isQuote c = true) : c ≠ 'p' := by
  rintro rfl
  exact absurd h (by decide)

/-- A word at the front of a module, or a string with letters, is found before all texts. -/
theorem local_start {c : Char} {t : List Char} (start : isIdentifierStart c = true)
    (hrest : s.rest = c :: t) : Local stepCharacter s := by
  intro hfault hfront _
  rw [stepCharacter_start start hrest] at hfault hfront
  obtain hword | ⟨form, d, t', rfl, hd, hform⟩ | ⟨form, d, quote, t', rfl, hd, hquote, hform⟩ :=
    stepIdentifier_cases (s := s) c start t
  · rw [hword] at hfront
    obtain ⟨-, z, hspelled, hz⟩ := stepWord_keyword (stepWord_front hfront)
    have hpass : s.rest = 'p' :: 'a' :: 's' :: 's' :: z := hrest.trans hspelled
    refine ⟨4, (finds_accept (.keyword .«pass») (by decide)).congr (stepCharacter_pass hpass hz) ?_⟩
    intro z' hz'
    rw [hpass] at hz' ⊢
    exact stepCharacter_pass rfl (hz.swapped hz')
  · rw [stepIdentifier_one hd hform] at hfault hfront
    obtain ⟨k, hk, hfinds⟩ := finds_stepString (isQuote_ne hd) hfault hfront
    have hstep : ∀ {s : Scanner} {t}, s.rest = c :: d :: t →
        s.stepCharacter = s.stepString 1 form d := fun h =>
      (stepCharacter_start start h).trans (stepIdentifier_one hd hform start _)
    refine ⟨k, hfinds.congr (hstep hrest) fun z _ => hstep (t := t'.take (k - 2) ++ z) ?_⟩
    obtain ⟨j, rfl⟩ : ∃ j, k = j + 2 := ⟨k - 2, by omega⟩
    rw [hrest]
    rfl
  · rw [stepIdentifier_two hd hquote hform] at hfault hfront
    obtain ⟨k, hk, hfinds⟩ := finds_stepString (isQuote_ne hquote) hfault hfront
    have hstep : ∀ {s : Scanner} {t}, s.rest = c :: d :: quote :: t →
        s.stepCharacter = s.stepString 2 form quote := fun h =>
      (stepCharacter_start start h).trans (stepIdentifier_two hd hquote hform start _)
    refine ⟨k, hfinds.congr (hstep hrest) fun z _ => hstep (t := t'.take (k - 3) ++ z) ?_⟩
    obtain ⟨j, rfl⟩ : ∃ j, k = j + 3 := ⟨k - 3, by omega⟩
    rw [hrest]
    rfl

/-- A string without letters is found before all texts. -/
theorem local_quote {c : Char} {t : List Char} (hc : isQuote c = true) (hrest : s.rest = c :: t) :
    Local stepCharacter s := by
  intro hfault hfront _
  have hstep : ∀ {s : Scanner} {t}, s.rest = c :: t → s.stepCharacter = s.stepString 0 {} c := by
    intro s t h
    unfold stepCharacter
    have hchar : c = '\'' ∨ c = '"' := by simpa [isQuote] using hc
    obtain rfl | rfl := hchar
    · simp only [h]
      rfl
    · simp only [h]
      rfl
  rw [hstep hrest] at hfault hfront
  obtain ⟨k, hk, hfinds⟩ := finds_stepString (isQuote_ne hc) hfault hfront
  refine ⟨k, hfinds.congr (hstep hrest) fun z _ => hstep (t := t.take (k - 1) ++ z) ?_⟩
  obtain ⟨j, rfl⟩ : ∃ j, k = j + 1 := ⟨k - 1, by omega⟩
  rw [hrest]
  rfl

def inComment (c : Char) : Bool := c ≠ '\n' && c ≠ '\r'

theorem stepCharacter_comment {body z : List Char} (hrest : s.rest = '#' :: (body ++ z))
    (hbody : ∀ c ∈ body, inComment c = true) (hz : ∀ c t, z = c :: t → inComment c = false) :
    s.stepCharacter =
      (⟨.comment, s.pos, s.pos + (1 + body.length), none⟩, s.advance (1 + body.length)) := by
  have hlength : measureWhile inComment (body ++ z) 1 = 1 + body.length := by
    rw [measureWhile_eq, List.takeWhile_append_of_pos hbody]
    cases z with
    | nil => simp
    | cons c t => simp [hz c t rfl]
  rw [← hlength]
  unfold stepCharacter
  simp only [hrest]
  rfl

/-- A comment ends before a line end, whatever stands behind that. -/
theorem local_comment {t : List Char} (hrest : s.rest = '#' :: t) : Local stepCharacter s := by
  intro _ _ hne
  have hspan := List.takeWhile_append_dropWhile (p := inComment) (l := t)
  have hbody : ∀ c ∈ t.takeWhile inComment, inComment c = true := fun c hc =>
    List.all_eq_true.1 List.all_takeWhile c hc
  have hend : ∀ c u, t.dropWhile inComment = c :: u → inComment c = false := by
    intro c u hu
    have hhead := List.head?_dropWhile_not inComment t
    rw [hu] at hhead
    exact hhead
  generalize t.takeWhile inComment = body at hspan hbody
  generalize t.dropWhile inComment = z at hspan hend
  subst hspan
  have hstep := stepCharacter_comment hrest hbody hend
  have hdrop : s.rest.drop (1 + body.length) = z := by
    rw [hrest, Nat.add_comm, List.drop_succ_cons, List.drop_left]
  have htake : s.rest.take (1 + body.length) = '#' :: body := by
    rw [hrest, Nat.add_comm, List.take_succ_cons, List.take_left]
  refine ⟨1 + body.length, by omega, by rw [hstep]; rfl, fun z' hz => ?_⟩
  have hz' : Swapped z z' := by rwa [hdrop] at hz
  have hend' : ∀ c u, z' = c :: u → inComment c = false := by
    cases hz' with
    | same c u u' =>
      intro d v hv
      obtain ⟨rfl, -⟩ := List.cons.inj hv
      exact hend c u rfl
    | letter u => exact absurd (hend 'f' u rfl) (by decide)
  rw [htake, stepCharacter_comment (s := s.before ('#' :: body ++ z')) rfl hbody hend', hstep]
  simp only [before, advance, Nat.add_comm 1, List.cons_append, List.drop_succ_cons,
    List.drop_left]

/-- A line end is found before all texts. -/
theorem finds_stepLineEnd (hn : 0 < n) : Finds (·.stepLineEnd n) s n where
  pos := hn
  rest := by
    unfold stepLineEnd
    split
    · rfl
    · exact mapString_rest _
  swap := by
    intro z hz
    unfold stepLineEnd before
    split
    · simp only [advance, hz.drop_append]
    · simp only [advance, mapString, hz.drop_append]
      cases s.strings <;> rfl

theorem local_lineEnd {c : Char} {t : List Char} (hc : c = '\n' ∨ c = '\r')
    (hrest : s.rest = c :: t) : Local stepCharacter s := by
  intro _ _ _
  obtain rfl | rfl := hc
  · have hstep : ∀ {s : Scanner} {t}, s.rest = '\n' :: t → s.stepCharacter = s.stepLineEnd 1 := by
      intro s t h
      unfold stepCharacter
      simp only [h]
      rfl
    exact ⟨1, (finds_stepLineEnd Nat.one_pos).congr (hstep hrest) fun z _ =>
      hstep (t := z) (by rw [hrest]; rfl)⟩
  · have hstep : ∀ {s : Scanner} {t}, s.rest = '\r' :: t →
        s.stepCharacter = s.stepLineEnd (if t.head? = some '\n' then 2 else 1) := by
      intro s t h
      unfold stepCharacter
      simp only [h]
      rfl
    by_cases hline : t.head? = some '\n'
    · obtain ⟨t', rfl⟩ := List.head?_eq_some_iff.1 hline
      exact ⟨2, (finds_stepLineEnd Nat.two_pos).congr (hstep hrest) fun z _ =>
        hstep (t := '\n' :: z) (by rw [hrest]; rfl)⟩
    · have hone : ∀ {t : List Char}, t.head? ≠ some '\n' →
          (if t.head? = some '\n' then 2 else 1) = 1 := fun h => if_neg h
      have hhere := hstep hrest
      rw [hone hline] at hhere
      refine ⟨1, (finds_stepLineEnd Nat.one_pos).congr hhere fun z hz => ?_⟩
      have hbehind := hstep (s := s.before (s.rest.take 1 ++ z)) (t := z) (by rw [hrest]; rfl)
      rw [hone] at hbehind
      · exact hbehind
      · rw [hrest] at hz
        intro hz'
        obtain ⟨u, hu⟩ := List.head?_eq_some_iff.1 hz'
        refine Swapped.head_ne (c := '\n') hz ?_ (by decide) u hu
        intro v hv
        exact hline (by rw [show t = '\n' :: v from hv]; rfl)

/-- Parentheses and semicolons stand for themselves. -/
theorem symbol?_eq {text : List Char} {n : Nat} :
    (symbol? text = some (.lpar, n) → ∃ t, text = '(' :: t) ∧
      (symbol? text = some (.rpar, n) → ∃ t, text = ')' :: t) ∧
      (symbol? text = some (.semi, n) → ∃ t, text = ';' :: t) := by
  unfold symbol?
  split <;> simp

/-- A bracket or a mark is found before all texts. -/
theorem finds_mark (kind : Kind) (f : Nat → Nat) :
    Finds (fun s => { s with nesting := f s.nesting }.accept 1 kind) s 1 where
  pos := Nat.one_pos
  rest := rfl
  swap := by
    intro z hz
    simp only [accept, advance, before, hz.drop_append]

theorem local_mark {c : Char} {t : List Char} (hc : c = '(' ∨ c = ')' ∨ c = ';')
    (hrest : s.rest = c :: t) : Local stepCharacter s := by
  intro _ _ _
  obtain rfl | rfl | rfl := hc
  · have hstep : ∀ {s : Scanner} {t}, s.rest = '(' :: t →
        s.stepCharacter = { s with nesting := s.nesting + 1 }.accept 1 (.symbol .lpar) := by
      intro s t h
      unfold stepCharacter
      simp only [h]
      rw [stepSymbol, h]
      rfl
    exact ⟨1, (finds_mark (.symbol .lpar) (· + 1)).congr (hstep hrest) fun z _ =>
      hstep (t := z) (by rw [hrest]; rfl)⟩
  · have hstep : ∀ {s : Scanner} {t}, s.rest = ')' :: t →
        s.stepCharacter = { s with nesting := s.nesting - 1 }.accept 1 (.symbol .rpar) := by
      intro s t h
      unfold stepCharacter
      simp only [h]
      rw [stepSymbol, h]
      rfl
    exact ⟨1, (finds_mark (.symbol .rpar) (· - 1)).congr (hstep hrest) fun z _ =>
      hstep (t := z) (by rw [hrest]; rfl)⟩
  · have hstep : ∀ {s : Scanner} {t}, s.rest = ';' :: t →
        s.stepCharacter = s.accept 1 (.symbol .semi) := by
      intro s t h
      unfold stepCharacter
      simp only [h]
      rw [stepSymbol, h]
      rfl
    exact ⟨1, (finds_accept (.symbol .semi) Nat.one_pos).congr (hstep hrest) fun z _ =>
      hstep (t := z) (by rw [hrest]; rfl)⟩

theorem stepNumber_front (hfault : s.stepNumber.1.fault = none) :
    s.stepNumber.1.piece.isFront = false := by
  unfold stepNumber at hfault ⊢
  split
  · rfl
  · rename_i hshape
    rw [hshape] at hfault
    cases hfault

/-- A mark at the front of a module is a parenthesis or a semicolon. -/
theorem stepSymbol_front (hfault : s.stepSymbol.1.fault = none)
    (hfront : s.stepSymbol.1.piece.isFront = true) :
    ∃ c t, s.rest = c :: t ∧ (c = '(' ∨ c = ')' ∨ c = ';') := by
  unfold stepSymbol at hfault hfront
  cases hsymbol : symbol? s.rest with
  | none =>
    rw [hsymbol] at hfault
    cases hfault
  | some found =>
    obtain ⟨mark, length⟩ := found
    obtain ⟨hlpar, hrpar, hsemi⟩ := @symbol?_eq s.rest length
    rw [hsymbol] at hfault hfront
    cases mark with
    | lpar =>
      obtain ⟨t, ht⟩ := hlpar hsymbol
      exact ⟨'(', t, ht, .inl rfl⟩
    | rpar =>
      obtain ⟨t, ht⟩ := hrpar hsymbol
      exact ⟨')', t, ht, .inr (.inl rfl)⟩
    | semi =>
      obtain ⟨t, ht⟩ := hsemi hsymbol
      exact ⟨';', t, ht, .inr (.inr rfl)⟩
    | rbrace | colon | colonEqual =>
      dsimp only at hfront hfault
      split at hfront
      · split at hfront
        · cases hfront
        · cases hfront
      · cases hfront
    | _ => cases hfront

/-- **A piece at the front of a module** is found before all texts. -/
theorem local_stepCharacter : Local stepCharacter s := by
  intro hfault hfront hne
  cases hrest : s.rest with
  | nil =>
    refine absurd ?_ hne
    unfold stepCharacter
    simp only [hrest]
    unfold stepEnd
    split
    · exact hrest
    · split
      · exact hrest
      · split <;> exact hrest
  | cons c t =>
    by_cases start : isIdentifierStart c = true
    · exact local_start start hrest hfault hfront hne
    have hfault' := hfault
    have hfront' := hfront
    unfold stepCharacter at hfault' hfront'
    simp only [hrest, dif_neg start] at hfault' hfront'
    have hnumber : s.stepNumber.1.fault = none → ¬s.stepNumber.1.piece.isFront = true := by
      intro h
      rw [stepNumber_front h]
      exact Bool.false_ne_true
    by_cases hdigit : c.isDigit = true
    · simp only [if_pos hdigit] at hfault' hfront'
      exact absurd hfront' (hnumber hfault')
    by_cases hcomment : c = '#'
    · exact local_comment (hcomment ▸ hrest) hfault hfront hne
    by_cases hquote : isQuote c = true
    · exact local_quote hquote hrest hfault hfront hne
    by_cases hpoint : (c = '.' && (t.head?.map Char.isDigit).getD false) = true
    · simp only [if_neg hdigit, if_neg hcomment, if_neg hquote, if_pos hpoint] at hfault' hfront'
      exact absurd hfront' (hnumber hfault')
    by_cases hline : c = '\n'
    · exact local_lineEnd (.inl hline) hrest hfault hfront hne
    by_cases hreturn : c = '\r'
    · exact local_lineEnd (.inr hreturn) hrest hfault hfront hne
    simp only [if_neg hdigit, if_neg hcomment, if_neg hquote, if_neg hpoint, if_neg hline,
      if_neg hreturn] at hfault' hfront'
    obtain ⟨d, t', ht, hd⟩ := stepSymbol_front hfault' hfront'
    exact local_mark hd ht hfault hfront hne

/-- Whether a line is empty or holds a comment alone, from its first character behind blanks. -/
def idle : List Char → Bool
  | [] => true
  | c :: _ => c = '\n' || c = '\r' || c = '#' || c = '\x00'

theorem idle_swapped {z z' : List Char} (h : Swapped z z') : idle z' = idle z := by
  cases h <;> rfl

/-- Behind its blanks, a piece is found as if there were none. This holds before all texts. -/
structure Enters (s : Scanner) (m : Nat) (u : Scanner) : Prop where
  le : m ≤ s.rest.length
  rest : u.rest = s.rest.drop m
  pos : u.pos = s.pos + m
  here : s.stepCode = u.stepCharacter
  swap : ∀ z, Swapped (s.rest.drop m) z →
    (s.before (s.rest.take m ++ z)).stepCode = (u.before z).stepCharacter

variable {indent : Indentation} {m : Nat}

/-- The first piece of a line that is not idle: code of the block the line is in, or the start or
the end of a block. -/
theorem stepIndent_eq (hmeasure : measureIndent s.rest {} none 0 = (indent, m, false)) :
    ∃ other, s.stepIndent =
        (if idle (s.rest.drop m) = true then (s.advance m).stepCharacter else other) ∧
      match s.currentIndent.compare? indent with
      | some .eq => other = { s.advance m with line := .afterIndent }.stepCharacter
      | some .lt => other.1.piece = .token .indent
      | some .gt => other.1.piece = .token .dedent ∨ other.1.fault ≠ none
      | none => other.1.fault ≠ none := by
  unfold stepIndent
  simp only [hmeasure]
  rw [if_neg Bool.false_ne_true]
  refine ⟨_, rfl, ?_⟩
  cases s.currentIndent.compare? indent with
  | none =>
    intro h
    cases h
  | some order =>
    cases order with
    | eq => rfl
    | lt => rfl
    | gt =>
      dsimp only
      split
      · exact .inl rfl
      · exact .inl rfl
      · right
        intro h
        cases h

theorem stepIndent_idle (hmeasure : measureIndent s.rest {} none 0 = (indent, m, false))
    (hidle : idle (s.rest.drop m) = true) : s.stepIndent = (s.advance m).stepCharacter := by
  obtain ⟨other, hstep, -⟩ := stepIndent_eq hmeasure
  rw [hstep, if_pos hidle]

theorem stepIndent_code (hmeasure : measureIndent s.rest {} none 0 = (indent, m, false))
    (hidle : ¬idle (s.rest.drop m) = true) (horder : s.currentIndent.compare? indent = some .eq) :
    s.stepIndent = { s.advance m with line := .afterIndent }.stepCharacter := by
  obtain ⟨other, hstep, hother⟩ := stepIndent_eq hmeasure
  rw [horder] at hother
  rw [hstep, if_neg hidle, hother]

/-- A line of code that opens and closes no block has the indentation of its block. -/
theorem compare?_eq_of_stepIndent (hmeasure : measureIndent s.rest {} none 0 = (indent, m, false))
    (hidle : ¬idle (s.rest.drop m) = true) (hfault : s.stepIndent.1.fault = none)
    (hindent : s.stepIndent.1.piece ≠ .token .indent)
    (hdedent : s.stepIndent.1.piece ≠ .token .dedent) :
    s.currentIndent.compare? indent = some .eq := by
  obtain ⟨other, hstep, hother⟩ := stepIndent_eq hmeasure
  rw [hstep, if_neg hidle] at hfault hindent hdedent
  split at hother
  · assumption
  · exact absurd hother hindent
  · exact absurd hfault (hother.resolve_left hdedent)
  · exact absurd hfault hother

/-- Where a step finds no fault, blanks and continued line ends are measured up to its piece. -/
theorem stepCode_cases (hfault : s.stepCode.1.fault = none) :
    (s.line = .atStart ∧ s.stepCode = s.stepIndent ∧
      ∃ indent m, measureIndent s.rest {} none 0 = (indent, m, false)) ∨
    (s.line ≠ .atStart ∧ ∃ m, measureBlanks s.rest 0 = (m, false) ∧
      s.stepCode = (s.advance m).stepCharacter) := by
  by_cases hline : s.line = .atStart
  · have hstep : s.stepCode = s.stepIndent := if_pos hline
    refine .inl ⟨hline, hstep, ?_⟩
    rw [hstep] at hfault
    cases hmeasure : measureIndent s.rest {} none 0 with
    | mk indent r =>
      obtain ⟨m, stray⟩ := r
      cases stray with
      | true =>
        unfold stepIndent at hfault
        simp only [hmeasure, if_true] at hfault
        cases hfault
      | false => exact ⟨indent, m, rfl⟩
  · refine .inr ⟨hline, ?_⟩
    unfold stepCode at hfault ⊢
    rw [if_neg hline] at hfault ⊢
    cases hmeasure : measureBlanks s.rest 0 with
    | mk m stray =>
      cases stray with
      | true =>
        simp only [hmeasure, if_true] at hfault
        cases hfault
      | false => exact ⟨m, rfl, rfl⟩

theorem stepIndent_enters (hline : s.line = .atStart)
    (hmeasure : measureIndent s.rest {} none 0 = (indent, m, false))
    (hfault : s.stepIndent.1.fault = none) (hindent : s.stepIndent.1.piece ≠ .token .indent)
    (hdedent : s.stepIndent.1.piece ≠ .token .dedent) : ∃ u, s.Enters m u := by
  have hcode : ∀ z, (s.before z).stepCode = (s.before z).stepIndent := fun z => if_pos hline
  have hsame := (measureIndent_looksAt hmeasure).2
  have hle := measureIndent_le s.rest {} none 0
  rw [hmeasure, Nat.zero_add] at hle
  by_cases hidle : idle (s.rest.drop m) = true
  · refine ⟨s.advance m, hle, rfl, rfl, (hcode _).trans (stepIndent_idle hmeasure hidle), ?_⟩
    intro z hz
    have hmeasure' : measureIndent (s.before (s.rest.take m ++ z)).rest {} none 0 =
        (indent, m, false) := (hsame z hz).trans hmeasure
    rw [hcode, stepIndent_idle hmeasure']
    · simp only [advance, before, hz.drop_append]
    · rw [before, hz.drop_append, idle_swapped hz, hidle]
  · have horder := compare?_eq_of_stepIndent hmeasure hidle hfault hindent hdedent
    refine ⟨{ s.advance m with line := .afterIndent }, hle, rfl, rfl,
      (hcode _).trans (stepIndent_code hmeasure hidle horder), ?_⟩
    intro z hz
    have hmeasure' : measureIndent (s.before (s.rest.take m ++ z)).rest {} none 0 =
        (indent, m, false) := (hsame z hz).trans hmeasure
    rw [hcode, stepIndent_code hmeasure']
    · simp only [advance, before, hz.drop_append]
    · rw [before, hz.drop_append, idle_swapped hz]
      exact hidle
    · exact horder

theorem stepCode_enters (hfault : s.stepCode.1.fault = none)
    (hindent : s.stepCode.1.piece ≠ .token .indent)
    (hdedent : s.stepCode.1.piece ≠ .token .dedent) : ∃ m u, s.Enters m u := by
  obtain ⟨hline, hcode, indent, m, hmeasure⟩ | ⟨hline, m, hmeasure, hhere⟩ := stepCode_cases hfault
  · rw [hcode] at hfault hindent hdedent
    exact ⟨m, stepIndent_enters hline hmeasure hfault hindent hdedent⟩
  · have hstep : ∀ {z m}, measureBlanks z 0 = (m, false) →
        (s.before z).stepCode = ((s.before z).advance m).stepCharacter := by
      intro z m hz
      unfold stepCode
      simp only [before, hline, if_false, hz, Bool.false_eq_true]
    have hle := measureBlanks_le s.rest 0
    rw [hmeasure, Nat.zero_add] at hle
    refine ⟨m, s.advance m, hle, rfl, rfl, hhere, fun z hz => ?_⟩
    have hsame : measureBlanks (s.rest.take m ++ z) 0 = measureBlanks s.rest 0 :=
      (measureBlanks_looksAt hmeasure).2 z hz
    rw [hstep (hsame.trans hmeasure)]
    simp only [advance, before, hz.drop_append]

theorem step_eq_stepCode (hstrings : s.strings = []) (hpending : s.pending = none) :
    s.step = s.stepCode := by
  unfold step
  rw [hstrings, hpending]

/-- **A step at the front of a module** finds the same before all texts. -/
theorem finds_step (hstrings : s.strings = []) (hpending : s.pending = none) :
    Local Scanner.step s := by
  have hstep : ∀ z, (s.before z).step = (s.before z).stepCode := fun z =>
    step_eq_stepCode (s := s.before z) hstrings hpending
  have hhere := step_eq_stepCode hstrings hpending
  intro hfault hfront hne
  rw [hhere] at hfault hfront hne
  have hindent : s.stepCode.1.piece ≠ .token .indent := by
    intro h
    rw [h] at hfront
    cases hfront
  have hdedent : s.stepCode.1.piece ≠ .token .dedent := by
    intro h
    rw [h] at hfront
    cases hfront
  obtain ⟨m, u, henters⟩ := stepCode_enters hfault hindent hdedent
  rw [henters.here] at hfault hfront hne
  obtain ⟨k, hfinds⟩ := local_stepCharacter hfault hfront hne
  have hrest : ∀ {l}, u.rest.drop l = s.rest.drop (m + l) := by
    intro l
    rw [henters.rest, List.drop_drop]
  refine ⟨m + k, Nat.add_pos_right m hfinds.pos, ?_, fun z hz => ?_⟩
  · rw [hhere, henters.here, hfinds.rest, hrest]
  · have hlt := hz.lt_length
    have htake : s.rest.take (m + k) ++ z = s.rest.take m ++ (u.rest.take k ++ z) := by
      rw [List.take_add, List.append_assoc, henters.rest]
    have hfirst : u.rest.take k ≠ [] := by
      have hk := hfinds.pos
      rw [← List.length_pos_iff, List.length_take, henters.rest, List.length_drop]
      omega
    have hswapped : Swapped (s.rest.drop m) (u.rest.take k ++ z) := by
      have hself := Swapped.ofAppend hfirst (u.rest.drop k) z
      rw [List.take_append_drop] at hself
      exact henters.rest ▸ hself
    rw [hstep, htake, henters.swap _ hswapped, hhere, henters.here]
    refine hfinds.swap z ?_
    rwa [hrest]

/-! ## The word of an import -/

theorem stepSymbol_kind {kind : Kind} (hsymbol : ∀ mark, kind ≠ .symbol mark)
    (hinvalid : kind ≠ .invalid) : s.stepSymbol.1.piece ≠ .token kind := by
  have haccept : ∀ mark, Piece.token (.symbol mark) ≠ .token kind := fun mark h =>
    hsymbol mark (Piece.token.inj h).symm
  have hreject : Piece.token .invalid ≠ .token kind := fun h => hinvalid (Piece.token.inj h).symm
  unfold stepSymbol
  cases symbol? s.rest with
  | none => exact hreject
  | some found =>
    obtain ⟨mark, length⟩ := found
    cases mark with
    | rbrace | colon | colonEqual =>
      dsimp only
      split
      · split <;> first | exact haccept _ | exact hreject
      · exact haccept _
    | _ => exact haccept _

theorem stepNumber_kind {kind : Kind} (hnumber : ∀ form text, kind ≠ .number form text)
    (hinvalid : kind ≠ .invalid) : s.stepNumber.1.piece ≠ .token kind := by
  unfold stepNumber
  split
  · exact fun h => hnumber _ _ (Piece.token.inj h).symm
  · exact fun h => hinvalid (Piece.token.inj h).symm

theorem stepLineEnd_kind {kind : Kind} (hnewline : kind ≠ .newline) :
    (s.stepLineEnd n).1.piece ≠ .token kind := by
  unfold stepLineEnd
  split
  · exact fun h => hnewline (Piece.token.inj h).symm
  · exact fun h => nomatch h

/-- Behind the start of a word, only certain tokens are found by other means. -/
theorem stepCharacter_kind {c : Char} {t : List Char} (start : ¬isIdentifierStart c = true)
    (hrest : s.rest = c :: t) {kind : Kind} (hstring : ∀ form text, kind ≠ .string form text)
    (hopen : ∀ form, kind ≠ .replacementStart form)
    (hnumber : ∀ form text, kind ≠ .number form text) (hsymbol : ∀ mark, kind ≠ .symbol mark)
    (hnewline : kind ≠ .newline) (hinvalid : kind ≠ .invalid) :
    s.stepCharacter.1.piece ≠ .token kind := by
  unfold stepCharacter
  simp only [hrest, dif_neg start]
  split
  · exact stepNumber_kind hnumber hinvalid
  · split
    · intro h
      cases h
    · split
      · exact stepString_kind hstring hopen
      · split
        · exact stepNumber_kind hnumber hinvalid
        · split
          · exact stepLineEnd_kind hnewline
          · split
            · exact stepLineEnd_kind hnewline
            · exact stepSymbol_kind hsymbol hinvalid

/-- A keyword stands where it is found. -/
theorem stepCharacter_keyword {k : Keyword} (h : s.stepCharacter.1.piece = .token (.keyword k)) :
    s.stepCharacter = s.accept k.text.toList.length (.keyword k) ∧
      ∃ z, s.rest = k.text.toList ++ z ∧ Stops z := by
  cases hrest : s.rest with
  | nil =>
    unfold stepCharacter at h
    simp only [hrest] at h
    unfold stepEnd at h
    split at h
    · cases h
    · split at h
      · cases h
      · split at h <;> cases h
  | cons c t =>
    by_cases start : isIdentifierStart c = true
    · rw [stepCharacter_start start hrest] at h ⊢
      exact stepIdentifier_keyword h
    · exact absurd h (stepCharacter_kind start hrest (by simp) (by simp) (by simp) (by simp)
        (by simp) (by simp))

/-- The file ends where no character is left. -/
theorem rest_of_endOfFile (h : s.stepCharacter.1.piece = .token .endOfFile) : s.rest = [] := by
  cases hrest : s.rest with
  | nil => rfl
  | cons c t =>
    exfalso
    by_cases start : isIdentifierStart c = true
    · rw [stepCharacter_start start hrest] at h
      obtain hword | ⟨form, d, t', rfl, hd, hform⟩ | ⟨form, d, quote, t', rfl, hd, hquote, hform⟩ :=
        stepIdentifier_cases (s := s) c start t
      · rw [hword] at h
        unfold stepWord at h
        dsimp only at h
        split at h
        · split at h <;> cases h
        · cases h
      · rw [stepIdentifier_one hd hform] at h
        exact absurd h (stepString_kind (by simp) (by simp))
      · rw [stepIdentifier_two hd hquote hform] at h
        exact absurd h (stepString_kind (by simp) (by simp))
    · exact absurd h (stepCharacter_kind start hrest (by simp) (by simp) (by simp) (by simp)
        (by simp) (by simp))

/-- The file does not end within a line. -/
theorem stepCharacter_endOfFile (h : s.stepCharacter.1.piece = .token .endOfFile) :
    s.line ≠ .inside := by
  intro hline
  have hrest := rest_of_endOfFile h
  unfold stepCharacter at h
  simp only [hrest] at h
  unfold stepEnd at h
  simp only [hline, if_true] at h
  split at h <;> cases h

theorem step_endOfFile (hstrings : s.strings = []) (hpending : s.pending = none)
    (h : s.step.1.piece = .token .endOfFile) : s.line ≠ .inside := by
  intro hline
  rw [step_eq_stepCode hstrings hpending] at h
  unfold stepCode at h
  simp only [hline] at h
  rw [if_neg (by simp)] at h
  split at h
  · cases h
  · exact stepCharacter_endOfFile h hline

/-- **The word `pass` in the place of `from`** is found there as well. -/
theorem step_pass (hstrings : s.strings = []) (hpending : s.pending = none) {start stop : Nat}
    {next : Scanner} (h : s.step = (⟨.token (.keyword .«from»), start, stop, none⟩, next)) :
    ∃ m, s.rest.drop m = 'f' :: 'r' :: 'o' :: 'm' :: next.rest ∧ start = s.pos + m ∧
      stop = start + 4 ∧ ∀ z, Stops z →
        (s.before (s.rest.take m ++ 'p' :: 'a' :: 's' :: 's' :: z)).step =
          (⟨.token (.keyword .«pass»), start, stop, none⟩, next.before z) := by
  rw [step_eq_stepCode hstrings hpending] at h
  obtain ⟨m, u, henters⟩ := stepCode_enters (s := s) (by rw [h]) (by simp [h]) (by simp [h])
  rw [henters.here] at h
  obtain ⟨haccept, z₀, hspelled, -⟩ := stepCharacter_keyword (s := u) (k := .«from») (by rw [h])
  rw [h] at haccept
  obtain ⟨hlexeme, rfl⟩ := Prod.mk.inj haccept
  obtain ⟨-, rfl, rfl, -⟩ := Lexeme.mk.inj hlexeme
  have hfrom : u.rest = 'f' :: 'r' :: 'o' :: 'm' :: z₀ := hspelled
  have hrest : s.rest.drop m = 'f' :: 'r' :: 'o' :: 'm' :: z₀ := henters.rest ▸ hfrom
  refine ⟨m, ?_, henters.pos, rfl, fun z hz => ?_⟩
  · change _ = 'f' :: 'r' :: 'o' :: 'm' :: u.rest.drop 4
    rw [hrest, hfrom]
    rfl
  · have hcode := step_eq_stepCode (s := s.before (s.rest.take m ++ 'p' :: 'a' :: 's' :: 's' :: z))
      hstrings hpending
    rw [hcode, henters.swap _ (hrest ▸ .letter _ _),
      stepCharacter_pass (s := u.before _) rfl hz]
    rfl

/-! ## Where words go on -/

theorem symbol?_continue {c : Char} {t : List Char} (hc : isIdentifierContinue c = true) :
    symbol? (c :: t) = none := by
  unfold symbol?
  split
  all_goals first
    | rfl
    | (rename_i heq
       obtain ⟨rfl, -⟩ := List.cons.inj heq
       exact absurd hc (by decide))

/-- Where a word may go on, a step finds a token that ends no statement. -/
theorem stepCharacter_continue {c : Char} {t : List Char} (hrest : s.rest = c :: t)
    (hc : isIdentifierContinue c = true) (hfault : s.stepCharacter.1.fault = none) :
    ∃ kind, s.stepCharacter.1.piece = .token kind ∧ kind ≠ .newline ∧ kind ≠ .symbol .semi := by
  have hstring : ∀ letters form quote, ∃ kind,
      (s.stepString letters form quote).1.piece = .token kind ∧ kind ≠ .newline ∧
        kind ≠ .symbol .semi := by
    intro letters form quote
    unfold stepString
    extract_lets text triple form opening body
    split <;> exact ⟨_, rfl, by simp, by simp⟩
  by_cases start : isIdentifierStart c = true
  · rw [stepCharacter_start start hrest]
    obtain hword | ⟨form, d, t', rfl, hd, hform⟩ | ⟨form, d, quote, t', rfl, hd, hquote, hform⟩ :=
      stepIdentifier_cases (s := s) c start t
    · rw [hword]
      unfold stepWord
      dsimp only
      split
      · split <;> exact ⟨_, rfl, by simp, by simp⟩
      · exact ⟨_, rfl, by simp, by simp⟩
    · rw [stepIdentifier_one hd hform]
      exact hstring _ _ _
    · rw [stepIdentifier_two hd hquote hform]
      exact hstring _ _ _
  · unfold stepCharacter at hfault ⊢
    simp only [hrest, dif_neg start] at hfault ⊢
    have hne : ∀ {d : Char}, isIdentifierContinue d = false → c ≠ d := by
      rintro d hd rfl
      exact Bool.false_ne_true (hd.symm.trans hc)
    by_cases hdigit : c.isDigit = true
    · rw [if_pos hdigit] at hfault ⊢
      unfold stepNumber at hfault ⊢
      split
      · exact ⟨_, rfl, by simp, by simp⟩
      · rename_i hshape
        rw [hshape] at hfault
        cases hfault
    · have hquote : ¬isQuote c = true := by
        simp only [isQuote, Bool.or_eq_true, decide_eq_true_eq, not_or]
        exact ⟨hne (by decide), hne (by decide)⟩
      have hpoint : ¬(c = '.' && (t.head?.map Char.isDigit).getD false) = true := by
        simp only [Bool.and_eq_true, decide_eq_true_eq, not_and]
        exact fun h => absurd h (hne (by decide))
      rw [if_neg hdigit, if_neg (hne (by decide)), if_neg hquote, if_neg hpoint,
        if_neg (hne (by decide)), if_neg (hne (by decide))] at hfault
      unfold stepSymbol at hfault
      rw [hrest, symbol?_continue hc] at hfault
      cases hfault

/-- Behind a token that is followed by the end of its statement, no word goes on. -/
theorem stops_of_step (hstrings : s.strings = []) (hpending : s.pending = none)
    (hline : s.line = .inside) (hfault : s.step.1.fault = none)
    (hpiece : ∀ kind, s.step.1.piece = .token kind → kind = .newline ∨ kind = .symbol .semi) :
    Stops s.rest := by
  intro c t hrest
  refine Bool.eq_false_iff.2 fun hc => ?_
  have hne : ∀ {d : Char}, isIdentifierContinue d = false → c ≠ d := by
    rintro d hd rfl
    exact Bool.false_ne_true (hd.symm.trans hc)
  have hblanks : measureBlanks (c :: t) 0 = (0, false) := by
    have hslash : c ≠ '\\' := hne (by decide)
    rw [measureBlanks.eq_5 _ _ _ (fun _ h => absurd h hslash) (fun _ h => absurd h hslash)
      (fun _ h => absurd h hslash) hslash, if_neg]
    simp only [Bool.or_eq_true, decide_eq_true_eq, not_or]
    exact ⟨⟨hne (by decide), hne (by decide)⟩, hne (by decide)⟩
  have hstep : s.step = (s.advance 0).stepCharacter := by
    rw [step_eq_stepCode hstrings hpending]
    unfold stepCode
    simp only [hline, hrest, hblanks]
    rfl
  rw [hstep] at hfault hpiece
  obtain ⟨kind, hkind, hnewline, hsemi⟩ :=
    stepCharacter_continue (s := s.advance 0) hrest hc hfault
  exact (hpiece kind hkind).elim hnewline hsemi

end Scanner

end ScriptBundle.Python
