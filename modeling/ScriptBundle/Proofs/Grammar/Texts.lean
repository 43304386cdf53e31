import ScriptBundle.Proofs.Grammar.Taken

/-!
# Expressions that are texts

An expression that is nothing but a text is written as string literals in a row, with parentheses
around them or not.
-/

namespace ScriptBundle.Python

open Reading

def Token.IsText (t : Token) (text : List Char) : Prop :=
  ∃ form letters, t.kind = .string form letters ∧ StringText.decode form letters = .ok text ∧
    form.flavour ≠ .bytes

/-- Tokens that are string literals in a row, in so many parentheses, with their text. -/
inductive TextTokens : List Token → Nat → List Char → Prop
  | row {l : List Token} {texts : List (List Char)} (literals : List.Forall₂ Token.IsText l texts)
    (nonempty : l ≠ []) : TextTokens l 0 texts.flatten
  | parenthesized {l : List Token} {depth : Nat} {text : List Char} {opener closer : Token}
    (opened : opener.kind = .symbol .lpar) (inner : TextTokens l depth text)
    (closed : closer.kind = .symbol .rpar) :
    TextTokens (opener :: (l ++ [closer])) (depth + 1) text

/-- The first token and the text of an expression that is nothing else. -/
def Expr.text? : Expr → Option (Nat × List Char)
  | .constant p (.text value) => some (p, value)
  | _ => none

/-- If an expression is a text, the tokens that it was read from are one. -/
def TextRead (tokens : List Token) (c : Cursor) (a : Expr) (e : Cursor) : Prop :=
  ∀ p text, a.text? = some (p, text) →
    e.On tokens ∧ ∃ l depth, TextTokens l depth text ∧ c.Took l e ∧ p = c.number + depth

theorem TextRead.of_none {tokens : List Token} {c e : Cursor} {a : Expr} (h : a.text? = none) :
    TextRead tokens c a e := by
  intro p text ha
  rw [h] at ha
  cases ha

def Kind.startsString : Kind → Bool
  | .string _ _ | .replacementStart _ => true
  | _ => false

/-- Tokens that stand behind a text. -/
def Kind.EndsText (kind : Kind) : Prop :=
  kind = .symbol .rpar ∨ kind = .symbol .semi ∨ kind = .newline

namespace Rules

variable {G : Rules} {tokens : List Token} {c : Cursor}

theorem strings_eq (G : Rules) : G.strings =
    here >>= fun p => whileAt Kind.startsString G.literal >>= joinLiterals p := rfl

/-! ## What is no text -/

/-- A reading gives no text. -/
def NoText : Reading Expr → Prop := Yields fun a => a.text? = none

/-- The same of a reading that knows about parentheses. -/
def NoParsedText : Reading Parsed → Prop := Yields fun a => a.expr.text? = none

theorem noText_subscript (pos : Nat) (value : Expr) :
    NoText (G.subscript pos value) := by
  -- Behind the slices stand the same tokens, whether the first one is empty or not.
  refine .bind fun _ => .bind fun p => .bind fun b => .ite (.bind fun _ => ?_) ?_
  all_goals
    refine .bind fun first => .bind fun b => .ite ?_ ?_
    · exact .bind fun others => .bind fun index => .bind fun _ => .pure rfl
    · exact .bind fun index => .bind fun _ => .pure rfl

theorem noText_trailers (pos fuel : Nat) {a : Expr} (ha : a.text? = none) :
    NoText (G.trailers pos fuel a) := by
  induction fuel generalizing a with
  | zero => exact .fault
  | succ fuel ih =>
    refine .bind fun kind => ?_
    split
    · exact .bind fun arguments => ih rfl
    · exact .bind_of (noText_subscript pos a) fun b hb => ih hb
    · exact .bind fun _ => .bind fun name => ih rfl
    · exact .pure ha

theorem noParsedText_operators (outer : Precedence) (context : ExprContext) (pos fuel : Nat)
    {left : Parsed} (hleft : left.expr.text? = none) :
    NoParsedText (G.operators outer context pos fuel left) := by
  induction fuel generalizing left with
  | zero => exact .fault
  | succ fuel ih =>
    unfold Rules.operators
    refine .bind fun kinds => .ite (.pure hleft) ?_
    split
    · exact .pure hleft
    · refine .ite (.pure hleft) ?_
      split
      · exact .bind fun _ => .bind fun _ => .bind fun others => ih rfl
      · exact .bind fun _ => .bind fun _ => .bind fun others => ih rfl
      · exact .bind fun _ => .bind fun right => ih rfl

theorem noParsedText_tupleRest (first : Expr) (pos : Nat) (parens : Bool) (item : Reading Parsed) :
    NoParsedText (tupleRest first pos parens item) := by
  have hbehind : NoParsedText (do
      let elements ← listOf (.tupleElements parens) (return (← item).expr)
      if parens then expectSymbol .rpar
      return ⟨.tuple pos (first :: elements) parens, false⟩) :=
    .bind fun elements => .ite (.bind fun _ => .pure rfl) (.pure rfl)
  exact .bind fun kind => .ite hbehind (.bind fun _ => hbehind)

theorem noParsedText_generatorRest (element : Parsed) (pos : Nat) :
    NoParsedText (G.generatorRest element pos) :=
  .ite (.bind fun _ => .bind fun _ => .pure rfl) (.bind fun _ => .pure rfl)

theorem noParsedText_lambda : NoParsedText G.lambda := by
  refine .bind fun p => .bind fun _ => .bind fun b => .ite ?_ ?_
  all_goals exact .bind fun parameters => .bind fun _ => .bind fun body => .pure rfl

theorem noText_yieldExpression : NoText G.yieldExpression := by
  refine .bind fun p => .bind fun _ => .bind fun b => .ite ?_ (.bind fun b => .ite ?_ ?_)
  · refine .bind fun value => ?_
    split
    · exact .refuseAt
    · exact .pure rfl
  · exact .bind fun value => .pure rfl
  · exact .pure rfl

theorem noText_listDisplay : NoText G.listDisplay := by
  refine .bind fun p => .bind fun _ => .bind fun _ => .bind fun b => .ite (.pure rfl) ?_
  refine .bind fun first => .bind fun b => .ite (.ite ?_ ?_) ?_
  · exact .bind fun _ => .bind fun clauses => .bind fun _ => .pure rfl
  · exact .bind fun clauses => .bind fun _ => .pure rfl
  · exact .bind fun elements => .bind fun _ => .pure rfl

theorem noText_dictRest (pos : Nat) (first : DictItem) :
    NoText (G.dictRest pos first) := by
  refine .bind fun kind => .ite ?_ (.bind fun _ => ?_)
  all_goals exact .bind fun others => .bind fun _ => .pure rfl

theorem noText_braceDisplay : NoText G.braceDisplay := by
  refine .bind fun p => .bind fun _ => .bind fun _ => .bind fun b => .ite (.pure rfl) ?_
  refine .bind fun b => .ite (.bind fun value => ?_) (.bind fun first => .bind fun b => ?_)
  · exact noText_dictRest _ _
  · have hset : NoText (do
        let clauses ← G.comprehensionClauses
        expectSymbol .rbrace
        return .comprehension p .set first.expr none clauses) :=
      .bind fun _ => .bind fun _ => .pure rfl
    have hdict : NoText (do
        bump
        let value ← G.conditional .plain
        if ← atComprehension then
          let clauses ← G.comprehensionClauses
          expectSymbol .rbrace
          return .comprehension p .dict first.expr (some value.expr) clauses
        else G.dictRest p (.pair first.expr value.expr)) := by
      refine .bind fun _ => .bind fun value => .bind fun b => .ite ?_ (noText_dictRest _ _)
      exact .bind fun _ => .bind fun _ => .pure rfl
    refine .ite (.ite (.bind fun _ => hset) hset) (.bind fun b => .ite ?_ ?_)
    · refine .ite ?_ hdict
      split
      · exact .bind fun _ => hdict
      · exact .bind fun _ => hdict
      · exact hdict
    · exact .bind fun elements => .bind fun _ => .pure rfl

/-! ## What is read as a text -/

/-- Literals without bytes and fields are texts. -/
theorem exists_texts {literals : List Literal} (h : ∀ literal ∈ literals, ∃ text, literal = .text text) :
    ∃ texts : List (List Char), literals = texts.map Literal.text := by
  induction literals with
  | nil => exact ⟨[], rfl⟩
  | cons literal rest ih =>
    obtain ⟨text, rfl⟩ := h literal (by simp)
    obtain ⟨texts, rfl⟩ := ih fun x hx => h x (by simp [hx])
    exact ⟨text :: texts, rfl⟩

/-- Where a row of literals is a text, it is the texts of the literals. -/
theorem gives_joinLiterals (pos : Nat) (literals : List Literal) :
    Gives (joinLiterals pos literals) c fun a e => e = c ∧ ∀ p text, a.text? = some (p, text) →
      p = pos ∧ ∃ texts : List (List Char), literals = texts.map Literal.text ∧
        text = texts.flatten := by
  unfold joinLiterals
  refine .ite (fun _ => .ite (fun _ => ?_) fun _ => .refuseAt) fun hbytes => ?_
  · exact .pure ⟨rfl, fun p text h => nomatch h⟩
  · refine .ite (fun _ => .refuseAt) fun _ => .ite (fun _ => ?_) fun hfields => ?_
    · exact .pure ⟨rfl, fun p text h => nomatch h⟩
    · obtain ⟨texts, rfl⟩ : ∃ texts : List (List Char), literals = texts.map Literal.text := by
        apply exists_texts
        intro literal hliteral
        cases literal with
        | text text => exact ⟨text, rfl⟩
        | bytes => exact absurd (List.any_eq_true.2 ⟨_, hliteral, rfl⟩) hbytes
        | interpolated => exact absurd (List.any_eq_true.2 ⟨_, hliteral, rfl⟩) hfields
      refine .pure ⟨rfl, ?_⟩
      intro p text h
      cases h
      refine ⟨rfl, texts, rfl, ?_⟩
      rw [List.flatMap_map]
      exact List.flatMap_id'

theorem gives_literal (hclosed : Closed tokens) (hc : c.On tokens) (hsees : c.cutOff = false) :
    Gives G.literal c fun literal e => ∀ text, literal = .text text →
      e.On tokens ∧ ∃ t, t.IsText text ∧ c.Took [t] e := by
  refine .peek_bind ?_
  split
  · rename_i form letters hkind
    split
    · rename_i value hvalue
      obtain ⟨t, ht, htook, hon⟩ := hc.took hclosed hsees (by simp [hkind])
      refine .bump_bind (.pure ?_)
      intro text htext
      split at htext
      · cases htext
      · rename_i hbytes
        cases htext
        exact ⟨hon, t, ⟨form, letters, ht.trans hkind, hvalue, hbytes⟩, htook⟩
    · exact .here_bind .fault
  · refine .bump_bind (Gives.any.bind fun d _ _ => Gives.any.bind fun parts _ _ => .peek_bind ?_)
    split
    · refine .bump_bind (.pure ?_)
      intro text htext
      cases htext
    · exact .refuse
  · exact .refuse

/-- A loop keeps what was read before. -/
theorem gives_whileAtLoop_started {α : Type} {test : Kind → Bool} {item : Reading α} (fuel : Nat)
    (done : List α) : Yields (fun l => done.reverse <+: l) (whileAtLoop test item fuel done) := by
  induction fuel generalizing done with
  | zero => exact .fault
  | succ fuel ih =>
    refine .bind fun kind => .ite (.bind fun a => ?_) (.pure (List.prefix_refl _))
    intro c
    refine (ih (a :: done) c).mono fun l _ hl => ?_
    rw [List.reverse_cons] at hl
    exact (List.prefix_append _ _).trans hl

theorem gives_literals (hclosed : Closed tokens) (fuel : Nat) (done : List Literal)
    (hc : c.On tokens) (hsees : c.cutOff = false) :
    Gives (whileAtLoop Kind.startsString G.literal fuel done) c fun literals e =>
      (∀ literal ∈ literals, ∃ text, literal = .text text) →
        e.On tokens ∧ e.kind.startsString = false ∧ ∃ l texts,
          literals = done.reverse ++ texts.map Literal.text ∧
            List.Forall₂ Token.IsText l texts ∧ c.Took l e := by
  induction fuel generalizing c done with
  | zero => exact .fault
  | succ fuel ih =>
    refine .peek_bind (.ite (fun _ => ?_) fun hend => ?_)
    · refine (gives_literal hclosed hc hsees).bind fun literal e hliteral => ?_
      by_cases htext : ∃ text, literal = .text text
      · obtain ⟨text, rfl⟩ := htext
        obtain ⟨he, t, ht, htook⟩ := hliteral text rfl
        refine (ih (.text text :: done) he htook.sees').mono fun literals e' h hall => ?_
        obtain ⟨he', hend, l, texts, rfl, hl, htook'⟩ := h hall
        refine ⟨he', hend, t :: l, text :: texts, ?_, .cons ht hl, htook.trans htook'⟩
        simp
      · refine (gives_whileAtLoop_started fuel (literal :: done) e).mono fun literals e' h hall => ?_
        exact absurd (hall literal (h.subset (by simp))) htext
    · refine .pure fun _ => ⟨hc, by simpa using hend, [], [], ?_, .nil, .refl hsees⟩
      simp

/-- What is read of a row of literals, if it is a text. -/
theorem gives_strings (hclosed : Closed tokens) (hc : c.On tokens) (hsees : c.cutOff = false)
    (hkind : c.kind.startsString = true) :
    Gives G.strings c fun a e => TextRead tokens c a e := by
  rw [strings_eq]
  refine .here_bind (Gives.bind (.rounds_bind (gives_literals hclosed _ [] hc hsees)) ?_)
  intro literals e h
  refine (gives_joinLiterals c.number literals).mono ?_
  rintro a _ ⟨rfl, hjoined⟩ p text ha
  obtain ⟨rfl, texts, rfl, rfl⟩ := hjoined p text ha
  obtain ⟨he, hend, l, texts', htexts, hl, htook⟩ := h (by simp)
  obtain rfl : texts = texts' :=
    (List.map_injective_iff.2 fun _ _ h => Literal.text.inj h) (by simpa using htexts)
  refine ⟨he, l, 0, .row hl ?_, htook, rfl⟩
  rintro rfl
  rw [htook.eq_of_nil, hkind] at hend
  cases hend

theorem gives_trailers (pos fuel : Nat) (a : Expr) :
    Gives (G.trailers pos fuel a) c fun b e => b.text? = none ∨ b = a ∧ e = c := by
  cases fuel with
  | zero => exact .fault
  | succ fuel =>
    have hbehind : ∀ b : Expr, b.text? = none → ∀ d,
        Gives (G.trailers pos fuel b) d fun b e => b.text? = none ∨ b = a ∧ e = c :=
      fun b hb d => (noText_trailers pos fuel hb d).mono fun _ _ h => .inl h
    refine .peek_bind ?_
    split
    · exact Gives.any.bind fun arguments d _ => hbehind _ rfl d
    · exact (noText_subscript pos a c).bind fun b d hb => hbehind b hb d
    · exact .bump_bind (Gives.any.bind fun name d _ => hbehind _ rfl d)
    · exact .pure (.inr ⟨rfl, rfl⟩)

theorem gives_operators (outer : Precedence) (context : ExprContext) (pos fuel : Nat)
    (left : Parsed) : Gives (G.operators outer context pos fuel left) c fun a e =>
      a.expr.text? = none ∨ a = left ∧ e = c := by
  cases fuel with
  | zero => exact .fault
  | succ fuel =>
    have hstay : Gives (pure left) c fun a e => a.expr.text? = none ∨ a = left ∧ e = c :=
      .pure (.inr ⟨rfl, rfl⟩)
    have hbehind : ∀ b : Parsed, b.expr.text? = none → ∀ d,
        Gives (G.operators outer context pos fuel b) d fun a e =>
          a.expr.text? = none ∨ a = left ∧ e = c :=
      fun b hb d => (noParsedText_operators outer context pos fuel hb d).mono fun _ _ h => .inl h
    unfold Rules.operators
    refine .peek3_bind (.ite (fun _ => hstay) fun _ => ?_)
    split
    · exact hstay
    · refine .ite (fun _ => hstay) fun _ => ?_
      split
      · refine Gives.any.bind fun _ d _ => Gives.any.bind fun _ d _ => ?_
        exact Gives.any.bind fun others d _ => hbehind _ rfl d
      · refine Gives.any.bind fun _ d _ => Gives.any.bind fun _ d _ => ?_
        exact Gives.any.bind fun others d _ => hbehind _ rfl d
      · exact Gives.any.bind fun _ d _ => Gives.any.bind fun right d _ => hbehind _ rfl d

theorem gives_atComprehension_bind {α : Type} {onFound : Bool → Reading α}
    {Q : α → Cursor → Prop} (h : ∀ b, Gives (onFound b) c Q) :
    Gives (atComprehension >>= onFound) c Q :=
  h (c.kind = .keyword .«for» || c.kind = .keyword .«async»)

/-- A reading gives a text only where the tokens it reads are one. -/
def ReadsTexts (tokens : List Token) (r : Reading Parsed) : Prop :=
  ∀ c, c.On tokens → c.cutOff = false → Gives r c fun a e => TextRead tokens c a.expr e

section Rule

variable (hclosed : Closed tokens) (h : ∀ context, ReadsTexts tokens (G.conditional context))
include h

theorem readsTexts_namedExpression (context : ExprContext) :
    ReadsTexts tokens (G.namedExpression context) := by
  intro c hc hsees
  refine (h context c hc hsees).bind fun a e ha => .eat_bind (fun _ => ?_) fun _ => .pure ha
  rw [if_pos rfl]
  split
  · exact Gives.any.bind fun value d _ => .pure (.of_none rfl)
  · exact .refuseAt

theorem readsTexts_expressionList (context : ExprContext) :
    ReadsTexts tokens (G.expressionList context) := by
  intro c hc hsees
  refine .here_bind ((h context c hc hsees).bind fun a d ha => .at?_bind (.ite (fun _ => ?_) ?_))
  · exact (noParsedText_tupleRest _ _ _ _ d).mono fun _ _ ha => .of_none ha
  · exact fun _ => .pure ha

include hclosed

theorem readsTexts_parenthesized : ReadsTexts tokens G.parenthesized := by
  intro c hc hsees
  refine .here_bind (.expect_bind fun hopen => ?_)
  obtain ⟨t, ht, htook, hon⟩ := hc.took hclosed hsees (by simp [hopen])
  have hlineEnd : Gives refuseLineEnd c.bumped fun _ e => e = c.bumped := by
    refine .peek_bind ?_
    split
    · exact .refuse
    · exact .refuse
    · exact .pure rfl
  refine hlineEnd.bind ?_
  rintro _ _ rfl
  refine .eat_bind (fun _ => .pure (.of_none rfl)) fun _ => ?_
  refine (readsTexts_namedExpression h _ c.bumped hon htook.sees').bind fun a e ha => ?_
  refine .at?_bind (.ite (fun _ => ?_) fun _ => ?_)
  · exact (noParsedText_tupleRest _ _ _ _ e).mono fun _ _ h => .of_none h
  · refine gives_atComprehension_bind fun b => .ite (fun _ => ?_) fun _ => ?_
    · refine (noParsedText_generatorRest a c.number e).bind fun b d hb => ?_
      exact Gives.any.bind fun _ _ _ => .pure (.of_none hb)
    · have hclose : Gives (expectSymbol .rpar >>= fun _ => pure (⟨a.expr, true⟩ : Parsed)) e
          fun a e => TextRead tokens c a.expr e := by
        refine .expect_bind fun hclose => .pure ?_
        intro p text htext
        obtain ⟨he, l, depth, hl, htook', rfl⟩ := ha p text htext
        obtain ⟨u, hu, htook'', hon'⟩ := he.took hclosed htook'.sees' (by simp [hclose])
        refine ⟨hon', t :: (l ++ [u]), depth + 1, ?_, (htook.trans htook').trans htook'', ?_⟩
        · exact .parenthesized (ht.trans hopen) hl (hu.trans hclose)
        · rw [htook.number, List.length_singleton]
          omega
      split
      · exact .refuseAt_bind
      · exact hclose

theorem readsTexts_atom : ReadsTexts tokens G.atom := by
  intro c hc hsees
  have hconstant : ∀ value : Constant, (Expr.constant c.number value).text? = none →
      Gives (bump >>= fun _ => pure (⟨.constant c.number value, false⟩ : Parsed)) c
        fun a e => TextRead tokens c a.expr e :=
    fun value hvalue => .bump_bind (.pure (.of_none hvalue))
  have hstrings : c.kind.startsString = true →
      Gives (G.strings >>= fun a => pure (⟨a, false⟩ : Parsed)) c
        fun a e => TextRead tokens c a.expr e :=
    fun hkind => (gives_strings hclosed hc hsees hkind).bind fun a e ha => .pure ha
  refine .here_bind (.peek_bind ?_)
  split
  · exact hconstant _ rfl
  · exact hconstant _ rfl
  · exact hconstant _ rfl
  · exact hconstant _ rfl
  · exact hconstant _ rfl
  · exact hstrings (by simp [Kind.startsString, *])
  · exact hstrings (by simp [Kind.startsString, *])
  · exact readsTexts_parenthesized hclosed h c hc hsees
  · exact (noText_listDisplay c).bind fun a e ha => .pure (.of_none ha)
  · exact (noText_braceDisplay c).bind fun a e ha => .pure (.of_none ha)
  · exact Gives.any.bind fun name e _ => .pure (.of_none rfl)

theorem readsTexts_operandStart (outer : Precedence) (context : ExprContext) :
    ReadsTexts tokens (G.operandStart outer context) := by
  intro c hc hsees
  have hnone : ∀ (a : Parsed), a.expr.text? = none → ∀ d,
      Gives (pure a) d fun a e => TextRead tokens c a.expr e := fun a ha d => .pure (.of_none ha)
  refine .here_bind (.peek_bind ?_)
  split
  · refine .bump_bind (Gives.any.bind fun operand d _ => .ite (fun _ => .refuseAt_bind) fun _ => ?_)
    exact hnone _ rfl d
  · split
    · refine .bump_bind ?_
      extract_lets -underBinder rest
      have hrest : ∀ value d, Gives (rest value) d fun a e => TextRead tokens c a.expr e :=
        fun value d => .ite (fun _ => .refuseAt_bind) fun _ => hnone _ rfl d
      match context.starred with
      | some .bitwiseOr | some .conditional | none =>
        exact Gives.any.bind fun value d _ => hrest value d
    · refine .bump_bind (Gives.any.bind fun value d _ => .ite (fun _ => .refuseAt_bind) fun _ => ?_)
      exact hnone _ rfl d
    · exact Gives.any.bind fun _ _ _ => .refuseAt
    · refine (noText_yieldExpression c).bind fun a d ha => .ite (fun _ => .refuseAt_bind) fun _ => ?_
      exact hnone ⟨a, false⟩ ha d
    · refine (readsTexts_atom hclosed h c hc hsees).bind fun a e ha => .rounds_bind ?_
      refine (gives_trailers c.number _ a.expr).bind fun b d hb => .pure ?_
      obtain hb | ⟨rfl, rfl⟩ := hb
      · exact .of_none hb
      · exact ha

theorem readsTexts_conditionalRule (context : ExprContext) :
    ReadsTexts tokens (G.conditionalRule context) := by
  intro c hc hsees
  have hoperand : Gives (G.operandRule .lowest context) c fun a e => TextRead tokens c a.expr e := by
    refine .here_bind ((readsTexts_operandStart hclosed h _ _ c hc hsees).bind fun left d hleft => ?_)
    refine .rounds_bind ((gives_operators _ _ _ _ left).mono fun a e ha => ?_)
    obtain ha | ⟨rfl, rfl⟩ := ha
    · exact .of_none ha
    · exact hleft
  refine .at?_bind (.ite (fun _ => ?_) fun _ => .here_bind (hoperand.bind fun a d ha => ?_))
  · exact (noParsedText_lambda c).mono fun _ _ ha => .of_none ha
  · refine .eat_bind (fun _ => ?_) fun _ => .pure ha
    refine Gives.any.bind fun test d _ => Gives.any.bind fun _ d _ => ?_
    exact Gives.any.bind fun otherwise d _ => .pure (.of_none rfl)

end Rule

/-- **Texts are read from string literals**, whatever the levels. -/
theorem upTo_readsTexts (hclosed : Closed tokens) (depth : Nat) (context : ExprContext) :
    ReadsTexts tokens ((upTo depth).conditional context) := by
  induction depth generalizing context with
  | zero => exact fun _ _ _ => .fault
  | succ depth ih => exact readsTexts_conditionalRule hclosed ih context

/-! ## Texts that are read again -/

variable {e : Cursor} {l : List Token} {t : Token} {text : List Char} {texts : List (List Char)}

theorem literal_of_isText (ht : t.IsText text) (h : c.Took (t :: l) e) :
    G.literal c = .ok (.text text, c.bumped) := by
  obtain ⟨form, letters, hkind, hdecode, hbytes⟩ := ht
  unfold Rules.literal
  rw [peek_bind_apply, h.kind_eq, hkind]
  simp only [hdecode, hbytes, if_false]
  rfl

theorem literals_of_row (hl : List.Forall₂ Token.IsText l texts) (h : c.Took l e)
    (hend : e.kind.startsString = false) (he : e.rest ≠ []) {fuel : Nat} (hfuel : l.length < fuel)
    (done : List Literal) : whileAtLoop Kind.startsString G.literal fuel done c =
      .ok (done.reverse ++ texts.map Literal.text, e) := by
  induction hl generalizing c fuel done with
  | nil =>
    obtain ⟨fuel, rfl⟩ : ∃ n, fuel = n + 1 := ⟨fuel - 1, by omega⟩
    obtain rfl := h.eq_of_nil
    rw [whileAtLoop, peek_bind_apply, hend, List.map_nil, List.append_nil]
    rfl
  | @cons t text l texts ht _ ih =>
    obtain ⟨fuel, rfl⟩ : ∃ n, fuel = n + 1 := ⟨fuel - 1, by omega⟩
    obtain ⟨form, letters, hkind, -⟩ := id ht
    have hstart : c.kind.startsString = true := by
      rw [h.kind_eq, hkind]
      rfl
    rw [List.length_cons] at hfuel
    rw [whileAtLoop, peek_bind_apply, if_pos hstart, bind_of_ok (literal_of_isText ht h),
      ih (h.bumped he) (by omega) (.text text :: done)]
    simp

theorem joinLiterals_texts (pos : Nat) :
    joinLiterals pos (texts.map Literal.text) c = .ok (.constant pos (.text texts.flatten), c) := by
  have hnone : ∀ p : Literal → Bool, (∀ text, p (.text text) = false) →
      (texts.map Literal.text).any p = false := by
    intro p hp
    rw [List.any_map, List.any_eq_false]
    intro text _
    simp [hp]
  unfold joinLiterals
  rw [hnone, hnone, hnone, List.flatMap_map]
  · rw [if_neg (by simp), if_neg (by simp), if_neg (by simp)]
    exact congrArg (fun text => Except.ok (Expr.constant pos (.text text), c)) List.flatMap_id'
  all_goals exact fun _ => rfl

/-- A row of string literals is read as their text. -/
theorem strings_of_row (hl : List.Forall₂ Token.IsText l texts) (h : c.Took l e)
    (hend : e.kind.startsString = false) (he : e.rest ≠ []) (htotal : c.number + l.length ≤ c.total) :
    G.strings c = .ok (.constant c.number (.text texts.flatten), e) := by
  rw [strings_eq, here_bind_apply]
  unfold whileAt
  have hloop := literals_of_row (G := G) hl h hend he
    (show l.length < c.total - c.number + 2 by omega) []
  rw [bind_assoc, rounds_bind_apply, bind_of_ok hloop]
  exact joinLiterals_texts c.number

/-! Behind an atom there may be trailers and operators, but not at the end of a text. -/

section Ends

variable {a : Parsed} (he : e.kind.EndsText)
include he

theorem trailers_of_ends (pos fuel : Nat) (a : Expr) :
    G.trailers pos (fuel + 1) a e = .ok (a, e) := by
  unfold Rules.trailers
  rw [peek_bind_apply]
  obtain h | h | h := he <;> rw [h] <;> rfl

theorem operators_of_ends (outer : Precedence) (context : ExprContext) (pos fuel : Nat) :
    G.operators outer context pos (fuel + 1) a e = .ok (a, e) := by
  have hin : e.kind ≠ .keyword .«in» := by
    obtain h | h | h := he <;> simp [h]
  have hend : operator? e.kind (e.kindAt 1) = none := by
    obtain h | h | h := he <;> rw [h] <;> rfl
  unfold Rules.operators
  rw [peek3_bind_apply]
  dsimp only
  rw [if_neg (by simp [hin]), hend]
  rfl

variable (hkind : c.kind.startsString = true ∨ c.kind = .symbol .lpar)
  (hatom : G.atom c = .ok (a, e))
include hkind hatom

theorem operandStart_of_atom (outer : Precedence) (context : ExprContext) :
    G.operandStart outer context c = .ok (a, e) := by
  have hunary : unaryOp? c.kind = none := by
    obtain h | h := hkind
    · cases hc : c.kind <;> simp [hc, Kind.startsString, unaryOp?] at h ⊢
    · rw [h]
      rfl
  have hbehind : (G.atom >>= fun a => do return ⟨← G.trailers c.number (← rounds) a.expr, a.parens⟩)
      c = .ok (a, e) := by
    rw [bind_of_ok hatom, rounds_bind_apply, bind_of_ok (trailers_of_ends he _ _ _)]
    rfl
  unfold Rules.operandStart
  rw [here_bind_apply, peek_bind_apply, hunary]
  cases hc : c.kind with
  | string => exact hbehind
  | replacementStart => exact hbehind
  | symbol mark =>
    obtain h | h := hkind
    · rw [hc] at h
      cases h
    · rw [hc] at h
      cases h
      exact hbehind
  | _ => simp [hc, Kind.startsString] at hkind

theorem conditionalRule_of_atom (context : ExprContext) :
    G.conditionalRule context c = .ok (a, e) := by
  have hlambda : c.kind ≠ .keyword .«lambda» := by
    obtain h | h := hkind
    · intro hlambda
      rw [hlambda] at h
      cases h
    · simp [h]
  have hif : e.kind ≠ .keyword .«if» := by
    obtain h | h | h := he <;> simp [h]
  have hoperand : G.operandRule .lowest context c = .ok (a, e) := by
    unfold Rules.operandRule
    rw [here_bind_apply, bind_of_ok (operandStart_of_atom he hkind hatom _ _), rounds_bind_apply]
    exact operators_of_ends he _ _ _ _
  unfold Rules.conditionalRule atKeyword eatKeyword
  rw [at?_bind_of_ne hlambda, if_neg (by simp), here_bind_apply, bind_of_ok hoperand,
    eat_bind_of_ne hif]
  rfl

end Ends

/-- A text in parentheses is read where the text is. -/
theorem parenthesized_of_text {pos : Nat} {parens : Bool} {d : Cursor} (hopen : c.kind = .symbol .lpar)
    (hinner : G.conditional .yieldOrStarred c.bumped = .ok (⟨.constant pos (.text text), parens⟩, d))
    (hstart : c.bumped.kind.startsString = true ∨ c.bumped.kind = .symbol .lpar)
    (hclose : d.kind = .symbol .rpar) :
    G.parenthesized c = .ok (⟨.constant pos (.text text), true⟩, d.bumped) := by
  have hlineEnd : refuseLineEnd c.bumped = .ok ((), c.bumped) := by
    unfold refuseLineEnd
    rw [peek_bind_apply]
    obtain h | h := hstart
    · cases hc : c.bumped.kind <;> simp [hc, Kind.startsString] at h <;> rfl
    · rw [h]
      rfl
  have hnonempty : c.bumped.kind ≠ .symbol .rpar := by
    obtain h | h := hstart
    · intro hrpar
      rw [hrpar] at h
      cases h
    · simp [h]
  have hnamed : G.namedExpression .yieldOrStarred c.bumped =
      .ok (⟨.constant pos (.text text), parens⟩, d) := by
    unfold Rules.namedExpression eatSymbol
    rw [bind_of_ok hinner, eat_bind_of_ne (by simp [hclose])]
    rfl
  have hcomprehension : atComprehension d = .ok (false, d) := by
    have happly : atComprehension d = .ok
        (decide (d.kind = .keyword .«for») || decide (d.kind = .keyword .«async»), d) := rfl
    rw [happly]
    simp [hclose]
  unfold Rules.parenthesized expectSymbol eatSymbol atSymbol
  rw [here_bind_apply, expect_bind_of_eq hopen, bind_of_ok hlineEnd, eat_bind_of_ne hnonempty,
    if_neg (by simp), bind_of_ok hnamed, at?_bind_of_ne (by simp [hclose]), if_neg (by simp),
    bind_of_ok hcomprehension, if_neg (by simp)]
  exact expect_bind_of_eq hclose

theorem atom_of_strings {a : Expr} (hkind : c.kind.startsString = true)
    (h : G.strings c = .ok (a, e)) : G.atom c = .ok (⟨a, false⟩, e) := by
  have hbehind : (G.strings >>= fun a => pure (⟨a, false⟩ : Parsed)) c = .ok (⟨a, false⟩, e) :=
    bind_of_ok h
  unfold Rules.atom
  rw [here_bind_apply, peek_bind_apply]
  cases hc : c.kind with
  | string => exact hbehind
  | replacementStart => exact hbehind
  | _ =>
    rw [hc] at hkind
    cases hkind

theorem atom_of_lpar (hkind : c.kind = .symbol .lpar) : G.atom c = G.parenthesized c := by
  unfold Rules.atom
  rw [here_bind_apply, peek_bind_apply, hkind]

theorem rest_ne_nil_of_endsText (he : e.kind.EndsText) : e.rest ≠ [] := by
  apply Cursor.rest_ne_nil
  obtain h | h | h := he <;> simp [h]

/-- The first token of a text. -/
theorem start_of_text {depth : Nat} (h : TextTokens l depth text) (htook : c.Took l e) :
    c.kind.startsString = true ∨ c.kind = .symbol .lpar := by
  cases h with
  | row literals nonempty =>
    cases literals with
    | nil => exact absurd rfl nonempty
    | cons ht _ =>
      obtain ⟨form, letters, hkind, -⟩ := ht
      rw [htook.kind_eq, hkind]
      exact .inl rfl
  | parenthesized opened inner closed => exact .inr (htook.kind_eq.trans opened)

/-- **String literals are read as a text** in front of whatever ends one, if there are levels
enough. -/
theorem upTo_conditional_of_text {depth levels : Nat} (hl : TextTokens l depth text)
    (h : c.Took l e) (he : e.kind.EndsText) (htotal : c.number + l.length ≤ c.total)
    (hlevels : l.length ≤ levels) :
    ∃ parens, (upTo levels).conditional .yieldOrStarred c =
      .ok (⟨.constant (c.number + depth) (.text text), parens⟩, e) := by
  have hstart := start_of_text hl h
  have hrest := rest_ne_nil_of_endsText he
  induction hl generalizing c e levels with
  | @row l texts literals nonempty =>
    obtain ⟨levels, rfl⟩ : ∃ n, levels = n + 1 :=
      ⟨levels - 1, by have := List.length_pos_iff.2 nonempty; omega⟩
    have hend : e.kind.startsString = false := by
      obtain h | h | h := he <;> rw [h] <;> rfl
    have hkind : c.kind.startsString = true := by
      cases literals with
      | nil => exact absurd rfl nonempty
      | cons ht _ =>
        obtain ⟨form, letters, hkind, -⟩ := ht
        rw [h.kind_eq, hkind]
        rfl
    have hstrings := strings_of_row (G := upTo levels) literals h hend hrest htotal
    exact ⟨false, conditionalRule_of_atom he hstart (atom_of_strings hkind hstrings) _⟩
  | @parenthesized l depth text opener closer opened inner closed ih =>
    rw [List.length_cons, List.length_append, List.length_singleton] at htotal hlevels
    obtain ⟨levels, rfl⟩ : ∃ n, levels = n + 1 := ⟨levels - 1, by omega⟩
    have hc : c.kind = .symbol .lpar := h.kind_eq.trans opened
    have hbumped := h.bumped hrest
    obtain ⟨d, hinner, hcloser⟩ := hbumped.split
    have hd : d.kind = .symbol .rpar := hcloser.kind_eq.trans closed
    have hstart' := start_of_text inner hinner
    have hnumber : c.bumped.number = c.number + 1 := by
      have := h.number
      have := hbumped.number
      simp only [List.length_cons, List.length_append] at *
      omega
    have htotal' : c.bumped.total = c.total := hbumped.total.symm.trans h.total
    obtain ⟨parens, hread⟩ := ih hinner (.inl hd) (by omega) (show l.length ≤ levels by omega)
      hstart' (Cursor.rest_ne_nil (by simp [hd]))
    have hparenthesized := parenthesized_of_text hc hread hstart' hd
    rw [(hcloser.bumped hrest).eq_of_nil.symm, hnumber, Nat.add_assoc, Nat.add_comm 1,
      ← atom_of_lpar hc] at hparenthesized
    exact ⟨true, conditionalRule_of_atom he hstart hparenthesized _⟩

end Rules

end ScriptBundle.Python
