import ScriptBundle.Proofs.Grammar.Agreement

/-!
# Expressions are read alike

If two sets of rules agree on at most `n` tokens, then so do the expressions read with them,
on at most `n + 1` tokens where one is taken before a rule is called. One lemma for each rule of the
grammar; `Rules.AgreeInner.conditionalRule` and `Rules.AgreeInner.operandRule` are the two that the
rules call.
-/

namespace ScriptBundle.Python

open Reading

/-! ## Targets -/

mutual

theorem Expr.badTarget?_lower (n : Nat) :
    ∀ e : Expr, (e.lower n).badTarget? = e.badTarget?.map (· - n)
  | .starred _ value => by simpa [Expr.badTarget?] using value.badTarget?_lower n
  | .list _ elements | .tuple _ elements _ => by
    simpa [Expr.badTarget?] using badTargets?_lower n elements
  | .name _ _ | .member _ _ _ | .subscript _ _ _ => by simp [Expr.badTarget?]
  | .constant _ _ | .interpolated _ _ _ | .boolean _ _ _ | .named _ _ _ | .binary _ _ _ _
  | .unary _ _ _ | .lambda _ _ _ | .conditional _ _ _ _ | .dict _ _ | .set _ _
  | .comprehension _ _ _ _ _ | .await _ _ | .yield _ _ | .yieldFrom _ _ | .compare _ _ _ _
  | .call _ _ _ | .slice _ _ _ _ => by simp [Expr.badTarget?, Expr.pos]

theorem badTargets?_lower (n : Nat) :
    ∀ l : List Expr, badTargets? (l.map (Expr.lower n)) = (badTargets? l).map (· - n)
  | [] => rfl
  | e :: rest => by
    simp only [List.map_cons, badTargets?, e.badTarget?_lower n, badTargets?_lower n rest]
    cases e.badTarget? <;> rfl

end

variable {s : Shift} {n k : Nat} {G G' : Rules}

/-! ## What rules read -/

/-- An expression that was read, with its tokens numbered `n` lower. -/
def Parsed.lower (n : Nat) (e : Parsed) : Parsed := ⟨e.expr.lower n, e.parens⟩

@[simp]
theorem Parsed.expr_lower (e : Parsed) : (e.lower n).expr = e.expr.lower n := rfl

@[simp]
theorem Parsed.parens_lower (e : Parsed) : (e.lower n).parens = e.parens := rfl

@[simp]
theorem Parsed.lower_mk (e : Expr) (parens : Bool) :
    Parsed.lower n ⟨e, parens⟩ = ⟨e.lower n, parens⟩ := rfl

@[simp]
theorem Parsed.isBareStarred_lower (e : Parsed) :
    (e.lower n).isBareStarred = e.isBareStarred := by
  obtain ⟨e, parens⟩ := e
  cases e <;> rfl

/-- Two sets of rules agree on expressions and on patterns without alternatives. -/
structure Rules.AgreeInner (s : Shift) (n : Nat) (G G' : Rules) : Prop where
  conditional : ∀ context,
    Reading.Agree s n 1 (Parsed.lower s.tokens) (G.conditional context) (G'.conditional context)
  operand : ∀ outer context, Reading.Agree s n 1 (Parsed.lower s.tokens)
    (G.operand outer context) (G'.operand outer context)
  closedPattern : ∀ allowStar, Reading.Agree s n 1 (Pattern.lower s.tokens)
    (G.closedPattern allowStar) (G'.closedPattern allowStar)

theorem Reading.Agree.refuseIf {o o' : Option Nat} (h : o'.isSome = o.isSome) :
    Agree s n 0 id (Python.refuseIf o) (Python.refuseIf o') := by
  cases o <;> cases o' <;> simp at h
  · exact .pure rfl
  · exact .refuseAt

namespace Rules

/-- A literal with its tokens numbered `n` lower. -/
def Literal.lower (n : Nat) : Literal → Literal
  | .text value => .text value
  | .bytes value => .bytes value
  | .interpolated template parts => .interpolated template (parts.map (Part.lower n))

/-- The arguments read so far, with their tokens numbered `n` lower. -/
def ArgumentsRead.lower (n : Nat) (a : ArgumentsRead) : ArgumentsRead where
  done := a.done.map (Argument.lower n)
  keyword := a.keyword
  unpacked := a.unpacked
  names := a.names.map fun (name, p) => (name, p - n)
  generator := a.generator.map (· - n)

/-- Arguments with the token of a generator among them, numbered `n` lower. -/
def lowerCall (n : Nat) (call : List Argument × Option Nat) : List Argument × Option Nat :=
  (call.1.map (Argument.lower n), call.2.map (· - n))

/-- The parameters read so far, with their tokens numbered `n` lower. -/
def ParametersRead.lower (n : Nat) (p : ParametersRead) : ParametersRead :=
  { p with done := p.done.map (Parameter.lower n), lastStar := p.lastStar.map (· - n) }

/-- The name of a parameter with its annotation, whose tokens are numbered `n` lower. -/
def lowerNamed (n : Nat) (p : String × Option Expr) : String × Option Expr :=
  (p.1, p.2.map (Expr.lower n))

/-- Comparisons with their operands, whose tokens are numbered `n` lower. -/
def lowerChain (n : Nat) (chain : List CompareOp × List Expr) : List CompareOp × List Expr :=
  (chain.1, chain.2.map (Expr.lower n))

theorem firstRepeated?_lower (seen : List String) (names : List (String × Nat)) (m : Nat) :
    firstRepeated? seen (names.map fun (name, p) => (name, p - m)) =
      (firstRepeated? seen names).map (· - m) := by
  induction names generalizing seen with
  | nil => rfl
  | cons first names ih =>
    obtain ⟨name, p⟩ := first
    simp only [List.map_cons, firstRepeated?]
    split
    · rfl
    · exact ih _

namespace AgreeInner

variable (h : AgreeInner s n G G')
include h

theorem namedExpression (context : ExprContext) :
    Agree s n 1 (Parsed.lower s.tokens) (G.namedExpression context)
      (G'.namedExpression context) := by
  refine (h.conditional context).bind_first fun e => Agree.eat_bind ?_ ?_
  · obtain ⟨e, parens⟩ := e
    cases e with
    | name p id =>
      refine (h.conditional .plain).bind fun value => ?_
      exact .pure (by simp)
    | _ => exact .refuseAt
  · exact .pure rfl

omit h in
theorem tupleRest {first : Expr} {p : Nat} {parens : Bool} {item item' : Reading Parsed}
    (hitem : Agree s n 1 (Parsed.lower s.tokens) item item') :
    Agree s n 0 (Parsed.lower s.tokens) (Rules.tupleRest first (p + s.tokens) parens item)
      (Rules.tupleRest (first.lower s.tokens) p parens item') := by
  have helements : Agree s n 1 (Expr.lower s.tokens) (do return (← item).expr)
      (do return (← item').expr) := by
    refine hitem.bind_first fun e => ?_
    exact .pure rfl
  refine Agree.peek_bind fun kind => ?_
  refine Agree.unless_bind Iff.rfl (Agree.expectSymbol _).forget ?_
  refine (Agree.listOf helements).bind fun elements => ?_
  refine Agree.when_bind Iff.rfl (Agree.expectSymbol _).forget ?_
  exact .pure (by simp)

theorem expressionList (context : ExprContext) :
    Agree s n 1 (Parsed.lower s.tokens) (G.expressionList context)
      (G'.expressionList context) := by
  refine Agree.here_bind fun p => (h.conditional context).bind_first fun e => ?_
  refine Agree.at?_bind fun b => ?_
  cases b with
  | true => exact tupleRest (h.conditional context)
  | false => exact .pure rfl

theorem bitwiseOrExpression :
    Agree s n 1 (Parsed.lower s.tokens) G.bitwiseOrExpression G'.bitwiseOrExpression := by
  refine (h.conditional .plain).bind_first fun e => ?_
  obtain ⟨e, parens⟩ := e
  cases parens with
  | true => exact .pure rfl
  | false =>
    cases e with
    | unary p op e => cases op <;> first | exact .refuseAt | exact .pure rfl
    | compare | boolean | conditional | lambda => exact .refuseAt
    | _ => exact .pure rfl

theorem comprehensionClause :
    Agree s n 1 (ComprehensionClause.lower s.tokens) G.comprehensionClause
      G'.comprehensionClause := by
  refine Agree.eat_bind_any fun isAsync => (Agree.expectKeyword _).bind_first fun _ => ?_
  refine (h.expressionList _).bind fun target => ?_
  refine (Agree.refuseIf ?_).bind fun _ => ?_
  · simp [Expr.badTarget?_lower]
  refine (Agree.expectKeyword _).bind fun _ => (h.operand _ _).bind fun iterable => ?_
  have hcondition : Agree s n 0 (Expr.lower s.tokens)
      (do bump; return (← G.operand .lowest .plain).expr)
      (do bump; return (← G'.operand .lowest .plain).expr) := by
    refine Agree.bump_bind ((h.operand _ _).bind fun e => ?_)
    exact .pure rfl
  refine (Agree.whileAt hcondition).bind fun conditions => ?_
  exact .pure (by simp)

omit h in
theorem atComprehension_bind {α β : Type} {f : α → β} {onFound : Bool → Reading α}
    {onFound' : Bool → Reading β} (hfound : ∀ b, Agree s n k f (onFound b) (onFound' b)) :
    Agree s n k f (Rules.atComprehension >>= onFound) (Rules.atComprehension >>= onFound') := by
  intro c c' hc hn
  change Outcome s k f c
    (onFound (c.kind = .keyword .«for» || c.kind = .keyword .«async») c)
    (onFound' (c'.kind = .keyword .«for» || c'.kind = .keyword .«async») c')
  rw [hc.kind_eq]
  exact hfound _ c c' hc hn

theorem comprehensionClauses :
    Agree s n 0 (List.map (ComprehensionClause.lower s.tokens)) G.comprehensionClauses
      G'.comprehensionClauses :=
  Agree.whileAt h.comprehensionClause

theorem generatorRest (e : Parsed) (p : Nat) :
    Agree s n 0 (Parsed.lower s.tokens) (G.generatorRest e (p + s.tokens))
      (G'.generatorRest (e.lower s.tokens) p) := by
  unfold Rules.generatorRest
  refine Agree.when_bind ?_ .refuseAt ?_
  · rw [Parsed.isBareStarred_lower]
  refine h.comprehensionClauses.bind fun clauses => ?_
  exact .pure (by simp)

/-! ## Strings -/

omit h in
theorem conversion (m : Nat) :
    Agree s n 0 id (Rules.conversion (m + s.characters)) (Rules.conversion m) := by
  refine Agree.get_bind fun c c' hc => ?_
  obtain ⟨t, rest, hrest⟩ := List.exists_cons_of_ne_nil hc.closed.ne_nil
  obtain ⟨u, rest', ht, -, hrest'⟩ := List.forall₂_cons_left_iff.1 (hrest ▸ hc.rest)
  rw [hrest, hrest']
  refine Agree.peek_bind fun kind => ?_
  cases kind with
  | name word =>
    dsimp only
    refine Agree.when_bind ?_ .fault ?_
    · rw [hc.cutOff, ht.start]
      simp
    change Agree s n 0 id (if _ then _ else _) (if _ then _ else _)
    split
    · exact Agree.bump_bind (.pure rfl)
    · exact .refuse
  | _ => exact .refuse

theorem field (depth : Nat)
    (hparts : Agree s n 0 (List.map (Part.lower s.tokens)) (G.parts true depth)
      (G'.parts true depth)) :
    Agree s (n + 1) 1 (Part.lower s.tokens) (G.field depth) (G'.field depth) := by
  unfold Rules.field
  refine (Agree.expectSymbol _).bind_less fun _ => (h.expressionList _).bind fun value => ?_
  extract_lets -underBinder rest rest'
  have hrest : Agree s n 0 (Part.lower s.tokens) (rest ()) (rest' ()) := by
    refine Agree.eat_bind_any fun debug => Agree.nextStop_bind fun mark => ?_
    refine Agree.eat_bind_any fun b => ?_
    refine Agree.either_bind (f := id) Iff.rfl ((conversion mark).map fun _ => rfl) (.pure rfl)
      fun converted => ?_
    refine Agree.eat_bind_any fun b => ?_
    refine Agree.either_bind (f := Option.map (List.map (Part.lower s.tokens))) Iff.rfl
      (hparts.map fun _ => rfl) (.pure rfl) fun spec => ?_
    refine (Agree.expectSymbol _).bind fun _ => ?_
    exact .pure (by simp)
  obtain ⟨value, parens⟩ := value
  cases value with
  | lambda p parameters body => exact Agree.unless_bind Iff.rfl .refuseAt hrest
  | _ => exact hrest

theorem parts (depth : Nat) (inSpec : Bool) :
    Agree s (n + 1) 0 (List.map (Part.lower s.tokens)) (G.parts inSpec depth)
      (G'.parts inSpec depth) := by
  induction depth generalizing inSpec with
  | zero =>
    unfold Rules.parts
    exact .fault
  | succ depth ih =>
    have hpart : Agree s (n + 1) 1 (Part.lower s.tokens) (G.part depth) (G'.part depth) := by
      unfold Rules.part
      refine Agree.peek_bindAt fun kind => ?_
      cases kind with
      | replacementText form text inSpec =>
        dsimp only
        cases StringText.decodePart form inSpec 0 text with
        | error n => exact (Agree.here_bind fun _ => .fault).anywhere _
        | ok value => exact AgreeAt.bump_bind (.pure rfl) (by simp) (by simp)
      | _ => exact (h.field depth ((ih true).mono (Nat.le_succ n) (Nat.le_refl 0))).anywhere _
    unfold Rules.parts
    exact Agree.series hpart

theorem literal :
    Agree s (n + 1) 1 (Literal.lower s.tokens) G.literal G'.literal := by
  unfold Rules.literal
  refine Agree.peek_bindAt fun kind => ?_
  cases kind with
  | string form text =>
    dsimp only
    cases StringText.decode form text with
    | error n => exact (Agree.here_bind fun _ => .fault).anywhere _
    | ok value =>
      refine AgreeAt.bump_bind (.pure ?_) (by simp) (by simp)
      split <;> rfl
  | replacementStart form =>
    refine AgreeAt.bump_bind (Agree.get_bind fun c c' hc => ?_) (by simp) (by simp)
    rw [hc.rounds_eq]
    refine ((h.parts _ false).mono (Nat.le_succ n) (Nat.le_refl 0)).bind fun parts => ?_
    refine Agree.peek_bind fun kind => ?_
    cases kind with
    | replacementEnd form => exact Agree.bump_bind (.pure rfl)
    | _ => exact .refuse
  | _ => exact Agree.refuse.anywhere _

omit h in
theorem joinLiterals (p : Nat) (literals : List Literal) :
    Agree s n 0 (Expr.lower s.tokens) (Rules.joinLiterals (p + s.tokens) literals)
      (Rules.joinLiterals p (literals.map (Literal.lower s.tokens))) := by
  unfold Rules.joinLiterals
  extract_lets isBytes isTemplate isInterpolated characters
  have hbytes : isBytes ∘ Literal.lower s.tokens = isBytes := by
    funext l
    cases l <;> rfl
  have htemplate : isTemplate ∘ Literal.lower s.tokens = isTemplate := by
    funext l
    cases l <;> rfl
  have hinterpolated : isInterpolated ∘ Literal.lower s.tokens = isInterpolated := by
    funext l
    cases l <;> rfl
  have hcharacters : ∀ l, characters (Literal.lower s.tokens l) = characters l := by
    intro l
    cases l <;> rfl
  simp only [List.any_map, List.all_map, hbytes, htemplate, hinterpolated, List.flatMap_map,
    hcharacters]
  split
  · split
    · exact .pure (by simp)
    · exact .refuseAt
  split
  · exact .refuseAt
  split
  · refine .pure ?_
    simp only [Expr.lower, Nat.add_sub_cancel, lowerParts_eq, List.map_flatMap]
    congr 2
    funext l
    cases l <;> rfl
  · exact .pure (by simp)

theorem strings {kind : Kind} (hkind : (match kind with
      | .string _ _ | .replacementStart _ => true
      | _ => false) = true) :
    AgreeAt s (n + 1) 1 (Expr.lower s.tokens) kind G.strings G'.strings := by
  refine AgreeAt.here_bind fun p => AgreeAt.bind_first ?_ (joinLiterals p)
  exact Agree.whileAt_takes (fun kind _ => h.literal.anywhere kind) hkind

/-! ## Arguments and parameters -/

theorem argument (a : ArgumentsRead) :
    Agree s n 0 (ArgumentsRead.lower s.tokens) (G.argument a)
      (G'.argument (a.lower s.tokens)) := by
  unfold Rules.argument
  refine Agree.eat_bind ?_ ?_
  · refine (h.conditional _).bind fun value => ?_
    exact .pure rfl
  refine Agree.here_bind fun p => (h.namedExpression _).bind fun e => ?_
  refine atComprehension_bind fun isGenerator => ?_
  refine Agree.either_bind (f := Parsed.lower s.tokens) Iff.rfl (h.generatorRest e p) (.pure rfl)
    fun e => ?_
  extract_lets b b'
  have hb : b' = b.lower s.tokens := by
    cases isGenerator with
    | false => rfl
    | true =>
      simp only [b, b', if_true, ArgumentsRead.lower, ArgumentsRead.mk.injEq, true_and]
      cases a.generator <;> simp
  clear_value b'
  subst hb
  beta_reduce
  extract_lets -underBinder rest rest'
  have hrest : Agree s n 0 (ArgumentsRead.lower s.tokens) (rest ()) (rest' ()) := by
    refine Agree.eat_bind ?_ ?_
    · obtain ⟨e, parens⟩ := e
      cases e with
      | name q id =>
        refine (h.conditional _).bind fun value => ?_
        exact .pure (by simp [ArgumentsRead.lower])
      | _ => exact .refuseAt
    · simp only [Bool.false_eq_true, if_false]
      refine Agree.when_bind ?_ .refuseAt (.pure ?_)
      · simp [ArgumentsRead.lower]
      · simp [ArgumentsRead.lower]
  refine Agree.when_bind ?_ .refuseAt hrest
  simp [ArgumentsRead.lower]

theorem arguments :
    Agree s (n + 1) 1 (lowerCall s.tokens) G.arguments G'.arguments := by
  refine (Agree.expectSymbol _).bind_less fun _ => ?_
  have hread : Agree s n 0 (Prod.map (ArgumentsRead.lower s.tokens) id)
      (sequence .arguments G.argument {}) (sequence .arguments G'.argument {}) :=
    Agree.sequence h.argument rfl
  refine hread.bind fun (a, trailing) => ?_
  refine (Agree.expectSymbol _).bind fun _ => (Agree.refuseIf ?_).bind fun _ => ?_
  · simp only [ArgumentsRead.lower, ← List.map_reverse, firstRepeated?_lower, Option.isSome_map]
  refine Agree.when_bind ?_ (.refuseIf ?_) (.pure ?_)
  · simp [ArgumentsRead.lower]
  · simp [ArgumentsRead.lower]
  · simp [ArgumentsRead.lower, lowerCall]

theorem required (context : ExprContext) :
    Agree s n 1 (Expr.lower s.tokens) (G.required context) (G'.required context) := by
  refine Agree.atExpr_bind fun b => ?_
  cases b with
  | true =>
    refine (h.conditional context).bind_first fun e => ?_
    exact .pure rfl
  | false => exact .refuse

theorem parameterName (isLambda : Bool) (context : ExprContext) :
    Agree s n 1 (lowerNamed s.tokens) (G.parameterName isLambda context)
      (G'.parameterName isLambda context) := by
  refine Agree.identifier.bind_first fun name => ?_
  refine Agree.either_bind (f := id) Iff.rfl (.pure rfl) (Agree.eat _) fun annotated => ?_
  cases annotated with
  | true =>
    refine (h.required context).bind fun e => ?_
    exact .pure rfl
  | false => exact .pure rfl

theorem parameter (isLambda : Bool) (a : ParametersRead) :
    Agree s n 0 (ParametersRead.lower s.tokens) (G.parameter isLambda a)
      (G'.parameter isLambda (a.lower s.tokens)) := by
  unfold Rules.parameter
  refine Agree.when_bind Iff.rfl .refuse ?_
  refine Agree.here_bind fun p => Agree.peek_bind fun kind => ?_
  split
  · refine Agree.bump_bind (Agree.peek_bind fun kind => ?_)
    split
    · refine (h.parameterName _ _).bind fun p => Agree.at?_bind fun b => ?_
      refine Agree.when_bind Iff.rfl .refuse (Agree.when_bind Iff.rfl .refuseAt ?_)
      exact .pure (by simp [ParametersRead.lower])
    · refine Agree.when_bind Iff.rfl .refuseAt ?_
      exact .pure (by simp [ParametersRead.lower])
  · refine Agree.bump_bind ((h.parameterName _ _).bind fun p => Agree.at?_bind fun b => ?_)
    refine Agree.when_bind Iff.rfl .refuse (Agree.when_bind Iff.rfl .refuseAt ?_)
    exact .pure (by simp [ParametersRead.lower])
  · refine Agree.bump_bind (Agree.when_bind ?_ .refuseAt (.pure ?_))
    · have hmark : ∀ named : Parameter → Bool, (∀ p, named (p.lower s.tokens) = named p) →
          (a.lower s.tokens).done.any named = a.done.any named := fun named h => by
        rw [ParametersRead.lower, List.any_map, (funext h : named ∘ _ = named)]
      rw [hmark _ fun p => by cases p <;> rfl]
      rfl
    · simp [ParametersRead.lower]
  · refine (h.parameterName _ _).bind fun p => Agree.eat_bind_any fun b => ?_
    refine Agree.optional_bind Iff.rfl (h.required _).forget fun e => ?_
    beta_reduce
    refine Agree.when_bind ?_ .refuseAt (.pure ?_)
    · simp [ParametersRead.lower]
    · simp [ParametersRead.lower]

theorem parameters (isLambda : Bool) :
    Agree s n 0 (List.map (Parameter.lower s.tokens)) (G.parameters isLambda)
      (G'.parameters isLambda) := by
  have hread : Agree s n 0 (Prod.map (ParametersRead.lower s.tokens) id)
      (sequence (.parameters isLambda) (G.parameter isLambda) {})
      (sequence (.parameters isLambda) (G'.parameter isLambda) {}) :=
    Agree.sequence (h.parameter isLambda) rfl
  refine hread.bind fun p => (Agree.refuseIf ?_).bind fun _ => .pure ?_
  · simp [ParametersRead.lower]
  · simp [ParametersRead.lower]

theorem lambda : Agree s (n + 1) 1 (Parsed.lower s.tokens) G.lambda G'.lambda := by
  refine Agree.here_bind fun p => (Agree.expectKeyword _).bind_less fun _ => ?_
  refine Agree.at?_bind fun b => ?_
  refine Agree.either_bind Iff.rfl (.pure rfl) (h.parameters true) fun parameters => ?_
  refine (Agree.expectSymbol _).bind fun _ => (h.conditional _).bind fun body => ?_
  exact .pure (by simp)

/-! ## Subscripts -/

theorem slice : Agree s n 0 (Expr.lower s.tokens) G.slice G'.slice := by
  unfold Rules.slice
  refine Agree.here_bind fun p => Agree.atExpr_bind fun b => ?_
  extract_lets -underBinder rest rest'
  have hrest : ∀ lower, Agree s n 0 (Expr.lower s.tokens) (rest lower)
      (rest' (Prod.map (Option.map (Expr.lower s.tokens)) id lower)) := by
    have hbounds : ∀ lower, Agree s n 0 (Expr.lower s.tokens) (rest (lower, false))
        (rest' (lower.map (Expr.lower s.tokens), false)) := by
      intro lower
      cases lower
      all_goals
        refine (Agree.expectSymbol _).bind fun _ => Agree.peek_bind fun next => ?_
        refine Agree.either_bind (f := Option.map (Parsed.lower s.tokens)) Iff.rfl (.pure rfl)
          (h.conditional _).map_some fun upper => Agree.eat_bind ?_ ?_
        · refine Agree.peek_bind fun next => ?_
          refine Agree.either_bind (f := Option.map (Parsed.lower s.tokens)) Iff.rfl (.pure rfl)
            (h.conditional _).map_some fun step => .pure ?_
          simp [Function.comp_def]
        · exact .pure (by simp [Function.comp_def])
    rintro ⟨_ | e, _ | _⟩
    · exact hbounds none
    · exact hbounds none
    · exact hbounds (some e)
    · exact .pure rfl
  cases b with
  | false => exact hrest (none, false)
  | true =>
    refine (h.namedExpression _).bind fun e => Agree.at?_bind fun b => ?_
    cases b with
    | true =>
      obtain ⟨e, parens⟩ := e
      cases parens with
      | true => exact hrest (some e, false)
      | false =>
        cases e with
        | starred | named => exact .refuseAt_bind
        | _ => exact hrest (some _, false)
    | false =>
      refine Agree.peek_bind fun kind => ?_
      refine Agree.either_bind (f := Prod.map (Option.map (Expr.lower s.tokens)) id) Iff.rfl
        (.pure rfl) .refuse hrest

theorem subscript (p : Nat) (value : Expr) :
    Agree s (n + 1) 1 (Expr.lower s.tokens) (G.subscript (p + s.tokens) value)
      (G'.subscript p (value.lower s.tokens)) := by
  unfold Rules.subscript
  refine (Agree.expectSymbol _).bind_less fun _ => Agree.here_bind fun q => ?_
  refine Agree.at?_bind fun b => ?_
  refine Agree.when_bind Iff.rfl .refuse (h.slice.bind fun first => Agree.eat_bind_any fun b => ?_)
  extract_lets -underBinder rest rest'
  have hrest : ∀ index, Agree s n 0 (Expr.lower s.tokens) (rest index)
      (rest' (index.lower s.tokens)) := fun index =>
    (Agree.expectSymbol _).bind fun _ => .pure (by simp)
  cases b with
  | true =>
    refine (Agree.listOf h.slice).bind fun others => ?_
    have hrest := hrest (.tuple (q + s.tokens) (first :: others) false)
    simpa using hrest
  | false =>
    cases first with
    | starred p e =>
      have hrest := hrest (.tuple (q + s.tokens) [.starred p e] false)
      simpa using hrest
    | _ => exact hrest _

/-! ## Displays -/

omit h in
theorem refuseLineEnd : Agree s n 0 id Rules.refuseLineEnd Rules.refuseLineEnd := by
  refine Agree.peek_bind fun kind => ?_
  split
  · exact .refuse
  · exact .refuse
  · exact .pure rfl

theorem parenthesized :
    Agree s (n + 1) 1 (Parsed.lower s.tokens) G.parenthesized G'.parenthesized := by
  refine Agree.here_bind fun p => (Agree.expectSymbol _).bind_less fun _ => ?_
  refine refuseLineEnd.bind fun _ => Agree.eat_bind (.pure (by simp)) ?_
  refine (h.namedExpression _).bind fun e => Agree.at?_bind fun b => ?_
  cases b with
  | true => exact tupleRest (h.namedExpression _)
  | false =>
    refine atComprehension_bind fun b => ?_
    cases b with
    | true =>
      refine (h.generatorRest e p).bind fun generator => (Agree.expectSymbol _).bind fun _ => ?_
      exact .pure rfl
    | false =>
      obtain ⟨e, parens⟩ := e
      cases e with
      | starred => exact .refuseAt_bind
      | _ =>
        refine (Agree.expectSymbol _).bind fun _ => ?_
        exact .pure rfl

theorem elementsRest (list : ListKind) (first : Expr) :
    Agree s n 0 (List.map (Expr.lower s.tokens)) (G.elementsRest list first)
      (G'.elementsRest list (first.lower s.tokens)) := by
  have helement : Agree s n 0 (Expr.lower s.tokens)
      (do return (← G.namedExpression .starredBitwiseOr).expr)
      (do return (← G'.namedExpression .starredBitwiseOr).expr) := by
    refine (h.namedExpression _).bind fun e => ?_
    exact .pure rfl
  refine Agree.peek_bind fun kind => ?_
  refine Agree.unless_bind Iff.rfl (Agree.expectSymbol _).forget ?_
  refine (Agree.listOf helement).bind fun others => ?_
  exact .pure rfl

theorem listDisplay : Agree s (n + 1) 1 (Expr.lower s.tokens) G.listDisplay G'.listDisplay := by
  refine Agree.here_bind fun p => (Agree.expectSymbol _).bind_less fun _ => ?_
  refine refuseLineEnd.bind fun _ => Agree.eat_bind (.pure (by simp)) ?_
  refine (h.namedExpression _).bind fun first => atComprehension_bind fun b => ?_
  cases b with
  | true =>
    simp only [if_true, Parsed.isBareStarred_lower]
    refine Agree.when_bind Iff.rfl .refuseAt (h.comprehensionClauses.bind fun clauses => ?_)
    refine (Agree.expectSymbol _).bind fun _ => ?_
    exact .pure (by simp)
  | false =>
    refine (h.elementsRest _ _).bind fun elements => (Agree.expectSymbol _).bind fun _ => ?_
    exact .pure (by simp)

theorem dictItem : Agree s n 0 (DictItem.lower s.tokens) G.dictItem G'.dictItem := by
  refine Agree.eat_bind (h.bitwiseOrExpression.bind fun e => ?_) ?_
  · exact .pure (by simp)
  refine (h.conditional _).bind fun key => (Agree.expectSymbol _).bind fun _ => ?_
  refine (h.conditional _).bind fun value => ?_
  exact .pure (by simp)

theorem dictRest (p : Nat) (first : DictItem) :
    Agree s n 0 (Expr.lower s.tokens) (G.dictRest (p + s.tokens) first)
      (G'.dictRest p (first.lower s.tokens)) := by
  refine Agree.peek_bind fun kind => ?_
  refine Agree.unless_bind Iff.rfl (Agree.expectSymbol _).forget ?_
  refine (Agree.listOf h.dictItem).bind fun others => (Agree.expectSymbol _).bind fun _ => ?_
  exact .pure (by simp)

theorem braceDisplay : Agree s (n + 1) 1 (Expr.lower s.tokens) G.braceDisplay G'.braceDisplay := by
  refine Agree.here_bind fun p => (Agree.expectSymbol _).bind_less fun _ => ?_
  refine refuseLineEnd.bind fun _ => Agree.eat_bind (.pure (by simp)) ?_
  refine Agree.eat_bind (h.bitwiseOrExpression.bind fun e => ?_) ?_
  · exact h.dictRest p (.unpacked e.expr)
  refine (h.namedExpression _).bind fun first => atComprehension_bind fun b => ?_
  cases b with
  | true =>
    simp only [if_true, Parsed.isBareStarred_lower]
    refine Agree.when_bind Iff.rfl .refuseAt (h.comprehensionClauses.bind fun clauses => ?_)
    refine (Agree.expectSymbol _).bind fun _ => ?_
    exact .pure (by simp)
  | false =>
    refine Agree.at?_bind fun b => ?_
    cases b with
    | false =>
      refine (h.elementsRest _ _).bind fun elements => (Agree.expectSymbol _).bind fun _ => ?_
      exact .pure (by simp)
    | true =>
      rw [if_pos rfl, if_pos rfl]
      extract_lets -underBinder rest rest'
      have hrest : Agree s n 0 (Expr.lower s.tokens) (rest ()) (rest' ()) := by
        refine Agree.bump_bind ((h.conditional _).bind fun value => ?_)
        refine atComprehension_bind fun b => ?_
        cases b with
        | true =>
          refine h.comprehensionClauses.bind fun clauses => (Agree.expectSymbol _).bind fun _ => ?_
          exact .pure (by simp)
        | false => exact h.dictRest p (.pair first.expr value.expr)
      obtain ⟨first, parens⟩ := first
      cases parens with
      | true => exact hrest
      | false =>
        cases first with
        | starred | named => exact .refuseAt_bind
        | _ => exact hrest

/-! ## Operands -/

theorem atom : Agree s (n + 1) 1 (Parsed.lower s.tokens) G.atom G'.atom := by
  unfold Rules.atom
  refine Agree.here_bind fun p => ?_
  extract_lets constant constant'
  have hconstant : ∀ kind value, kind ≠ .newline → kind ≠ .endOfFile →
      AgreeAt s (n + 1) 1 (Parsed.lower s.tokens) kind (constant value) (constant' value) :=
    fun kind value hline hfile => AgreeAt.bump_bind (.pure (by simp)) hline hfile
  refine Agree.peek_bindAt fun kind => ?_
  split
  · exact hconstant _ _ (by simp) (by simp)
  · exact hconstant _ _ (by simp) (by simp)
  · exact hconstant _ _ (by simp) (by simp)
  · exact hconstant _ _ (by simp) (by simp)
  · exact hconstant _ _ (by simp) (by simp)
  · refine (h.strings rfl).bind_first fun e => ?_
    exact .pure rfl
  · refine (h.strings rfl).bind_first fun e => ?_
    exact .pure rfl
  · exact h.parenthesized.anywhere _
  · refine (h.listDisplay.bind_first fun e => ?_).anywhere _
    exact .pure rfl
  · refine (h.braceDisplay.bind_first fun e => ?_).anywhere _
    exact .pure rfl
  · refine (Agree.identifier.bind_first fun name => ?_).anywhere _
    exact .pure (by simp)

theorem trailers (p fuel : Nat) (e : Expr) :
    Agree s (n + 1) 0 (Expr.lower s.tokens) (G.trailers (p + s.tokens) fuel e)
      (G'.trailers p fuel (e.lower s.tokens)) := by
  induction fuel generalizing e with
  | zero => exact .fault
  | succ fuel ih =>
    unfold Rules.trailers
    refine Agree.peek_bind fun kind => ?_
    split
    · refine h.arguments.bind fun call => ?_
      simpa [lowerCall] using ih (.call (p + s.tokens) e call.1)
    · exact (h.subscript p e).bind ih
    · refine Agree.bump_bind (Agree.identifier.bind fun name => ?_)
      simpa using ih (.member (p + s.tokens) e name)
    · exact .pure rfl

theorem yieldExpression :
    Agree s (n + 1) 1 (Expr.lower s.tokens) G.yieldExpression G'.yieldExpression := by
  refine Agree.here_bind fun p => (Agree.expectKeyword _).bind_less fun _ => ?_
  refine Agree.eat_bind ?_ ?_
  · refine (h.expressionList _).bind fun value => ?_
    obtain ⟨value, parens⟩ := value
    cases value with
    | tuple q elements parens => cases parens <;> first | exact .refuseAt | exact .pure (by simp)
    | _ => exact .pure (by simp)
  · refine Agree.atExpr_bind fun b => ?_
    cases b with
    | true =>
      refine (h.expressionList _).bind fun value => ?_
      exact .pure (by simp)
    | false => exact .pure (by simp)

theorem operandStart (outer : Precedence) (context : ExprContext) :
    Agree s (n + 1) 1 (Parsed.lower s.tokens) (G.operandStart outer context)
      (G'.operandStart outer context) := by
  unfold Rules.operandStart
  refine Agree.here_bind fun p => Agree.peek_bindAt fun kind => ?_
  cases hop : unaryOp? kind with
  | some op =>
    refine AgreeAt.bump_bind ((h.operand _ _).bind fun operand => ?_) ?_ ?_
    · refine Agree.when_bind Iff.rfl .refuseAt ?_
      exact .pure (by simp)
    · rintro rfl
      cases hop
    · rintro rfl
      cases hop
  | none =>
    dsimp -zeta only
    split
    · refine AgreeAt.bump_bind ?_ (by simp) (by simp)
      extract_lets -underBinder rest rest'
      have hrest : ∀ value, Agree s n 0 (Parsed.lower s.tokens) (rest value)
          (rest' (value.lower s.tokens)) := fun value =>
        Agree.when_bind Iff.rfl .refuseAt (.pure (by simp))
      split
      · exact h.bitwiseOrExpression.bind hrest
      · exact (h.conditional _).bind hrest
    · refine AgreeAt.bump_bind ((h.operand _ _).bind fun value => ?_) (by simp) (by simp)
      refine Agree.when_bind Iff.rfl .refuseAt ?_
      exact .pure (by simp)
    · exact (h.lambda.bind_first fun _ => .refuseAt).anywhere _
    · refine (h.yieldExpression.bind_first fun e => ?_).anywhere _
      refine Agree.when_bind Iff.rfl .refuseAt ?_
      exact .pure (by simp)
    · refine (h.atom.bind_first fun e => Agree.rounds_bind fun fuel => ?_).anywhere _
      refine (h.trailers p fuel e.expr).bind fun e => ?_
      exact .pure rfl

theorem booleanLoop (op : BooleanOp) (context : ExprContext) (fuel : Nat) (done : List Expr) :
    Agree s n 0 (List.map (Expr.lower s.tokens)) (G.booleanLoop op context fuel done)
      (G'.booleanLoop op context fuel (done.map (Expr.lower s.tokens))) := by
  induction fuel generalizing done with
  | zero => exact .fault
  | succ fuel ih =>
    unfold Rules.booleanLoop
    cases op
    all_goals
      refine (h.operand _ _).bind fun operand => Agree.eat_bind (ih (operand.expr :: done)) ?_
      exact .pure (by simp)

omit h in
theorem bumpCompareOp (op : CompareOp) :
    Agree s n 0 id (Python.bumpCompareOp op) (Python.bumpCompareOp op) := by
  refine Agree.bump_bind ?_
  split
  · exact .bump
  · exact .pure rfl

theorem compareLoop (context : ExprContext) (fuel : Nat) (ops : List CompareOp) (done : List Expr) :
    Agree s n 0 (lowerChain s.tokens) (G.compareLoop context fuel ops done)
      (G'.compareLoop context fuel ops (done.map (Expr.lower s.tokens))) := by
  induction fuel generalizing ops done with
  | zero => exact .fault
  | succ fuel ih =>
    unfold Rules.compareLoop
    refine (h.operand _ _).bind fun operand => Agree.peek3_bind fun kind next _ => ?_
    dsimp only
    split
    · exact (bumpCompareOp _).bind fun _ => ih _ (operand.expr :: done)
    · exact .pure (by simp [lowerChain])

theorem operators (outer : Precedence) (context : ExprContext) (p fuel : Nat) (left : Parsed) :
    Agree s n 0 (Parsed.lower s.tokens) (G.operators outer context (p + s.tokens) fuel left)
      (G'.operators outer context p fuel (left.lower s.tokens)) := by
  induction fuel generalizing left with
  | zero => exact .fault
  | succ fuel ih =>
    unfold Rules.operators
    refine Agree.peek3_bind fun kind next _ => ?_
    have hmore := fun e => ih { left with expr := e }
    dsimp only
    split
    · exact .pure rfl
    split
    · exact .pure rfl
    split
    · exact .pure rfl
    split
    · refine Agree.bump_bind (Agree.rounds_bind fun fuel => ?_)
      refine (h.booleanLoop _ _ fuel []).bind fun others => ?_
      simpa using hmore (.boolean (p + s.tokens) _ (left.expr :: others))
    · refine (bumpCompareOp _).bind fun _ => Agree.rounds_bind fun fuel => ?_
      refine (h.compareLoop _ fuel _ []).bind fun chain => ?_
      simpa [lowerChain] using hmore (.compare (p + s.tokens) left.expr chain.1 chain.2)
    · refine Agree.bump_bind ((h.operand _ _).bind fun right => ?_)
      simpa using hmore (.binary (p + s.tokens) _ left.expr right.expr)

theorem operandRule (outer : Precedence) (context : ExprContext) :
    Agree s (n + 1) 1 (Parsed.lower s.tokens) (G.operandRule outer context)
      (G'.operandRule outer context) := by
  refine Agree.here_bind fun p => (h.operandStart outer context).bind_less fun left => ?_
  exact Agree.rounds_bind fun fuel => h.operators outer context p fuel left

theorem conditionalRule (context : ExprContext) :
    Agree s (n + 1) 1 (Parsed.lower s.tokens) (G.conditionalRule context)
      (G'.conditionalRule context) := by
  refine Agree.at?_bind fun b => ?_
  cases b with
  | true => exact h.lambda
  | false =>
    refine Agree.here_bind fun p => (h.operandRule _ _).bind_less fun e => Agree.eat_bind ?_ ?_
    · refine (h.operand _ _).bind fun test => (Agree.expectKeyword _).bind fun _ => ?_
      refine (h.conditional _).bind fun otherwise => ?_
      exact .pure (by simp)
    · exact .pure rfl

end AgreeInner

end Rules

end ScriptBundle.Python
