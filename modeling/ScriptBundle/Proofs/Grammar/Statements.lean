import ScriptBundle.Proofs.Grammar.Patterns
import ScriptBundle.Python.Grammar.Statement

namespace ScriptBundle.Python

open Reading

variable {s : Shift} {n k : Nat} {G G' : Rules}

mutual

theorem Expr.badDeletion?_lower (n : Nat) :
    ∀ e : Expr, (e.lower n).badDeletion? = e.badDeletion?.map (· - n)
  | .list _ elements | .tuple _ elements _ => by
    simpa [Expr.badDeletion?] using badDeletions?_lower n elements
  | .name _ _ | .member _ _ _ | .subscript _ _ _ => by simp [Expr.badDeletion?]
  | .constant _ _ | .interpolated _ _ _ | .boolean _ _ _ | .named _ _ _ | .binary _ _ _ _
  | .unary _ _ _ | .lambda _ _ _ | .conditional _ _ _ _ | .dict _ _ | .set _ _
  | .comprehension _ _ _ _ _ | .await _ _ | .yield _ _ | .yieldFrom _ _ | .compare _ _ _ _
  | .call _ _ _ | .slice _ _ _ _ | .starred _ _ => by simp [Expr.badDeletion?, Expr.pos]

theorem badDeletions?_lower (n : Nat) :
    ∀ l : List Expr, badDeletions? (l.map (Expr.lower n)) = (badDeletions? l).map (· - n)
  | [] => rfl
  | e :: rest => by
    simp only [List.map_cons, badDeletions?, e.badDeletion?_lower n, badDeletions?_lower n rest]
    cases e.badDeletion? <;> rfl

end

/-- Brackets are closed alike. -/
theorem bindsInParentheses_eq {l l' : List Token} (h : List.Forall₂ (Token.Shifted s) l l')
    (depth : Nat) : bindsInParentheses l' depth = bindsInParentheses l depth := by
  induction h generalizing depth with
  | nil => rfl
  | cons ht _ ih =>
    unfold bindsInParentheses
    simp only [ht.kind, ih]

namespace Reading.Agree

/-! ## Names and imports -/

theorem dottedName : Agree s n 1 id Rules.dottedName Rules.dottedName := by
  have hother : Agree s n 0 id (do Reading.bump; Reading.word) (do Reading.bump; Reading.word) :=
    bump_bind word.forget
  refine word.bind_first fun first => (whileAt hother).bind fun others => ?_
  exact pure (by simp)

theorem aliasBinding : Agree s n 0 id Rules.aliasBinding Rules.aliasBinding := by
  refine eat_bind ?_ (pure rfl)
  have hname : Agree s n 0 (Option.map id) (some <$> Reading.identifier)
      (some <$> Reading.identifier) :=
    identifier.map_some
  simpa using hname

theorem moduleAlias : Agree s n 1 id Rules.moduleAlias Rules.moduleAlias :=
  dottedName.bind_first fun _ => aliasBinding.bind fun _ => pure rfl

theorem memberAlias : Agree s n 0 id Rules.memberAlias Rules.memberAlias := by
  refine eat_bind (pure rfl) ?_
  exact word.bind fun _ => aliasBinding.bind fun _ => pure rfl

theorem importRest :
    Agree s n 0 (SimpleStmt.lower s.tokens) Rules.importRest Rules.importRest := by
  refine (listOf moduleAlias).bind fun names => ?_
  rw [List.map_id]
  exact when_bind Iff.rfl refuse (pure rfl)

theorem leadingPoints (fuel level : Nat) :
    Agree s n 0 id (Rules.leadingPoints fuel level) (Rules.leadingPoints fuel level) := by
  induction fuel generalizing level with
  | zero => exact fault
  | succ fuel ih =>
    unfold Rules.leadingPoints
    exact eat_bind (ih _) (eat_bind (ih _) (pure rfl))

theorem fromRest : Agree s n 0 (SimpleStmt.lower s.tokens) Rules.fromRest Rules.fromRest := by
  unfold Rules.fromRest
  refine rounds_bind fun fuel => (leadingPoints fuel 0).bind fun level => ?_
  refine peek_bind fun kind => ?_
  extract_lets -underBinder rest rest'
  have hrest : ∀ module, Agree s n 0 (SimpleStmt.lower s.tokens) (rest module) (rest' module) := by
    refine fun module => (expectKeyword _).bind fun _ => here_bind fun p => ?_
    refine eat_bind_any fun parens => (listOf memberAlias).bind fun names => ?_
    rw [List.map_id]
    refine when_bind Iff.rfl refuse (when_bind Iff.rfl refuseAt ?_)
    exact when_bind Iff.rfl (expectSymbol _).forget (pure rfl)
  refine ite Iff.rfl ?_ (ite Iff.rfl refuse_bind (hrest none))
  refine (dottedName.map_some).bind fun module => ?_
  rw [Option.map_id]
  exact hrest module

theorem nameList : Agree s n 0 id Rules.nameList Rules.nameList := by
  refine (listOf identifier).bind fun names => ?_
  rw [List.map_id]
  exact when_bind Iff.rfl refuse (pure rfl)

end Reading.Agree

namespace Rules

/-- An item of a `with`, with its tokens numbered `n` lower. -/
def lowerItem (n : Nat) (item : Expr × Option Expr) : Expr × Option Expr :=
  (item.1.lower n, item.2.map (Expr.lower n))

/-- An item of a `with` that stands in parentheses, with its tokens numbered `n` lower. -/
def lowerParsedItem (n : Nat) (item : Parsed × Option Expr) : Parsed × Option Expr :=
  (item.1.lower n, item.2.map (Expr.lower n))

/-- A handler with its first token and its sort, with tokens numbered `n` lower. -/
def lowerHandler (n : Nat) (handler : (ClauseHeader × List Stmt) × Nat × Bool) :
    (ClauseHeader × List Stmt) × Nat × Bool :=
  (lowerClause n handler.1, handler.2.1 - n, handler.2.2)

/-- A compound statement in its parts, with their tokens numbered `n` lower. -/
def lowerCompound (n : Nat) (parts : Header × List Stmt × List (ClauseHeader × List Stmt)) :
    Header × List Stmt × List (ClauseHeader × List Stmt) :=
  (parts.1.lower n, parts.2.1.map (Stmt.lower n), parts.2.2.map (lowerClause n))

@[simp]
theorem isSingleTarget_lower (n : Nat) (e : Expr) :
    isSingleTarget (e.lower n) = isSingleTarget e := by
  cases e <;> rfl

/-- What follows the word `match` is looked at first, and read where it is a statement. -/
theorem matchStatement_apply (G : Rules) (c : Cursor) : G.matchStatement c =
    (match matchIsStatement? (c.kindAt 1) (c.kindAt 2) with
      | some b => if b = true then do bump; some <$> G.matchRest else return none
      | none => do
        bump
        let found ← attempt G.subjectOfMatch
        rewind c
        if found.isSome = true then do bump; some <$> G.matchRest else return none) c :=
  rfl

namespace AgreeInner

variable (h : AgreeInner s n G G')
include h

/-! ## Statements without blocks -/

theorem deleteTarget : Agree s n 1 (Expr.lower s.tokens) G.deleteTarget G'.deleteTarget := by
  refine (h.conditional _).bind_first fun e => (Agree.refuseIf ?_).bind fun _ => ?_
  · simp [Expr.badDeletion?_lower]
  · exact .pure rfl

theorem singleExpression :
    Agree s n 1 (Expr.lower s.tokens) G.singleExpression G'.singleExpression := by
  refine (h.expressionList _).bind_first fun e => ?_
  obtain ⟨e, parens⟩ := e
  cases e with
  | tuple q elements parens => cases parens <;> first | exact .refuseAt | exact .pure rfl
  | _ => exact .pure rfl

theorem raiseRest : Agree s n 0 (SimpleStmt.lower s.tokens) G.raiseRest G'.raiseRest := by
  refine Agree.peek_bind fun kind => ?_
  split
  · exact .pure rfl
  · exact .pure rfl
  · refine h.singleExpression.bind fun exception => Agree.eat_bind_any fun b => ?_
    refine Agree.optional_bind Iff.rfl h.singleExpression.forget fun cause => ?_
    exact .pure (by simp)

theorem assertRest : Agree s n 0 (SimpleStmt.lower s.tokens) G.assertRest G'.assertRest := by
  refine (h.conditional _).bind fun test => Agree.eat_bind_any fun b => ?_
  refine Agree.optional_bind Iff.rfl (h.required _).forget fun message => ?_
  exact .pure (by simp)

theorem typeDefault (context : ExprContext) :
    Agree s n 0 (Option.map (Expr.lower s.tokens)) (G.typeDefault context)
      (G'.typeDefault context) :=
  Agree.eat_bind (h.required context).map_some (.pure rfl)

theorem typeParameter :
    Agree s n 0 (TypeParameter.lower s.tokens) G.typeParameter G'.typeParameter := by
  refine Agree.eat_bind ?_ (Agree.eat_bind ?_ ?_)
  · refine Agree.identifier.bind fun name => (h.typeDefault _).bind fun default => ?_
    exact .pure (by simp)
  · refine Agree.identifier.bind fun name => (h.typeDefault _).bind fun default => ?_
    exact .pure (by simp)
  · refine Agree.identifier.bind fun name => Agree.eat_bind_any fun b => ?_
    refine Agree.optional_bind Iff.rfl (h.required _).forget fun bound => ?_
    refine (h.typeDefault _).bind fun default => ?_
    exact .pure (by simp)

theorem typeParameters :
    Agree s n 0 (List.map (TypeParameter.lower s.tokens)) G.typeParameters G'.typeParameters := by
  refine Agree.eat_bind ((Agree.listOf h.typeParameter).bind fun parameters => ?_) (.pure rfl)
  refine Agree.when_bind (by simp) .refuse ((Agree.expectSymbol _).bind fun _ => ?_)
  exact .pure rfl

theorem typeAliasRest :
    Agree s n 0 (SimpleStmt.lower s.tokens) G.typeAliasRest G'.typeAliasRest := by
  refine Agree.identifier.bind fun name => h.typeParameters.bind fun parameters => ?_
  refine (Agree.expectSymbol _).bind fun _ => (h.conditional _).bind fun value => ?_
  exact .pure (by simp)

theorem assignValues :
    Agree s n 0 (List.map (Expr.lower s.tokens)) G.assignValues G'.assignValues := by
  have hvalue : Agree s n 0 (Expr.lower s.tokens)
      (do expectSymbol .equal; return (← G.expressionList .yieldOrStarred).expr)
      (do expectSymbol .equal; return (← G'.expressionList .yieldOrStarred).expr) := by
    refine (Agree.expectSymbol _).bind fun _ => (h.expressionList _).bind fun e => ?_
    exact .pure rfl
  exact Agree.series hvalue

theorem assignRest (target : Expr) :
    Agree s n 0 (SimpleStmt.lower s.tokens) (G.assignRest target)
      (G'.assignRest (target.lower s.tokens)) := by
  refine (Agree.expectSymbol _).bind fun _ => (h.expressionList _).bind fun first => ?_
  refine Agree.at?_bind fun b => ?_
  refine Agree.either_bind (f := List.map (Expr.lower s.tokens)) Iff.rfl h.assignValues (.pure rfl)
    fun more => ?_
  have hall : target.lower s.tokens :: first.expr.lower s.tokens :: more.map (Expr.lower s.tokens) =
      (target :: first.expr :: more).map (Expr.lower s.tokens) := rfl
  dsimp only [Parsed.expr_lower]
  rw [hall, ← List.map_dropLast, badTargets?_lower]
  refine (Agree.refuseIf (by simp)).bind fun _ => .pure ?_
  rw [SimpleStmt.lower, List.getLastD_eq_getLast?, List.getLastD_eq_getLast?, List.getLast?_map]
  simp

theorem annotatedRest (target : Expr) :
    Agree s n 0 (SimpleStmt.lower s.tokens) (G.annotatedRest target)
      (G'.annotatedRest (target.lower s.tokens)) := by
  refine (Agree.expectSymbol _).bind fun _ => Agree.unless_bind (by simp) .refuseAt ?_
  refine (h.conditional _).bind fun hint => Agree.eat_bind_any fun b => ?_
  extract_lets -underBinder rest rest'
  have hrest : ∀ value, Agree s n 0 (SimpleStmt.lower s.tokens) (rest value)
      (rest' (value.map (Expr.lower s.tokens))) := fun value => .pure (by simp)
  refine Agree.ite Iff.rfl (Agree.atExpr_bind fun b => ?_) (hrest none)
  refine Agree.ite Iff.rfl ((h.expressionList _).bind fun e => ?_) .refuse_bind
  exact hrest (some e.expr)

theorem expressionStatement :
    Agree s n 1 (SimpleStmt.lower s.tokens) G.expressionStatement G'.expressionStatement := by
  refine (h.expressionList _).bind_first fun e => Agree.peek_bind fun kind => ?_
  refine Agree.ite Iff.rfl (h.assignRest e.expr) ?_
  refine Agree.ite Iff.rfl (h.annotatedRest e.expr) ?_
  split
  · refine Agree.bump_bind (Agree.unless_bind (by simp) .refuseAt ?_)
    refine (h.expressionList _).bind fun value => ?_
    exact .pure (by simp)
  · exact .pure rfl

theorem simpleStatement :
    Agree s n 1 (SimpleStmt.lower s.tokens) G.simpleStatement G'.simpleStatement := by
  unfold Rules.simpleStatement
  refine Agree.peek3_bindAt fun kind first second => ?_
  have hexpression := h.expressionStatement
  cases kind with
  | keyword word =>
    cases word with
    | «return» =>
      refine AgreeAt.bump_first (Agree.atExpr_bind fun b => ?_) (by simp) (by simp)
      cases b with
      | true =>
        refine (h.expressionList _).bind fun e => ?_
        exact .pure (by simp)
      | false => exact .pure rfl
    | «import» => exact AgreeAt.bump_first .importRest (by simp) (by simp)
    | «from» => exact AgreeAt.bump_first .fromRest (by simp) (by simp)
    | «pass» | «continue» | «break» => exact AgreeAt.bump_first (.pure rfl) (by simp) (by simp)
    | «raise» => exact AgreeAt.bump_first h.raiseRest (by simp) (by simp)
    | «del» =>
      refine AgreeAt.bump_first ((Agree.listOf h.deleteTarget).bind fun targets => ?_) (by simp)
        (by simp)
      exact Agree.when_bind (by simp) .refuse (.pure rfl)
    | «assert» => exact AgreeAt.bump_first h.assertRest (by simp) (by simp)
    | «global» | «nonlocal» =>
      exact AgreeAt.bump_first (Agree.nameList.bind fun _ => .pure rfl) (by simp) (by simp)
    | «type» =>
      dsimp only
      split
      · exact AgreeAt.bump_first h.typeAliasRest (by simp) (by simp)
      · exact hexpression.anywhere _
    | _ => exact hexpression.anywhere _
  | _ => exact hexpression.anywhere _

theorem spannedSimple : Agree s n 1 (Stmt.lower s.tokens) G.spannedSimple G'.spannedSimple := by
  refine Agree.here_bind fun p => h.simpleStatement.bind_first fun statement => ?_
  refine Agree.here_bind fun q => ?_
  exact .pure (by simp [Span.lower])

theorem singleSimple : Agree s n 1 (Stmt.lower s.tokens) G.singleSimple G'.singleSimple := by
  refine h.spannedSimple.bind_first fun statement => Agree.eat_bind_any fun semicolon => ?_
  refine Agree.eat_bind (.pure rfl) (Agree.peek_bind fun kind => ?_)
  exact Agree.when_bind Iff.rfl .refuse (.pure rfl)

theorem lineLoop (fuel : Nat) (done : List Stmt) :
    Agree s n 0 (List.map (Stmt.lower s.tokens)) (G.lineLoop fuel done)
      (G'.lineLoop fuel (done.map (Stmt.lower s.tokens))) := by
  induction fuel generalizing done with
  | zero => exact .fault
  | succ fuel ih =>
    unfold Rules.lineLoop
    refine h.spannedSimple.bind fun statement => Agree.eat_bind ?_ ?_
    · refine Agree.peek_bind fun kind => Agree.ite Iff.rfl (ih (statement :: done)) ?_
      exact .pure (by simp)
    · refine Agree.peek_bind fun kind => Agree.ite Iff.rfl .refuse ?_
      exact .pure (by simp)

/-! ## Parts of statements with blocks -/

theorem withTarget :
    Agree s n 0 (Option.map (Expr.lower s.tokens)) G.withTarget G'.withTarget := by
  refine Agree.eat_bind ((h.conditional _).bind fun target => ?_) (.pure rfl)
  refine (Agree.refuseIf ?_).bind fun _ => ?_
  · simp [Expr.badTarget?_lower]
  · exact .pure rfl

theorem withItem :
    Agree s n 0 (lowerItem s.tokens) G.withItem G'.withItem :=
  (h.conditional _).bind fun _ => h.withTarget.bind fun _ => .pure rfl

theorem parenthesizedWithItem :
    Agree s n 0 (lowerParsedItem s.tokens) G.parenthesizedWithItem
      G'.parenthesizedWithItem := by
  refine Agree.here_bind fun p => (h.namedExpression _).bind fun e => ?_
  refine atComprehension_bind fun b => ?_
  refine Agree.either_bind (f := Parsed.lower s.tokens) Iff.rfl (h.generatorRest e p) (.pure rfl)
    fun e => ?_
  exact h.withTarget.bind fun target => .pure rfl

theorem matchSubject : Agree s n 1 (Expr.lower s.tokens) G.matchSubject G'.matchSubject := by
  refine Agree.here_bind fun p => (h.namedExpression _).bind_first fun e => ?_
  refine Agree.at?_bind fun b => ?_
  cases b with
  | true =>
    refine (tupleRest (h.namedExpression _)).bind fun tuple => ?_
    exact .pure rfl
  | false =>
    simp only [Bool.false_eq_true, if_false, Parsed.isBareStarred_lower]
    exact Agree.ite Iff.rfl .refuseAt (.pure rfl)

theorem subjectOfMatch : Agree s n 1 id G.subjectOfMatch G'.subjectOfMatch := by
  refine h.matchSubject.bind_first fun _ => Agree.peek3_bind fun kind next second => ?_
  exact Agree.ite Iff.rfl (.pure rfl) .refuse

omit h in
theorem needsParentheses_lower (n : Nat) (e : Parsed) :
    needsParentheses (e.lower n) = needsParentheses e := by
  obtain ⟨e, parens⟩ := e
  cases e <;> rfl

theorem parenthesizedWithItems :
    Agree s n 0 (Option.map (List.map (lowerItem s.tokens))) G.parenthesizedWithItems
      G'.parenthesizedWithItems := by
  refine (Agree.expectSymbol _).bind fun _ => ?_
  refine (Agree.listOf h.parenthesizedWithItem).bind fun items => ?_
  extract_lets found found'
  have hfound : Agree s n 0 (Option.map (List.map (lowerItem s.tokens))) (pure found)
      (pure found') := by
    refine .pure ?_
    simp only [found, found', Option.map_some, List.map_map]
    rfl
  have hneeds : ((fun item : Parsed × Option Expr => needsParentheses item.1) ∘
      lowerParsedItem s.tokens) = fun item => needsParentheses item.1 :=
    funext fun item => needsParentheses_lower s.tokens item.1
  have hbinds : ((fun item : Parsed × Option Expr => item.2.isSome) ∘
      lowerParsedItem s.tokens) = fun item => item.2.isSome :=
    funext fun item => Option.isSome_map
  simp only [List.any_map, List.find?_map, hneeds, hbinds, List.isEmpty_map]
  refine Agree.ite Iff.rfl ((Agree.refuseIf (by simp)).bind fun _ => ?_) ?_
  · exact (Agree.expectSymbol _).bind fun _ => hfound
  · refine Agree.peek3_bind fun kind next _ => Agree.ite Iff.rfl ?_ (.pure rfl)
    exact Agree.bump_bind hfound

theorem withItems : Agree s n 0 (List.map (lowerItem s.tokens)) G.withItems G'.withItems := by
  refine Agree.atExpr_bind fun b => Agree.unless_bind Iff.rfl .refuse ?_
  refine Agree.at?_bind fun b => Agree.ite Iff.rfl ?_ (Agree.listOf h.withItem)
  intro c c' hc hn
  have hother : Outcome s 0 (List.map (lowerItem s.tokens)) c
      (listOf (.withItems .expression) G.withItem c)
      (listOf (.withItems .expression) G'.withItem c') := Agree.listOf h.withItem c c' hc hn
  have hjoined : Agree s n 0 (Option.map (List.map (lowerItem s.tokens)))
      (Option.join <$> attempt G.parenthesizedWithItems)
      (Option.join <$> attempt G'.parenthesizedWithItems) :=
    h.parenthesizedWithItems.attempt.map fun o => by cases o <;> rfl
  change Outcome s 0 _ c ((if bindsInParentheses c.rest 0 = true then _ else _ : Reading _) c)
    ((if bindsInParentheses c'.rest 0 = true then _ else _ : Reading _) c')
  rw [bindsInParentheses_eq hc.rest]
  split
  · exact Agree.retry h.parenthesizedWithItems (fun _ => .pure rfl) (fun _ _ => hother) hc hn
  · exact Agree.retry hjoined (fun _ => .pure rfl) (fun _ _ => hother) hc hn

theorem decorators {kind : Kind} (hkind : kind = .symbol .atSign) :
    AgreeAt s (n + 1) 1 (List.map (Expr.lower s.tokens)) kind G.decorators G'.decorators := by
  have hdecorator : ∀ kind, decide (kind = .symbol .atSign) = true →
      AgreeAt s (n + 1) 1 (Expr.lower s.tokens) kind
        (do
          bump
          let e ← G.namedExpression .plain
          expect .newline
          return e.expr)
        (do
          bump
          let e ← G'.namedExpression .plain
          expect .newline
          return e.expr) := by
    intro kind hkind
    obtain rfl := of_decide_eq_true hkind
    refine AgreeAt.bump_bind ((h.namedExpression _).bind fun e => ?_) (by simp) (by simp)
    exact (Agree.expect _).bind fun _ => .pure rfl
  exact Agree.whileAt_takes hdecorator (decide_eq_true hkind)

end AgreeInner

namespace AgreeAll

variable (h : AgreeAll s n G G')
include h

/-! ## Blocks -/

theorem block : Agree s n 0 (List.map (Stmt.lower s.tokens)) G.block G'.block := by
  unfold Rules.block
  refine Agree.here_bind fun line => Agree.eat_bind ?_ ?_
  · refine Agree.peek_bind fun kind => ?_
    split
    · refine Agree.bump_bind ((Agree.series h.statement).bind fun statements => ?_)
      exact (Agree.expect _).bind fun _ => .pure rfl
    · exact .refuseAt
    · exact .refuseAt
    · exact .refuse
  · refine Agree.peek_bind fun kind => Agree.ite Iff.rfl ?_ .refuse
    refine Agree.rounds_bind fun fuel => (h.lineLoop fuel []).bind fun statements => ?_
    exact (Agree.expect _).bind fun _ => .pure rfl

theorem colonBlock : Agree s n 0 (List.map (Stmt.lower s.tokens)) G.colonBlock G'.colonBlock :=
  (Agree.expectSymbol _).bind fun _ => h.block

theorem elseClauses :
    Agree s n 0 (List.map (lowerClause s.tokens)) G.elseClauses G'.elseClauses := by
  refine Agree.eat_bind (h.colonBlock.bind fun body => ?_) (.pure rfl)
  exact .pure rfl

/-! ## Statements with blocks -/

theorem ifRest : Agree s n 0 (lowerCompound s.tokens) G.ifRest G'.ifRest := by
  have helif : Agree s n 0 (lowerClause s.tokens)
      (do
        bump
        let test ← G.namedExpression .plain
        return (.elif test.expr, ← G.colonBlock))
      (do
        bump
        let test ← G'.namedExpression .plain
        return (.elif test.expr, ← G'.colonBlock)) := by
    refine Agree.bump_bind ((h.namedExpression _).bind fun test => ?_)
    exact h.colonBlock.bind fun body => .pure rfl
  refine (h.namedExpression _).bind fun test => h.colonBlock.bind fun body => ?_
  refine (Agree.within _ (Agree.whileAt helif)).bind fun elifs => ?_
  refine h.elseClauses.bind fun otherwise => ?_
  exact .pure (by simp [lowerCompound])

theorem whileRest : Agree s n 0 (lowerCompound s.tokens) G.whileRest G'.whileRest :=
  (h.namedExpression _).bind fun _ => h.colonBlock.bind fun _ => h.elseClauses.bind fun _ =>
    .pure rfl

theorem forRest (isAsync : Bool) :
    Agree s n 0 (lowerCompound s.tokens) (G.forRest isAsync) (G'.forRest isAsync) := by
  refine (h.expressionList _).bind fun target => (Agree.refuseIf ?_).bind fun _ => ?_
  · simp [Expr.badTarget?_lower]
  refine (Agree.expectKeyword _).bind fun _ => (h.expressionList _).bind fun iterable => ?_
  exact h.colonBlock.bind fun body => h.elseClauses.bind fun otherwise => .pure rfl

theorem exceptClause : Agree s n 0 (lowerHandler s.tokens) G.exceptClause G'.exceptClause := by
  unfold Rules.exceptClause
  refine Agree.here_bind fun p => (Agree.expectKeyword _).bind fun _ => ?_
  refine Agree.eat_bind_any fun group => Agree.atExpr_bind fun b => Agree.at?_bind fun as => ?_
  extract_lets -underBinder rest rest'
  have hrest : ∀ exception, Agree s n 0 (lowerHandler s.tokens) (rest exception)
      (rest' (exception.map (Expr.lower s.tokens))) := by
    refine fun exception => Agree.eat_bind_any fun b => ?_
    refine Agree.optional_bind Iff.rfl Agree.identifier.forget fun name => ?_
    rw [Option.map_id]
    refine h.colonBlock.bind fun body => ?_
    exact .pure (by simp [lowerHandler, lowerClause])
  refine Agree.ite Iff.rfl ?_ (Agree.ite Iff.rfl .refuse_bind (hrest none))
  refine (h.expressionList _).bind fun e => ?_
  obtain ⟨e, parens⟩ := e
  cases e with
  | tuple q elements parens =>
    cases parens with
    | true => exact hrest (some _)
    | false => exact Agree.at?_bind fun b => Agree.when_bind Iff.rfl .refuseAt (hrest (some _))
  | _ => exact hrest (some _)

theorem tryRest : Agree s n 0 (lowerCompound s.tokens) G.tryRest G'.tryRest := by
  unfold Rules.tryRest
  refine h.colonBlock.bind fun body => ?_
  refine (Agree.within _ (Agree.whileAt h.exceptClause)).bind fun handlers => ?_
  extract_lets -underBinder rest rest'
  have hrest : Agree s n 0 (lowerCompound s.tokens) (rest ()) (rest' ()) := by
    refine h.elseClauses.bind fun otherwise => Agree.eat_bind_any fun b => ?_
    extract_lets -underBinder rest rest'
    have hrest : ∀ last, Agree s n 0 (lowerCompound s.tokens) (rest last)
        (rest' (last.map (lowerClause s.tokens))) := fun last =>
      .pure (by simp [lowerCompound, lowerHandler, Function.comp_def])
    refine Agree.ite Iff.rfl ?_ (Agree.ite (by simp) .refuse_bind (hrest []))
    exact h.colonBlock.bind fun body => hrest [(.finally, body)]
  cases handlers with
  | nil => exact hrest
  | cons first others =>
    refine (Agree.refuseIf ?_).bind fun _ => hrest
    simp only [List.find?_map, Option.isSome_map]
    rfl

theorem withRest (isAsync : Bool) :
    Agree s n 0 (lowerCompound s.tokens) (G.withRest isAsync) (G'.withRest isAsync) :=
  h.withItems.bind fun _ => h.colonBlock.bind fun _ => .pure rfl

theorem functionRest (isAsync : Bool) (decorators : List Expr) :
    Agree s n 0 (lowerCompound s.tokens) (G.functionRest isAsync decorators)
      (G'.functionRest isAsync (decorators.map (Expr.lower s.tokens))) := by
  refine Agree.identifier.bind fun name => h.typeParameters.bind fun typeParameters => ?_
  refine (Agree.expectSymbol _).bind fun _ => (h.parameters false).bind fun parameters => ?_
  refine (Agree.expectSymbol _).bind fun _ => Agree.eat_bind_any fun b => ?_
  extract_lets -underBinder rest rest'
  have hrest : ∀ returns, Agree s n 0 (lowerCompound s.tokens) (rest returns)
      (rest' (returns.map (Expr.lower s.tokens))) := fun returns =>
    h.colonBlock.bind fun body => .pure rfl
  refine Agree.ite Iff.rfl (Agree.atExpr_bind fun b => ?_) (hrest none)
  exact Agree.ite Iff.rfl (h.singleExpression.map_some.bind hrest) .refuse_bind

theorem classRest (decorators : List Expr) :
    Agree s n 0 (lowerCompound s.tokens) (G.classRest decorators)
      (G'.classRest (decorators.map (Expr.lower s.tokens))) := by
  have hcall : Agree s n 0 (lowerCall s.tokens) G.arguments G'.arguments :=
    h.arguments.mono (Nat.le_succ n) (Nat.zero_le 1)
  refine Agree.identifier.bind fun name => h.typeParameters.bind fun typeParameters => ?_
  refine Agree.at?_bind fun b => ?_
  extract_lets -underBinder rest rest'
  have hrest : ∀ arguments, Agree s n 0 (lowerCompound s.tokens) (rest arguments)
      (rest' (arguments.map (Argument.lower s.tokens))) := fun arguments =>
    h.colonBlock.bind fun body => .pure rfl
  refine Agree.ite Iff.rfl (hcall.bind fun call => (Agree.refuseIf ?_).bind fun _ => ?_) (hrest [])
  · simp
  · exact hrest call.1

theorem caseClause : Agree s n 0 (lowerClause s.tokens) G.caseClause G'.caseClause := by
  refine (Agree.expectKeyword _).bind fun _ => h.patterns.bind fun pattern => ?_
  refine Agree.eat_bind_any fun b => ?_
  extract_lets -underBinder rest rest'
  have hrest : ∀ guard, Agree s n 0 (lowerClause s.tokens) (rest guard)
      (rest' (guard.map (Expr.lower s.tokens))) := fun guard =>
    h.colonBlock.bind fun body => .pure rfl
  refine Agree.ite Iff.rfl (Agree.atExpr_bind fun b => ?_) (hrest none)
  refine Agree.ite Iff.rfl ((h.namedExpression _).bind fun e => ?_) .refuse_bind
  exact hrest (some e.expr)

theorem matchCases :
    Agree s n 0 (List.map (lowerClause s.tokens)) G.matchCases G'.matchCases := by
  refine (Agree.expect _).bind fun _ => (Agree.expect _).bind fun _ => Agree.at?_bind fun b => ?_
  refine Agree.unless_bind Iff.rfl .refuse ((Agree.whileAt h.caseClause).bind fun cases => ?_)
  exact (Agree.expect _).bind fun _ => .pure rfl

theorem matchRest : Agree s n 0 (lowerCompound s.tokens) G.matchRest G'.matchRest :=
  h.matchSubject.bind fun _ => (Agree.expectSymbol _).bind fun _ => h.matchCases.bind fun _ =>
    .pure rfl

theorem matchStatement {kind : Kind} (hkind : kind = .keyword .«match») :
    OrStay s (n + 1) 1 (lowerCompound s.tokens) kind G.matchStatement G'.matchStatement := by
  have hdecided : ∀ isStatement,
      OrStay s (n + 1) 1 (lowerCompound s.tokens) kind
        (if isStatement = true then do bump; some <$> G.matchRest else return none)
        (if isStatement = true then do bump; some <$> G'.matchRest else return none) := by
    intro isStatement
    cases isStatement with
    | false => exact .stay
    | true =>
      refine .ofAgreeAt (AgreeAt.bump_bind h.matchRest.map_some ?_ ?_)
      all_goals simp [hkind]
  intro c c' hc hn hc'
  rw [matchStatement_apply, matchStatement_apply, hc.kindAt_eq, hc.kindAt_eq]
  cases matchIsStatement? (c.kindAt 1) (c.kindAt 2) with
  | some b => exact hdecided b c c' hc hn hc'
  | none =>
    have hreach := hc.reaches_bumped (by simp [hc', hkind]) (by simp [hc', hkind])
    have hlength := hreach.length_le hc hc.bumped
    have hsubject := h.subjectOfMatch.attempt c.bumped c'.bumped hc.bumped (by omega)
    change (attempt G.subjectOfMatch c.bumped >>= fun p => _) = _ ∧
      (attempt G'.subjectOfMatch c'.bumped >>= fun p => _) = _ ∨
      Outcome s 1 _ c (attempt G.subjectOfMatch c.bumped >>= fun p => _)
        (attempt G'.subjectOfMatch c'.bumped >>= fun p => _)
    generalize attempt G.subjectOfMatch c.bumped = x at hsubject ⊢
    generalize attempt G'.subjectOfMatch c'.bumped = y at hsubject ⊢
    cases hsubject with
    | error => exact .inr .error
    | ok alike behind =>
      rename_i found _ _
      have hfound := hdecided found.isSome c c' hc hn hc'
      cases found with
      | none => exact hfound
      | some => exact hfound

theorem compoundStatement (kind : Kind) :
    OrStay s (n + 1) 1 (lowerCompound s.tokens) kind G.compoundStatement
      G'.compoundStatement := by
  refine OrStay.peek_bind (fun kind => ?_) kind
  cases kind with
  | keyword word =>
    cases word with
    | «if» => exact .ofAgreeAt (AgreeAt.bump_bind h.ifRest.map_some (by simp) (by simp))
    | «for» => exact .ofAgreeAt (AgreeAt.bump_bind (h.forRest _).map_some (by simp) (by simp))
    | «while» => exact .ofAgreeAt (AgreeAt.bump_bind h.whileRest.map_some (by simp) (by simp))
    | «def» =>
      exact .ofAgreeAt (AgreeAt.bump_bind (h.functionRest _ []).map_some (by simp) (by simp))
    | «class» => exact .ofAgreeAt (AgreeAt.bump_bind (h.classRest []).map_some (by simp) (by simp))
    | «try» => exact .ofAgreeAt (AgreeAt.bump_bind h.tryRest.map_some (by simp) (by simp))
    | «with» => exact .ofAgreeAt (AgreeAt.bump_bind (h.withRest _).map_some (by simp) (by simp))
    | «async» =>
      refine .ofAgreeAt (AgreeAt.bump_bind ?_ (by simp) (by simp))
      refine Agree.eat_bind (h.functionRest _ []).map_some (Agree.eat_bind ?_ ?_)
      · exact (h.withRest _).map_some
      · exact Agree.eat_bind (h.forRest _).map_some .refuse
    | «match» => exact h.matchStatement rfl
    | _ => exact .stay
  | symbol mark =>
    cases mark with
    | atSign =>
      refine .ofAgreeAt (AgreeAt.bind_less (h.decorators rfl) fun decorators => ?_)
      refine Agree.peek3_bind fun kind next _ => ?_
      dsimp only
      split
      · refine Agree.ite Iff.rfl ?_ .refuse
        exact Agree.bump_bind (Agree.bump_bind (h.functionRest _ decorators).map_some)
      · exact Agree.bump_bind (h.functionRest _ decorators).map_some
      · exact Agree.bump_bind (h.classRest decorators).map_some
      · exact .refuse
    | _ => exact .stay
  | _ => exact .stay

theorem statementRule (h' : AgreeInner s (n + 1) G G') :
    Agree s (n + 1) 1 (Stmt.lower s.tokens) G.statementRule G'.statementRule := by
  refine Agree.here_bind fun p => OrStay.bind h.compoundStatement h'.singleSimple fun found => ?_
  cases found with
  | none => exact h'.singleSimple.forget
  | some parts =>
    refine Agree.here_bind fun q => ?_
    exact .pure (by simp [Span.lower])

end AgreeAll

end Rules

end ScriptBundle.Python
