import ScriptBundle.Import.Extract
import ScriptBundle.Proofs.Grammar.Forward

namespace ScriptBundle.Python

open Reading

theorem blockSimples_eq_flatMap (block : List Stmt) :
    blockSimples block = block.flatMap Stmt.simples := by
  induction block with
  | nil => rfl
  | cons s rest ih => rw [blockSimples, ih, List.flatMap_cons]

theorem clausesSimples_eq_flatMap (clauses : List (ClauseHeader × List Stmt)) :
    clausesSimples clauses = clauses.flatMap fun clause => blockSimples clause.2 := by
  induction clauses with
  | nil => rfl
  | cons clause rest ih =>
    obtain ⟨header, block⟩ := clause
    rw [clausesSimples, ih, List.flatMap_cons]

theorem clausesSimples_append (clauses more : List (ClauseHeader × List Stmt)) :
    clausesSimples (clauses ++ more) = clausesSimples clauses ++ clausesSimples more := by
  simp only [clausesSimples_eq_flatMap, List.flatMap_append]

/-- The tokens of a span are read as a statement without a block. -/
def ReadFrom (tokens : List Token) (span : Span) (s : SimpleStmt) : Prop :=
  ∃ (G : Rules) (c e : Cursor), c.On tokens ∧ c.number = span.first ∧ e.number = span.past ∧
    G.simpleStatement c = .ok (s, e)

/-- Statements that are read from tokens, one behind the other, between two of them. -/
inductive Placed (tokens : List Token) : Nat → Nat → List (Span × SimpleStmt) → Prop
  | nil {first past : Nat} (h : first ≤ past) : Placed tokens first past []
  | cons {first past : Nat} {span : Span} {s : SimpleStmt} {later : List (Span × SimpleStmt)}
    (start : first ≤ span.first) (length : span.first < span.past) (read : ReadFrom tokens span s)
    (rest : Placed tokens span.past past later) : Placed tokens first past ((span, s) :: later)

namespace Placed

variable {tokens : List Token} {first mid past : Nat} {l m : List (Span × SimpleStmt)}

theorem le (h : Placed tokens first past l) : first ≤ past := by
  induction h with
  | nil h => exact h
  | cons => omega

theorem after {earlier : Nat} (h : Placed tokens first past l) (hle : earlier ≤ first) :
    Placed tokens earlier past l := by
  cases h with
  | nil h => exact .nil (Nat.le_trans hle h)
  | cons start length read rest => exact .cons (Nat.le_trans hle start) length read rest

theorem before {later : Nat} (h : Placed tokens first past l) (hle : past ≤ later) :
    Placed tokens first later l := by
  induction h with
  | nil h => exact .nil (Nat.le_trans h hle)
  | cons start length read _ ih => exact .cons start length read (ih hle)

theorem append (h : Placed tokens first mid l) (h' : Placed tokens mid past m) :
    Placed tokens first past (l ++ m) := by
  induction h with
  | nil hle => exact h'.after hle
  | cons start length read _ ih => exact .cons start length read (ih h')

end Placed

namespace Reading

variable {α β : Type} {tokens : List Token} {n : Nat} {before : List (Span × SimpleStmt)}
  {f : α → List (Span × SimpleStmt)} {g : β → List (Span × SimpleStmt)} {r : Reading α}
  {next : α → Reading β}

/-- A value lists the statements from `before` and then some that are placed between two cursors. -/
def Added (tokens : List Token) (before : List (Span × SimpleStmt))
    (f : α → List (Span × SimpleStmt)) (c : Cursor) (a : α) (e : Cursor) : Prop :=
  e.On tokens ∧ ∃ added, f a = before ++ added ∧ Placed tokens c.number e.number added

/-- **A reading adds statements**, from cursors with at most `n` tokens to go: its value lists those
from `before` and then some that are placed in what it reads. -/
def Adds (tokens : List Token) (n : Nat) (before : List (Span × SimpleStmt))
    (f : α → List (Span × SimpleStmt)) (r : Reading α) : Prop :=
  ∀ c, Closed tokens → c.On tokens → tokens.length ≤ c.number + n →
    Gives r c (Added tokens before f c)

namespace Adds

theorem bind (h : Adds tokens n [] f r) (hnext : ∀ a, Adds tokens n (before ++ f a) g (next a)) :
    Adds tokens n before g (r >>= next) := by
  intro c hclosed hc hn
  refine (h c hclosed hc hn).bind fun a e ⟨he, first, hfirst, hplaced⟩ => ?_
  have hle := hplaced.le
  refine (hnext a e hclosed he (by omega)).mono fun b e' ⟨he', added, hadded, hplaced'⟩ => ?_
  refine ⟨he', first ++ added, ?_, hplaced.append hplaced'⟩
  rw [hadded, hfirst, List.nil_append, List.append_assoc]

/-- A reading without blocks, here one that agrees with itself, adds nothing. -/
theorem skip {k : Nat} {h : α → α} (hr : Agree ⟨0, 0⟩ n k h r r)
    (hnext : ∀ a, Adds tokens n before g (next a)) : Adds tokens n before g (r >>= next) := by
  intro c hclosed hc hn
  refine (hr.gives hclosed hc hn).bind fun a e ⟨he, hle⟩ => ?_
  refine (hnext a e hclosed he (by omega)).mono fun b e' ⟨he', added, hadded, hplaced⟩ => ?_
  exact ⟨he', added, hadded, hplaced.after (by omega)⟩

theorem pure {a : α} (h : f a = before) : Adds tokens n before f (Pure.pure a : Reading α) :=
  fun c _ hc _ => .pure ⟨hc, [], by rw [h, List.append_nil], .nil (Nat.le_refl c.number)⟩

theorem refuse : Adds tokens n before f (Reading.refuse : Reading α) := fun _ _ _ _ => .refuse

theorem refuseAt {p : Nat} : Adds tokens n before f (Reading.refuseAt p : Reading α) :=
  fun _ _ _ _ => .refuseAt

theorem refuse_bind : Adds tokens n before g ((Reading.refuse : Reading α) >>= next) :=
  fun _ _ _ _ _ _ h => nomatch h

theorem refuseAt_bind {p : Nat} :
    Adds tokens n before g ((Reading.refuseAt p : Reading α) >>= next) :=
  fun _ _ _ _ _ _ h => nomatch h

theorem fault {x : Fault} : Adds tokens n before f (throw x : Reading α) := fun _ _ _ _ => .fault

theorem ite {p : Prop} [Decidable p] {x y : Reading α} (hx : Adds tokens n before f x)
    (hy : Adds tokens n before f y) : Adds tokens n before f (if p then x else y) :=
  fun c hclosed hc hn => .ite (fun _ => hx c hclosed hc hn) fun _ => hy c hclosed hc hn

/-- What may be left out, without blocks. -/
theorem optional_skip {k : Nat} {h : α → α} {p : Prop} [Decidable p] {next : Option α → Reading β}
    (hr : Agree ⟨0, 0⟩ n k h r r) (hnext : ∀ o, Adds tokens n before g (next o)) :
    Adds tokens n before g (if p then some <$> r >>= next else Pure.pure none >>= next) :=
  ite (skip hr.map_some hnext) (hnext none)

theorem map_some (h : Adds tokens n before f r) :
    Adds tokens n before (fun o => (o.map f).getD []) (some <$> r) :=
  fun c hclosed hc hn => .map ((h c hclosed hc hn).mono fun _ _ ha => ha)

theorem peek_bind {onKind : Kind → Reading β} (h : ∀ kind, Adds tokens n before g (onKind kind)) :
    Adds tokens n before g (peek >>= onKind) :=
  fun c hclosed hc hn => .peek_bind (h c.kind c hclosed hc hn)

theorem peek3_bind {onKinds : Kind × Kind × Kind → Reading β}
    (h : ∀ kinds, Adds tokens n before g (onKinds kinds)) :
    Adds tokens n before g (peek3 >>= onKinds) :=
  fun c hclosed hc hn => h (c.kind, c.kindAt 1, c.kindAt 2) c hclosed hc hn

theorem here_bind {onNumber : Nat → Reading β} (h : ∀ p, Adds tokens n before g (onNumber p)) :
    Adds tokens n before g (here >>= onNumber) :=
  fun c hclosed hc hn => .here_bind (h c.number c hclosed hc hn)

theorem rounds_bind {onRounds : Nat → Reading β}
    (h : ∀ fuel, Adds tokens n before g (onRounds fuel)) :
    Adds tokens n before g (rounds >>= onRounds) :=
  fun c hclosed hc hn => .rounds_bind (h _ c hclosed hc hn)

theorem at?_bind {kind : Kind} {onFound : Bool → Reading β}
    (h : ∀ b, Adds tokens n before g (onFound b)) : Adds tokens n before g (at? kind >>= onFound) :=
  fun c hclosed hc hn => .at?_bind (h _ c hclosed hc hn)

theorem atExpr_bind {onFound : Bool → Reading β} (h : ∀ b, Adds tokens n before g (onFound b)) :
    Adds tokens n before g (atExpr >>= onFound) :=
  fun c hclosed hc hn => h c.kind.startsExpr c hclosed hc hn

theorem belongsOutside_bind {onFound : Bool → Reading β}
    (h : ∀ b, Adds tokens n before g (onFound b)) :
    Adds tokens n before g (belongsOutside >>= onFound) :=
  fun c hclosed hc hn => h (c.lists.any fun list =>
    list.startsItem c.kind || list.ends c.kind || list.cutsOff c.kind) c hclosed hc hn

theorem bump_bind {next : Unit → Reading β} (h : Adds tokens n before g (next ())) :
    Adds tokens n before g (bump >>= next) :=
  skip Agree.bump fun _ => h

theorem eat_bind {kind : Kind} {onEaten : Bool → Reading β}
    (h : ∀ b, Adds tokens n before g (onEaten b)) : Adds tokens n before g (eat kind >>= onEaten) :=
  skip (Agree.eat kind) h

theorem expect_bind {kind : Kind} {next : Unit → Reading β}
    (h : Adds tokens n before g (next ())) : Adds tokens n before g (expect kind >>= next) :=
  skip (Agree.expect kind) fun _ => h

theorem within {list : ListKind} (h : Adds tokens n before f r) :
    Adds tokens n before f (Reading.within list r) := by
  intro c hclosed hc hn
  have hinner := h { c with lists := list :: c.lists } hclosed (hc.withLists _) hn
  refine .within (hinner.mono fun a e ⟨he, hadded⟩ => ?_)
  exact ⟨he.withLists _, hadded⟩

/-- A token that ends neither a line nor the file leaves fewer tokens. -/
theorem bumped {c : Cursor} (h : Adds tokens n before f r) (hclosed : Closed tokens)
    (hc : c.On tokens) (hn : tokens.length ≤ c.number + (n + 1)) (hline : c.kind ≠ .newline)
    (hfile : c.kind ≠ .endOfFile) :
    Gives (bump >>= fun _ => r) c (Added tokens before f c) := by
  obtain ⟨hbumped, hnumber, -⟩ := hc.bumped hclosed hline hfile
  have hbehind := h c.bumped hclosed hbumped (by omega)
  refine .bump_bind (hbehind.mono fun a e ⟨he, added, hadded, hplaced⟩ => ?_)
  exact ⟨he, added, hadded, hplaced.after (by omega)⟩

/-! ## Loops -/

theorem whileAtLoop {test : Kind → Bool} (h : Adds tokens n [] f r) (fuel : Nat) (done : List α) :
    Adds tokens n (done.reverse.flatMap f) (List.flatMap f)
      (Reading.whileAtLoop test r fuel done) := by
  induction fuel generalizing done with
  | zero => exact fault
  | succ fuel ih =>
    refine peek_bind fun kind => ite (h.bind fun a => ?_) (pure rfl)
    simpa using ih (a :: done)

theorem whileAt {test : Kind → Bool} (h : Adds tokens n [] f r) :
    Adds tokens n [] (List.flatMap f) (Reading.whileAt test r) :=
  rounds_bind fun fuel => h.whileAtLoop fuel []

theorem seriesLoop {list : ListKind} (h : Adds tokens n [] f r) (fuel : Nat) (done : List α) :
    Adds tokens n (done.reverse.flatMap f) (List.flatMap f)
      (Reading.seriesLoop list r fuel done) := by
  induction fuel generalizing done with
  | zero => exact fault
  | succ fuel ih =>
    refine peek_bind fun kind => ite (h.bind fun a => ?_) (ite (pure rfl) ?_)
    · simpa using ih (a :: done)
    · exact belongsOutside_bind fun b => ite (skip Agree.cutOff fun _ => pure rfl) refuse

theorem series {list : ListKind} (h : Adds tokens n [] f r) :
    Adds tokens n [] (List.flatMap f) (Reading.series list r) :=
  within (rounds_bind fun fuel => h.seriesLoop fuel [])

end Adds

end Reading

namespace Rules

variable {tokens : List Token} {n : Nat} {G : Rules}

/-- The statements in the parts of a compound statement. -/
def partsSimples (parts : Header × List Stmt × List (ClauseHeader × List Stmt)) :
    List (Span × SimpleStmt) :=
  blockSimples parts.2.1 ++ clausesSimples parts.2.2

namespace AgreeInner

variable (h : AgreeInner ⟨0, 0⟩ n G G)
include h

/-- A statement without a block is read from the tokens of its span. -/
theorem spannedSimple_adds : Adds tokens n [] Stmt.simples G.spannedSimple := by
  intro c hclosed hc hn
  refine .here_bind ?_
  have hread : Gives G.simpleStatement c fun s e =>
      (e.On tokens ∧ c.number + 1 ≤ e.number) ∧ G.simpleStatement c = .ok (s, e) :=
    fun s e hs => ⟨h.simpleStatement.forward hclosed hc hn hs, hs⟩
  refine hread.bind fun s e ⟨⟨he, hle⟩, hs⟩ => .here_bind (.pure ⟨he, _, rfl, ?_⟩)
  refine .cons (Nat.le_refl _) ?_ ⟨G, c, e, hc, rfl, rfl, hs⟩ (.nil (Nat.le_refl _))
  exact hle

theorem singleSimple_adds : Adds tokens n [] Stmt.simples G.singleSimple := by
  refine h.spannedSimple_adds.bind fun s => .eat_bind fun semicolon => .eat_bind fun b => ?_
  refine .ite (.pure rfl) (.peek_bind fun kind => ?_)
  exact .ite .refuse_bind (.pure rfl)

theorem lineLoop_adds (fuel : Nat) (done : List Stmt) :
    Adds tokens n (blockSimples done.reverse) blockSimples (G.lineLoop fuel done) := by
  induction fuel generalizing done with
  | zero => exact .fault
  | succ fuel ih =>
    unfold Rules.lineLoop
    refine h.spannedSimple_adds.bind fun s => ?_
    have hdone : blockSimples done.reverse ++ s.simples = blockSimples (s :: done).reverse := by
      simp [blockSimples_eq_flatMap]
    rw [hdone]
    refine .eat_bind fun b => .ite (.peek_bind fun kind => ?_) (.peek_bind fun kind => ?_)
    · exact .ite (ih (s :: done)) (.pure rfl)
    · exact .ite .refuse (.pure rfl)

end AgreeInner

/-- The rules go forward on at most `n` tokens, and statements add what they hold. -/
structure Orders (tokens : List Token) (n : Nat) (G : Rules) : Prop where
  agree : AgreeAll ⟨0, 0⟩ n G G
  statement : Adds tokens n [] Stmt.simples G.statement

namespace Orders

variable (h : G.Orders tokens n)
include h

theorem block : Adds tokens n [] blockSimples G.block := by
  unfold Rules.block
  refine .here_bind fun line => .eat_bind fun b => .ite (.peek_bind fun kind => ?_) ?_
  · split
    · refine .bump_bind (h.statement.series.bind fun statements => .expect_bind (.pure ?_))
      exact blockSimples_eq_flatMap statements
    · exact .refuseAt
    · exact .refuseAt
    · exact .refuse
  · refine .peek_bind fun kind => .ite (.rounds_bind fun fuel => ?_) .refuse
    exact (h.agree.lineLoop_adds fuel []).bind fun statements => .expect_bind (.pure rfl)

theorem colonBlock : Adds tokens n [] blockSimples G.colonBlock := .expect_bind h.block

theorem elseClauses : Adds tokens n [] clausesSimples G.elseClauses := by
  refine .eat_bind fun b => .ite (h.colonBlock.bind fun body => .pure ?_) (.pure rfl)
  simp [clausesSimples]

theorem ifRest : Adds tokens n [] partsSimples G.ifRest := by
  have helif : Adds tokens n [] (fun clause => blockSimples clause.2) (do
      bump
      let test ← G.namedExpression .plain
      return (ClauseHeader.elif test.expr, ← G.colonBlock)) := by
    refine .bump_bind (.skip (h.agree.namedExpression _) fun test => ?_)
    exact h.colonBlock.bind fun body => .pure rfl
  refine .skip (h.agree.namedExpression _) fun test => h.colonBlock.bind fun body => ?_
  refine (helif.whileAt.within).bind fun elifs => h.elseClauses.bind fun otherwise => .pure ?_
  simp [partsSimples, clausesSimples_append, clausesSimples_eq_flatMap elifs]

theorem whileRest : Adds tokens n [] partsSimples G.whileRest := by
  refine .skip (h.agree.namedExpression _) fun test => h.colonBlock.bind fun body => ?_
  exact h.elseClauses.bind fun otherwise => .pure rfl

theorem forRest (isAsync : Bool) : Adds tokens n [] partsSimples (G.forRest isAsync) := by
  refine .skip (h.agree.expressionList _) fun target => ?_
  refine .skip (Agree.refuseIf (by simp)) fun _ => .expect_bind ?_
  refine .skip (h.agree.expressionList _) fun iterable => h.colonBlock.bind fun body => ?_
  exact h.elseClauses.bind fun otherwise => .pure rfl

theorem exceptClause :
    Adds tokens n [] (fun handler => blockSimples handler.1.2) G.exceptClause := by
  unfold Rules.exceptClause
  refine .here_bind fun p => .expect_bind (.eat_bind fun group => .atExpr_bind fun b => ?_)
  refine .at?_bind fun as => ?_
  extract_lets -underBinder rest
  have hrest : ∀ exception, Adds tokens n [] (fun handler => blockSimples handler.1.2)
      (rest exception) := by
    refine fun exception => .eat_bind fun b => .optional_skip Agree.identifier fun name => ?_
    exact h.colonBlock.bind fun body => .pure rfl
  refine .ite (.skip (h.agree.expressionList _) fun e => ?_) (.ite .refuse_bind (hrest none))
  split
  · exact .at?_bind fun b => .ite .refuseAt_bind (hrest _)
  · exact hrest _

theorem tryRest : Adds tokens n [] partsSimples G.tryRest := by
  unfold Rules.tryRest
  refine h.colonBlock.bind fun body => (h.exceptClause.whileAt.within).bind fun handlers => ?_
  have hhandlers : handlers.flatMap (fun handler => blockSimples handler.1.2) =
      clausesSimples (handlers.map (·.1)) := by
    rw [clausesSimples_eq_flatMap, List.flatMap_map]
  rw [hhandlers]
  extract_lets -underBinder rest
  have hrest : Adds tokens n (blockSimples body ++ clausesSimples (handlers.map (·.1)))
      partsSimples (rest ()) := by
    refine h.elseClauses.bind fun otherwise => .eat_bind fun b => ?_
    refine .ite (h.colonBlock.bind fun last => .pure ?_) (.ite .refuse_bind (.pure ?_))
    · simp [partsSimples, clausesSimples_append, clausesSimples]
    · simp [partsSimples, clausesSimples_append]
  split
  · exact .skip (Agree.refuseIf (by simp)) fun _ => hrest
  · exact hrest

theorem withRest (isAsync : Bool) : Adds tokens n [] partsSimples (G.withRest isAsync) := by
  refine .skip h.agree.withItems fun items => h.colonBlock.bind fun body => .pure ?_
  simp [partsSimples, clausesSimples]

theorem functionRest (isAsync : Bool) (decorators : List Expr) :
    Adds tokens n [] partsSimples (G.functionRest isAsync decorators) := by
  refine .skip Agree.identifier fun name => .skip h.agree.typeParameters fun typeParameters => ?_
  refine .expect_bind (.skip (h.agree.parameters false) fun parameters => .expect_bind ?_)
  refine .eat_bind fun b => ?_
  extract_lets -underBinder rest
  have hrest : ∀ returns, Adds tokens n [] partsSimples (rest returns) := by
    refine fun returns => h.colonBlock.bind fun body => .pure ?_
    simp [partsSimples, clausesSimples]
  refine .ite (.atExpr_bind fun b => .ite ?_ .refuse_bind) (hrest none)
  exact .skip h.agree.singleExpression.map_some hrest

theorem classRest (decorators : List Expr) :
    Adds tokens n [] partsSimples (G.classRest decorators) := by
  refine .skip Agree.identifier fun name => .skip h.agree.typeParameters fun typeParameters => ?_
  refine .at?_bind fun b => ?_
  extract_lets -underBinder rest
  have hrest : ∀ arguments, Adds tokens n [] partsSimples (rest arguments) := by
    refine fun arguments => h.colonBlock.bind fun body => .pure ?_
    simp [partsSimples, clausesSimples]
  have hcall := h.agree.arguments.mono (Nat.le_succ n) (Nat.le_refl 1)
  refine .ite (.skip hcall fun call => .skip (Agree.refuseIf (by simp)) fun _ => ?_) (hrest [])
  exact hrest call.1

theorem caseClause : Adds tokens n [] (fun clause => blockSimples clause.2) G.caseClause := by
  refine .expect_bind (.skip h.agree.patterns fun pattern => .eat_bind fun b => ?_)
  extract_lets -underBinder rest
  have hrest : ∀ guard, Adds tokens n [] (fun clause => blockSimples clause.2) (rest guard) :=
    fun guard => h.colonBlock.bind fun body => .pure rfl
  refine .ite (.atExpr_bind fun b => .ite ?_ .refuse_bind) (hrest none)
  exact .skip (h.agree.namedExpression _) fun e => hrest _

theorem matchCases : Adds tokens n [] clausesSimples G.matchCases := by
  refine .expect_bind (.expect_bind (.at?_bind fun b => .ite ?_ .refuse_bind))
  refine h.caseClause.whileAt.bind fun cases => .expect_bind (.pure ?_)
  exact clausesSimples_eq_flatMap cases

theorem matchRest : Adds tokens n [] partsSimples G.matchRest := by
  refine .skip h.agree.matchSubject fun subject => .expect_bind ?_
  exact h.matchCases.bind fun cases => .pure rfl

end Orders

/-- The statements in the parts of a compound statement, if there is one. -/
def foundSimples (found : Option (Header × List Stmt × List (ClauseHeader × List Stmt))) :
    List (Span × SimpleStmt) :=
  (found.map partsSimples).getD []

/-- What stands behind decorators. -/
def decorated (G : Rules) (decorators : List Expr) :
    Reading (Option (Header × List Stmt × List (ClauseHeader × List Stmt))) := do
  let (kind, next, _) ← peek3
  match kind with
  | .keyword .«async» =>
    if next = .keyword .«def» then
      bump
      bump
      some <$> G.functionRest true decorators
    else refuse
  | .keyword .«def» => bump; some <$> G.functionRest false decorators
  | .keyword .«class» => bump; some <$> G.classRest decorators
  | _ => refuse

namespace Orders

variable (h : G.Orders tokens n)
include h

theorem decorated (decorators : List Expr) :
    Adds tokens n [] foundSimples (G.decorated decorators) := by
  refine .peek3_bind fun kinds => ?_
  dsimp only
  split
  · exact .ite (.bump_bind (.bump_bind (h.functionRest _ _).map_some)) .refuse
  · exact .bump_bind (h.functionRest _ _).map_some
  · exact .bump_bind (h.classRest _).map_some
  · exact .refuse

theorem matchStatement {c : Cursor} (hclosed : Closed tokens) (hc : c.On tokens)
    (hn : tokens.length ≤ c.number + (n + 1)) (hline : c.kind ≠ .newline)
    (hfile : c.kind ≠ .endOfFile) :
    Gives G.matchStatement c (Added tokens [] foundSimples c) := by
  have hdecided : ∀ isStatement : Bool,
      Gives (if isStatement = true then do bump; some <$> G.matchRest else return none) c
        (Added tokens [] foundSimples c) := by
    refine fun isStatement => .ite (fun _ => ?_) fun _ => ?_
    · exact h.matchRest.map_some.bumped hclosed hc hn hline hfile
    · exact .pure ⟨hc, [], rfl, .nil (Nat.le_refl _)⟩
  intro found e hfound
  rw [matchStatement_apply] at hfound
  cases hlook : matchIsStatement? (c.kindAt 1) (c.kindAt 2) with
  | some isStatement =>
    rw [hlook] at hfound
    exact hdecided isStatement found e hfound
  | none =>
    rw [hlook] at hfound
    -- What was looked at is left behind.
    refine Gives.bump_bind (Gives.any.bind fun subject _ _ => ?_) found e hfound
    exact hdecided subject.isSome

theorem compoundStatement : Adds tokens (n + 1) [] foundSimples G.compoundStatement := by
  intro c hclosed hc hn
  have hbehind : ∀ {r : Reading (Header × List Stmt × List (ClauseHeader × List Stmt))},
      Adds tokens n [] partsSimples r → c.kind ≠ .newline → c.kind ≠ .endOfFile →
        Gives (bump >>= fun _ => some <$> r) c (Added tokens [] foundSimples c) :=
    fun hr hline hfile => hr.map_some.bumped hclosed hc hn hline hfile
  have hnone : Gives (pure none) c (Added tokens [] foundSimples c) :=
    .pure ⟨hc, [], rfl, .nil (Nat.le_refl _)⟩
  refine .peek_bind ?_
  generalize hkind : c.kind = kind at hbehind
  cases kind with
  | keyword word =>
    cases word with
    | «if» => exact hbehind h.ifRest (by simp) (by simp)
    | «for» => exact hbehind (h.forRest _) (by simp) (by simp)
    | «while» => exact hbehind h.whileRest (by simp) (by simp)
    | «def» => exact hbehind (h.functionRest _ _) (by simp) (by simp)
    | «class» => exact hbehind (h.classRest _) (by simp) (by simp)
    | «try» => exact hbehind h.tryRest (by simp) (by simp)
    | «with» => exact hbehind (h.withRest _) (by simp) (by simp)
    | «async» =>
      have hasync : Adds tokens n [] foundSimples (do
          if ← eatKeyword .«def» then some <$> G.functionRest true []
          else if ← eatKeyword .«with» then some <$> G.withRest true
          else if ← eatKeyword .«for» then some <$> G.forRest true
          else refuse) := by
        refine .eat_bind fun b => .ite (h.functionRest _ _).map_some (.eat_bind fun b => ?_)
        refine .ite (h.withRest _).map_some (.eat_bind fun b => ?_)
        exact .ite (h.forRest _).map_some .refuse
      exact hasync.bumped hclosed hc hn (by simp [hkind]) (by simp [hkind])
    | «match» => exact h.matchStatement hclosed hc hn (by simp [hkind]) (by simp [hkind])
    | _ => exact hnone
  | symbol mark =>
    cases mark with
    | atSign =>
      have hfirst : Gives G.decorators c fun _ e => e.On tokens ∧ c.number + 1 ≤ e.number :=
        fun _ _ hr => (h.agree.decorators rfl).forward hclosed hc hn hkind hr
      refine hfirst.bind ?_
      rintro decorators e ⟨he, hle⟩
      have hnext := h.decorated decorators e hclosed he (by omega)
      refine hnext.mono ?_
      rintro a e' ⟨he', added, hadded, hplaced⟩
      exact ⟨he', added, hadded, hplaced.after (by omega)⟩
    | _ => exact hnone
  | _ => exact hnone

theorem statementRule (hinner : AgreeInner ⟨0, 0⟩ (n + 1) G G) :
    Adds tokens (n + 1) [] Stmt.simples G.statementRule := by
  refine .here_bind fun p => h.compoundStatement.bind fun found => ?_
  cases found with
  | none => exact hinner.singleSimple_adds
  | some parts => exact .here_bind fun q => .pure rfl

end Orders

/-- Rules that are nested deep enough list statements in order. -/
theorem upTo_orders (n : Nat) : ∀ d, 2 * n + 1 ≤ d → (upTo d).Orders tokens n := by
  induction n with
  | zero =>
    refine fun d hd => ⟨(upTo_agree ⟨0, 0⟩ 0).2 d d hd hd, fun c _ hc hn => ?_⟩
    have := hc.lt
    omega
  | succ n ih =>
    intro d hd
    obtain ⟨e, rfl⟩ : ∃ e, d = e + 1 := ⟨d - 1, by omega⟩
    refine ⟨(upTo_agree ⟨0, 0⟩ (n + 1)).2 _ _ hd hd, ?_⟩
    have hinner := (upTo_agree ⟨0, 0⟩ (n + 1)).1 e e (by omega) (by omega)
    exact (ih e (by omega)).statementRule hinner

end Rules

/-- **The statements of a module** are placed in its tokens. -/
theorem placed_of_statements {tokens : List Token} (hclosed : Closed tokens) {body : List Stmt}
    (h : Module.statements tokens = .ok body) :
    Placed tokens 0 tokens.length (blockSimples body) := by
  have hon : (⟨tokens, 0, tokens.length, [], false⟩ : Cursor).On tokens :=
    ⟨rfl, List.length_pos_iff.2 hclosed.ne_nil, rfl⟩
  have horders : (Rules.upTo (2 * tokens.length + 16)).Orders tokens tokens.length :=
    Rules.upTo_orders _ _ (by omega)
  have hseries : Adds tokens tokens.length [] (List.flatMap Stmt.simples)
      (Reading.series .module (Rules.upTo (2 * tokens.length + 16)).statement) :=
    horders.statement.series
  unfold Module.statements at h
  cases hread : Reading.series .module (Rules.upTo (2 * tokens.length + 16)).statement
      ⟨tokens, 0, tokens.length, [], false⟩ with
  | error fault => simp [hread, Except.map] at h
  | ok p =>
    simp only [hread, Except.map, Except.ok.injEq] at h
    obtain ⟨he, added, hadded, hplaced⟩ := hseries _ hclosed hon (by simp) p.1 p.2 hread
    rw [List.nil_append, h, ← blockSimples_eq_flatMap] at hadded
    rw [hadded]
    exact hplaced.before (Nat.le_of_lt he.lt)

end ScriptBundle.Python
