import ScriptBundle.Proofs.Grammar.Expressions
import ScriptBundle.Python.Grammar.Pattern

/-!
# Patterns are read alike

The same for the grammar of patterns. A pattern with alternatives calls the rule for one without at
its first token, so `Rules.AgreeAll`, which speaks of both, is a level above `Rules.AgreeInner`.
-/

namespace ScriptBundle.Python

open Reading

variable {s : Shift} {n k : Nat} {G G' : Rules}

theorem Expr.isReal_lower (n : Nat) : ∀ e : Expr, (e.lower n).isReal = e.isReal
  | .unary _ _ operand => operand.isReal_lower n
  | .constant _ value => by cases value <;> rfl
  | .name _ _ | .interpolated _ _ _ | .boolean _ _ _ | .named _ _ _
  | .binary _ _ _ _ | .lambda _ _ _ | .conditional _ _ _ _ | .dict _ _ | .set _ _
  | .comprehension _ _ _ _ _ | .await _ _ | .yield _ _ | .yieldFrom _ _ | .compare _ _ _ _
  | .call _ _ _ | .member _ _ _ | .subscript _ _ _ | .starred _ _ | .list _ _ | .tuple _ _ _
  | .slice _ _ _ _ => rfl

theorem Expr.isImaginary_lower (n : Nat) (e : Expr) :
    (e.lower n).isImaginary = e.isImaginary := by
  cases e with
  | constant p value => cases value <;> rfl
  | _ => rfl

namespace Rules

structure AgreeAll (s : Shift) (n : Nat) (G G' : Rules) : Prop extends AgreeInner s n G G' where
  statement : Reading.Agree s n 1 (Stmt.lower s.tokens) G.statement G'.statement
  pattern : ∀ allowStar, Reading.Agree s n 1 (Pattern.lower s.tokens) (G.pattern allowStar)
    (G'.pattern allowStar)

/-- The entries read so far, with their tokens numbered `n` lower. -/
def EntriesRead.lower (n : Nat) (a : EntriesRead) : EntriesRead :=
  { a with keys := a.keys.map (Expr.lower n), patterns := a.patterns.map (Pattern.lower n) }

/-- The arguments read so far, with their tokens numbered `n` lower. -/
def ClassArgumentsRead.lower (n : Nat) (a : ClassArgumentsRead) : ClassArgumentsRead :=
  { a with patterns := a.patterns.map (Pattern.lower n), named := a.named.map (Pattern.lower n) }

theorem AgreeInner.patternRule (h : AgreeInner s n G G') (allowStar : Bool) :
    Agree s n 1 (Pattern.lower s.tokens) (G.patternRule allowStar)
      (G'.patternRule allowStar) := by
  unfold Rules.patternRule
  refine Agree.here_bind fun p => (h.closedPattern allowStar).bind_first fun first => ?_
  refine Agree.at?_bind fun b => ?_
  extract_lets -underBinder bound others bound' others'
  have hbound : ∀ all, Agree s n 0 (Pattern.lower s.tokens) (bound all)
      (bound' (all.lower s.tokens)) := by
    refine fun all => Agree.eat_bind ?_ (.pure rfl)
    simp only [if_true, Pattern.isStar_lower]
    refine Agree.when_bind Iff.rfl .refuseAt (Agree.identifier.bind fun name => ?_)
    exact .pure (by simp)
  have hothers : Agree s n 0 (Pattern.lower s.tokens) (others ()) (others' ()) := by
    have hother : Agree s n 0 (Pattern.lower s.tokens) (do bump; G.closedPattern false)
        (do bump; G'.closedPattern false) := Agree.bump_bind (h.closedPattern false).forget
    refine (Agree.whileAt hother).bind fun patterns => ?_
    have hbound := hbound (.or (p + s.tokens) (first :: patterns))
    simpa using hbound
  cases b with
  | true =>
    simp only [if_true, Pattern.isStar_lower]
    exact Agree.when_bind Iff.rfl .refuseAt hothers
  | false => exact hbound first

namespace AgreeAll

variable (h : AgreeAll s n G G')
include h

theorem sequencePatternRest (first : Pattern) (p : Nat) (closer : Option Symbol) :
    Agree s n 0 (Pattern.lower s.tokens) (G.sequencePatternRest first (p + s.tokens) closer)
      (G'.sequencePatternRest (first.lower s.tokens) p closer) := by
  have hothers : Agree s n 0 (List.map (Pattern.lower s.tokens))
      (listOf (.sequencePattern closer) (G.pattern true))
      (listOf (.sequencePattern closer) (G'.pattern true)) := Agree.listOf (h.pattern true)
  cases closer with
  | none =>
    simp only [Rules.sequencePatternRest, pure_bind, Bool.false_eq_true, if_false]
    refine (Agree.expectSymbol _).bind fun _ => hothers.bind fun others => ?_
    exact .pure (by simp)
  | some mark =>
    refine Agree.at?_bind fun closed => ?_
    refine Agree.unless_bind Iff.rfl (Agree.expectSymbol _).forget ?_
    refine hothers.bind fun others => (Agree.expectSymbol _).bind fun _ => ?_
    exact .pure (by simp)

theorem patterns : Agree s n 1 (Pattern.lower s.tokens) G.patterns G'.patterns := by
  refine Agree.here_bind fun p => (h.pattern true).bind_first fun first => ?_
  refine Agree.at?_bind fun b => ?_
  cases b with
  | true => exact h.sequencePatternRest first p none
  | false =>
    simp only [Bool.false_eq_true, if_false, Pattern.isStar_lower]
    exact Agree.ite Iff.rfl .refuseAt (.pure rfl)

theorem mappingEntry (a : EntriesRead) :
    Agree s n 0 (EntriesRead.lower s.tokens) (G.mappingEntry a)
      (G'.mappingEntry (a.lower s.tokens)) := by
  unfold Rules.mappingEntry
  refine Agree.here_bind fun p => Agree.eat_bind ?_ ?_
  · refine Agree.identifier.bind fun name => Agree.when_bind Iff.rfl .refuseAt ?_
    exact .pure rfl
  refine (h.closedPattern false).bind fun key => ?_
  extract_lets -underBinder rest rest'
  have hrest : ∀ key, Agree s n 0 (EntriesRead.lower s.tokens) (rest key)
      (rest' (key.lower s.tokens)) := fun key =>
    (Agree.expectSymbol _).bind fun _ => (h.pattern false).bind fun pattern =>
      Agree.when_bind Iff.rfl .refuseAt (.pure (by simp [EntriesRead.lower]))
  cases key with
  | value q e => exact hrest e
  | singleton q c => exact hrest (.constant q c)
  | _ => exact .refuseAt_bind

theorem mappingPattern :
    Agree s (n + 1) 1 (Pattern.lower s.tokens) G.mappingPattern G'.mappingPattern := by
  refine Agree.here_bind fun p => (Agree.expectSymbol _).bind_less fun _ => ?_
  have hread : Agree s n 0 (Prod.map (EntriesRead.lower s.tokens) id)
      (sequence .mappingPattern G.mappingEntry {}) (sequence .mappingPattern G'.mappingEntry {}) :=
    Agree.sequence h.mappingEntry rfl
  refine hread.bind fun read => (Agree.expectSymbol _).bind fun _ => ?_
  exact .pure (by simp [EntriesRead.lower])

omit h in
theorem starPattern : Agree s n 1 (Pattern.lower s.tokens) Rules.starPattern Rules.starPattern := by
  refine Agree.here_bind fun p => (Agree.expectSymbol _).bind_first fun _ => ?_
  refine Agree.identifier.bind fun name => ?_
  exact .pure (by simp)

theorem bracketedPattern {kind : Kind} (hline : kind ≠ .newline) (hfile : kind ≠ .endOfFile) :
    AgreeAt s (n + 1) 1 (Pattern.lower s.tokens) kind G.bracketedPattern G'.bracketedPattern := by
  unfold Rules.bracketedPattern
  refine AgreeAt.here_bind fun p => AgreeAt.at?_bind fun isList => ?_
  refine AgreeAt.bump_bind (Agree.peek_bind fun next => ?_) hline hfile
  extract_lets -underBinder rest rest'
  have hrest : Agree s n 0 (Pattern.lower s.tokens) (rest ()) (rest' ()) := by
    refine Agree.eat_bind (.pure (by simp)) ?_
    refine (h.pattern true).bind fun first => Agree.at?_bind fun b => ?_
    refine Agree.ite Iff.rfl (h.sequencePatternRest first p _) ?_
    exact (Agree.expectSymbol _).bind fun _ => .pure rfl
  split
  · exact .refuse_bind
  · exact .refuse_bind
  · exact hrest

omit h in
theorem dottedValue (p fuel : Nat) (e : Expr) :
    Agree s n 0 (Expr.lower s.tokens) (Rules.dottedValue (p + s.tokens) fuel e)
      (Rules.dottedValue p fuel (e.lower s.tokens)) := by
  induction fuel generalizing e with
  | zero => exact .fault
  | succ fuel ih =>
    unfold Rules.dottedValue
    refine Agree.eat_bind (Agree.identifier.bind fun name => ?_) (.pure rfl)
    simpa using ih (.member (p + s.tokens) e name)

theorem simplePattern :
    Agree s (n + 1) 1 (Pattern.lower s.tokens) G.simplePattern G'.simplePattern := by
  unfold Rules.simplePattern
  refine Agree.here_bind fun p => Agree.peek3_bindAt fun kind next _ => ?_
  dsimp -zeta only
  split
  · exact AgreeAt.bump_bind (.pure (by simp)) (by simp) (by simp)
  · exact AgreeAt.bump_bind (.pure (by simp)) (by simp) (by simp)
  · exact AgreeAt.bump_bind (.pure (by simp)) (by simp) (by simp)
  · refine (h.strings rfl).bind_first fun e => ?_
    exact .pure (by simp)
  · refine (h.strings rfl).bind_first fun e => ?_
    exact .pure (by simp)
  · exact AgreeAt.bump_bind (.pure (by simp)) (by simp) (by simp)
  extract_lets signed
  have hkind : signed = true → kind ≠ .newline ∧ kind ≠ .endOfFile := by
    intro hsigned
    constructor
    all_goals
      rintro rfl
      simp [signed] at hsigned
  clear_value signed
  cases signed with
  | true =>
    refine AgreeAt.bump_bind ((h.operand _ _).bind fun operand => ?_) (hkind rfl).1 (hkind rfl).2
    refine Agree.when_bind Iff.rfl .refuseAt ?_
    exact .pure (by simp)
  | false =>
    simp only [Bool.false_eq_true, if_false]
    refine (Agree.ite Iff.rfl ?_ ?_ : Agree s (n + 1) 1 _ _ _).anywhere _
    · refine Agree.identifier.bind_first fun name => ?_
      refine Agree.rounds_bind fun fuel => ?_
      have hvalue := dottedValue (s := s) (n := n + 1) p fuel (.name (p + s.tokens) name)
      simp only [Expr.lower, Nat.add_sub_cancel] at hvalue
      refine hvalue.bind fun e => ?_
      exact .pure (by simp)
    · refine Agree.identifier.bind_first fun name => ?_
      exact .pure (by simp)

theorem classArgument (a : ClassArgumentsRead) :
    Agree s n 0 (ClassArgumentsRead.lower s.tokens) (G.classArgument a)
      (G'.classArgument (a.lower s.tokens)) := by
  unfold Rules.classArgument
  refine Agree.here_bind fun p => (h.pattern false).bind fun pattern => Agree.eat_bind ?_ ?_
  · cases pattern with
    | capture q name =>
      cases name with
      | none => exact .refuseAt
      | some name =>
        refine (h.pattern false).bind fun value => ?_
        exact .pure (by simp [ClassArgumentsRead.lower])
    | _ => exact .refuseAt
  · simp only [Bool.false_eq_true, if_false]
    exact Agree.ite Iff.rfl (.pure rfl) .refuseAt

theorem classPatternRest (cls : Pattern) (p : Nat) :
    Agree s n 0 (Pattern.lower s.tokens) (G.classPatternRest cls (p + s.tokens))
      (G'.classPatternRest (cls.lower s.tokens) p) := by
  unfold Rules.classPatternRest
  extract_lets -underBinder rest rest'
  have hrest : ∀ cls, Agree s n 0 (Pattern.lower s.tokens) (rest cls)
      (rest' (cls.lower s.tokens)) := by
    refine fun cls => (Agree.expectSymbol _).bind fun _ => ?_
    have hread : Agree s n 0 (Prod.map (ClassArgumentsRead.lower s.tokens) id)
        (sequence .classPattern G.classArgument {}) (sequence .classPattern G'.classArgument {}) :=
      Agree.sequence h.classArgument rfl
    refine hread.bind fun read => (Agree.expectSymbol _).bind fun _ => ?_
    exact .pure (by simp [ClassArgumentsRead.lower])
  cases cls with
  | capture q name =>
    cases name with
    | none => exact .refuseAt_bind
    | some name => exact hrest (.name q name)
  | value q e =>
    cases e with
    | member => exact hrest _
    | _ => exact .refuseAt_bind
  | _ => exact .refuseAt_bind

theorem complexRest (real : Pattern) (p : Nat) :
    Agree s n 0 (Pattern.lower s.tokens) (G.complexRest real (p + s.tokens))
      (G'.complexRest (real.lower s.tokens) p) := by
  unfold Rules.complexRest
  refine Agree.eat_bind_any fun b => ?_
  extract_lets -underBinder op rest rest'
  have hrest : Agree s n 0 (Pattern.lower s.tokens) (rest ()) (rest' ()) := by
    cases real with
    | value q left =>
      refine Agree.when_bind ?_ .refuseAt ((h.closedPattern false).bind fun right => ?_)
      · rw [Expr.isReal_lower]
      cases right with
      | value r right =>
        refine Agree.when_bind ?_ .refuseAt (.pure (by simp))
        rw [Expr.isImaginary_lower]
      | _ => exact .refuseAt
    | _ => exact .refuseAt
  exact Agree.when_bind Iff.rfl (Agree.expectSymbol _).forget hrest

theorem closedPatternRule (allowStar : Bool) :
    Agree s (n + 1) 1 (Pattern.lower s.tokens) (G.closedPatternRule allowStar)
      (G'.closedPatternRule allowStar) := by
  unfold Rules.closedPatternRule
  refine Agree.here_bind fun p => Agree.peek_bindAt fun kind => ?_
  extract_lets -underBinder rest rest'
  have hrest : ∀ first, Agree s n 0 (Pattern.lower s.tokens) (rest first)
      (rest' (first.lower s.tokens)) := by
    refine fun first => Agree.at?_bind fun b => ?_
    refine Agree.either_bind (f := Pattern.lower s.tokens) Iff.rfl (h.classPatternRest first p)
      (.pure rfl) fun first => ?_
    refine Agree.at?_bind fun b => Agree.at?_bind fun b' => ?_
    exact Agree.ite Iff.rfl (h.complexRest first p) (.pure rfl)
  split
  · exact (h.mappingPattern.bind_less hrest).anywhere _
  · refine (starPattern.bind_less fun star => ?_).anywhere _
    exact Agree.either_bind (f := Pattern.lower s.tokens) Iff.rfl (.pure rfl) .refuseAt hrest
  · exact AgreeAt.bind_less (h.bracketedPattern (by simp) (by simp)) hrest
  · exact AgreeAt.bind_less (h.bracketedPattern (by simp) (by simp)) hrest
  · exact (h.simplePattern.bind_less hrest).anywhere _

end AgreeAll

end Rules

end ScriptBundle.Python
