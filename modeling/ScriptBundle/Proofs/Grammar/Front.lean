import ScriptBundle.Bundle.Hoist
import ScriptBundle.Proofs.Grammar.FromImports
import ScriptBundle.Proofs.Grammar.Series
import ScriptBundle.Proofs.Grammar.Texts
import ScriptBundle.Proofs.Token.Local

namespace ScriptBundle.Python

open Reading

def Opening : List Token → Prop := Balanced fun kind => kind.isFront = true

/-- A statement is read from tokens with the first number `p`, whatever follows them. -/
structure FrontStatement (p : Nat) (l : List Token) (s : Stmt) : Prop where
  opening : Opening l
  start : ∀ {c e : Cursor}, c.Took l e → c.kind.startsSimple = true ∧ c.kind.startsCompound = false
  read : ∀ {levels : Nat} {c e : Cursor}, l.length < levels → c.number = p → c.Took l e →
    Follows l e.kind → e.rest ≠ [] → c.number + l.length ≤ c.total →
      (Rules.upTo levels).statement c = .ok (s, e)

/-- Statements are read from the first tokens of a module, whatever follows them. -/
structure Front (l : List Token) (before : List Stmt) : Prop where
  opening : Opening l
  read : ∀ {levels : Nat} {c e : Cursor} {later : List Stmt}, l.length < levels → c.number = 0 →
    c.Took l e → Follows l e.kind → e.rest ≠ [] → l.length ≤ c.total →
      ReadToEnd (Rules.upTo levels).statement e later →
        ReadToEnd (Rules.upTo levels).statement c (before ++ later)

theorem front_nil : Front [] [] where
  opening := .of_neutral (by simp) (by simp)
  read := by
    intro levels c e later _ _ htook _ _ _ hlater
    rw [← htook.eq_of_nil]
    exact hlater

theorem Front.concat {l m : List Token} {before : List Stmt} {s : Stmt} (h : Front l before)
    (hs : FrontStatement l.length m s) (hm : m ≠ []) : Front (l ++ m) (before ++ [s]) where
  opening := h.opening.append hs.opening
  read := by
    intro levels c e later hlevels hnumber htook hfollows he htotal hlater
    rw [List.length_append] at hlevels htotal
    obtain ⟨d, hd, hbehind⟩ := htook.split
    obtain ⟨hstart, hcompound⟩ := hs.start hbehind
    have hnumber' := hd.number
    have htotal' := hd.total
    have hfollows' := hfollows.of_append hm
    have hread : (Rules.upTo levels).statement d = .ok (s, e) :=
      hs.read (by omega) (by omega) hbehind hfollows' he (by omega)
    have hline : d.kind ≠ .newline := by
      intro hline
      rw [hline] at hstart
      cases hstart
    have hfile : d.kind ≠ .endOfFile := by
      intro hfile
      rw [hfile] at hstart
      cases hstart
    rw [List.append_assoc]
    refine h.read (by omega) hnumber hd ?_ (Cursor.rest_ne_nil hfile) (by omega) ?_
    · intro t _
      exact .inr ⟨hline, fun h => absurd h (by simp [hcompound])⟩
    · exact .cons (by simp [ListKind.startsItem, hstart]) hread hlater

/-! ## Statements without blocks -/

theorem opening_of_ends {m : List Token} (hm : Ends m) : Opening m := by
  have hmap : ∀ kind ∈ m.map Token.kind, kind = .newline ∨ kind = .symbol .semi := by
    obtain hm | hm | hm := hm <;> simp [hm]
  have hkinds : ∀ t ∈ m, t.kind = .newline ∨ t.kind = .symbol .semi := fun t ht =>
    hmap t.kind (List.mem_map_of_mem ht)
  apply Balanced.of_neutral
  all_goals
    intro t ht
    obtain h | h := hkinds t ht
  all_goals
    rw [h]
  · rfl
  · rfl
  · exact fun n => rfl
  · exact fun n => rfl

namespace Rules

variable {G : Rules} {c d e : Cursor} {st : SimpleStmt}

theorem compoundStatement_of_kind (h : c.kind.startsCompound = false) :
    G.compoundStatement c = .ok (none, c) := by
  unfold Rules.compoundStatement
  rw [peek_bind_apply]
  cases hkind : c.kind with
  | keyword word =>
    rw [hkind] at h
    cases word <;> first | rfl | cases h
  | symbol mark =>
    rw [hkind] at h
    cases mark <;> first | rfl | cases h
  | _ => rfl

/-- A statement without a block is read with the rest of its line. -/
theorem statementRule_of_simple (hcompound : c.kind.startsCompound = false)
    (hsimple : G.simpleStatement c = .ok (st, d)) :
    G.statementRule c = lineRest (.simple ⟨c.number, d.number⟩ st) d := by
  have hspanned : G.spannedSimple c = .ok (.simple ⟨c.number, d.number⟩ st, d) := by
    unfold Rules.spannedSimple
    rw [here_bind_apply, bind_of_ok hsimple]
    rfl
  unfold Rules.statementRule
  rw [here_bind_apply, bind_of_ok (compoundStatement_of_kind hcompound)]
  dsimp only
  rw [singleSimple_eq, bind_of_ok hspanned]

end Rules

theorem frontStatement_of_simple {p : Nat} {l m : List Token} {st : SimpleStmt} (hl : Opening l)
    (hm : Ends m) (hstart : ∀ {c e : Cursor}, c.Took l e →
      c.kind.startsSimple = true ∧ c.kind.startsCompound = false)
    (hread : ∀ {levels : Nat} {c d : Cursor}, l.length ≤ levels → c.number = p → c.Took l d →
      d.kind = .symbol .semi ∨ d.kind = .newline → c.number + l.length ≤ c.total →
        (Rules.upTo levels).simpleStatement c = .ok (st, d)) :
    FrontStatement p (l ++ m) (.simple ⟨p, p + l.length⟩ st) where
  opening := hl.append (opening_of_ends hm)
  start := by
    intro c e htook
    obtain ⟨d, hd, -⟩ := htook.split
    exact hstart hd
  read := by
    intro levels c e hlevels hnumber htook hfollows he htotal
    obtain ⟨levels, rfl⟩ : ∃ n, levels = n + 1 := ⟨levels - 1, by omega⟩
    rw [List.length_append] at hlevels htotal
    obtain ⟨d, hd, hends⟩ := htook.split
    have hfollows' := hfollows.of_append hm.ne_nil
    have hsimple : (Rules.upTo levels).simpleStatement c = .ok (st, d) :=
      hread (by omega) hnumber hd (hm.kind hends) (by omega)
    have hrule := Rules.statementRule_of_simple (hstart hd).2 hsimple
    rw [hd.number, hnumber, Rules.lineRest_of_took hm hends hfollows' he] at hrule
    exact hrule

/-! ## Docstrings and `pass` -/

theorem simpleStatement_pass {G : Rules} {c : Cursor} (h : c.kind = .keyword .«pass») :
    G.simpleStatement c = .ok (.pass, c.bumped) := by
  unfold Rules.simpleStatement
  rw [peek3_bind_apply, h]
  rfl

/-- The word `pass` is a statement at the front of a module. -/
theorem frontStatement_pass {p : Nat} {t : Token} {m : List Token}
    (ht : t.kind = .keyword .«pass») (hm : Ends m) :
    FrontStatement p (t :: m) (.simple ⟨p, p + 1⟩ .pass) := by
  have hopening : Opening [t] := by
    apply Balanced.of_neutral
    · intro u hu
      rw [List.mem_singleton.1 hu, ht]
      rfl
    · intro u hu n
      rw [List.mem_singleton.1 hu, ht]
      rfl
  refine frontStatement_of_simple hopening hm ?_ ?_
  · intro c e htook
    rw [htook.kind_eq, ht]
    exact ⟨rfl, rfl⟩
  · intro levels c d _ _ htook hd _
    have hrest : d.rest ≠ [] := by
      apply Cursor.rest_ne_nil
      obtain h | h := hd <;> simp [h]
    rw [simpleStatement_pass (htook.kind_eq.trans ht), (htook.bumped hrest).eq_of_nil]

theorem opening_of_text {l : List Token} {depth : Nat} {text : List Char}
    (h : TextTokens l depth text) : Opening l := by
  induction h with
  | @row l texts literals nonempty =>
    have hstring : ∀ t ∈ l, ∃ form letters, t.kind = .string form letters := by
      clear nonempty
      induction literals with
      | nil => simp
      | cons ht _ ih =>
        obtain ⟨form, letters, hkind, -⟩ := ht
        exact List.forall_mem_cons.2 ⟨⟨form, letters, hkind⟩, ih⟩
    apply Balanced.of_neutral
    · intro t ht
      obtain ⟨form, letters, hkind⟩ := hstring t ht
      rw [hkind]
      rfl
    · intro t ht n
      obtain ⟨form, letters, hkind⟩ := hstring t ht
      rw [hkind]
      rfl
  | parenthesized opened _ closed ih => exact ih.parenthesized opened closed rfl rfl

theorem starts_of_text {kind : Kind} (h : kind.startsString = true ∨ kind = .symbol .lpar) :
    kind.startsSimple = true ∧ kind.startsCompound = false := by
  obtain h | h := h
  · cases hkind : kind <;> simp [hkind, Kind.startsString] at h <;> exact ⟨rfl, rfl⟩
  · rw [h]
    exact ⟨rfl, rfl⟩

theorem simpleStatement_of_text {G : Rules} {c : Cursor}
    (h : c.kind.startsString = true ∨ c.kind = .symbol .lpar) :
    G.simpleStatement c = G.expressionStatement c := by
  unfold Rules.simpleStatement
  rw [peek3_bind_apply]
  obtain h | h := h
  · cases hkind : c.kind <;> simp [hkind, Kind.startsString] at h <;> rfl
  · rw [h]

/-- A text is a statement at the front of a module. -/
theorem frontStatement_of_text {p depth : Nat} {l m : List Token} {text : List Char}
    (h : TextTokens l depth text) (hm : Ends m) :
    FrontStatement p (l ++ m)
      (.simple ⟨p, p + l.length⟩ (.expression (.constant (p + depth) (.text text)))) := by
  refine frontStatement_of_simple (opening_of_text h) hm ?_ ?_
  · intro c e htook
    exact starts_of_text (Rules.start_of_text h htook)
  · intro levels c d hlevels hnumber htook hd htotal
    have hends : d.kind.EndsText := .inr hd
    obtain ⟨parens, hread⟩ := Rules.upTo_conditional_of_text h htook hends htotal hlevels
    rw [hnumber] at hread
    have hlist : (Rules.upTo levels).expressionList .yieldOrStarred c =
        .ok (⟨.constant (p + depth) (.text text), parens⟩, d) := by
      unfold Rules.expressionList atSymbol
      rw [here_bind_apply, bind_of_ok hread, at?_bind_of_ne (by obtain h | h := hd <;> simp [h])]
      rfl
    have hexpression : (Rules.upTo levels).expressionStatement c =
        .ok (.expression (.constant (p + depth) (.text text)), d) := by
      unfold Rules.expressionStatement
      rw [bind_of_ok hlist, peek_bind_apply]
      obtain h | h := hd <;> rw [h] <;> rfl
    rw [← hexpression]
    exact simpleStatement_of_text (Rules.start_of_text h htook)

/-! ## Docstrings that were read -/

namespace Rules

variable {G : Rules} {tokens : List Token} {c : Cursor}

/-- A reading of what a statement with a block is made of stays where there is none. -/
def Stays (c : Cursor)
    (r : Reading (Option (Header × List Stmt × List (ClauseHeader × List Stmt)))) (d : Cursor) : Prop :=
  Gives r d fun found e => found = none → e = c

theorem stays_some {r : Reading (Header × List Stmt × List (ClauseHeader × List Stmt))} {d : Cursor} :
    Stays c (some <$> r) d :=
  .map (Gives.any.mono fun _ _ _ h => nomatch h)

theorem stays_none : Stays c (pure none) c := .pure fun _ => rfl

theorem stays_matchStatement : Stays c G.matchStatement c := by
  have hdecided : ∀ isStatement : Bool,
      Stays c (if isStatement = true then do bump; some <$> G.matchRest else return none) c :=
    fun isStatement => .ite (fun _ => .bump_bind stays_some) fun _ => stays_none
  intro found e hfound
  rw [matchStatement_apply] at hfound
  cases hlook : matchIsStatement? (c.kindAt 1) (c.kindAt 2) with
  | some isStatement =>
    rw [hlook] at hfound
    exact hdecided isStatement found e hfound
  | none =>
    rw [hlook] at hfound
    -- What was looked at is left behind.
    have hlooked : Stays c (bump >>= fun _ => attempt G.subjectOfMatch >>= fun found =>
        rewind c >>= fun _ =>
          if found.isSome = true then do bump; some <$> G.matchRest else return none) c :=
      .bump_bind (Gives.any.bind fun subject _ _ => hdecided subject.isSome)
    exact hlooked found e hfound

/-- Where no statement with a block starts, the cursor stays. -/
theorem stays_compoundStatement : Stays c G.compoundStatement c := by
  refine .peek_bind ?_
  cases c.kind with
  | keyword word =>
    cases word with
    | «if» | «for» | «while» | «def» | «class» | «try» | «with» => exact .bump_bind stays_some
    | «async» =>
      refine .bump_bind (.eat_bind (fun _ => stays_some) fun _ => .eat_bind (fun _ => stays_some) ?_)
      exact fun _ => .eat_bind (fun _ => stays_some) fun _ => .refuse
    | «match» => exact stays_matchStatement
    | _ => exact stays_none
  | symbol mark =>
    cases mark with
    | atSign =>
      refine Gives.any.bind fun decorators d _ => .peek3_bind ?_
      dsimp only
      split
      · exact .ite (fun _ => .bump_bind (.bump_bind stays_some)) fun _ => .refuse
      · exact .bump_bind stays_some
      · exact .bump_bind stays_some
      · exact .refuse
    | _ => exact stays_none
  | _ => exact stays_none

end Rules

theorem Rules.yields_importRest : Yields (fun st => ∃ names, st = .import names) importRest :=
  .bind fun names => .ite (.bind fun _ => .pure ⟨names, rfl⟩) (.pure ⟨names, rfl⟩)

/-- The parts of a docstring. -/
theorem eq_of_isDocstring {span : Span} {st : SimpleStmt} (h : isDocstring (.simple span st) = true) :
    ∃ p text, st = .expression (.constant p (.text text)) := by
  unfold isDocstring at h
  split at h
  · rename_i heq
    cases heq
    exact ⟨_, _, rfl⟩
  · cases h

/-- A docstring is read from tokens that are a text. -/
theorem gives_textStatement {tokens : List Token} (hclosed : Closed tokens) (levels : Nat)
    {c : Cursor} (hc : c.On tokens) (hsees : c.cutOff = false) {p : Nat} {text : List Char} :
    Gives (Rules.upTo levels).simpleStatement c fun st e =>
      st = .expression (.constant p (.text text)) →
        e.On tokens ∧ ∃ l depth, TextTokens l depth text ∧ c.Took l e ∧ p = c.number + depth := by
  refine Rules.gives_simpleStatement.mono fun st e h => ?_
  rintro rfl
  obtain hother | ⟨-, hread⟩ | ⟨-, hread⟩ | ⟨a, ha, hread⟩ := h
  · cases hother
  · obtain ⟨_, ⟨⟩⟩ := Rules.yields_importRest _ _ e hread
  · obtain ⟨_, _, _, ⟨⟩, -⟩ := Rules.gives_fromRest _ e hread
  · have hlist := Rules.readsTexts_expressionList (Rules.upTo_readsTexts hclosed levels)
      .yieldOrStarred c hc hsees a e hread
    have ha' : a.expr = .constant p (.text text) := (SimpleStmt.expression.inj ha).symm
    exact hlist p text (by rw [ha']; rfl)

/-- A statement without a block is read with the rest of its line. -/
theorem simple_of_statement {levels : Nat} {c e : Cursor} {span : Span} {st : SimpleStmt}
    (h : (Rules.upTo levels).statement c = .ok (.simple span st, e)) :
    ∃ n d, (Rules.upTo n).simpleStatement c = .ok (st, d) ∧ span = ⟨c.number, d.number⟩ ∧
      Rules.lineRest (.simple span st) d = .ok (.simple span st, e) := by
  cases levels with
  | zero => cases h
  | succ levels =>
    have hgives : Gives (Rules.upTo (levels + 1)).statement c fun s e => s = .simple span st →
        ∃ n d, (Rules.upTo n).simpleStatement c = .ok (st, d) ∧ span = ⟨c.number, d.number⟩ ∧
          Rules.lineRest (.simple span st) d = .ok (.simple span st, e) := by
      refine .here_bind (Gives.bind (Rules.stays_compoundStatement (c := c)) fun found d hd => ?_)
      cases found with
      | some parts => exact .here_bind (.pure fun h => nomatch h)
      | none =>
        obtain rfl := hd rfl
        have hspanned : Gives (Rules.upTo levels).spannedSimple d fun s f =>
            ∃ st, s = .simple ⟨d.number, f.number⟩ st ∧
              (Rules.upTo levels).simpleStatement d = .ok (st, f) :=
          .here_bind (Gives.bind (fun _ _ h => h) fun st f h => .here_bind (.pure ⟨st, rfl, h⟩))
        refine hspanned.bind ?_
        rintro _ f ⟨st', rfl, hread⟩ s e hrest rfl
        obtain h := Rules.gives_lineRest_eq _ e hrest
        cases h
        exact ⟨levels, f, hread, rfl, hrest⟩
    exact hgives _ e h rfl

/-- **A docstring** with a statement behind it is one that can open a module. -/
theorem frontStatement_of_docstring {tokens : List Token} (hclosed : Closed tokens) {levels : Nat}
    {c e : Cursor} {s : Stmt} (hc : c.On tokens) (hsees : c.cutOff = false)
    (hdocstring : isDocstring s = true) (h : (Rules.upTo levels).statement c = .ok (s, e))
    (hnext : e.kind.startsSimple = true) :
    e.On tokens ∧ ∃ l, l ≠ [] ∧ c.Took l e ∧ Follows l e.kind ∧ FrontStatement c.number l s := by
  cases s with
  | compound => cases hdocstring
  | simple span st =>
    obtain ⟨p, text, rfl⟩ := eq_of_isDocstring hdocstring
    obtain ⟨n, d, hread, rfl, hrest⟩ := simple_of_statement h
    obtain ⟨hd, l, depth, hl, htook, rfl⟩ := gives_textStatement hclosed n hc hsees _ d hread rfl
    obtain ⟨he, m, hm, htook', hfollows⟩ | ⟨rfl, -, hsimple, -⟩ :=
      Rules.gives_lineRest hclosed hd htook.sees' _ e hrest
    · refine ⟨he, l ++ m, by simp [hm.ne_nil], htook.trans htook', hfollows.append hm.ne_nil, ?_⟩
      rw [htook.number]
      exact frontStatement_of_text hl hm
    · rw [hsimple] at hnext
      cases hnext

/-! ## From-imports that were read -/

/-- **A from-import** is read from its word, tokens that stay in its line, and the rest of the
line. -/
theorem tokens_of_importFrom {tokens : List Token} (hclosed : Closed tokens) {levels : Nat}
    {c e : Cursor} {span : Span} {level : Nat} {module : Option DottedName}
    {names : List (Alias Member)} (hc : c.On tokens)
    (h : (Rules.upTo levels).statement c = .ok (.simple span (.importFrom level module names), e)) :
    ∃ first inner d, first.kind = .keyword .«from» ∧ c.Took [first] c.bumped ∧ Inner inner ∧
      c.rest = first :: (inner ++ d.rest) ∧ d.On tokens ∧ d.CutsAtLineEnd ∧
      d.number = c.number + (inner.length + 1) ∧ span = ⟨c.number, d.number⟩ ∧
      Rules.lineRest (.simple span (.importFrom level module names)) d =
        .ok (.simple span (.importFrom level module names), e) := by
  obtain ⟨n, d, hread, hspan, hrest⟩ := simple_of_statement h
  obtain hother | ⟨-, hread⟩ | ⟨hkind, hread⟩ | ⟨_, ⟨⟩, -⟩ := Rules.gives_simpleStatement _ d hread
  · cases hother
  · obtain ⟨_, ⟨⟩⟩ := Rules.yields_importRest _ _ d hread
  · obtain ⟨first, hfirst, htook, hon⟩ :=
      hc.took hclosed (hc.kind_eq (by simp [hkind])).2 (by simp [hkind])
    obtain ⟨hd, hcuts, inner, hinner, hbehind, hnumber⟩ := Rules.gives_fromRest_inner hclosed hon
      (Cursor.cutsAtLineEnd_of_false htook.sees') _ d hread
    refine ⟨first, inner, d, hfirst.trans hkind, htook, hinner, ?_, hd, hcuts, ?_, hspan, hrest⟩
    · rw [htook.rest, hbehind]
      rfl
    · rw [hnumber, htook.number, List.length_singleton]
      omega

end ScriptBundle.Python
