import ScriptBundle.Proofs.Grammar.Order

namespace ScriptBundle.Python

open Reading

/-- Items with commas between them: where each starts, and where the next one does. -/
inductive Listed {α : Type} (tokens : List Token) (P : Nat → α → Nat → Prop) :
    Nat → List α → Nat → Prop
  | nil (first : Nat) : Listed tokens P first [] first
  | last {first past : Nat} {a : α} (item : P first a past) : Listed tokens P first [a] past
  | cons {first comma past : Nat} {a : α} {l : List α} (item : P first a comma)
    (mark : tokens[comma]?.map Token.kind = some (.symbol .comma))
    (later : Listed tokens P (comma + 1) l past) : Listed tokens P first (a :: l) past

namespace Reading.Gives

variable {α β : Type} {tokens : List Token} {c : Cursor} {P : Nat → α → Nat → Prop}

/-- A token that is passed stands where the cursor was. -/
theorem passed {kind : Kind} (hclosed : Closed tokens) (hc : c.On tokens) (hkind : c.kind = kind)
    (hline : kind ≠ .newline) (hfile : kind ≠ .endOfFile) :
    c.bumped.On tokens ∧ c.bumped.number = c.number + 1 ∧
      tokens[c.number]?.map Token.kind = some kind := by
  subst hkind
  obtain ⟨hbumped, hnumber, -⟩ := hc.bumped hclosed hline hfile
  exact ⟨hbumped, hnumber, (hc.kind_eq hline).1⟩

theorem word (hclosed : Closed tokens) (hc : c.On tokens) :
    Gives Reading.word c fun w e => e.On tokens ∧ e.number = c.number + 1 ∧
      (tokens[c.number]?.map Token.kind).bind Kind.word? = some w := by
  refine .peek_bind ?_
  cases hword : c.kind.word? with
  | none => exact .refuse
  | some w =>
    have hline : c.kind ≠ .newline := fun h => by rw [h] at hword; cases hword
    have hfile : c.kind ≠ .endOfFile := fun h => by rw [h] at hword; cases hword
    obtain ⟨hbumped, hnumber, hkind⟩ := passed hclosed hc rfl hline hfile
    exact .bump_bind (.pure ⟨hbumped, hnumber, by rw [hkind]; exact hword⟩)

theorem identifier (hclosed : Closed tokens) (hc : c.On tokens) :
    Gives Reading.identifier c fun _ e => e.On tokens ∧ e.number = c.number + 1 :=
  (word hclosed hc).bind fun _ _ ⟨he, hnumber, _⟩ => .pure ⟨he, hnumber⟩

theorem belongsOutside_bind {onFound : Bool → Reading β} {Q : β → Cursor → Prop}
    (h : ∀ b, Gives (onFound b) c Q) : Gives (belongsOutside >>= onFound) c Q :=
  h (c.lists.any fun list => list.startsItem c.kind || list.ends c.kind || list.cutsOff c.kind)

/-- Where a bracket is cut off, the cursor stays. -/
theorem cutOff (hc : c.On tokens) :
    Gives Reading.cutOff c fun _ e => e.On tokens ∧ e.number = c.number := by
  intro _ e he
  obtain ⟨rest, number, total, lists, cutOff⟩ := c
  cases rest with
  | nil =>
    cases he
    exact ⟨hc, rfl⟩
  | cons t rest =>
    cases he
    exact ⟨hc.withCutOff _, rfl⟩

section ListOf

variable {list : ListKind} {item : Reading α}
  (hitem : ∀ c, c.On tokens →
    Gives item c fun a e => e.On tokens ∧ P c.number a e.number)
include hitem

theorem sequenceLoop (hclosed : Closed tokens) (fuel : Nat) (done : List α)
    (trailing : Option Nat) (hc : c.On tokens) :
    Gives (Reading.sequenceLoop list (fun done => do return (← item) :: done) fuel done trailing) c
      fun p e => e.On tokens ∧
        ∃ l, p.1.reverse = done.reverse ++ l ∧ Listed tokens P c.number l e.number := by
  induction fuel generalizing c done trailing with
  | zero => exact .fault
  | succ fuel ih =>
    unfold Reading.sequenceLoop
    refine .peek_bind (.ite (fun _ => ?_) fun _ => ?_)
    · refine Gives.bind ((hitem c hc).bind fun a e he => .pure (P := fun s e =>
        e.On tokens ∧ ∃ a, s = a :: done ∧ P c.number a e.number) ⟨he.1, a, rfl, he.2⟩) ?_
      rintro _ e ⟨he, a, rfl, ha⟩
      have hlast : (a :: done).reverse = done.reverse ++ [a] := List.reverse_cons
      refine .here_bind (.eat_bind (fun hkind => ?_) fun _ => .peek_bind (.ite (fun _ => ?_) ?_))
      · obtain ⟨hbumped, hnumber, hcomma⟩ := passed hclosed he hkind (by simp) (by simp)
        refine (ih (a :: done) _ hbumped).mono ?_
        rintro p e' ⟨he', l, hp, hlisted⟩
        refine ⟨he', a :: l, ?_, .cons ha hcomma (hnumber ▸ hlisted)⟩
        rw [hp, hlast, List.append_assoc, List.singleton_append]
      · exact .pure ⟨he, [a], hlast, .last ha⟩
      · refine fun _ => .ite (fun _ => .refuse) fun _ => .belongsOutside_bind fun b => ?_
        refine .ite (fun _ => ?_) fun _ => .refuse
        refine (cutOff he).bind ?_
        rintro _ e' ⟨he', hnumber⟩
        refine .pure ⟨he', [a], hlast, .last ?_⟩
        rw [hnumber]
        exact ha
    · have hdone : done.reverse = done.reverse ++ [] := (List.append_nil _).symm
      refine .peek_bind (.ite (fun _ => .pure ⟨hc, [], hdone, .nil _⟩) fun _ => ?_)
      refine .belongsOutside_bind fun b => .ite (fun _ => ?_) fun _ => .refuse
      refine (cutOff hc).bind ?_
      rintro _ e' ⟨he', hnumber⟩
      refine .pure ⟨he', [], hdone, ?_⟩
      rw [hnumber]
      exact .nil _

/-- What is read of a list is an item after the other. -/
theorem listOf (hclosed : Closed tokens) (hc : c.On tokens) :
    Gives (Reading.listOf list item) c fun l e =>
      e.On tokens ∧ Listed tokens P c.number l e.number := by
  have hsequence : Gives (Reading.sequence list (fun done => do return (← item) :: done) []) c
      fun p e => e.On tokens ∧ Listed tokens P c.number p.1.reverse e.number := by
    refine Gives.bind (P := fun p e => e.On tokens ∧ Listed tokens P c.number p.1.reverse e.number)
      (.within (.rounds_bind ?_)) ?_
    · refine Gives.mono (sequenceLoop hitem hclosed _ [] none (hc.withLists (list :: c.lists))) ?_
      refine fun p e ⟨he, l, hp, hlisted⟩ => ⟨he.withLists _, ?_⟩
      rw [hp]
      exact hlisted
    · rintro ⟨l, trailing⟩ e he
      cases trailing with
      | none => exact .pure he
      | some comma => exact .ite (fun _ => .pure he) fun _ => .refuseAt
  exact hsequence.bind fun p e he => .pure he

end ListOf

end Reading.Gives

/-- Statements that neither import nor are an expression alone. -/
def SimpleStmt.isOther : SimpleStmt → Bool
  | .import _ | .importFrom _ _ _ | .expression _ => false
  | _ => true

namespace Rules

/-! ## Imports and expressions among the statements without blocks -/

/-- A reading gives neither an import nor an expression alone. -/
def ReadsOther : Reading SimpleStmt → Prop := Yields fun s => s.isOther = true

variable {G : Rules} {c : Cursor}

theorem readsOther_assignRest (target : Expr) : ReadsOther (G.assignRest target) := by
  refine .bind fun _ => .bind fun first => .bind fun b => ?_
  exact .ite (.bind fun more => .bind fun _ => .pure rfl) (.bind fun more => .bind fun _ => .pure rfl)

theorem readsOther_annotatedRest (target : Expr) : ReadsOther (G.annotatedRest target) := by
  unfold Rules.annotatedRest
  refine .bind fun _ => .ite ?_ (.bind fun _ => ?_)
  all_goals
    refine .bind fun hint => .bind fun b => .ite (.bind fun b => .ite ?_ ?_) ?_
    · exact .bind fun value => .pure rfl
    · exact .bind fun value => .pure rfl
    · exact .pure rfl

theorem readsOther_raiseRest : ReadsOther G.raiseRest := by
  refine .bind fun kind => ?_
  split
  · exact .pure rfl
  · exact .pure rfl
  · refine .bind fun exception => .bind fun b => .ite ?_ ?_
    all_goals exact .bind fun cause => .pure rfl

theorem readsOther_assertRest : ReadsOther G.assertRest := by
  refine .bind fun test => .bind fun b => .ite ?_ ?_
  all_goals exact .bind fun message => .pure rfl

theorem readsOther_typeAliasRest : ReadsOther G.typeAliasRest :=
  .bind fun _ => .bind fun _ => .bind fun _ => .bind fun _ => .pure rfl

/-- An expression is a statement where nothing is assigned to it. -/
theorem gives_expressionStatement :
    Gives G.expressionStatement c fun s e => s.isOther = true ∨
      ∃ a : Parsed, s = .expression a.expr ∧ G.expressionList .yieldOrStarred c = .ok (a, e) := by
  have hother : ∀ {r : Reading SimpleStmt} {d : Cursor}, ReadsOther r → Gives r d fun s e =>
      s.isOther = true ∨
        ∃ a : Parsed, s = .expression a.expr ∧ G.expressionList .yieldOrStarred c = .ok (a, e) :=
    fun h => (h _).mono fun _ _ hs => .inl hs
  have hlist : Gives (G.expressionList .yieldOrStarred) c fun a d =>
      G.expressionList .yieldOrStarred c = .ok (a, d) := fun _ _ h => h
  refine hlist.bind fun a d ha => .peek_bind (.ite (fun _ => hother (readsOther_assignRest _)) ?_)
  refine fun _ => .ite (fun _ => hother (readsOther_annotatedRest _)) fun _ => ?_
  split
  · refine hother (.bind fun _ => .ite ?_ (.bind fun _ => ?_))
    all_goals exact .bind fun value => .pure rfl
  · exact .pure (.inr ⟨a, rfl, ha⟩)

/-- A statement is read as an import behind its word or as an expression. -/
def ReadBehind (G : Rules) (c : Cursor) (s : SimpleStmt) (e : Cursor) : Prop :=
  c.kind = .keyword .«import» ∧ importRest c.bumped = .ok (s, e) ∨
    c.kind = .keyword .«from» ∧ fromRest c.bumped = .ok (s, e) ∨
    ∃ a : Parsed, s = .expression a.expr ∧ G.expressionList .yieldOrStarred c = .ok (a, e)

/-- **Imports are read behind their words.** -/
theorem gives_simpleStatement :
    Gives G.simpleStatement c fun s e => s.isOther = true ∨ G.ReadBehind c s e := by
  have hother : ∀ {r : Reading SimpleStmt}, ReadsOther r →
      Gives r c fun s e => s.isOther = true ∨ G.ReadBehind c s e :=
    fun h => (h c).mono fun _ _ hs => .inl hs
  have hexpression : Gives G.expressionStatement c fun s e =>
      s.isOther = true ∨ G.ReadBehind c s e :=
    gives_expressionStatement.mono fun _ _ hs => hs.imp_right fun h => .inr (.inr h)
  refine .peek3_bind ?_
  cases hkind : c.kind with
  | keyword word =>
    cases word with
    | «import» => exact fun s e hs => .inr (.inl ⟨hkind, hs⟩)
    | «from» => exact fun s e hs => .inr (.inr (.inl ⟨hkind, hs⟩))
    | «return» =>
      refine hother (.bind fun _ => .bind fun b => .ite (.bind fun e => .pure rfl) (.pure rfl))
    | «pass» | «continue» | «break» => exact hother (.bind fun _ => .pure rfl)
    | «raise» => exact hother (.bind fun _ => readsOther_raiseRest)
    | «del» =>
      refine hother (.bind fun _ => .bind fun targets => .ite (.bind fun _ => .pure rfl) (.pure rfl))
    | «assert» => exact hother (.bind fun _ => readsOther_assertRest)
    | «global» | «nonlocal» => exact hother (.bind fun _ => .bind fun _ => .pure rfl)
    | «type» =>
      refine .ite (fun _ => ?_) fun _ => hexpression
      exact hother (.bind fun _ => readsOther_typeAliasRest)
    | _ => exact hexpression
  | _ => exact hexpression

end Rules

/-! ## Where aliases stand -/

def DottedName.width (name : DottedName) : Nat := 2 * name.others.length + 1

def Alias.width (a : Alias DottedName) : Nat := a.target.width + if a.binding.isSome then 2 else 0

/-- Words that are every other token from a number on. -/
def WrittenAt (tokens : List Token) (first : Nat) (words : List Word) : Prop :=
  ∀ (i : Nat) (w : Word), words[i]? = some w →
    (tokens[first + 2 * i]?.map Token.kind).bind Kind.word? = some w

def AliasAt (tokens : List Token) (first : Nat) (a : Alias DottedName) (past : Nat) : Prop :=
  past = first + a.width ∧ WrittenAt tokens first a.target.words

theorem WrittenAt.cons {tokens : List Token} {first : Nat} {w : Word} {words : List Word}
    (h : (tokens[first]?.map Token.kind).bind Kind.word? = some w)
    (hwords : WrittenAt tokens (first + 2) words) : WrittenAt tokens first (w :: words) := by
  rintro (_ | i) v hv
  · cases hv
    exact h
  · have := hwords i v hv
    rwa [show first + 2 * (i + 1) = first + 2 + 2 * i by omega]

namespace Rules

variable {tokens : List Token} {c : Cursor}

theorem gives_othersLoop (hclosed : Closed tokens) (fuel : Nat) (done : List Word)
    (hc : c.On tokens) :
    Gives (whileAtLoop (· = .symbol .dot) (do bump; Reading.word) fuel done) c fun l e =>
      e.On tokens ∧ ∃ words, l = done.reverse ++ words ∧ e.number = c.number + 2 * words.length ∧
        WrittenAt tokens (c.number + 1) words := by
  induction fuel generalizing c done with
  | zero => exact .fault
  | succ fuel ih =>
    refine .peek_bind (.ite (fun hdot => ?_) fun _ => ?_)
    · obtain ⟨hbumped, hnumber, -⟩ :=
        Gives.passed hclosed hc (of_decide_eq_true hdot) (by simp) (by simp)
      refine Gives.bind (.bump_bind (.word hclosed hbumped)) fun w e ⟨he, hbehind, hw⟩ => ?_
      refine (ih (w :: done) he).mono fun l e' ⟨he', words, hl, hpast, hwritten⟩ => ?_
      refine ⟨he', w :: words, by simp [hl], by simp [hpast, hbehind, hnumber]; omega, ?_⟩
      rw [hnumber] at hw hbehind
      rw [hbehind] at hwritten
      exact .cons hw hwritten
    · exact .pure ⟨hc, [], by simp, rfl, fun i w h => nomatch h⟩

theorem gives_dottedName (hclosed : Closed tokens) (hc : c.On tokens) :
    Gives dottedName c fun name e =>
      e.On tokens ∧ e.number = c.number + name.width ∧ WrittenAt tokens c.number name.words := by
  refine (Gives.word hclosed hc).bind fun first e ⟨he, hnumber, hfirst⟩ => ?_
  refine Gives.bind (.rounds_bind (gives_othersLoop hclosed _ [] he)) ?_
  rintro others e' ⟨he', words, rfl, hpast, hwritten⟩
  rw [hnumber] at hpast hwritten
  refine .pure ⟨he', ?_, .cons hfirst hwritten⟩
  simp only [DottedName.width]
  omega

theorem gives_aliasBinding (hclosed : Closed tokens) (hc : c.On tokens) :
    Gives aliasBinding c fun binding e =>
      e.On tokens ∧ e.number = c.number + if binding.isSome then 2 else 0 := by
  refine .eat_bind (fun hkind => ?_) fun _ => .pure ⟨hc, rfl⟩
  obtain ⟨hbumped, hnumber, -⟩ := Gives.passed hclosed hc hkind (by simp) (by simp)
  refine .map ((Gives.identifier hclosed hbumped).mono fun name e ⟨he, hpast⟩ => ⟨he, ?_⟩)
  rw [hpast, hnumber]
  rfl

theorem gives_moduleAlias (hclosed : Closed tokens) (hc : c.On tokens) :
    Gives moduleAlias c fun a e => e.On tokens ∧ AliasAt tokens c.number a e.number := by
  refine (gives_dottedName hclosed hc).bind fun name e ⟨he, hnumber, hwritten⟩ => ?_
  refine (gives_aliasBinding hclosed he).bind fun binding e' ⟨he', hpast⟩ => ?_
  refine .pure ⟨he', ?_, hwritten⟩
  rw [hpast, hnumber, Alias.width, Nat.add_assoc]

/-- The aliases of an `import` stand behind its word, one behind the other. -/
theorem gives_importRest (hclosed : Closed tokens) (hc : c.On tokens) :
    Gives importRest c fun s e => ∃ names, s = .import names ∧
      Listed tokens (AliasAt tokens) c.number names e.number := by
  refine Gives.bind (.listOf (fun c hc => gives_moduleAlias hclosed hc) hclosed hc) ?_
  rintro names e ⟨-, hlisted⟩
  exact .ite (fun _ => .refuse_bind) fun _ => .pure ⟨names, rfl, hlisted⟩

/-- A from-import without points before its module has one. -/
theorem gives_fromRest : Gives fromRest c fun s _ => ∃ level module names,
    s = .importFrom level module names ∧ (level ≠ 0 ∨ module.isSome = true) := by
  unfold fromRest
  refine .rounds_bind (Gives.any.bind fun level c _ => .peek_bind ?_)
  extract_lets -underBinder rest
  have hrest : ∀ (module : Option DottedName), level ≠ 0 ∨ module.isSome = true → ∀ c,
      Gives (rest module) c fun s _ => ∃ level module names,
        s = .importFrom level module names ∧ (level ≠ 0 ∨ module.isSome = true) := by
    intro module h c
    refine Gives.any.bind fun _ _ _ => .here_bind (Gives.any.bind fun parens _ _ => ?_)
    refine Gives.any.bind fun names d _ => ?_
    have hlast : ∀ d, Gives (Pure.pure (SimpleStmt.importFrom level module names)) d
        fun s _ => ∃ level module names, s = .importFrom level module names ∧
          (level ≠ 0 ∨ module.isSome = true) := fun d => .pure ⟨level, module, names, rfl, h⟩
    refine .ite (fun _ => .refuse_bind) fun _ => ?_
    refine .ite (fun _ => .refuseAt_bind) fun _ => ?_
    exact .ite (fun _ => Gives.any.bind fun _ d _ => hlast d) fun _ => hlast d
  have hmodule : Gives (some <$> dottedName) c fun module _ => module.isSome = true :=
    .map (Gives.any.mono fun _ _ _ => rfl)
  refine .ite (fun _ => hmodule.bind fun module d h => hrest module (.inr h) d) fun _ => ?_
  exact .ite (fun _ => .refuse_bind) fun hlevel => hrest none (.inl hlevel) _

end Rules

/-! ## Statements that were read -/

namespace ReadFrom

variable {tokens : List Token} {span : Span}

/-- **The aliases of an `import`** stand behind its first token. -/
theorem «import» {names : List (Alias DottedName)} (hclosed : Closed tokens)
    (h : ReadFrom tokens span (.import names)) :
    tokens[span.first]?.map Token.kind = some (.keyword .«import») ∧
      Listed tokens (AliasAt tokens) (span.first + 1) names span.past := by
  obtain ⟨G, c, e, hc, hfirst, hpast, hread⟩ := h
  obtain hother | ⟨hkind, hrest⟩ | ⟨-, hrest⟩ | ⟨_, ⟨⟩, -⟩ := Rules.gives_simpleStatement _ e hread
  · cases hother
  · obtain ⟨hbumped, hnumber, hword⟩ := Gives.passed hclosed hc hkind (by simp) (by simp)
    obtain ⟨_, ⟨⟩, hlisted⟩ := Rules.gives_importRest hclosed hbumped _ e hrest
    rw [hnumber, hpast, hfirst] at hlisted
    exact ⟨hfirst ▸ hword, hlisted⟩
  · obtain ⟨_, _, _, ⟨⟩, -⟩ := Rules.gives_fromRest _ e hrest

/-- **A from-import** names its module or the package that it starts from. -/
theorem importFrom {level : Nat} {module : Option DottedName} {names : List (Alias Member)}
    (hclosed : Closed tokens) (h : ReadFrom tokens span (.importFrom level module names)) :
    tokens[span.first]?.map Token.kind = some (.keyword .«from») ∧
      (level ≠ 0 ∨ module.isSome = true) := by
  obtain ⟨G, c, e, hc, hfirst, -, hread⟩ := h
  obtain hother | ⟨hkind, hrest⟩ | ⟨hkind, hrest⟩ | ⟨_, ⟨⟩, -⟩ :=
    Rules.gives_simpleStatement _ e hread
  · cases hother
  · obtain ⟨hbumped, -, -⟩ := Gives.passed hclosed hc hkind (by simp) (by simp)
    obtain ⟨_, ⟨⟩, -⟩ := Rules.gives_importRest hclosed hbumped _ e hrest
  · obtain ⟨-, -, hword⟩ := Gives.passed hclosed hc hkind (by simp) (by simp)
    obtain ⟨_, _, _, ⟨⟩, hlevel⟩ := Rules.gives_fromRest _ e hrest
    exact ⟨hfirst ▸ hword, hlevel⟩

end ReadFrom

end ScriptBundle.Python
