import ScriptBundle.Proofs.Grammar.Forward

namespace ScriptBundle.Python

open Reading

namespace Cursor

/-- A cursor that sees its token took some tokens and sees its token again. -/
structure Took (c : Cursor) (l : List Token) (e : Cursor) : Prop where
  rest : c.rest = l ++ e.rest
  number : e.number = c.number + l.length
  total : e.total = c.total
  lists : e.lists = c.lists
  sees : c.cutOff = false
  sees' : e.cutOff = false

namespace Took

variable {c d e : Cursor} {l m : List Token} {t : Token}

theorem refl (hc : c.cutOff = false) : c.Took [] c := ⟨rfl, rfl, rfl, rfl, hc, hc⟩

theorem trans (h : c.Took l d) (h' : d.Took m e) : c.Took (l ++ m) e where
  rest := by rw [h.rest, h'.rest, List.append_assoc]
  number := by rw [h'.number, h.number, List.length_append, Nat.add_assoc]
  total := h'.total.trans h.total
  lists := h'.lists.trans h.lists
  sees := h.sees
  sees' := h'.sees'

/-- Of some tokens, the first ones are taken first. -/
theorem split (h : c.Took (l ++ m) e) : ∃ d : Cursor, c.Took l d ∧ d.Took m e := by
  have hnumber := h.number
  rw [List.length_append] at hnumber
  refine ⟨⟨m ++ e.rest, c.number + l.length, c.total, c.lists, false⟩, ?_, ?_⟩
  · exact ⟨by rw [h.rest, List.append_assoc], rfl, rfl, rfl, h.sees, rfl⟩
  · exact ⟨rfl, by rw [hnumber, Nat.add_assoc], h.total, h.lists, rfl, h.sees'⟩

theorem eq_of_nil (h : c.Took [] e) : e = c := by
  obtain ⟨hrest, hnumber, htotal, hlists, hsees, hsees'⟩ := h
  obtain ⟨rest, number, total, lists, cutOff⟩ := c
  obtain ⟨rest', number', total', lists', cutOff'⟩ := e
  simp_all

theorem kind_eq (h : c.Took (t :: l) e) : c.kind = t.kind := by
  rw [kind, h.rest, h.sees]
  rfl

/-- Where tokens are left, the first token taken is passed. -/
theorem bumped (h : c.Took (t :: l) e) (he : e.rest ≠ []) : c.bumped.Took l e := by
  obtain ⟨u, rest, hrest⟩ : ∃ u rest, l ++ e.rest = u :: rest :=
    List.exists_cons_of_ne_nil (by simp [he])
  have hc : c.rest = t :: u :: rest := by rw [h.rest, List.cons_append, hrest]
  have hnumber := h.number
  rw [List.length_cons] at hnumber
  rw [bumped_of_two hc]
  exact ⟨hrest.symm, by simp only; omega, h.total, h.lists, rfl, h.sees'⟩

end Took

variable {tokens : List Token} {c e : Cursor} {l : List Token}

/-- Taking tokens leads to a later one of the same tokens. -/
theorem Took.on (h : c.Took l e) (hc : c.On tokens) (he : e.rest ≠ []) : e.On tokens := by
  have hdrop : tokens.drop e.number = e.rest := by
    rw [h.number, ← List.drop_drop, ← hc.rest, h.rest, List.drop_left]
  refine ⟨hdrop.symm, ?_, h.total.trans hc.total⟩
  have hlength := congrArg List.length hdrop
  have hpos := List.length_pos_iff.2 he
  rw [List.length_drop] at hlength
  omega

/-- Where the next token is not the end of the file, there is one. -/
theorem rest_ne_nil (h : c.kind ≠ .endOfFile) : c.rest ≠ [] := by
  intro hrest
  rw [kind, hrest] at h
  exact h rfl

/-- A token that is passed is taken. -/
theorem On.took (h : c.On tokens) (hclosed : Closed tokens) (hsees : c.cutOff = false)
    (hfile : c.kind ≠ .endOfFile) :
    ∃ t, t.kind = c.kind ∧ c.Took [t] c.bumped ∧ c.bumped.On tokens := by
  obtain ⟨t, ht, hrest⟩ := h.rest_eq_cons
  have hkind : t.kind = c.kind := by
    rw [kind, hrest, hsees]
    rfl
  have htwo := (hrest ▸ h.rest ▸ hclosed.drop h.lt).two (hkind ▸ hfile)
  obtain ⟨u, later, hlater⟩ := List.exists_cons_of_ne_nil htwo
  rw [hlater] at hrest
  have hbumped := bumped_of_two hrest
  refine ⟨t, hkind, ⟨?_, ?_, ?_, ?_, hsees, ?_⟩, ?_⟩
  · rw [hbumped, hrest]
    rfl
  · rw [hbumped]
    rfl
  · rw [hbumped]
  · rw [hbumped]
  · rw [hbumped]
  · rw [hbumped]
    refine ⟨hlater.symm, ?_, h.total⟩
    have hlength := congrArg List.length hlater
    rw [List.length_drop, List.length_cons] at hlength
    simp only
    omega

end Cursor

namespace Reading

variable {α : Type} {kind : Kind} {c : Cursor}

theorem peek_bind_apply {next : Kind → Reading α} : (peek >>= next) c = next c.kind c := rfl

theorem peek3_bind_apply {next : Kind × Kind × Kind → Reading α} :
    (peek3 >>= next) c = next (c.kind, c.kindAt 1, c.kindAt 2) c := rfl

theorem here_bind_apply {next : Nat → Reading α} : (here >>= next) c = next c.number c := rfl

theorem rounds_bind_apply {next : Nat → Reading α} :
    (rounds >>= next) c = next (c.total - c.number + 2) c := rfl

theorem at?_bind_of_ne {next : Bool → Reading α} (h : c.kind ≠ kind) :
    (at? kind >>= next) c = next false c := by
  have happly : (at? kind >>= next) c = next (decide (c.kind = kind)) c := rfl
  rw [happly, decide_eq_false h]

/-- What is read goes on with what comes of its first part. -/
theorem bind_of_ok {β : Type} {r : Reading α} {next : α → Reading β} {a : α} {e : Cursor}
    (h : r c = .ok (a, e)) : (r >>= next) c = next a e := by
  rw [bind_apply, h]
  rfl

theorem eat_bind_of_eq {next : Bool → Reading α} (h : c.kind = kind) :
    (eat kind >>= next) c = next true c.bumped := by
  rw [bind_apply, Agree.eat_apply, if_pos h]
  rfl

theorem eat_bind_of_ne {next : Bool → Reading α} (h : c.kind ≠ kind) :
    (eat kind >>= next) c = next false c := by
  rw [bind_apply, Agree.eat_apply, if_neg h]
  rfl

theorem expect_bind_of_eq {next : Unit → Reading α} (h : c.kind = kind) :
    (expect kind >>= next) c = next () c.bumped :=
  bind_of_ok (eat_bind_of_eq h)

end Reading

/-! ## Ends of lines -/

/-- What may come behind some tokens that end a statement: anything in a new line, and in the same
line no line end and no statement with a block. -/
def Follows (l : List Token) (kind : Kind) : Prop :=
  ∀ t ∈ l.getLast?, t.kind = .newline ∨
    kind ≠ .newline ∧ (kind.startsCompound = true → kind.startsSimple = true)

/-- The tokens that end a statement without a block. -/
def Ends (l : List Token) : Prop :=
  l.map Token.kind = [.newline] ∨ l.map Token.kind = [.symbol .semi] ∨
    l.map Token.kind = [.symbol .semi, .newline]

theorem Follows.of_append {l m : List Token} {kind : Kind} (h : Follows (l ++ m) kind)
    (hm : m ≠ []) : Follows m kind := by
  intro t ht
  apply h t
  rw [List.getLast?_append_of_ne_nil _ hm]
  exact ht

theorem Follows.append {l m : List Token} {kind : Kind} (h : Follows m kind) (hm : m ≠ []) :
    Follows (l ++ m) kind := by
  intro t ht
  rw [List.getLast?_append_of_ne_nil _ hm] at ht
  exact h t ht

theorem Ends.ne_nil {l : List Token} (h : Ends l) : l ≠ [] := by
  rintro rfl
  obtain h | h | h := h <;> cases h

/-- Where a statement ends, there is a semicolon or a line end. -/
theorem Ends.kind {l : List Token} {c e : Cursor} (h : Ends l) (htook : c.Took l e) :
    c.kind = .symbol .semi ∨ c.kind = .newline := by
  cases l with
  | nil => exact absurd rfl h.ne_nil
  | cons t l =>
    rw [htook.kind_eq]
    obtain h | h | h := h
    · exact .inr (List.cons.inj h).1
    · exact .inl (List.cons.inj h).1
    · exact .inl (List.cons.inj h).1

namespace Rules

/-- What is read behind a statement without a block. -/
def lineRest (s : Stmt) : Reading Stmt := do
  let semicolon ← eatSymbol .semi
  unless ← eat .newline do
    let kind ← peek
    if (!semicolon && kind.startsSimple) || kind.startsCompound && !kind.startsSimple then refuse
  return s

theorem singleSimple_eq (G : Rules) : G.singleSimple = G.spannedSimple >>= lineRest := rfl

variable {tokens : List Token} {c e : Cursor} {s : Stmt} {l : List Token}

theorem lineRest_agree {shift : Shift} {n : Nat} (s s' : Stmt) :
    Agree shift n 0 (fun _ => s') (lineRest s) (lineRest s') := by
  refine Agree.eat_bind_any fun semicolon => Agree.eat_bind (.pure rfl) ?_
  exact Agree.peek_bind fun kind => Agree.when_bind Iff.rfl .refuse (.pure rfl)

/-- What is read behind a statement is the statement itself. -/
theorem gives_lineRest_eq : Gives (lineRest s) c fun s' _ => s' = s := by
  refine .eat_bind (fun _ => ?_) fun _ => ?_
  all_goals
    refine .eat_bind (fun _ => .pure rfl) fun _ => .peek_bind ?_
    exact .ite (fun _ => .refuse_bind) fun _ => .pure rfl

theorem gives_lineRest (hclosed : Closed tokens) (hc : c.On tokens) (hsees : c.cutOff = false) :
    Gives (lineRest s) c fun _ e =>
      (e.On tokens ∧ ∃ l, Ends l ∧ c.Took l e ∧ Follows l e.kind) ∨
        e = c ∧ (c.kind ≠ .symbol .semi ∧ c.kind ≠ .newline) ∧ c.kind.startsSimple = false ∧
          c.kind.startsCompound = false := by
  refine .eat_bind (fun hsemi => ?_) fun hsemi => ?_
  · obtain ⟨t, ht, htook, hon⟩ := hc.took hclosed hsees (by simp [hsemi])
    rw [hsemi] at ht
    refine .eat_bind (fun hline => ?_) fun hline => ?_
    · obtain ⟨u, hu, htook', hon'⟩ := hon.took hclosed htook.sees' (by simp [hline])
      rw [hline] at hu
      refine .pure (.inl ⟨hon', [t] ++ [u], ?_, htook.trans htook', ?_⟩)
      · exact .inr (.inr (by simp [ht, hu]))
      · intro v hv
        obtain rfl : u = v := by simpa using hv
        exact .inl hu
    · refine .peek_bind (.ite (fun _ => .refuse_bind) fun hkind => ?_)
      refine .pure (.inl ⟨hon, [t], .inr (.inl (by simp [ht])), htook, ?_⟩)
      intro v hv
      exact .inr ⟨hline, by simpa using hkind⟩
  · refine .eat_bind (fun hline => ?_) fun hline => ?_
    · obtain ⟨t, ht, htook, hon⟩ := hc.took hclosed hsees (by simp [hline])
      rw [hline] at ht
      refine .pure (.inl ⟨hon, [t], .inl (by simp [ht]), htook, ?_⟩)
      intro v hv
      obtain rfl : t = v := by simpa using hv
      exact .inl ht
    · refine .peek_bind (.ite (fun _ => .refuse_bind) fun hkind => ?_)
      refine .pure (.inr ⟨rfl, ⟨hsemi, hline⟩, ?_⟩)
      have hboth : c.kind.startsSimple = false ∧
          (c.kind.startsCompound = true → c.kind.startsSimple = true) := by simpa using hkind
      refine ⟨hboth.1, ?_⟩
      by_contra hcompound
      have := hboth.2 (by simpa using hcompound)
      rw [hboth.1] at this
      cases this

/-- The end of a line is read again in front of other tokens. -/
theorem lineRest_of_took (hl : Ends l) (h : c.Took l e) (hfollows : Follows l e.kind)
    (he : e.rest ≠ []) : lineRest s c = .ok (s, e) := by
  obtain hl | hl | hl := hl
  · obtain ⟨t, rfl, ht⟩ := List.map_eq_singleton_iff.1 hl
    have hkind : c.kind = .newline := h.kind_eq.trans ht
    have hbumped := (h.bumped he).eq_of_nil
    unfold lineRest eatSymbol
    rw [eat_bind_of_ne (by simp [hkind]), eat_bind_of_eq hkind, hbumped]
    rfl
  · obtain ⟨t, rfl, ht⟩ := List.map_eq_singleton_iff.1 hl
    have hkind : c.kind = .symbol .semi := h.kind_eq.trans ht
    have hbumped := (h.bumped he).eq_of_nil
    obtain hline | ⟨hline, hstart⟩ := hfollows t (by simp)
    · rw [hline] at ht
      cases ht
    · unfold lineRest eatSymbol
      rw [eat_bind_of_eq hkind, ← hbumped, eat_bind_of_ne hline, if_neg (by simp),
        peek_bind_apply, if_neg (by simpa using hstart)]
      rfl
  · obtain ⟨t, rest, rfl, ht, hrest⟩ := List.map_eq_cons_iff.1 hl
    obtain ⟨u, rfl, hu⟩ := List.map_eq_singleton_iff.1 hrest
    have hkind : c.kind = .symbol .semi := h.kind_eq.trans ht
    have hbehind := h.bumped he
    have hline : c.bumped.kind = .newline := hbehind.kind_eq.trans hu
    have hbumped := (hbehind.bumped he).eq_of_nil
    unfold lineRest eatSymbol
    rw [eat_bind_of_eq hkind, eat_bind_of_eq hline, hbumped]
    rfl

end Rules

end ScriptBundle.Python
