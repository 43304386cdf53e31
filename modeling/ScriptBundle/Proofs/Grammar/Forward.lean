import ScriptBundle.Proofs.Grammar.Depth

namespace ScriptBundle.Python

theorem Token.Shifted.refl (t : Token) : t.Shifted ⟨0, 0⟩ t where
  kind := rfl
  start := rfl
  stop := rfl
  nesting := rfl
  lineEnd := rfl

/-- What is left of closed tokens is closed. -/
theorem Closed.drop {tokens : List Token} (h : Closed tokens) {n : Nat} (hn : n < tokens.length) :
    Closed (tokens.drop n) := by
  induction n with
  | zero => exact h
  | succ n ih =>
    have hdrop := ih (by omega)
    rw [List.drop_eq_getElem_cons (by omega), List.drop_eq_getElem_cons hn] at hdrop
    rw [List.drop_eq_getElem_cons hn]
    exact hdrop.tail

namespace Cursor

/-- A cursor stands at one of the tokens. -/
structure On (tokens : List Token) (c : Cursor) : Prop where
  rest : c.rest = tokens.drop c.number
  lt : c.number < tokens.length
  total : c.total = tokens.length

variable {tokens : List Token} {c : Cursor}

theorem On.length (h : c.On tokens) : c.rest.length = tokens.length - c.number := by
  rw [h.rest, List.length_drop]

theorem On.alike (h : c.On tokens) (hclosed : Closed tokens) : c.Alike ⟨0, 0⟩ c where
  rest := List.forall₂_same.2 fun t _ => Token.Shifted.refl t
  closed := h.rest ▸ hclosed.drop h.lt
  number := rfl
  total := by
    have := h.length
    have := h.lt
    have := h.total
    omega
  total' := by
    have := h.length
    have := h.lt
    have := h.total
    omega
  lists := rfl
  cutOff := rfl

theorem On.reaches {s : Shift} {e e' : Cursor} {k : Nat} (h : c.On tokens) (hreach : c.Reaches k e)
    (he : e.Alike s e') : e.On tokens where
  rest := by
    have := hreach.number
    rw [hreach.rest, h.rest, List.drop_drop]
    congr 1
    omega
  lt := by
    have := he.total
    have := hreach.total
    have := h.total
    have := List.length_pos_of_ne_nil he.closed.ne_nil
    omega
  total := hreach.total.trans h.total

theorem On.withLists (h : c.On tokens) (lists : List ListKind) :
    ({ c with lists } : Cursor).On tokens := ⟨h.rest, h.lt, h.total⟩

theorem On.withCutOff (h : c.On tokens) (cutOff : Bool) :
    ({ c with cutOff } : Cursor).On tokens := ⟨h.rest, h.lt, h.total⟩

/-- The next token is the one with the cursor's number. -/
theorem On.rest_eq_cons (h : c.On tokens) :
    ∃ t, tokens[c.number]? = some t ∧ c.rest = t :: tokens.drop (c.number + 1) :=
  ⟨_, List.getElem?_eq_getElem h.lt, h.rest.trans (List.drop_eq_getElem_cons h.lt)⟩

/-- Except where an unclosed bracket was found, a cursor sees its token. -/
theorem On.kind_eq (h : c.On tokens) (hkind : c.kind ≠ .newline) :
    tokens[c.number]?.map Token.kind = some c.kind ∧ c.cutOff = false := by
  obtain ⟨t, ht, hrest⟩ := h.rest_eq_cons
  rw [ht]
  simp only [kind, hrest] at hkind ⊢
  cases hcut : c.cutOff with
  | true => simp [hcut] at hkind
  | false => simp

/-- A token that ends neither a line nor the file is passed. -/
theorem On.bumped (h : c.On tokens) (hclosed : Closed tokens) (hline : c.kind ≠ .newline)
    (hfile : c.kind ≠ .endOfFile) :
    c.bumped.On tokens ∧ c.bumped.number = c.number + 1 ∧ c.bumped.cutOff = false := by
  have halike := h.alike hclosed
  have hreach := halike.reaches_bumped hline hfile
  refine ⟨h.reaches hreach halike.bumped, ?_⟩
  match hc : c.rest with
  | [] => exact absurd hc halike.closed.ne_nil
  | [t] =>
    have := hreach.number
    rw [bumped_of_single hc] at this ⊢
    exact absurd this (by simp)
  | _ :: _ :: _ =>
    rw [bumped_of_two hc]
    exact ⟨rfl, rfl⟩

end Cursor

namespace Reading

variable {α β γ : Type} {tokens : List Token} {n k : Nat} {f : α → β}

/-- A reading that agrees with itself where it starts moves forward. -/
theorem AgreeAt.forward {kind : Kind} {r : Reading α} {r' : Reading β}
    (h : AgreeAt ⟨0, 0⟩ n k f kind r r') (hclosed : Closed tokens) {c e : Cursor} {a : α}
    (hc : c.On tokens) (hn : tokens.length ≤ c.number + n) (hkind : c.kind = kind)
    (hr : r c = .ok (a, e)) : e.On tokens ∧ c.number + k ≤ e.number := by
  have houtcome := h c c (hc.alike hclosed) (by rw [hc.length]; omega) hkind
  rw [hr] at houtcome
  generalize r' c = y at houtcome
  cases houtcome with
  | ok alike behind => exact ⟨hc.reaches behind alike, behind.number⟩

/-- A reading that agrees with itself moves forward. -/
theorem Agree.forward {r : Reading α} {r' : Reading β} (h : Agree ⟨0, 0⟩ n k f r r')
    (hclosed : Closed tokens) {c e : Cursor} {a : α} (hc : c.On tokens)
    (hn : tokens.length ≤ c.number + n) (hr : r c = .ok (a, e)) :
    e.On tokens ∧ c.number + k ≤ e.number :=
  (h.anywhere c.kind).forward hclosed hc hn rfl hr

/-- What a reading gives from a cursor if it does not fault. -/
def Gives (r : Reading α) (c : Cursor) (Q : α → Cursor → Prop) : Prop :=
  ∀ a e, r c = .ok (a, e) → Q a e

namespace Gives

variable {r : Reading α} {next : α → Reading β} {c : Cursor} {P : α → Cursor → Prop}
  {Q : β → Cursor → Prop}

theorem any : Gives r c fun _ _ => True := fun _ _ _ => trivial

theorem mono {P' : α → Cursor → Prop} (h : Gives r c P) (hP : ∀ a e, P a e → P' a e) :
    Gives r c P' := fun a e hr => hP a e (h a e hr)

theorem bind (h : Gives r c P) (hnext : ∀ a e, P a e → Gives (next a) e Q) :
    Gives (r >>= next) c Q := by
  intro b e hb
  rw [bind_apply] at hb
  cases hr : r c with
  | error fault =>
    rw [hr] at hb
    cases hb
  | ok p =>
    rw [hr] at hb
    exact hnext p.1 p.2 (h p.1 p.2 hr) b e hb

theorem pure {a : α} (h : P a c) : Gives (Pure.pure a : Reading α) c P := by
  intro b e hb
  cases hb
  exact h

theorem refuse : Gives (Reading.refuse : Reading α) c P := fun _ _ h => nomatch h

theorem refuseAt {p : Nat} : Gives (Reading.refuseAt p : Reading α) c P := fun _ _ h => nomatch h

theorem refuse_bind : Gives ((Reading.refuse : Reading α) >>= next) c Q := fun _ _ h => nomatch h

theorem refuseAt_bind {p : Nat} : Gives ((Reading.refuseAt p : Reading α) >>= next) c Q :=
  fun _ _ h => nomatch h

theorem fault {x : Fault} : Gives (throw x : Reading α) c P := fun _ _ h => nomatch h

theorem ite {p : Prop} [Decidable p] {x y : Reading α} (hx : p → Gives x c P)
    (hy : ¬p → Gives y c P) : Gives (if p then x else y) c P := by
  by_cases h : p
  · rw [if_pos h]
    exact hx h
  · rw [if_neg h]
    exact hy h

theorem map {g : α → β} (h : Gives r c fun a e => Q (g a) e) : Gives (g <$> r) c Q := by
  rw [map_eq_pure_bind]
  exact h.bind fun a e ha => pure ha

theorem peek_bind {onKind : Kind → Reading β} (h : Gives (onKind c.kind) c Q) :
    Gives (peek >>= onKind) c Q := h

theorem peek3_bind {onKinds : Kind × Kind × Kind → Reading β}
    (h : Gives (onKinds (c.kind, c.kindAt 1, c.kindAt 2)) c Q) : Gives (peek3 >>= onKinds) c Q := h

theorem here_bind {onNumber : Nat → Reading β} (h : Gives (onNumber c.number) c Q) :
    Gives (here >>= onNumber) c Q := h

theorem rounds_bind {onRounds : Nat → Reading β}
    (h : Gives (onRounds (c.total - c.number + 2)) c Q) : Gives (rounds >>= onRounds) c Q := h

theorem bump_bind {next : Unit → Reading β} (h : Gives (next ()) c.bumped Q) :
    Gives (bump >>= next) c Q := h

theorem eat_bind {kind : Kind} {onEaten : Bool → Reading β}
    (htrue : c.kind = kind → Gives (onEaten true) c.bumped Q)
    (hfalse : c.kind ≠ kind → Gives (onEaten false) c Q) : Gives (eat kind >>= onEaten) c Q := by
  intro b e hb
  rw [bind_apply, Agree.eat_apply] at hb
  split at hb
  · exact htrue ‹_› b e hb
  · exact hfalse ‹_› b e hb

theorem expect_bind {kind : Kind} {next : Unit → Reading β}
    (h : c.kind = kind → Gives (next ()) c.bumped Q) : Gives (expect kind >>= next) c Q := by
  have hexpect : Gives (expect kind) c fun _ e => c.kind = kind ∧ e = c.bumped := by
    refine eat_bind (fun hkind => pure ⟨hkind, rfl⟩) fun _ => refuse
  exact hexpect.bind fun _ e he => he.2 ▸ h he.1

theorem at?_bind {kind : Kind} {onFound : Bool → Reading β}
    (h : Gives (onFound (decide (c.kind = kind))) c Q) : Gives (at? kind >>= onFound) c Q := h

theorem within {list : ListKind}
    (h : Gives r { c with lists := list :: c.lists } fun a e => P a { e with lists := c.lists }) :
    Gives (Reading.within list r) c P := by
  intro a e ha
  have hlists : Reading.within list r c =
      r { c with lists := list :: c.lists } >>= fun p => .ok (p.1, { p.2 with lists := c.lists }) :=
    rfl
  rw [hlists] at ha
  cases hr : r { c with lists := list :: c.lists } with
  | error fault =>
    rw [hr] at ha
    cases ha
  | ok p =>
    rw [hr] at ha
    cases ha
    exact h p.1 p.2 hr

end Gives

/-- Whatever a reading gives has a property. -/
def Yields (P : α → Prop) (r : Reading α) : Prop := ∀ c, Gives r c fun a _ => P a

namespace Yields

variable {P : α → Prop} {Q : β → Prop} {r : Reading α} {next : α → Reading β}

theorem bind (h : ∀ a, Yields Q (next a)) : Yields Q (r >>= next) :=
  fun _ => Gives.any.bind fun a e _ => h a e

theorem bind_of (hr : Yields P r) (h : ∀ a, P a → Yields Q (next a)) : Yields Q (r >>= next) :=
  fun c => (hr c).bind fun a e ha => h a ha e

theorem pure {a : α} (h : P a) : Yields P (Pure.pure a : Reading α) := fun _ => .pure h

theorem fault {x : Fault} : Yields P (throw x : Reading α) := fun _ => .fault

theorem refuseAt {p : Nat} : Yields P (Reading.refuseAt p : Reading α) := fun _ => .refuseAt

theorem ite {p : Prop} [Decidable p] {x y : Reading α} (hx : Yields P x) (hy : Yields P y) :
    Yields P (if p then x else y) :=
  fun c => .ite (fun _ => hx c) fun _ => hy c

end Yields

/-- A reading that agrees with itself gives a later cursor. -/
theorem Agree.gives {r : Reading α} {r' : Reading β} (h : Agree ⟨0, 0⟩ n k f r r')
    (hclosed : Closed tokens) {c : Cursor} (hc : c.On tokens)
    (hn : tokens.length ≤ c.number + n) :
    Gives r c fun _ e => e.On tokens ∧ c.number + k ≤ e.number :=
  fun _ _ hr => h.forward hclosed hc hn hr

end Reading

end ScriptBundle.Python
