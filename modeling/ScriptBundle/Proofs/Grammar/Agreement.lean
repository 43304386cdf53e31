import Mathlib.Data.List.Forall2
import ScriptBundle.Proofs.Grammar.Lowering
import ScriptBundle.Python.Grammar.Expression

/-!
# Readings that agree

Tokens are read alike wherever they stand. Let two lists of tokens differ by a `Shift`: those of the
second have lower places and numbers.
-/

namespace ScriptBundle.Python

/-- How far tokens lie behind their partners, counted in tokens and in characters. -/
structure Shift where
  tokens : Nat
  characters : Nat

structure Token.Shifted (s : Shift) (t u : Token) : Prop where
  kind : u.kind = t.kind
  start : t.start = u.start + s.characters
  stop : t.stop = u.stop + s.characters
  nesting : u.nesting = t.nesting
  lineEnd : u.lineEnd.isSome = t.lineEnd.isSome

theorem Token.Shifted.trans {s s' : Shift} {t u v : Token} (h : t.Shifted s u)
    (h' : u.Shifted s' v) :
    t.Shifted ⟨s.tokens + s'.tokens, s.characters + s'.characters⟩ v where
  kind := h'.kind.trans h.kind
  start := by
    have := h.start
    have := h'.start
    simp only
    omega
  stop := by
    have := h.stop
    have := h'.stop
    simp only
    omega
  nesting := h'.nesting.trans h.nesting
  lineEnd := h'.lineEnd.trans h.lineEnd

/-- The end of the file is the last token and no other one. -/
def Closed (tokens : List Token) : Prop :=
  ∃ front last, tokens = front ++ [last] ∧ last.kind = .endOfFile ∧
    ∀ t ∈ front, t.kind ≠ .endOfFile

theorem Closed.tail {t u : Token} {rest : List Token} (h : Closed (t :: u :: rest)) :
    Closed (u :: rest) := by
  obtain ⟨front, last, hsplit, hlast, hfront⟩ := h
  cases front with
  | nil => simp at hsplit
  | cons v front =>
    exact ⟨front, last, (List.cons.inj hsplit).2, hlast,
      fun w hw => hfront w (List.mem_cons_of_mem _ hw)⟩

theorem Closed.ne_nil {tokens : List Token} (h : Closed tokens) : tokens ≠ [] := by
  obtain ⟨front, last, rfl, -⟩ := h
  simp

theorem Closed.two {t : Token} {rest : List Token} (h : Closed (t :: rest))
    (hkind : t.kind ≠ .endOfFile) : rest ≠ [] := by
  obtain ⟨front, last, hsplit, hlast, -⟩ := h
  rintro rfl
  cases front with
  | nil => exact hkind ((List.cons.inj hsplit).1 ▸ hlast)
  | cons v front => simp at hsplit

/-- Whether a token before which a line ends cannot stand for the end of a bracket. -/
def Kind.staysOpen : Kind → Bool
  | .symbol s => s.isCloser
  | .replacementText form _ _ | .replacementStart form | .replacementEnd form => form.triple
  | _ => false

namespace Cursor

def kind (c : Cursor) : Kind :=
  match c.rest with
  | t :: _ => if c.cutOff then .newline else t.kind
  | [] => .endOfFile

/-- The kind of the token `n` places behind the next one. -/
def kindAt (c : Cursor) (n : Nat) : Kind :=
  match c.rest[n]? with
  | some t => t.kind
  | none => .endOfFile

/-- The cursor behind the next token, which stays if it is the last one. -/
def bumped (c : Cursor) : Cursor :=
  match c.rest with
  | _ :: t :: rest => { c with rest := t :: rest, number := c.number + 1, cutOff := false }
  | _ => { c with cutOff := false }

/-- Two cursors before the same tokens in other places. -/
structure Alike (s : Shift) (c d : Cursor) : Prop where
  rest : List.Forall₂ (Token.Shifted s) c.rest d.rest
  closed : Closed c.rest
  number : c.number = d.number + s.tokens
  total : c.total = c.number + c.rest.length
  total' : d.total = d.number + d.rest.length
  lists : d.lists = c.lists
  cutOff : d.cutOff = c.cutOff

/-- A cursor lies behind another one, by at least `k` tokens. -/
structure Reaches (k : Nat) (c e : Cursor) : Prop where
  number : c.number + k ≤ e.number
  rest : e.rest = c.rest.drop (e.number - c.number)
  total : e.total = c.total
  lists : e.lists = c.lists

theorem Reaches.refl (c : Cursor) : c.Reaches 0 c where
  number := Nat.le_refl _
  rest := by simp
  total := rfl
  lists := rfl

theorem Reaches.trans {j k : Nat} {c d e : Cursor} (h : c.Reaches j d) (h' : d.Reaches k e) :
    c.Reaches (j + k) e where
  number := by
    have := h.number
    have := h'.number
    omega
  rest := by
    have := h.number
    have := h'.number
    rw [h'.rest, h.rest, List.drop_drop]
    congr 1
    omega
  total := h'.total.trans h.total
  lists := h'.lists.trans h.lists

theorem Reaches.mono {j k : Nat} {c e : Cursor} (h : c.Reaches k e) (hjk : j ≤ k) :
    c.Reaches j e :=
  { h with number := by have := h.number; omega }

variable {s : Shift} {c d : Cursor}

theorem Reaches.length_le {k : Nat} {e e' : Cursor} (h : c.Reaches k e) (hc : c.Alike s d)
    (he : e.Alike s e') : e.rest.length + k ≤ c.rest.length := by
  have := h.number
  have := h.total
  have := hc.total
  have := he.total
  omega

theorem Alike.trans {s' : Shift} {e : Cursor} (h : c.Alike s d) (h' : d.Alike s' e) :
    c.Alike ⟨s.tokens + s'.tokens, s.characters + s'.characters⟩ e where
  rest := by
    have hrest := h.rest
    have hrest' := h'.rest
    generalize c.rest = l at hrest
    generalize d.rest = m at hrest hrest'
    generalize e.rest = n at hrest' ⊢
    induction hrest generalizing n with
    | nil =>
      cases hrest'
      exact .nil
    | cons ht _ ih =>
      obtain ⟨v, n, hv, hn, rfl⟩ := List.forall₂_cons_left_iff.1 hrest'
      exact .cons (ht.trans hv) (ih n hn)
  closed := h.closed
  number := by
    have := h.number
    have := h'.number
    simp only
    omega
  total := h.total
  total' := h'.total'
  lists := h'.lists.trans h.lists
  cutOff := h'.cutOff.trans h.cutOff

theorem Alike.length_eq (h : c.Alike s d) : d.rest.length = c.rest.length :=
  h.rest.length_eq.symm

theorem Alike.rounds_eq (h : c.Alike s d) : d.total - d.number = c.total - c.number := by
  have := h.total
  have := h.total'
  have := h.length_eq
  omega

theorem Alike.getElem? (h : c.Alike s d) (n : Nat) :
    Option.Rel (Token.Shifted s) c.rest[n]? d.rest[n]? := by
  obtain ⟨hlength, hget⟩ := List.forall₂_iff_get.1 h.rest
  by_cases hn : n < c.rest.length
  · rw [List.getElem?_eq_getElem hn, List.getElem?_eq_getElem (hlength ▸ hn)]
    exact .some (hget n hn (hlength ▸ hn))
  · rw [List.getElem?_eq_none (by omega), List.getElem?_eq_none (by omega)]
    exact .none

theorem Alike.kindAt_eq (h : c.Alike s d) (n : Nat) : d.kindAt n = c.kindAt n := by
  have hn := h.getElem? n
  unfold kindAt
  revert hn
  cases c.rest[n]? <;> cases d.rest[n]? <;> rintro (ht | _)
  · rfl
  · exact ht.kind

theorem Alike.kind_eq (h : c.Alike s d) : d.kind = c.kind := by
  have hrest := h.rest
  unfold kind
  rw [h.cutOff]
  revert hrest
  cases c.rest <;> cases d.rest <;> rintro (_ | ⟨ht, -⟩)
  · rfl
  · simp only [ht.kind]

theorem Alike.withLists (h : c.Alike s d) (lists : List ListKind) :
    ({ c with lists } : Cursor).Alike s { d with lists } :=
  { h with lists := rfl }

theorem Alike.withCutOff (h : c.Alike s d) (cutOff : Bool) :
    ({ c with cutOff } : Cursor).Alike s { d with cutOff } :=
  { h with cutOff := rfl }

/-- A cursor with two tokens or more goes on to the second. -/
theorem bumped_of_two {c : Cursor} {t t' : Token} {rest : List Token}
    (h : c.rest = t :: t' :: rest) :
    c.bumped = { c with rest := t' :: rest, number := c.number + 1, cutOff := false } := by
  rw [Cursor.bumped, h]

/-- A cursor before the last token stays. -/
theorem bumped_of_single {c : Cursor} {t : Token} (h : c.rest = [t]) :
    c.bumped = { c with cutOff := false } := by
  rw [Cursor.bumped, h]

theorem Alike.bumped (h : c.Alike s d) : c.bumped.Alike s d.bumped := by
  have hrest := h.rest
  have htotal := h.total
  have htotal' := h.total'
  have hnumber := h.number
  match hc : c.rest, hd : d.rest with
  | [], _ => exact absurd hc h.closed.ne_nil
  | [_], [_] =>
    rw [bumped_of_single hc, bumped_of_single hd]
    exact h.withCutOff false
  | [_], [] | [_], _ :: _ :: _ | _ :: _ :: _, [] | _ :: _ :: _, [_] => simp [hc, hd] at hrest
  | t :: t' :: rest, u :: u' :: rest' =>
    rw [bumped_of_two hc, bumped_of_two hd]
    rw [hc, List.length_cons] at htotal
    rw [hd, List.length_cons] at htotal'
    rw [hc, hd] at hrest
    exact {
      rest := (List.forall₂_cons.1 hrest).2
      closed := (hc ▸ h.closed).tail
      number := by simp only; omega
      total := by simp only; omega
      total' := by simp only; omega
      lists := h.lists
      cutOff := rfl }

theorem reaches_bumped (c : Cursor) : c.Reaches 0 c.bumped := by
  match hc : c.rest with
  | [] =>
    have hbumped : c.bumped = { c with cutOff := false } := by rw [Cursor.bumped, hc]
    rw [hbumped]
    exact ⟨Nat.le_refl _, by simp, rfl, rfl⟩
  | [_] =>
    rw [bumped_of_single hc]
    exact ⟨Nat.le_refl _, by simp, rfl, rfl⟩
  | t :: t' :: rest =>
    rw [bumped_of_two hc]
    exact ⟨Nat.le_add_right _ _, by simp [hc], rfl, rfl⟩

/-- A token that is neither the end of the file nor the end of a line is passed. -/
theorem Alike.reaches_bumped (h : c.Alike s d) (hline : c.kind ≠ .newline)
    (hfile : c.kind ≠ .endOfFile) : c.Reaches 1 c.bumped := by
  match hc : c.rest with
  | [] => exact absurd hc h.closed.ne_nil
  | [t] =>
    rw [kind, hc] at hline hfile
    by_cases hcut : c.cutOff
    · exact absurd (if_pos hcut) hline
    · simp only [if_neg hcut] at hfile
      exact absurd rfl ((hc ▸ h.closed).two hfile)
  | t :: t' :: rest =>
    rw [bumped_of_two hc]
    exact ⟨Nat.le_refl _, by simp [hc], rfl, rfl⟩

end Cursor

namespace Reading

variable {α β γ ε : Type} {s : Shift} {n k : Nat}

/-- Two outcomes of reading on from cursors that are alike: faults, or values that a function takes
to each other with cursors that are alike again, at least `k` tokens behind the first one. -/
inductive Outcome (s : Shift) (k : Nat) (f : α → β) (c : Cursor) :
    Except Fault (α × Cursor) → Except Fault (β × Cursor) → Prop
  | ok {a : α} {e e' : Cursor} (alike : e.Alike s e') (behind : c.Reaches k e) :
    Outcome s k f c (.ok (a, e)) (.ok (f a, e'))
  | error {x y : Fault} : Outcome s k f c (.error x) (.error y)

/-- **Two readings agree** on at most `n` tokens that are left: they read the same up to the shift,
which `f` takes off the values, and take at least `k` tokens, or both fault. -/
def Agree (s : Shift) (n k : Nat) (f : α → β) (r : Reading α) (r' : Reading β) : Prop :=
  ∀ c c', c.Alike s c' → c.rest.length ≤ n → Outcome s k f c (r c) (r' c')

/-- Two readings agree where the next token is of a given kind. -/
def AgreeAt (s : Shift) (n k : Nat) (f : α → β) (kind : Kind) (r : Reading α) (r' : Reading β) :
    Prop :=
  ∀ c c', c.Alike s c' → c.rest.length ≤ n → c.kind = kind → Outcome s k f c (r c) (r' c')

variable {f : α → β} {g : γ → ε} {r : Reading α} {r' : Reading β}
  {next : α → Reading γ} {next' : β → Reading ε}

theorem bind_apply (r : Reading α) (next : α → Reading γ) (c : Cursor) :
    (r >>= next) c = r c >>= fun p => next p.1 p.2 := rfl

theorem Outcome.mono {j : Nat} {c : Cursor} {x : Except Fault (α × Cursor)}
    {y : Except Fault (β × Cursor)} (h : Outcome s k f c x y) (hjk : j ≤ k) :
    Outcome s j f c x y := by
  cases h with
  | ok alike behind => exact .ok alike (behind.mono hjk)
  | error => exact .error

/-- What is read from a later cursor is read from an earlier one. -/
theorem Outcome.after {j : Nat} {c e : Cursor} {x : Except Fault (α × Cursor)}
    {y : Except Fault (β × Cursor)} (h : Outcome s k f e x y) (hreach : c.Reaches j e) :
    Outcome s (j + k) f c x y := by
  cases h with
  | ok alike behind => exact .ok alike (hreach.trans behind)
  | error => exact .error

/-- Outcomes that agree are read on from. -/
theorem Outcome.bind {j : Nat} {c : Cursor} {x : Except Fault (α × Cursor)}
    {y : Except Fault (β × Cursor)} (h : Outcome s j f c x y)
    (hnext : ∀ a e e', e.Alike s e' → c.Reaches j e →
      Outcome s k g e (next a e) (next' (f a) e')) :
    Outcome s (j + k) g c (x >>= fun p => next p.1 p.2) (y >>= fun p => next' p.1 p.2) := by
  cases h with
  | error => exact .error
  | ok alike behind => exact (hnext _ _ _ alike behind).after behind

namespace Agree

theorem mono {m j : Nat} (h : Agree s n k f r r') (hm : m ≤ n) (hj : j ≤ k) :
    Agree s m j f r r' :=
  fun c c' hc hn => (h c c' hc (Nat.le_trans hn hm)).mono hj

theorem forget (h : Agree s n k f r r') : Agree s n 0 f r r' :=
  h.mono (Nat.le_refl n) (Nat.zero_le k)

theorem anywhere (h : Agree s n k f r r') (kind : Kind) : AgreeAt s n k f kind r r' :=
  fun c c' hc hn _ => h c c' hc hn

/-- What is read on takes the tokens. -/
theorem bind {j : Nat} (h : Agree s n j f r r')
    (hnext : ∀ a, Agree s n k g (next a) (next' (f a))) :
    Agree s n k g (r >>= next) (r' >>= next') := by
  intro c c' hc hn
  refine Outcome.mono ((h c c' hc hn).bind fun a e e' he hreach => hnext a e e' he ?_)
    (Nat.le_add_left k j)
  have := hreach.length_le hc he
  omega

/-- What is read first takes the tokens, and what is read on has no need to. -/
theorem bind_first (h : Agree s n k f r r')
    (hnext : ∀ a, Agree s n 0 g (next a) (next' (f a))) :
    Agree s n k g (r >>= next) (r' >>= next') := by
  intro c c' hc hn
  refine (h c c' hc hn).bind fun a e e' he hreach => hnext a e e' he ?_
  have := hreach.length_le hc he
  omega

/-- A token is taken, so that fewer are left to read on. -/
theorem bind_less (h : Agree s (n + 1) 1 f r r')
    (hnext : ∀ a, Agree s n 0 g (next a) (next' (f a))) :
    Agree s (n + 1) 1 g (r >>= next) (r' >>= next') := by
  intro c c' hc hn
  refine (h c c' hc hn).bind fun a e e' he hreach => hnext a e e' he ?_
  have := hreach.length_le hc he
  omega

theorem pure {a : α} {b : β} (h : f a = b) :
    Agree s n 0 f (Pure.pure a : Reading α) (Pure.pure b : Reading β) := by
  intro c c' hc _
  subst h
  exact .ok hc (.refl c)

theorem fault {x y : Fault} : Agree s n k f (throw x : Reading α) (throw y : Reading β) :=
  fun _ _ _ _ => .error

theorem refuse : Agree s n k f (Reading.refuse : Reading α) (Reading.refuse : Reading β) :=
  fun _ _ _ _ => .error

theorem refuseAt {p q : Nat} :
    Agree s n k f (Reading.refuseAt p : Reading α) (Reading.refuseAt q : Reading β) :=
  fun _ _ _ _ => .error

theorem refuse_bind : Agree s n k g (Reading.refuse >>= next) (Reading.refuse >>= next') :=
  fun _ _ _ _ => .error

theorem refuseAt_bind {p q : Nat} :
    Agree s n k g (Reading.refuseAt p >>= next) (Reading.refuseAt q >>= next') :=
  fun _ _ _ _ => .error

theorem map {h : α → γ} {h' : β → ε} (hr : Agree s n k f r r') (hg : ∀ a, g (h a) = h' (f a)) :
    Agree s n k g (h <$> r) (h' <$> r') := by
  rw [map_eq_pure_bind, map_eq_pure_bind]
  exact hr.bind_first fun a => pure (hg a)

/-- One of two readings that a test chooses from. -/
theorem ite {c c' : Prop} [Decidable c] [Decidable c'] {x y : Reading α} {x' y' : Reading β}
    (hc : c' ↔ c) (hx : Agree s n k f x x') (hy : Agree s n k f y y') :
    Agree s n k f (if c then x else y) (if c' then x' else y') := by
  by_cases h : c
  · rw [if_pos h, if_pos (hc.2 h)]
    exact hx
  · rw [if_neg h, if_neg fun h' => h (hc.1 h')]
    exact hy

/-- What is read between two parts of a reading, if a test asks for it. -/
theorem when_bind {c c' : Prop} [Decidable c] [Decidable c'] {x x' : Reading Unit}
    {next : Unit → Reading γ} {next' : Unit → Reading ε} (hc : c' ↔ c) (hx : Agree s n 0 id x x')
    (hnext : Agree s n k g (next ()) (next' ())) :
    Agree s n k g (if c then x >>= next else next ()) (if c' then x' >>= next' else next' ()) :=
  ite hc (hx.bind fun _ => hnext) hnext

/-- What is read between two parts of a reading, unless a test forbids it. -/
theorem unless_bind {c c' : Prop} [Decidable c] [Decidable c'] {x x' : Reading Unit}
    {next : Unit → Reading γ} {next' : Unit → Reading ε} (hc : c' ↔ c) (hx : Agree s n 0 id x x')
    (hnext : Agree s n k g (next ()) (next' ())) :
    Agree s n k g (if c then next () else x >>= next) (if c' then next' () else x' >>= next') :=
  ite hc hnext (hx.bind fun _ => hnext)

/-- What is read by one of two readings that a test chooses from. -/
theorem either_bind {c c' : Prop} [Decidable c] [Decidable c'] {x y : Reading α}
    {x' y' : Reading β} (hc : c' ↔ c) (hx : Agree s n 0 f x x') (hy : Agree s n 0 f y y')
    (hnext : ∀ a, Agree s n k g (next a) (next' (f a))) :
    Agree s n k g (if c then x >>= next else y >>= next)
      (if c' then x' >>= next' else y' >>= next') :=
  ite hc (hx.bind hnext) (hy.bind hnext)

theorem map_some (h : Agree s n k f r r') :
    Agree s n 0 (Option.map f) (some <$> r) (some <$> r') := by
  have hmap : Agree s n k (Option.map f) (some <$> r) (some <$> r') := h.map fun _ => rfl
  exact hmap.forget

/-- What may be left out. -/
theorem optional_bind {c c' : Prop} [Decidable c] [Decidable c'] {x : Reading α} {x' : Reading β}
    {next : Option α → Reading γ} {next' : Option β → Reading ε} (hc : c' ↔ c)
    (hx : Agree s n 0 f x x') (hnext : ∀ o, Agree s n k g (next o) (next' (o.map f))) :
    Agree s n k g (if c then some <$> x >>= next else Pure.pure none >>= next)
      (if c' then some <$> x' >>= next' else Pure.pure none >>= next') :=
  either_bind hc hx.map_some (pure rfl) hnext

/-! ## Looking at tokens -/

variable {onKind : Kind → Reading α} {onKind' : Kind → Reading β}

theorem peek_bindAt (h : ∀ kind, AgreeAt s n k f kind (onKind kind) (onKind' kind)) :
    Agree s n k f (peek >>= onKind) (peek >>= onKind') := by
  intro c c' hc hn
  change Outcome s k f c (onKind c.kind c) (onKind' c'.kind c')
  rw [hc.kind_eq]
  exact h c.kind c c' hc hn rfl

theorem peek_bind (h : ∀ kind, Agree s n k f (onKind kind) (onKind' kind)) :
    Agree s n k f (peek >>= onKind) (peek >>= onKind') :=
  peek_bindAt fun kind => (h kind).anywhere kind

theorem peek3_bindAt {onKinds : Kind × Kind × Kind → Reading α}
    {onKinds' : Kind × Kind × Kind → Reading β}
    (h : ∀ kind first second, AgreeAt s n k f kind (onKinds (kind, first, second))
      (onKinds' (kind, first, second))) :
    Agree s n k f (peek3 >>= onKinds) (peek3 >>= onKinds') := by
  intro c c' hc hn
  change Outcome s k f c (onKinds (c.kind, c.kindAt 1, c.kindAt 2) c)
    (onKinds' (c'.kind, c'.kindAt 1, c'.kindAt 2) c')
  rw [hc.kind_eq, hc.kindAt_eq, hc.kindAt_eq]
  exact h _ _ _ c c' hc hn rfl

theorem peek3_bind {onKinds : Kind × Kind × Kind → Reading α}
    {onKinds' : Kind × Kind × Kind → Reading β}
    (h : ∀ kind first second, Agree s n k f (onKinds (kind, first, second))
      (onKinds' (kind, first, second))) :
    Agree s n k f (peek3 >>= onKinds) (peek3 >>= onKinds') :=
  peek3_bindAt fun kind first second => (h kind first second).anywhere kind

theorem here_bind {onNumber : Nat → Reading α} {onNumber' : Nat → Reading β}
    (h : ∀ p, Agree s n k f (onNumber (p + s.tokens)) (onNumber' p)) :
    Agree s n k f (here >>= onNumber) (here >>= onNumber') := by
  intro c c' hc hn
  change Outcome s k f c (onNumber c.number c) (onNumber' c'.number c')
  rw [hc.number]
  exact h c'.number c c' hc hn

theorem rounds_bind {onRounds : Nat → Reading α} {onRounds' : Nat → Reading β}
    (h : ∀ fuel, Agree s n k f (onRounds fuel) (onRounds' fuel)) :
    Agree s n k f (rounds >>= onRounds) (rounds >>= onRounds') := by
  intro c c' hc hn
  change Outcome s k f c (onRounds (c.total - c.number + 2) c)
    (onRounds' (c'.total - c'.number + 2) c')
  rw [hc.rounds_eq]
  exact h _ c c' hc hn

theorem nextStop_bind {onMark : Nat → Reading α} {onMark' : Nat → Reading β}
    (h : ∀ m, Agree s n k f (onMark (m + s.characters)) (onMark' m)) :
    Agree s n k f (Rules.nextStop >>= onMark) (Rules.nextStop >>= onMark') := by
  intro c c' hc hn
  change Outcome s k f c (onMark ((c.rest.head?.map Token.stop).getD 0) c)
    (onMark' ((c'.rest.head?.map Token.stop).getD 0) c')
  obtain ⟨t, rest, hrest⟩ := List.exists_cons_of_ne_nil hc.closed.ne_nil
  obtain ⟨u, rest', ht, -, hrest'⟩ := List.forall₂_cons_left_iff.1 (hrest ▸ hc.rest)
  rw [hrest, hrest', List.head?_cons, List.head?_cons, Option.map_some, Option.map_some,
    Option.getD_some, Option.getD_some, ht.stop]
  exact h u.stop c c' hc hn

theorem get_bind {onCursor : Cursor → Reading α} {onCursor' : Cursor → Reading β}
    (h : ∀ c c', c.Alike s c' → Agree s n k f (onCursor c) (onCursor' c')) :
    Agree s n k f (get >>= onCursor) (get >>= onCursor') :=
  fun c c' hc hn => h c c' hc c c' hc hn

/-! ## Passing tokens -/

theorem bump : Agree s n 0 id Reading.bump Reading.bump := by
  intro c c' hc _
  exact .ok (a := ()) hc.bumped c.reaches_bumped

theorem bump_bind {next : Unit → Reading γ} {next' : Unit → Reading ε}
    (h : Agree s n k g (next ()) (next' ())) :
    Agree s n k g (Reading.bump >>= next) (Reading.bump >>= next') :=
  bump.bind fun _ => h

theorem eat_apply (kind : Kind) (c : Cursor) :
    (Reading.eat kind) c = if c.kind = kind then .ok (true, c.bumped) else .ok (false, c) := by
  change (if decide (c.kind = kind) = true then (do Reading.bump; return true) else return false :
    Reading Bool) c = _
  by_cases h : c.kind = kind
  · rw [if_pos (decide_eq_true h), if_pos h]
    rfl
  · rw [if_neg (by simpa using h), if_neg h]
    rfl

theorem eat (kind : Kind) : Agree s n 0 id (Reading.eat kind) (Reading.eat kind) := by
  intro c c' hc _
  rw [eat_apply, eat_apply, hc.kind_eq]
  split
  · exact .ok (a := true) hc.bumped c.reaches_bumped
  · exact .ok (a := false) hc (.refl c)

/-- Whether the next token is of a given kind, which is passed in that case. -/
theorem eat_bind {kind : Kind} {onEaten : Bool → Reading γ} {onEaten' : Bool → Reading ε}
    (htrue : Agree s n k g (onEaten true) (onEaten' true))
    (hfalse : Agree s n k g (onEaten false) (onEaten' false)) :
    Agree s n k g (Reading.eat kind >>= onEaten) (Reading.eat kind >>= onEaten') := by
  intro c c' hc hn
  rw [bind_apply, bind_apply, eat_apply, eat_apply, hc.kind_eq]
  split
  · have hreach := c.reaches_bumped
    have hlength := hreach.length_le hc hc.bumped
    refine Outcome.mono ?_ (Nat.le_add_left k 0)
    exact (htrue c.bumped c'.bumped hc.bumped (by omega)).after hreach
  · exact hfalse c c' hc hn

/-- The same where it makes no difference whether the token is there. -/
theorem eat_bind_any {kind : Kind} {onEaten : Bool → Reading γ} {onEaten' : Bool → Reading ε}
    (h : ∀ b, Agree s n k g (onEaten b) (onEaten' b)) :
    Agree s n k g (Reading.eat kind >>= onEaten) (Reading.eat kind >>= onEaten') :=
  eat_bind (h true) (h false)

theorem expect (kind : Kind) : Agree s n 0 id (Reading.expect kind) (Reading.expect kind) :=
  eat_bind (pure rfl) refuse

theorem expect_takes {kind : Kind} (hline : kind ≠ .newline) (hfile : kind ≠ .endOfFile) :
    Agree s n 1 id (Reading.expect kind) (Reading.expect kind) := by
  intro c c' hc hn
  have hexpect : ∀ c : Cursor, Reading.expect kind c =
      (Reading.eat kind >>= fun b => if b = true then Pure.pure () else Reading.refuse) c := fun _ => rfl
  rw [hexpect, hexpect, bind_apply, bind_apply, eat_apply, eat_apply, hc.kind_eq]
  split
  · rename_i hkind
    exact .ok (a := ()) hc.bumped (hc.reaches_bumped (hkind ▸ hline) (hkind ▸ hfile))
  · exact .error

theorem expectSymbol (mark : Symbol) :
    Agree s n 1 id (Reading.expectSymbol mark) (Reading.expectSymbol mark) :=
  expect_takes (by simp) (by simp)

theorem expectKeyword (word : Keyword) :
    Agree s n 1 id (Reading.expectKeyword word) (Reading.expectKeyword word) :=
  expect_takes (by simp) (by simp)

theorem at?_bind {kind : Kind} {onFound : Bool → Reading γ} {onFound' : Bool → Reading ε}
    (h : ∀ b, Agree s n k g (onFound b) (onFound' b)) :
    Agree s n k g (at? kind >>= onFound) (at? kind >>= onFound') := by
  intro c c' hc hn
  change Outcome s k g c (onFound (decide (c.kind = kind)) c) (onFound' (decide (c'.kind = kind)) c')
  rw [hc.kind_eq]
  exact h _ c c' hc hn

theorem atExpr_bind {onFound : Bool → Reading γ} {onFound' : Bool → Reading ε}
    (h : ∀ b, Agree s n k g (onFound b) (onFound' b)) :
    Agree s n k g (atExpr >>= onFound) (atExpr >>= onFound') := by
  intro c c' hc hn
  change Outcome s k g c (onFound c.kind.startsExpr c) (onFound' c'.kind.startsExpr c')
  rw [hc.kind_eq]
  exact h _ c c' hc hn

/-- Where a reading faults, its partner does, and where it does not, both go on. -/
theorem attempt (h : Agree s n k f r r') :
    Agree s n 0 (Option.map f) (Reading.attempt r) (Reading.attempt r') := by
  intro c c' hc hn
  have hinner := h c c' hc hn
  unfold Reading.attempt
  generalize r c = x at hinner ⊢
  generalize r' c' = y at hinner ⊢
  cases hinner with
  | error => exact .ok (a := none) hc (.refl c)
  | ok alike behind => exact .ok (a := some _) alike (behind.mono (Nat.zero_le k))

theorem word : Agree s n 1 id Reading.word Reading.word := by
  refine peek_bindAt fun kind c c' hc hn hkind => ?_
  cases hword : kind.word? with
  | none => exact .error
  | some w =>
    have hline : c.kind ≠ .newline := by
      rintro h
      rw [← hkind, h] at hword
      cases hword
    have hfile : c.kind ≠ .endOfFile := by
      rintro h
      rw [← hkind, h] at hword
      cases hword
    exact .ok (a := w) hc.bumped (hc.reaches_bumped hline hfile)

theorem identifier : Agree s n 1 id Reading.identifier Reading.identifier :=
  word.bind_first fun _ => pure rfl

end Agree

namespace AgreeAt

theorem bind {j : Nat} {kind : Kind} (h : AgreeAt s n j f kind r r')
    (hnext : ∀ a, Agree s n k g (next a) (next' (f a))) :
    AgreeAt s n k g kind (r >>= next) (r' >>= next') := by
  intro c c' hc hn hkind
  refine Outcome.mono ((h c c' hc hn hkind).bind fun a e e' he hreach => hnext a e e' he ?_)
    (Nat.le_add_left k j)
  have := hreach.length_le hc he
  omega

theorem bind_first {kind : Kind} (h : AgreeAt s n k f kind r r')
    (hnext : ∀ a, Agree s n 0 g (next a) (next' (f a))) :
    AgreeAt s n k g kind (r >>= next) (r' >>= next') := by
  intro c c' hc hn hkind
  refine (h c c' hc hn hkind).bind fun a e e' he hreach => hnext a e e' he ?_
  have := hreach.length_le hc he
  omega

theorem bind_less {kind : Kind} (h : AgreeAt s (n + 1) 1 f kind r r')
    (hnext : ∀ a, Agree s n 0 g (next a) (next' (f a))) :
    AgreeAt s (n + 1) 1 g kind (r >>= next) (r' >>= next') := by
  intro c c' hc hn hkind
  refine (h c c' hc hn hkind).bind fun a e e' he hreach => hnext a e e' he ?_
  have := hreach.length_le hc he
  omega

theorem here_bind {kind : Kind} {onNumber : Nat → Reading α} {onNumber' : Nat → Reading β}
    (h : ∀ p, AgreeAt s n k f kind (onNumber (p + s.tokens)) (onNumber' p)) :
    AgreeAt s n k f kind (here >>= onNumber) (here >>= onNumber') := by
  intro c c' hc hn hkind
  change Outcome s k f c (onNumber c.number c) (onNumber' c'.number c')
  rw [hc.number]
  exact h c'.number c c' hc hn hkind

theorem at?_bind {kind wanted : Kind} {onFound : Bool → Reading γ} {onFound' : Bool → Reading ε}
    (h : ∀ b, AgreeAt s n k g kind (onFound b) (onFound' b)) :
    AgreeAt s n k g kind (at? wanted >>= onFound) (at? wanted >>= onFound') := by
  intro c c' hc hn hkind
  change Outcome s k g c (onFound (decide (c.kind = wanted)) c)
    (onFound' (decide (c'.kind = wanted)) c')
  rw [hc.kind_eq]
  exact h _ c c' hc hn hkind

/-- A token that is neither the end of a line nor that of the file is passed. -/
theorem bump_first {kind : Kind} {next : Unit → Reading γ} {next' : Unit → Reading ε}
    (h : Agree s n 0 g (next ()) (next' ())) (hline : kind ≠ .newline)
    (hfile : kind ≠ .endOfFile) :
    AgreeAt s n 1 g kind (bump >>= next) (bump >>= next') := by
  intro c c' hc hn hkind
  have hreach := hc.reaches_bumped (hkind ▸ hline) (hkind ▸ hfile)
  have hlength := hreach.length_le hc hc.bumped
  exact (h c.bumped c'.bumped hc.bumped (by omega)).after hreach

/-- Such a token leaves fewer tokens. -/
theorem bump_bind {kind : Kind} {next : Unit → Reading γ} {next' : Unit → Reading ε}
    (h : Agree s n 0 g (next ()) (next' ())) (hline : kind ≠ .newline)
    (hfile : kind ≠ .endOfFile) :
    AgreeAt s (n + 1) 1 g kind (bump >>= next) (bump >>= next') := by
  intro c c' hc hn hkind
  have hreach := hc.reaches_bumped (hkind ▸ hline) (hkind ▸ hfile)
  have hlength := hreach.length_le hc hc.bumped
  exact (h c.bumped c'.bumped hc.bumped (by omega)).after hreach

end AgreeAt

namespace Agree

/-! ## Going back -/

/-- A reading that may find nothing, after which the next one starts where it started. -/
theorem retry {found : Reading (Option α)} {found' : Reading (Option β)}
    {then_ : Option α → Reading γ} {then_' : Option β → Reading ε} {c c' : Cursor}
    (h : Agree s n k (Option.map f) found found')
    (hsome : ∀ a, Agree s n 0 g (then_ (some a)) (then_' (some (f a))))
    (hnone : ∀ e e', Outcome s k g c (then_ none e) (then_' none e')) (hc : c.Alike s c')
    (hn : c.rest.length ≤ n) : Outcome s k g c ((found >>= then_) c) ((found' >>= then_') c') := by
  have hfound := h c c' hc hn
  rw [bind_apply, bind_apply]
  generalize found c = x at hfound ⊢
  generalize found' c' = y at hfound ⊢
  cases hfound with
  | error => exact .error
  | ok alike behind =>
    rename_i o e e'
    cases o with
    | none => exact hnone e e'
    | some a =>
      have hlength := behind.length_le hc alike
      exact (hsome a e e' alike (by omega)).after behind

end Agree

/-- Two readings that find nothing and stay, or agree, where the next token is of a given kind. -/
def OrStay (s : Shift) (n k : Nat) (f : α → β) (kind : Kind) (r : Reading (Option α))
    (r' : Reading (Option β)) : Prop :=
  ∀ c c', c.Alike s c' → c.rest.length ≤ n → c.kind = kind →
    r c = .ok (none, c) ∧ r' c' = .ok (none, c') ∨ Outcome s k (Option.map f) c (r c) (r' c')

namespace OrStay

theorem stay {kind : Kind} :
    OrStay s n k f kind (pure none : Reading (Option α)) (pure none : Reading (Option β)) :=
  fun _ _ _ _ _ => .inl ⟨rfl, rfl⟩

theorem ofAgreeAt {kind : Kind} {o : Reading (Option α)} {o' : Reading (Option β)}
    (h : AgreeAt s n k (Option.map f) kind o o') : OrStay s n k f kind o o' :=
  fun c c' hc hn hkind => .inr (h c c' hc hn hkind)

theorem peek_bind {onKind : Kind → Reading (Option α)} {onKind' : Kind → Reading (Option β)}
    (h : ∀ kind, OrStay s n k f kind (onKind kind) (onKind' kind)) (kind : Kind) :
    OrStay s n k f kind (peek >>= onKind) (peek >>= onKind') := by
  intro c c' hc hn _
  change onKind c.kind c = _ ∧ onKind' c'.kind c' = _ ∨
    Outcome s k (Option.map f) c (onKind c.kind c) (onKind' c'.kind c')
  rw [hc.kind_eq]
  exact h c.kind c c' hc hn rfl

theorem bind {o : Reading (Option α)} {o' : Reading (Option β)} {next : Option α → Reading γ}
    {next' : Option β → Reading ε} (h : ∀ kind, OrStay s n k f kind o o')
    (hnone : Agree s n k g (next none) (next' none))
    (hnext : ∀ o, Agree s n 0 g (next o) (next' (o.map f))) :
    Agree s n k g (o >>= next) (o' >>= next') := by
  intro c c' hc hn
  rw [bind_apply, bind_apply]
  obtain ⟨hstay, hstay'⟩ | hfound := h c.kind c c' hc hn rfl
  · rw [hstay, hstay']
    exact hnone c c' hc hn
  · refine hfound.bind fun a e e' he hreach => hnext a e e' he ?_
    have := hreach.length_le hc he
    omega

end OrStay

namespace Agree

/-! ## Lists -/

theorem belongsOutside_bind {onFound : Bool → Reading γ} {onFound' : Bool → Reading ε}
    (h : ∀ b, Agree s n k g (onFound b) (onFound' b)) :
    Agree s n k g (belongsOutside >>= onFound) (belongsOutside >>= onFound') := by
  intro c c' hc hn
  have hlists : ∀ (c : Cursor) {δ : Type} (next : Bool → Reading δ),
      (belongsOutside >>= next) c = next (c.lists.any fun list =>
        list.startsItem c.kind || list.ends c.kind || list.cutsOff c.kind) c := fun _ _ _ => rfl
  rw [hlists, hlists, hc.kind_eq, hc.lists]
  exact h _ c c' hc hn

theorem cutOff : Agree s n 0 id Reading.cutOff Reading.cutOff := by
  have happly : ∀ (c : Cursor) (t : Token) (rest : List Token), c.rest = t :: rest →
      Reading.cutOff c = .ok ((), { c with
        cutOff := t.lineEnd.isSome && t.nesting = 1 && !t.kind.staysOpen }) := by
    rintro ⟨_, _, _, _, _⟩ t rest rfl
    rfl
  intro c c' hc _
  obtain ⟨t, rest, hrest⟩ := List.exists_cons_of_ne_nil hc.closed.ne_nil
  obtain ⟨u, rest', ht, -, hrest'⟩ := List.forall₂_cons_left_iff.1 (hrest ▸ hc.rest)
  rw [happly c t rest hrest, happly c' u rest' hrest', ht.lineEnd, ht.nesting, ht.kind]
  exact .ok (a := ()) (hc.withCutOff _) ⟨Nat.le_refl _, by simp, rfl, rfl⟩

/-- Reading with one more list around. -/
theorem within (list : ListKind) (h : Agree s n k f r r') :
    Agree s n k f (Reading.within list r) (Reading.within list r') := by
  intro c c' hc hn
  have hlists : ∀ (c : Cursor) {δ : Type} (r : Reading δ), Reading.within list r c =
      r { c with lists := list :: c.lists } >>= fun p => .ok (p.1, { p.2 with lists := c.lists }) :=
    fun _ _ _ => rfl
  have hinner := h _ _ (hc.withLists (list :: c.lists)) hn
  rw [hlists, hlists, hc.lists]
  generalize r { c with lists := list :: c.lists } = x at hinner ⊢
  generalize r' { c' with lists := list :: c.lists } = y at hinner ⊢
  cases hinner with
  | error => exact .error
  | ok alike behind =>
    exact .ok (alike.withLists c.lists) ⟨behind.number, behind.rest, behind.total, rfl⟩

/-- The value of a list with the comma behind its last item. -/
def lowerTrailing (s : Shift) (f : α → β) (p : α × Option Nat) : β × Option Nat :=
  (f p.1, p.2.map (· - s.tokens))

theorem sequenceLoop {list : ListKind} {item : α → Reading α} {item' : β → Reading β}
    (h : ∀ a, Agree s n 0 f (item a) (item' (f a))) (fuel : Nat) (a : α) (trailing : Option Nat) :
    Agree s n 0 (lowerTrailing s f) (Reading.sequenceLoop list item fuel a trailing)
      (Reading.sequenceLoop list item' fuel (f a) (trailing.map (· - s.tokens))) := by
  induction fuel generalizing a trailing with
  | zero => exact fault
  | succ fuel ih =>
    unfold Reading.sequenceLoop
    refine peek_bind fun kind => ?_
    split
    · refine (h a).bind fun a => here_bind fun p => eat_bind ?_ ?_
      · simpa using ih a (some (p + s.tokens))
      · refine peek_bind fun kind => ?_
        split
        · exact pure rfl
        · split
          · exact refuse
          · refine belongsOutside_bind fun b => ?_
            cases b with
            | false => exact refuse
            | true => exact cutOff.bind fun _ => pure rfl
    · refine peek_bind fun kind => ?_
      split
      · exact pure rfl
      · refine belongsOutside_bind fun b => ?_
        cases b with
        | false => exact refuse
        | true => exact cutOff.bind fun _ => pure rfl

theorem sequence {list : ListKind} {item : α → Reading α} {item' : β → Reading β}
    (h : ∀ a, Agree s n 0 f (item a) (item' (f a))) {a : α} {b : β} (hab : f a = b) :
    Agree s n 0 (Prod.map f id) (Reading.sequence list item a) (Reading.sequence list item' b) := by
  subst hab
  refine (within list (rounds_bind fun fuel => sequenceLoop h fuel a none)).bind fun p => ?_
  obtain ⟨b, trailing⟩ := p
  cases trailing with
  | none => exact pure rfl
  | some comma =>
    change Agree s n 0 _ (if _ then _ else _) (if _ then _ else _)
    split
    · exact pure rfl
    · exact refuseAt

theorem listOf {list : ListKind} (h : Agree s n k f r r') :
    Agree s n 0 (List.map f) (Reading.listOf list r) (Reading.listOf list r') := by
  have hitem : ∀ done : List α, Agree s n 0 (List.map f) (do return (← r) :: done)
      (do return (← r') :: done.map f) := by
    intro done
    refine h.bind fun a => ?_
    exact pure rfl
  have hitems : Agree s n 0 (Prod.map (List.map f) id)
      (Reading.sequence list (fun done => do return (← r) :: done) [])
      (Reading.sequence list (fun done => do return (← r') :: done) []) :=
    sequence hitem rfl
  refine hitems.bind fun p => ?_
  exact pure List.map_reverse

theorem seriesLoop {list : ListKind} (h : Agree s n k f r r') (fuel : Nat) (done : List α) :
    Agree s n 0 (List.map f) (Reading.seriesLoop list r fuel done)
      (Reading.seriesLoop list r' fuel (done.map f)) := by
  induction fuel generalizing done with
  | zero => exact fault
  | succ fuel ih =>
    unfold Reading.seriesLoop
    refine peek_bind fun kind => ?_
    split
    · exact h.bind fun a => ih (a :: done)
    · split
      · exact pure List.map_reverse
      · refine belongsOutside_bind fun b => ?_
        cases b with
        | false => exact refuse
        | true => exact cutOff.bind fun _ => pure List.map_reverse

theorem series {list : ListKind} (h : Agree s n k f r r') :
    Agree s n 0 (List.map f) (Reading.series list r) (Reading.series list r') :=
  within list (rounds_bind fun fuel => seriesLoop h fuel [])

section WhileAt

variable {test : Kind → Bool} (h : ∀ kind, test kind = true → AgreeAt s n k f kind r r')
include h

theorem whileAtLoop (fuel : Nat) (done : List α) :
    Agree s n 0 (List.map f) (Reading.whileAtLoop test r fuel done)
      (Reading.whileAtLoop test r' fuel (done.map f)) := by
  induction fuel generalizing done with
  | zero => exact fault
  | succ fuel ih =>
    unfold Reading.whileAtLoop
    refine peek_bindAt fun kind => ?_
    split
    · rename_i htest
      exact ((h kind htest).bind fun a => ih (a :: done))
    · exact (pure List.map_reverse).anywhere kind

theorem whileAt_at : Agree s n 0 (List.map f) (Reading.whileAt test r) (Reading.whileAt test r') :=
  rounds_bind fun fuel => whileAtLoop h fuel []

/-- Where the next token passes the test, the first item takes what items take. -/
theorem whileAt_takes {kind : Kind} (htest : test kind = true) :
    AgreeAt s n k (List.map f) kind (Reading.whileAt test r) (Reading.whileAt test r') := by
  intro c c' hc hn hkind
  have hfirst : ∀ (c : Cursor) {δ : Type} (r : Reading δ), c.kind = kind →
      Reading.whileAt test r c = (r >>= fun a =>
        Reading.whileAtLoop test r (c.total - c.number + 1) [a]) c := by
    intro c δ r hkind
    change Reading.whileAtLoop test r (c.total - c.number + 1 + 1) [] c = _
    rw [Reading.whileAtLoop]
    change (if test c.kind = true then _ else _ : Reading _) c = _
    rw [if_pos (hkind ▸ htest)]
  rw [hfirst c r hkind, hfirst c' r' (hc.kind_eq.trans hkind), hc.rounds_eq]
  exact (h kind htest).bind_first (fun a => whileAtLoop h _ [a]) c c' hc hn hkind

end WhileAt

theorem whileAt {test : Kind → Bool} (h : Agree s n k f r r') :
    Agree s n 0 (List.map f) (Reading.whileAt test r) (Reading.whileAt test r') :=
  whileAt_at fun kind _ => h.anywhere kind

end Agree

end Reading

end ScriptBundle.Python
