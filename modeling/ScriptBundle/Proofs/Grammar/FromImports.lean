import ScriptBundle.Proofs.Grammar.Imports
import ScriptBundle.Proofs.Grammar.Taken
import ScriptBundle.Proofs.Token.Calm

namespace ScriptBundle.Python

open Reading

def Kind.isPart : Kind → Bool
  | .name _ | .keyword _ => true
  | .symbol mark => match mark with
    | .dot | .ellipsis | .comma | .star => true
    | _ => false
  | _ => false

namespace Kind

variable {kind : Kind}

theorem isCalm_of_isPart (h : kind.isPart = true) : kind.isCalm = true ∧ kind ≠ .newline := by
  cases kind with
  | symbol mark => cases mark <;> simp [isPart, isCalm] at h ⊢
  | _ => simp [isPart, isCalm] at h ⊢

theorem brackets_of_isPart (h : kind.isPart = true) (n : Nat) : kind.brackets n = n := by
  cases kind with
  | symbol mark => cases mark <;> simp [isPart, brackets] at h ⊢
  | _ => simp [isPart, brackets] at h ⊢

end Kind

/-- Tokens inside a line that close the brackets that they open. -/
def Inner : List Token → Prop := Balanced fun kind => kind.isCalm = true ∧ kind ≠ .newline

theorem inner_of_isPart {l : List Token} (h : ∀ t ∈ l, t.kind.isPart = true) : Inner l :=
  .of_neutral (fun t ht => Kind.isCalm_of_isPart (h t ht)) fun t ht =>
    Kind.brackets_of_isPart (h t ht)

namespace Cursor

/-- A bracket is taken to be cut off only where a line ended in brackets. -/
def CutsAtLineEnd (c : Cursor) : Prop :=
  c.cutOff = true → ∃ t ∈ c.rest.head?, t.lineEnd.isSome = true

theorem cutsAtLineEnd_of_false {c : Cursor} (h : c.cutOff = false) : c.CutsAtLineEnd := by
  intro hcut
  rw [h] at hcut
  cases hcut

/-- Between two cursors, names and marks were passed. -/
structure PassedTo (tokens : List Token) (c e : Cursor) : Prop where
  on : e.On tokens
  cuts : e.CutsAtLineEnd
  parts : ∃ l, c.rest = l ++ e.rest ∧ e.number = c.number + l.length ∧ ∀ t ∈ l, t.kind.isPart = true

namespace PassedTo

variable {tokens : List Token} {c d e : Cursor}

theorem refl (hc : c.On tokens) (hcuts : c.CutsAtLineEnd) : c.PassedTo tokens c :=
  ⟨hc, hcuts, [], rfl, rfl, by simp⟩

theorem trans (h : c.PassedTo tokens d) (h' : d.PassedTo tokens e) : c.PassedTo tokens e := by
  obtain ⟨l, hrest, hnumber, hl⟩ := h.parts
  obtain ⟨m, hrest', hnumber', hm⟩ := h'.parts
  refine ⟨h'.on, h'.cuts, l ++ m, ?_, ?_, ?_⟩
  · rw [hrest, hrest', List.append_assoc]
  · rw [hnumber', hnumber, List.length_append, Nat.add_assoc]
  · intro t ht
    obtain ht | ht := List.mem_append.1 ht
    · exact hl t ht
    · exact hm t ht

theorem bumped (hclosed : Closed tokens) (hc : c.On tokens) (hpart : c.kind.isPart = true) :
    c.PassedTo tokens c.bumped := by
  have hline : c.kind ≠ .newline := by
    intro h
    rw [h] at hpart
    cases hpart
  have hfile : c.kind ≠ .endOfFile := by
    intro h
    rw [h] at hpart
    cases hpart
  obtain ⟨t, ht, htook, hon⟩ := hc.took hclosed (hc.kind_eq hline).2 hfile
  refine ⟨hon, cutsAtLineEnd_of_false htook.sees', [t], htook.rest, htook.number, ?_⟩
  intro u hu
  rw [List.mem_singleton.1 hu, ht]
  exact hpart

end PassedTo

end Cursor

namespace Reading

/-- **A reading passes names and marks** alone. -/
def Passes {α : Type} (tokens : List Token) (r : Reading α) : Prop :=
  ∀ c, c.On tokens → c.CutsAtLineEnd → Gives r c fun _ e => c.PassedTo tokens e

namespace Passes

variable {α β : Type} {tokens : List Token} {r : Reading α} {next : α → Reading β}

theorem bind (h : Passes tokens r) (hnext : ∀ a, Passes tokens (next a)) :
    Passes tokens (r >>= next) := by
  intro c hc hcuts
  refine (h c hc hcuts).bind fun a d hd => ?_
  exact (hnext a d hd.on hd.cuts).mono fun _ _ he => hd.trans he

theorem pure {a : α} : Passes tokens (Pure.pure a : Reading α) :=
  fun _ hc hcuts => .pure (.refl hc hcuts)

theorem fault {x : Fault} : Passes tokens (throw x : Reading α) := fun _ _ _ => .fault

theorem refuse : Passes tokens (Reading.refuse : Reading α) := fun _ _ _ => .refuse

theorem refuseAt {p : Nat} : Passes tokens (Reading.refuseAt p : Reading α) :=
  fun _ _ _ => .refuseAt

theorem ite {p : Prop} [Decidable p] {x y : Reading α} (hx : Passes tokens x)
    (hy : Passes tokens y) : Passes tokens (if p then x else y) :=
  fun c hc hcuts => .ite (fun _ => hx c hc hcuts) fun _ => hy c hc hcuts

theorem map {f : α → β} (h : Passes tokens r) : Passes tokens (f <$> r) :=
  fun c hc hcuts => .map (h c hc hcuts)

theorem peek_bind {onKind : Kind → Reading β} (h : ∀ kind, Passes tokens (onKind kind)) :
    Passes tokens (peek >>= onKind) :=
  fun c hc hcuts => .peek_bind (h c.kind c hc hcuts)

theorem here_bind {onNumber : Nat → Reading β} (h : ∀ p, Passes tokens (onNumber p)) :
    Passes tokens (here >>= onNumber) :=
  fun c hc hcuts => .here_bind (h c.number c hc hcuts)

theorem rounds_bind {onRounds : Nat → Reading β} (h : ∀ fuel, Passes tokens (onRounds fuel)) :
    Passes tokens (rounds >>= onRounds) :=
  fun c hc hcuts => .rounds_bind (h _ c hc hcuts)

theorem belongsOutside_bind {onFound : Bool → Reading β} (h : ∀ b, Passes tokens (onFound b)) :
    Passes tokens (belongsOutside >>= onFound) :=
  fun c hc hcuts => .belongsOutside_bind fun b => h b c hc hcuts

section Closed

variable (hclosed : Closed tokens)
include hclosed

theorem eat_bind {kind : Kind} {onEaten : Bool → Reading β} (hpart : kind.isPart = true)
    (h : ∀ b, Passes tokens (onEaten b)) : Passes tokens (eat kind >>= onEaten) := by
  intro c hc hcuts
  refine .eat_bind (fun hkind => ?_) fun _ => h false c hc hcuts
  have hbumped := Cursor.PassedTo.bumped hclosed hc (hkind ▸ hpart)
  exact (h true _ hbumped.on hbumped.cuts).mono fun _ _ he => hbumped.trans he

theorem expect {kind : Kind} (hpart : kind.isPart = true) :
    Passes tokens (Reading.expect kind) :=
  eat_bind hclosed hpart fun b => by cases b; exacts [refuse, pure]

theorem word : Passes tokens Reading.word := by
  intro c hc hcuts
  refine .peek_bind ?_
  split
  · rename_i w hword
    have hpart : c.kind.isPart = true := by
      cases hkind : c.kind <;> simp [hkind, Kind.word?] at hword <;> rfl
    exact .bump_bind (.pure (.bumped hclosed hc hpart))
  · exact .refuse

end Closed

/-! ## Lists -/

/-- Where a bracket is cut off, a line ended in it. -/
theorem cutOff : Passes tokens Reading.cutOff := by
  intro c hc hcuts _ e he
  obtain ⟨rest, number, total, lists, cut⟩ := c
  cases rest with
  | nil =>
    cases he
    exact .refl hc hcuts
  | cons t rest =>
    cases he
    refine ⟨hc.withCutOff _, ?_, [], rfl, rfl, by simp⟩
    intro hcut
    simp only [Bool.and_eq_true] at hcut
    exact ⟨t, rfl, hcut.1.1⟩

theorem within {list : ListKind} (h : Passes tokens r) : Passes tokens (Reading.within list r) := by
  intro c hc hcuts
  refine .within ((h { c with lists := list :: c.lists } (hc.withLists _) hcuts).mono ?_)
  intro a e he
  exact ⟨he.on.withLists _, he.cuts, he.parts⟩

theorem sequenceLoop (hclosed : Closed tokens) {list : ListKind} {item : α → Reading α}
    (h : ∀ a, Passes tokens (item a)) (fuel : Nat) (a : α) (trailing : Option Nat) :
    Passes tokens (Reading.sequenceLoop list item fuel a trailing) := by
  induction fuel generalizing a trailing with
  | zero => exact fault
  | succ fuel ih =>
    have houtside : ∀ {β : Type} (b : β), Passes tokens (do
        if ← belongsOutside then
          Reading.cutOff
          return b
        else Reading.refuse) :=
      fun b => belongsOutside_bind fun _ => ite (cutOff.bind fun _ => pure) refuse
    unfold Reading.sequenceLoop
    refine peek_bind fun kind => ite ?_ (peek_bind fun kind => ite pure (houtside _))
    refine (h a).bind fun a => here_bind fun comma => eat_bind hclosed rfl fun b => ite (ih _ _) ?_
    exact peek_bind fun kind => ite pure (ite refuse (houtside _))

theorem listOf (hclosed : Closed tokens) {list : ListKind} (h : Passes tokens r) :
    Passes tokens (Reading.listOf list r) := by
  have hitem : ∀ done : List α, Passes tokens (do return (← r) :: done) :=
    fun done => h.bind fun a => pure
  refine bind ?_ fun p => pure
  refine (within (rounds_bind fun fuel => sequenceLoop hclosed hitem fuel [] none)).bind ?_
  rintro ⟨l, trailing⟩
  cases trailing with
  | none => exact pure
  | some comma => exact ite pure refuseAt

theorem whileAt {test : Kind → Bool} (h : ∀ c, c.On tokens → c.CutsAtLineEnd →
    test c.kind = true → Gives r c fun _ e => c.PassedTo tokens e) :
    Passes tokens (Reading.whileAt test r) := by
  have hloop : ∀ (fuel : Nat) (done : List α),
      Passes tokens (Reading.whileAtLoop test r fuel done) := by
    intro fuel
    induction fuel with
    | zero => exact fun done => fault
    | succ fuel ih =>
      intro done c hc hcuts
      refine .peek_bind (.ite (fun htest => ?_) fun _ => .pure (.refl hc hcuts))
      refine (h c hc hcuts htest).bind fun a d hd => ?_
      exact (ih (a :: done) d hd.on hd.cuts).mono fun _ _ he => hd.trans he
  exact rounds_bind fun fuel => hloop fuel []

end Passes

end Reading

namespace Rules

variable {tokens : List Token} (hclosed : Closed tokens)
include hclosed

theorem passes_leadingPoints (fuel level : Nat) : Passes tokens (leadingPoints fuel level) := by
  induction fuel generalizing level with
  | zero => exact .fault
  | succ fuel ih =>
    refine .eat_bind hclosed rfl fun b => .ite (ih _) (.eat_bind hclosed rfl fun b => ?_)
    exact .ite (ih _) .pure

theorem passes_dottedName : Passes tokens dottedName := by
  have hothers : Passes tokens (whileAt (· = .symbol .dot) do
      bump
      word) := by
    refine .whileAt fun c hc _ hdot => ?_
    have hbumped := Cursor.PassedTo.bumped hclosed hc (by rw [of_decide_eq_true hdot]; rfl)
    refine .bump_bind ((Passes.word hclosed _ hbumped.on hbumped.cuts).mono fun _ _ he => ?_)
    exact hbumped.trans he
  exact (Passes.word hclosed).bind fun first => hothers.bind fun others => .pure

theorem passes_memberAlias : Passes tokens memberAlias := by
  have hbinding : Passes tokens aliasBinding :=
    .eat_bind hclosed rfl fun b => .ite (.map ((Passes.word hclosed).bind fun _ => .pure)) .pure
  refine .eat_bind hclosed rfl fun b => .ite .pure ?_
  exact (Passes.word hclosed).bind fun name => hbinding.bind fun binding => .pure

/-- The tokens of a from-import behind its word are names and marks, the last of them in parentheses
or not. -/
theorem gives_fromRest_parts {c : Cursor} (hc : c.On tokens) (hcuts : c.CutsAtLineEnd) :
    Gives fromRest c fun _ e => ∃ d : Cursor, c.PassedTo tokens d ∧ (e = d ∨
      ∃ f : Cursor, d.kind = .symbol .lpar ∧ d.bumped.PassedTo tokens f ∧
        f.kind = .symbol .rpar ∧ e = f.bumped) := by
  unfold fromRest
  refine .rounds_bind ((passes_leadingPoints hclosed _ 0 c hc hcuts).bind fun level d hd => ?_)
  refine .peek_bind ?_
  extract_lets -underBinder rest
  have hnames : ∀ parens, Passes tokens (listOf (.importFromNames parens) memberAlias) :=
    fun parens => .listOf hclosed (passes_memberAlias hclosed)
  have hrest : ∀ module, ∀ f : Cursor, c.PassedTo tokens f → Gives (rest module) f fun _ e =>
      ∃ d : Cursor, c.PassedTo tokens d ∧ (e = d ∨
        ∃ f : Cursor, d.kind = .symbol .lpar ∧ d.bumped.PassedTo tokens f ∧
          f.kind = .symbol .rpar ∧ e = f.bumped) := by
    intro module f hf
    have himport : Passes tokens (Reading.expect (.keyword .«import»)) := .expect hclosed rfl
    refine (himport f hf.on hf.cuts).bind
      fun _ g hg => .here_bind (.eat_bind (fun hopen => ?_) fun _ => ?_)
    · have hbumped : g.bumped.On tokens ∧ g.bumped.CutsAtLineEnd := by
        obtain ⟨hon, -, hsees⟩ := hg.on.bumped hclosed (by simp [hopen]) (by simp [hopen])
        exact ⟨hon, Cursor.cutsAtLineEnd_of_false hsees⟩
      refine (hnames true _ hbumped.1 hbumped.2).bind fun names k hk => ?_
      refine .ite (fun _ => .refuse_bind) fun _ => .ite (fun _ => .refuseAt_bind) fun _ => ?_
      rw [if_pos rfl]
      exact .expect_bind fun hclose => .pure ⟨g, hf.trans hg, .inr ⟨k, hopen, hk, hclose, rfl⟩⟩
    · refine (hnames false g hg.on hg.cuts).bind fun names k hk => ?_
      refine .ite (fun _ => .refuse_bind) fun _ => .ite (fun _ => .refuseAt_bind) fun _ => ?_
      exact .pure ⟨k, (hf.trans hg).trans hk, .inl rfl⟩
  have hmodule : Gives (some <$> dottedName) d fun _ f => d.PassedTo tokens f :=
    .map (passes_dottedName hclosed d hd.on hd.cuts)
  refine .ite (fun _ => ?_) fun _ => .ite (fun _ => .refuse_bind) fun _ => hrest none d hd
  exact hmodule.bind fun module f hf => hrest module f (hd.trans hf)

/-- **The tokens of a from-import** behind its word stay in their line and close the brackets that
they open. -/
theorem gives_fromRest_inner {c : Cursor} (hc : c.On tokens) (hcuts : c.CutsAtLineEnd) :
    Gives fromRest c fun _ e => e.On tokens ∧ e.CutsAtLineEnd ∧ ∃ l, Inner l ∧
      c.rest = l ++ e.rest ∧ e.number = c.number + l.length := by
  intro s e he
  obtain ⟨d, hd, rfl | ⟨f, hopen, hf, hclose, rfl⟩⟩ := gives_fromRest_parts hclosed hc hcuts s e he
  · obtain ⟨l, hrest, hnumber, hl⟩ := hd.parts
    exact ⟨hd.on, hd.cuts, l, inner_of_isPart hl, hrest, hnumber⟩
  · obtain ⟨l, hrest, hnumber, hl⟩ := hd.parts
    obtain ⟨m, hrest', hnumber', hm⟩ := hf.parts
    obtain ⟨t, ht, htook, -⟩ := hd.on.took hclosed (hd.on.kind_eq (by simp [hopen])).2
      (by simp [hopen])
    obtain ⟨u, hu, htook', hon⟩ := hf.on.took hclosed (hf.on.kind_eq (by simp [hclose])).2
      (by simp [hclose])
    refine ⟨hon, Cursor.cutsAtLineEnd_of_false htook'.sees', l ++ t :: (m ++ [u]), ?_, ?_, ?_⟩
    · have hm' := (inner_of_isPart hm).parenthesized (ht.trans hopen) (hu.trans hclose)
        ⟨rfl, by simp⟩ ⟨rfl, by simp⟩
      exact (inner_of_isPart hl).append hm'
    · rw [hrest, htook.rest, hrest', htook'.rest]
      simp
    · rw [htook'.number, hnumber', htook.number, hnumber]
      simp
      omega

end Rules

end ScriptBundle.Python
