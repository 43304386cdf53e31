import ScriptBundle.Proofs.Grammar.Forward

namespace ScriptBundle.Python

open Reading

def Cursor.start (tokens : List Token) : Cursor := ⟨tokens, 0, tokens.length, [.module], false⟩

theorem Cursor.on_start {tokens : List Token} (hclosed : Closed tokens) :
    (Cursor.start tokens).On tokens :=
  ⟨rfl, List.length_pos_iff.2 hclosed.ne_nil, rfl⟩

/-- Statements are read from a cursor on, up to the end of the file. -/
inductive ReadToEnd (statement : Reading Stmt) : Cursor → List Stmt → Prop
  | nil {c : Cursor} (file : c.kind = .endOfFile) : ReadToEnd statement c []
  | cons {c d : Cursor} {s : Stmt} {l : List Stmt}
    (start : ListKind.module.startsItem c.kind = true) (read : statement c = .ok (s, d))
    (later : ReadToEnd statement d l) : ReadToEnd statement c (s :: l)

/-- Where two readings agree, what one reads the other reads as well. -/
theorem Reading.Agree.reads {α β : Type} {shift : Shift} {n k : Nat} {f : α → β} {r : Reading α}
    {r' : Reading β} (h : Agree shift n k f r r') {c c' d : Cursor} {a : α} (hc : c.Alike shift c')
    (hn : c.rest.length ≤ n) (hr : r c = .ok (a, d)) :
    ∃ d', r' c' = .ok (f a, d') ∧ d.Alike shift d' ∧ c.Reaches k d := by
  have houtcome := h c c' hc hn
  rw [hr] at houtcome
  generalize r' c' = y at houtcome ⊢
  cases houtcome with
  | ok alike behind => exact ⟨_, rfl, alike, behind⟩

/-- Behind a statement that was read, the same tokens go on. -/
theorem Cursor.On.statement {tokens : List Token} {levels : Nat} {c d : Cursor} {s : Stmt}
    (hc : c.On tokens) (hclosed : Closed tokens) (hlevels : 2 * c.rest.length + 1 ≤ levels)
    (h : (Rules.upTo levels).statement c = .ok (s, d)) : d.On tokens := by
  have hagree : Agree ⟨0, 0⟩ c.rest.length 1 (Stmt.lower 0) (Rules.upTo levels).statement
      (Rules.upTo levels).statement := Rules.upTo_statement hlevels hlevels
  obtain ⟨d', -, hd, hreach⟩ := hagree.reads (hc.alike hclosed) (Nat.le_refl _) h
  exact hc.reaches hreach hd

/-- **Statements in other places** are read alike. -/
theorem ReadToEnd.alike {shift : Shift} {n k : Nat} {f : Stmt → Stmt} {r r' : Reading Stmt}
    (h : Agree shift n k f r r') {c c' : Cursor} {l : List Stmt} (hl : ReadToEnd r c l)
    (hc : c.Alike shift c') (hn : c.rest.length ≤ n) : ReadToEnd r' c' (l.map f) := by
  induction hl generalizing c' with
  | nil file => exact .nil (hc.kind_eq.trans file)
  | cons start read _ ih =>
    obtain ⟨d', hread, hd, hreach⟩ := h.reads hc hn read
    have hlength := hreach.length_le hc hd
    exact .cons (by rw [hc.kind_eq, start]) hread (ih hd (by omega))

/-- A round of a series. -/
theorem Reading.seriesLoop_succ {α : Type} (list : ListKind) (item : Reading α) (fuel : Nat)
    (done : List α) (c : Cursor) : seriesLoop list item (fuel + 1) done c =
      (if list.startsItem c.kind = true then
        item >>= fun a => seriesLoop list item fuel (a :: done)
      else if list.ends c.kind = true then pure done.reverse
      else belongsOutside >>= fun b =>
        if b = true then cutOff >>= fun _ => pure done.reverse
        else refuse) c := rfl

section Loop

variable {tokens : List Token} {r : Reading Stmt} {n : Nat} {f : Stmt → Stmt} {c : Cursor}
  (hclosed : Closed tokens) (hr : Agree ⟨0, 0⟩ n 1 f r r)
include hclosed hr

/-- In a module, a loop over statements reads up to the end of the file. -/
theorem readToEnd_of_loop {fuel : Nat} {done l : List Stmt} {e : Cursor} (hc : c.On tokens)
    (hlists : c.lists = [.module]) (hn : tokens.length ≤ c.number + n)
    (h : seriesLoop .module r fuel done c = .ok (l, e)) :
    ∃ later, l = done.reverse ++ later ∧ ReadToEnd r c later := by
  induction fuel generalizing c done with
  | zero => cases h
  | succ fuel ih =>
    rw [seriesLoop_succ] at h
    split at h
    · rename_i hstart
      rw [bind_apply] at h
      cases hread : r c with
      | error fault =>
        rw [hread] at h
        cases h
      | ok p =>
        obtain ⟨s, d⟩ := p
        rw [hread] at h
        obtain ⟨d', -, hd, hreach⟩ := hr.reads (hc.alike hclosed) (by rw [hc.length]; omega) hread
        have hle := hreach.number
        obtain ⟨later, rfl, hlater⟩ :=
          ih (hc.reaches hreach hd) (hreach.lists.trans hlists) (by omega) h
        refine ⟨s :: later, ?_, .cons hstart hread hlater⟩
        rw [List.reverse_cons, List.append_assoc, List.singleton_append]
    · rename_i hstart
      split at h
      · rename_i hend
        cases h
        exact ⟨[], (List.append_nil _).symm, .nil (of_decide_eq_true hend)⟩
      · rename_i hend
        -- No list lies around a module, so nothing else ends it.
        have houtside : belongsOutside c = .ok (false, c) := by
          have happly : belongsOutside c = .ok (c.lists.any fun list =>
            list.startsItem c.kind || list.ends c.kind || list.cutsOff c.kind, c) := rfl
          rw [happly, hlists]
          simp only [List.any_cons, List.any_nil, hstart, hend]
          rfl
        rw [bind_apply, houtside] at h
        cases h

/-- Enough rounds read all statements. -/
theorem loop_of_readToEnd {fuel : Nat} {done l : List Stmt} (hc : c.On tokens)
    (hn : tokens.length ≤ c.number + n) (hfuel : tokens.length < c.number + fuel)
    (h : ReadToEnd r c l) :
    ∃ e, seriesLoop .module r fuel done c = .ok (done.reverse ++ l, e) := by
  obtain ⟨fuel, rfl⟩ : ∃ m, fuel = m + 1 := ⟨fuel - 1, by have := hc.lt; omega⟩
  induction h generalizing fuel done with
  | @nil c file =>
    refine ⟨c, ?_⟩
    rw [seriesLoop_succ, file, List.append_nil]
    rfl
  | @cons c d s l start read _ ih =>
    obtain ⟨d', -, hd, hreach⟩ := hr.reads (hc.alike hclosed) (by rw [hc.length]; omega) read
    have hle := hreach.number
    have hon := hc.reaches hreach hd
    have hlt := hon.lt
    obtain ⟨fuel, rfl⟩ : ∃ m, fuel = m + 1 := ⟨fuel - 1, by omega⟩
    obtain ⟨e, he⟩ : ∃ e, seriesLoop .module r (fuel + 1) (s :: done) d =
        .ok ((s :: done).reverse ++ l, e) := ih hon (by omega) fuel (by omega)
    refine ⟨e, ?_⟩
    rw [seriesLoop_succ, if_pos start, bind_apply, read]
    refine he.trans ?_
    rw [List.reverse_cons, List.append_assoc, List.singleton_append]

end Loop

/-- **The statements of a module** are those that are read up to the end of the file. -/
theorem statements_eq_ok_iff {tokens : List Token} (hclosed : Closed tokens) {body : List Stmt} :
    Module.statements tokens = .ok body ↔
      ReadToEnd (Rules.upTo (2 * tokens.length + 16)).statement (.start tokens) body := by
  have hagree : Agree ⟨0, 0⟩ tokens.length 1 (Stmt.lower 0)
      (Rules.upTo (2 * tokens.length + 16)).statement
      (Rules.upTo (2 * tokens.length + 16)).statement :=
    Rules.upTo_statement (by omega) (by omega)
  have hlength : tokens.length ≤ (Cursor.start tokens).number + tokens.length := by omega
  have hseries : Module.statements tokens =
      (seriesLoop .module (Rules.upTo (2 * tokens.length + 16)).statement (tokens.length + 2) []
        (.start tokens)).map (·.1) := by
    change ((seriesLoop .module _ (tokens.length + 2) [] (.start tokens)) >>= fun p =>
      Except.ok (p.1, { p.2 with lists := [] })).map (·.1) = _
    cases seriesLoop .module (Rules.upTo (2 * tokens.length + 16)).statement
        (tokens.length + 2) [] (.start tokens) with
    | error => rfl
    | ok => rfl
  rw [hseries]
  constructor
  · intro h
    cases hloop : seriesLoop .module (Rules.upTo (2 * tokens.length + 16)).statement
        (tokens.length + 2) [] (.start tokens) with
    | error fault =>
      rw [hloop] at h
      cases h
    | ok p =>
      obtain ⟨l, e⟩ := p
      obtain ⟨later, rfl, hlater⟩ :=
        readToEnd_of_loop hclosed hagree (Cursor.on_start hclosed) rfl hlength hloop
      rw [hloop] at h
      cases h
      exact hlater
  · intro h
    obtain ⟨e, he⟩ : ∃ e, seriesLoop .module (Rules.upTo (2 * tokens.length + 16)).statement
        (tokens.length + 2) [] (.start tokens) = .ok ([].reverse ++ body, e) :=
      loop_of_readToEnd hclosed hagree (Cursor.on_start hclosed) hlength (by simp [Cursor.start]) h
    rw [he]
    rfl

end ScriptBundle.Python
