import ScriptBundle.Proofs.Grammar.Statements
import ScriptBundle.Python.Module

/-!
# Levels are never used up

The rules of the grammar are nested so many levels deep. On `n` tokens, any two sets of rules agree
that are nested deep enough: a rule calls another behind a token of its own, or once at the first
token of a statement or a pattern.
-/

namespace ScriptBundle.Python

open Reading

variable {s : Shift} {n : Nat}

namespace Reading.Agree

variable {α β : Type} {k : Nat} {f : α → β} {r : Reading α} {r' : Reading β}

/-- There always is a token left. -/
theorem ofZero : Agree s 0 k f r r' := fun _ _ hc hn =>
  absurd (List.eq_nil_of_length_eq_zero (Nat.le_zero.1 hn)) hc.closed.ne_nil

end Reading.Agree

namespace Rules

/-- Sets of rules that are nested deep enough agree. -/
theorem upTo_agree (s : Shift) (n : Nat) :
    (∀ d d', 2 * n ≤ d → 2 * n ≤ d' → AgreeInner s n (upTo d) (upTo d')) ∧
      ∀ d d', 2 * n + 1 ≤ d → 2 * n + 1 ≤ d' → AgreeAll s n (upTo d) (upTo d') := by
  induction n with
  | zero =>
    exact ⟨fun _ _ _ _ => ⟨fun _ => .ofZero, fun _ _ => .ofZero, fun _ => .ofZero⟩,
      fun _ _ _ _ => ⟨⟨fun _ => .ofZero, fun _ _ => .ofZero, fun _ => .ofZero⟩, .ofZero,
        fun _ => .ofZero⟩⟩
  | succ n ih =>
    have hinner : ∀ d d', 2 * (n + 1) ≤ d → 2 * (n + 1) ≤ d' →
        AgreeInner s (n + 1) (upTo d) (upTo d') := by
      intro d d' hd hd'
      obtain ⟨e, rfl⟩ : ∃ e, d = e + 1 := ⟨d - 1, by omega⟩
      obtain ⟨e', rfl⟩ : ∃ e', d' = e' + 1 := ⟨d' - 1, by omega⟩
      have hall := ih.2 e e' (by omega) (by omega)
      exact ⟨hall.conditionalRule, hall.operandRule, hall.closedPatternRule⟩
    refine ⟨hinner, fun d d' hd hd' => ?_⟩
    obtain ⟨e, rfl⟩ : ∃ e, d = e + 1 := ⟨d - 1, by omega⟩
    obtain ⟨e', rfl⟩ : ∃ e', d' = e' + 1 := ⟨d' - 1, by omega⟩
    have hall := ih.2 e e' (by omega) (by omega)
    have hdeeper := hinner e e' (by omega) (by omega)
    exact ⟨hinner _ _ (by omega) (by omega), hall.statementRule hdeeper, hdeeper.patternRule⟩

/-- Statements are read alike from any levels that are deep enough. -/
theorem upTo_statement {d d' : Nat} (hd : 2 * n + 1 ≤ d) (hd' : 2 * n + 1 ≤ d') :
    Reading.Agree s n 1 (Stmt.lower s.tokens) (upTo d).statement (upTo d').statement :=
  ((upTo_agree s n).2 d d' hd hd').statement

end Rules

/-- A source is read when it is made of tokens and these are read. -/
theorem Module.parse_eq_ok_iff {source : List Char} {m : Module} :
    Module.parse source = .ok m ↔
      Python.tokens source = ⟨m.tokens, none⟩ ∧ Module.statements m.tokens = .ok m.body := by
  constructor
  · intro h
    unfold Module.parse at h
    dsimp only at h
    cases hbody : Module.statements (Python.tokens source).tokens with
    | error fault => cases hfault : (Python.tokens source).fault <;> simp [hbody, hfault] at h
    | ok body =>
      cases hfault : (Python.tokens source).fault with
      | some place => simp [hbody, hfault] at h
      | none =>
        simp only [hbody, hfault] at h
        cases h
        exact ⟨by rw [← hfault], hbody⟩
  · rintro ⟨htokens, hbody⟩
    unfold Module.parse
    simp only [htokens, hbody]

end ScriptBundle.Python
