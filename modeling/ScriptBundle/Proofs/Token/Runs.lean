import Mathlib.Data.List.Basic
import ScriptBundle.Proofs.Grammar.Agreement
import ScriptBundle.Proofs.Token.Steps

namespace ScriptBundle.Python

/-- A moment of scanning: the scanner and the first line end since the last token. -/
structure Scan where
  scanner : Scanner
  lineEnd : Option Nat := none

namespace Scan

/-- Where scanning a source starts, behind its byte-order mark. -/
def start (source : List Char) : Scan where
  scanner := match source with
    | '\uFEFF' :: rest => { rest, pos := 1 }
    | _ => { rest := source }

/-- One step: the token that is found, if it finds one. Scanning stops at the end of the file and at
a fault. -/
def next? (a : Scan) : Option (Option Token × Scan) :=
  let (lexeme, next) := a.scanner.step
  if lexeme.fault.isSome then none
  else
    match lexeme.piece with
    | .comment => some (none, ⟨next, a.lineEnd⟩)
    | .lineEnd => some (none, ⟨next, a.lineEnd.or (some lexeme.start)⟩)
    | .token kind =>
      if kind = .endOfFile then none
      else some (some ⟨kind, lexeme.start, lexeme.stop, next.nesting, a.lineEnd⟩, ⟨next, none⟩)

/-- The end of the file, if scanning has got there. -/
def last? (a : Scan) : Option Token :=
  let (lexeme, next) := a.scanner.step
  if lexeme.fault.isSome then none
  else
    match lexeme.piece with
    | .token .endOfFile =>
      some ⟨.endOfFile, lexeme.start, lexeme.stop, next.nesting, a.lineEnd⟩
    | _ => none

/-- Tokens found on the way from one moment to another. -/
inductive Runs : Scan → List Token → Scan → Prop
  | refl (a : Scan) : Runs a [] a
  | step {a b c : Scan} {found : Option Token} {later : List Token}
    (first : a.next? = some (found, b)) (rest : Runs b later c) : Runs a (found.toList ++ later) c

variable {a b c : Scan} {l m : List Token} {found : Option Token} {t : Token}

theorem Runs.trans (h : Runs a l b) (h' : Runs b m c) : Runs a (l ++ m) c := by
  induction h with
  | refl => exact h'
  | step first _ ih =>
    rw [List.append_assoc]
    exact .step first (ih h')

/-- A step found a token or none on the way from one moment to the next. -/
structure Moved (a : Scan) (found : Option Token) (b : Scan) : Prop where
  pos : a.scanner.pos ≤ b.scanner.pos
  rest : b.scanner.rest = a.scanner.rest.drop (b.scanner.pos - a.scanner.pos)
  work : b.scanner.work < a.scanner.work
  kind : ∀ t ∈ found, t.kind ≠ .endOfFile
  start : ∀ t ∈ found, a.scanner.pos ≤ t.start
  stop : ∀ t ∈ found, t.start ≤ t.stop
  next : ∀ t ∈ found, t.stop = b.scanner.pos
  word : ∀ t ∈ found, t.kind.isWord = true → t.start < t.stop

theorem next?_moved (h : a.next? = some (found, b)) : a.Moved found b := by
  have hmoves := Scanner.step_moves a.scanner
  unfold next? at h
  generalize a.scanner.step = p at h hmoves
  obtain ⟨lexeme, next⟩ := p
  dsimp only at h
  split at h
  · cases h
  · rename_i hfault
    obtain ⟨hstart, hstop, hpos, hrest, hwork, hword⟩ := hmoves (by simpa using hfault)
    have hle : a.scanner.pos ≤ next.pos := hpos ▸ Nat.le_trans hstart hstop
    have hdrop : next.rest = a.scanner.rest.drop (next.pos - a.scanner.pos) := hpos ▸ hrest
    split at h
    · rename_i hpiece
      cases h
      refine ⟨hle, hdrop, hwork (by simp [hpiece]), ?_, ?_, ?_, ?_, ?_⟩
      all_goals exact fun t ht => nomatch ht
    · rename_i hpiece
      cases h
      refine ⟨hle, hdrop, hwork (by simp [hpiece]), ?_, ?_, ?_, ?_, ?_⟩
      all_goals exact fun t ht => nomatch ht
    · rename_i kind hpiece
      split at h
      · cases h
      · rename_i hkind
        cases h
        refine ⟨hle, hdrop, hwork (by simp [hpiece, hkind]), ?_, ?_, ?_, ?_, ?_⟩
        all_goals
          intro t ht
          obtain rfl := Option.mem_some.1 ht
        · exact hkind
        · exact hstart
        · exact hstop
        · exact hpos.symm
        · exact hword kind hpiece

/-- What the scanner does when a step finds a token or none. -/
theorem step_of_next? (h : a.next? = some (found, b)) :
    ∃ lexeme, a.scanner.step = (lexeme, b.scanner) ∧ lexeme.fault = none ∧
      (∀ t ∈ found, lexeme = ⟨.token t.kind, t.start, t.stop, none⟩) ∧
      (found = none → lexeme.piece = .comment ∨ lexeme.piece = .lineEnd) := by
  unfold next? at h
  generalize a.scanner.step = p at h ⊢
  obtain ⟨⟨piece, start, stop, fault⟩, next⟩ := p
  cases fault with
  | some => cases h
  | none =>
    cases piece with
    | comment =>
      cases h
      exact ⟨_, rfl, rfl, fun t ht => (nomatch ht), fun _ => .inl rfl⟩
    | lineEnd =>
      cases h
      exact ⟨_, rfl, rfl, fun t ht => (nomatch ht), fun _ => .inr rfl⟩
    | token kind =>
      by_cases hkind : kind = .endOfFile
      · simp [hkind] at h
      · simp only [hkind] at h
        cases h
        refine ⟨_, rfl, rfl, fun t ht => ?_, fun h => nomatch h⟩
        obtain rfl := Option.mem_some.1 ht
        rfl

theorem last?_kind (h : a.last? = some t) : t.kind = .endOfFile := by
  unfold last? at h
  dsimp only at h
  split at h
  · cases h
  · split at h
    · cases h
      rfl
    · cases h

theorem next?_eq_none_of_last? (h : a.last? = some t) : a.next? = none := by
  unfold last? at h
  unfold next?
  dsimp only at h ⊢
  split at h
  · cases h
  · rename_i hfault
    rw [if_neg hfault]
    split at h
    · rename_i hpiece
      rw [hpiece]
      rfl
    · cases h

theorem collect_next (h : a.next? = some (found, b)) (fuel : Nat) (done : List Token) :
    collect (fuel + 1) a.scanner a.lineEnd none done =
      collect fuel b.scanner b.lineEnd none (found.toList ++ done) := by
  unfold next? at h
  rw [collect]
  generalize a.scanner.step = p at h ⊢
  obtain ⟨⟨piece, start, stop, fault⟩, next⟩ := p
  cases fault with
  | some => cases h
  | none =>
    cases piece with
    | comment =>
      cases h
      rfl
    | lineEnd =>
      cases h
      rfl
    | token kind =>
      dsimp only at h ⊢
      split at h
      · cases h
      · split at h
        · cases h
        · cases h
          cases kind <;> first | rfl | contradiction

theorem collect_last (h : a.last? = some t) (fuel : Nat) (done : List Token) :
    collect (fuel + 1) a.scanner a.lineEnd none done = ⟨(t :: done).reverse, none⟩ := by
  unfold last? at h
  rw [collect]
  generalize a.scanner.step = p at h ⊢
  obtain ⟨⟨piece, start, stop, fault⟩, next⟩ := p
  cases fault with
  | some => cases h
  | none =>
    dsimp only at h ⊢
    split at h
    · cases h
    · split at h
      · cases h
        rfl
      · cases h

theorem collect_fault (fuel : Nat) (s : Scanner) (lineEnd : Option Nat) (place : Nat)
    (done : List Token) : (collect fuel s lineEnd (some place) done).fault = some place := by
  induction fuel generalizing s lineEnd done with
  | zero => rfl
  | succ fuel ih =>
    rw [collect]
    dsimp only [Option.or]
    split
    · exact ih ..
    · exact ih ..
    · split
      · rfl
      · exact ih ..

theorem collect_stuck (hnext : a.next? = none) (hlast : a.last? = none) (fuel : Nat)
    (done : List Token) : (collect (fuel + 1) a.scanner a.lineEnd none done).fault ≠ none := by
  unfold next? at hnext
  unfold last? at hlast
  rw [collect]
  generalize a.scanner.step = p at hnext hlast ⊢
  obtain ⟨⟨piece, start, stop, fault⟩, next⟩ := p
  cases fault with
  | some place =>
    dsimp only [Option.or]
    split
    · simp [collect_fault]
    · simp [collect_fault]
    · split
      · simp
      · simp [collect_fault]
  | none =>
    cases piece with
    | comment => cases hnext
    | lineEnd => cases hnext
    | token kind =>
      by_cases hkind : kind = .endOfFile
      · simp [hkind] at hlast
      · simp [hkind] at hnext

/-- With more fuel than work, tokens are collected up to the end of the file. -/
theorem collect_eq_iff {fuel : Nat} (hfuel : a.scanner.work < fuel) {done tokens : List Token} :
    collect fuel a.scanner a.lineEnd none done = ⟨tokens, none⟩ ↔
      ∃ b l t, Runs a l b ∧ b.last? = some t ∧ tokens = done.reverse ++ l ++ [t] := by
  induction fuel generalizing a done with
  | zero => exact absurd hfuel (Nat.not_lt_zero _)
  | succ fuel ih =>
    cases hnext : a.next? with
    | some p =>
      obtain ⟨found, b⟩ := p
      have hwork := (next?_moved hnext).work
      have hfound : found.toList.reverse = found.toList := by cases found <;> rfl
      rw [collect_next hnext, ih (by omega)]
      simp only [List.reverse_append, hfound, List.append_assoc]
      constructor
      · rintro ⟨c, l, t, hruns, hlast, rfl⟩
        exact ⟨c, found.toList ++ l, t, .step hnext hruns, hlast, by simp⟩
      · rintro ⟨c, l, t, hruns, hlast, rfl⟩
        cases hruns with
        | refl =>
          rw [next?_eq_none_of_last? hlast] at hnext
          cases hnext
        | step first rest =>
          cases hnext.symm.trans first
          exact ⟨c, _, t, rest, hlast, by simp⟩
    | none =>
      cases hlast : a.last? with
      | some t =>
        rw [collect_last hlast]
        constructor
        · intro h
          cases h
          exact ⟨a, [], t, .refl a, hlast, by simp⟩
        · rintro ⟨c, l, t', hruns, hlast', rfl⟩
          cases hruns with
          | refl =>
            cases hlast.symm.trans hlast'
            simp
          | step first => cases hnext.symm.trans first
      | none =>
        constructor
        · intro h
          exact absurd (congrArg TokenList.fault h) (collect_stuck hnext hlast fuel done)
        · rintro ⟨c, l, t', hruns, hlast', rfl⟩
          cases hruns with
          | refl => cases hlast.symm.trans hlast'
          | step first => cases hnext.symm.trans first

end Scan

/-- **The tokens of a source without faults** are those of a run up to the end of the file. -/
theorem tokens_eq_iff {source : List Char} {tokens : List Token} :
    Python.tokens source = ⟨tokens, none⟩ ↔
      ∃ b l t, Scan.Runs (.start source) l b ∧ b.last? = some t ∧ tokens = l ++ [t] := by
  have hfuel : (Scan.start source).scanner.work < 3 * source.length + 8 := by
    unfold Scan.start
    dsimp only
    split
    · simp only [Scanner.work, LinePlace.work, List.length_cons, List.length_nil]
      omega
    · simp only [Scanner.work, LinePlace.work, List.length_nil]
      omega
  exact Scan.collect_eq_iff hfuel

namespace Scan

variable {a b : Scan} {l : List Token} {t : Token}

theorem Runs.pos_le (h : Runs a l b) : a.scanner.pos ≤ b.scanner.pos := by
  induction h with
  | refl => exact Nat.le_refl _
  | step first _ ih => exact Nat.le_trans (next?_moved first).pos ih

theorem Runs.kind_ne (h : Runs a l b) : ∀ t ∈ l, t.kind ≠ .endOfFile := by
  induction h with
  | refl => exact fun t ht => nomatch ht
  | step first _ ih =>
    intro t ht
    obtain ht | ht := List.mem_append.1 ht
    · exact (next?_moved first).kind t (Option.mem_toList.1 ht)
    · exact ih t ht

/-- A run passes over the text between its ends. -/
theorem Runs.rest_eq (h : Runs a l b) :
    b.scanner.rest = a.scanner.rest.drop (b.scanner.pos - a.scanner.pos) := by
  induction h with
  | refl => simp
  | step first rest ih =>
    have hmoved := next?_moved first
    have hle := hmoved.pos
    have hle' := rest.pos_le
    rw [ih, hmoved.rest, List.drop_drop]
    congr 1
    omega

/-- Tokens lie behind the place where a run starts. -/
theorem Runs.start_le (h : Runs a l b) : ∀ t ∈ l, a.scanner.pos ≤ t.start := by
  induction h with
  | refl => exact fun t ht => nomatch ht
  | step first _ ih =>
    intro t ht
    obtain ht | ht := List.mem_append.1 ht
    · exact (next?_moved first).start t (Option.mem_toList.1 ht)
    · exact Nat.le_trans (next?_moved first).pos (ih t ht)

/-- Tokens end before those that are found later start. -/
theorem Runs.apart (h : Runs a l b) : l.Pairwise fun t u => t.stop ≤ u.start := by
  induction h with
  | refl => exact .nil
  | @step a b c found later first rest ih =>
    cases found with
    | none => exact ih
    | some t =>
      apply List.pairwise_cons.2
      constructor
      · intro u hu
        rw [(next?_moved first).next t rfl]
        exact rest.start_le u hu
      · exact ih

/-- A token other than the end of the file is not the last one. -/
theorem lt_of_kind_ne {b : Scan} {last : Token} (hlast : b.last? = some last) {j : Nat} {u : Token}
    (hu : (l ++ [last])[j]? = some u) (hkind : u.kind ≠ .endOfFile) : j < l.length := by
  have hlength := (List.getElem?_eq_some_iff.1 hu).1
  rw [List.length_append, List.length_singleton] at hlength
  refine Nat.lt_of_le_of_ne (by omega) fun hj => ?_
  rw [hj, List.getElem?_concat_length] at hu
  cases hu
  exact hkind (last?_kind hlast)

/-- Words lie before all tokens that are found later. -/
theorem Runs.inOrder (h : Runs a l b) :
    l.Pairwise fun t u => t.kind.isWord = true → t.start < u.start := by
  induction h with
  | refl => exact .nil
  | @step a b c found later first rest ih =>
    cases found with
    | none => exact ih
    | some t =>
      have hmoved := next?_moved first
      refine List.pairwise_cons.2 ⟨fun u hu hword => ?_, ih⟩
      have := rest.start_le u hu
      have := hmoved.next t rfl
      have := hmoved.word t rfl hword
      omega

end Scan

section Source

variable {source : List Char} {tokens : List Token} (h : Python.tokens source = ⟨tokens, none⟩)
include h

/-- Tokens end with the end of the file. -/
theorem closed_of_tokens : Closed tokens := by
  obtain ⟨b, l, t, hruns, hlast, rfl⟩ := tokens_eq_iff.1 h
  exact ⟨l, t, rfl, Scan.last?_kind hlast, hruns.kind_ne⟩

/-- A token ends before a later one starts, that of the end of the file apart. -/
theorem stop_le_start_of_tokens {i j : Nat} {t u : Token} (hij : i < j) (ht : tokens[i]? = some t)
    (hu : tokens[j]? = some u) (hfile : u.kind ≠ .endOfFile) : t.stop ≤ u.start := by
  obtain ⟨b, l, last, hruns, hlast, rfl⟩ := tokens_eq_iff.1 h
  have hj := Scan.lt_of_kind_ne hlast hu hfile
  rw [List.getElem?_append_left (by omega)] at ht
  rw [List.getElem?_append_left hj] at hu
  obtain ⟨hi, rfl⟩ := List.getElem?_eq_some_iff.1 ht
  obtain ⟨hj, rfl⟩ := List.getElem?_eq_some_iff.1 hu
  exact List.pairwise_iff_getElem.1 hruns.apart i j hi hj hij

/-- Words stand in the order of their tokens. -/
theorem start_lt_of_tokens {i j : Nat} {t u : Token} (hij : i < j) (ht : tokens[i]? = some t)
    (hu : tokens[j]? = some u) (hword : t.kind.isWord = true) (hword' : u.kind.isWord = true) :
    t.start < u.start := by
  obtain ⟨b, l, last, hruns, hlast, rfl⟩ := tokens_eq_iff.1 h
  have hj := Scan.lt_of_kind_ne hlast hu fun hkind => by
    rw [hkind] at hword'
    cases hword'
  rw [List.getElem?_append_left (by omega)] at ht
  rw [List.getElem?_append_left hj] at hu
  obtain ⟨hi, rfl⟩ := List.getElem?_eq_some_iff.1 ht
  obtain ⟨hj, rfl⟩ := List.getElem?_eq_some_iff.1 hu
  exact List.pairwise_iff_getElem.1 hruns.inOrder i j hi hj hij hword

end Source

end ScriptBundle.Python
