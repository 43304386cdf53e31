import ScriptBundle.Proofs.Token.Runs

namespace ScriptBundle.Python

open ScriptBundle.Text

def Lexeme.later (k : Nat) (l : Lexeme) : Lexeme where
  piece := l.piece
  start := l.start + k
  stop := l.stop + k
  fault := l.fault.map (· + k)

namespace Scanner

/-- The scanner with its place `k` characters later. -/
def later (k : Nat) (s : Scanner) : Scanner := { s with pos := s.pos + k }

/-- The result of a step, `k` characters later. -/
def laterStep (k : Nat) (p : Lexeme × Scanner) : Lexeme × Scanner := (p.1.later k, p.2.later k)

variable {s : Scanner} {k n : Nat}

@[simp] theorem later_rest : (s.later k).rest = s.rest := rfl

@[simp] theorem later_pos : (s.later k).pos = s.pos + k := rfl

@[simp] theorem later_nesting : (s.later k).nesting = s.nesting := rfl

@[simp] theorem later_line : (s.later k).line = s.line := rfl

@[simp] theorem later_indents : (s.later k).indents = s.indents := rfl

@[simp] theorem later_pending : (s.later k).pending = s.pending := rfl

@[simp] theorem later_strings : (s.later k).strings = s.strings := rfl

@[simp] theorem later_currentIndent : (s.later k).currentIndent = s.currentIndent := rfl

theorem advance_later : (s.later k).advance n = (s.advance n).later k := by
  simp only [advance, later, Nat.add_right_comm]

theorem mapString_later (f : OpenString → OpenString) :
    (s.later k).mapString f = (s.mapString f).later k := by
  unfold mapString
  rw [later_strings]
  cases s.strings <;> rfl

theorem accept_later (kind : Kind) : (s.later k).accept n kind = laterStep k (s.accept n kind) := by
  unfold accept
  rw [advance_later]
  simp [laterStep, Lexeme.later, later, Nat.add_right_comm]

theorem reject_later (fault : Nat) :
    (s.later k).reject n (fault + k) = laterStep k (s.reject n fault) := by
  unfold reject
  rw [advance_later]
  simp [laterStep, Lexeme.later, Nat.add_right_comm]

theorem stepEnd_later : (s.later k).stepEnd = laterStep k s.stepEnd := by
  unfold stepEnd
  rw [later_nesting, later_line, later_indents, apply_ite (laterStep k), apply_ite (laterStep k)]
  refine if_congr Iff.rfl rfl (if_congr Iff.rfl rfl ?_)
  cases s.indents <;> rfl

theorem stepLineEnd_later : (s.later k).stepLineEnd n = laterStep k (s.stepLineEnd n) := by
  unfold stepLineEnd
  rw [later_nesting, later_line, advance_later, mapString_later, apply_ite (laterStep k)]
  refine if_congr Iff.rfl ?_ ?_
  · simp [laterStep, Lexeme.later, later, Nat.add_right_comm]
  · simp [laterStep, Lexeme.later, Nat.add_right_comm]

theorem stepString_later (letters : Nat) (form : StringForm) (quote : Char) :
    (s.later k).stepString letters form quote =
      laterStep k (s.stepString letters form quote) := by
  unfold stepString
  simp only [later_rest, later_nesting, accept_later]
  rw [apply_ite (laterStep k)]
  refine if_congr Iff.rfl rfl ?_
  refine Prod.ext ?_ rfl
  simp only [laterStep, Lexeme.later]
  rw [apply_ite (Option.map (· + k))]
  rfl

theorem stepWord_later (c : Char) (start : isIdentifierStart c = true) (t : List Char) :
    (s.later k).stepWord c start t = laterStep k (s.stepWord c start t) := by
  unfold stepWord
  simp only [accept_later]
  rw [apply_ite (laterStep k)]
  refine if_congr Iff.rfl ?_ rfl
  split <;> rfl

theorem stepIdentifier_later (c : Char) (start : isIdentifierStart c = true) (t : List Char) :
    (s.later k).stepIdentifier c start t = laterStep k (s.stepIdentifier c start t) := by
  unfold stepIdentifier
  simp only [stepWord_later, stepString_later]
  split
  · split
    · split <;> rfl
    · split
      · split
        · split <;> rfl
        · rfl
      · rfl
  · rfl

theorem stepSymbol_later : (s.later k).stepSymbol = laterStep k s.stepSymbol := by
  unfold stepSymbol
  rw [later_rest, later_strings]
  cases symbol? s.rest with
  | none => exact reject_later s.pos
  | some found =>
    obtain ⟨mark, length⟩ := found
    cases mark with
    | lpar | lsqb | lbrace => exact accept_later (s := { s with nesting := s.nesting + 1 }) _
    | rpar | rsqb => exact accept_later (s := { s with nesting := s.nesting - 1 }) _
    | rbrace =>
      dsimp only
      split
      · rw [apply_ite (laterStep k), mapString_later]
        refine if_congr Iff.rfl (reject_later s.pos) ?_
        exact accept_later (s := { s.mapString _ with nesting := s.nesting - 1 }) _
      · exact accept_later (s := { s with nesting := s.nesting - 1 }) _
    | colon | colonEqual =>
      dsimp only
      split
      · rw [apply_ite (laterStep k), mapString_later]
        exact if_congr Iff.rfl (accept_later _) (accept_later _)
      · exact accept_later _
    | _ => exact accept_later _

theorem stepNumber_later : (s.later k).stepNumber = laterStep k s.stepNumber := by
  unfold stepNumber
  simp only [later_rest, later_pos, accept_later]
  cases numberShape s.rest with
  | good length form => rfl
  | bad length fault =>
    dsimp only
    rw [Nat.add_right_comm, reject_later]
    rfl

theorem stepCharacter_later : (s.later k).stepCharacter = laterStep k s.stepCharacter := by
  have hcomment : ∀ length, ((⟨.comment, s.pos + k, s.pos + k + length, none⟩,
      (s.later k).advance length) : Lexeme × Scanner) =
        laterStep k (⟨.comment, s.pos, s.pos + length, none⟩, s.advance length) := by
    intro length
    rw [advance_later, Nat.add_right_comm]
    rfl
  unfold stepCharacter
  rw [later_rest]
  split
  · exact stepEnd_later
  · simp only [stepIdentifier_later, stepNumber_later, stepString_later, stepLineEnd_later,
      stepSymbol_later, later_pos, hcomment, apply_dite (laterStep k), apply_ite (laterStep k)]

theorem stepIndent_later : (s.later k).stepIndent = laterStep k s.stepIndent := by
  unfold stepIndent
  rw [later_rest]
  split
  rename_i indent length stray hmeasure
  rw [later_pos, Nat.add_right_comm, reject_later, apply_ite (laterStep k), advance_later]
  refine if_congr Iff.rfl rfl ?_
  dsimp only
  rw [apply_ite (laterStep k), later_currentIndent]
  refine if_congr Iff.rfl stepCharacter_later ?_
  cases s.currentIndent.compare? indent with
  | none => rfl
  | some order =>
    cases order with
    | eq => exact stepCharacter_later (s := { s.advance length with line := .afterIndent })
    | lt => rfl
    | gt =>
      dsimp only [currentIndent, later]
      split <;> rfl

theorem stepCode_later : (s.later k).stepCode = laterStep k s.stepCode := by
  unfold stepCode
  rw [later_line, stepIndent_later, apply_ite (laterStep k)]
  refine if_congr Iff.rfl rfl ?_
  dsimp only
  rw [later_rest, later_pos, Nat.add_right_comm, reject_later, advance_later, stepCharacter_later,
    apply_ite (laterStep k)]

theorem stepText_later (opened : OpenString) :
    (s.later k).stepText opened = (s.stepText opened).map (laterStep k) := by
  unfold stepText
  dsimp only
  rw [later_rest, later_nesting, accept_later, apply_ite (Option.map (laterStep k))]
  refine if_congr Iff.rfl rfl ?_
  rw [apply_ite (Option.map (laterStep k)), apply_ite (Option.map (laterStep k)), advance_later,
    later_pos, Nat.add_right_comm]
  exact if_congr Iff.rfl rfl (if_congr Iff.rfl rfl rfl)

/-- **A step later in a text** finds the same, as much later. -/
theorem step_later : (s.later k).step = laterStep k s.step := by
  unfold step
  rw [later_strings, later_pending, later_nesting, later_currentIndent]
  split
  · rw [stepCode_later, apply_ite (laterStep k), stepText_later]
    refine if_congr Iff.rfl rfl ?_
    cases s.stepText _ <;> rfl
  · split
    · exact stepCode_later
    · split
      · dsimp only [currentIndent, later]
        split <;> rfl
      · exact stepCode_later (s := { s with pending := none })
      · rfl

end Scanner

def Token.later (k : Nat) (t : Token) : Token where
  kind := t.kind
  start := t.start + k
  stop := t.stop + k
  nesting := t.nesting
  lineEnd := t.lineEnd.map (· + k)

/-- Tokens differ from their later copies by a shift. -/
theorem Token.shifted_later (n k : Nat) (t : Token) : (t.later k).Shifted ⟨n, k⟩ t where
  kind := rfl
  start := rfl
  stop := rfl
  nesting := rfl
  lineEnd := by simp [later]

namespace Scan

def later (k : Nat) (a : Scan) : Scan := ⟨a.scanner.later k, a.lineEnd.map (· + k)⟩

variable {a b : Scan} {k : Nat}

theorem next?_later :
    (a.later k).next? = a.next?.map (Prod.map (Option.map (Token.later k)) (Scan.later k)) := by
  unfold next? later
  dsimp only
  rw [Scanner.step_later]
  generalize a.scanner.step = p
  obtain ⟨⟨piece, start, stop, fault⟩, next⟩ := p
  cases fault with
  | some => rfl
  | none =>
    cases piece with
    | comment => rfl
    | lineEnd => cases a.lineEnd <;> rfl
    | token kind =>
      by_cases hkind : kind = .endOfFile
      · simp [Scanner.laterStep, Lexeme.later, hkind]
      · simp [Scanner.laterStep, Lexeme.later, hkind, Token.later, Scanner.later]

theorem last?_later : (a.later k).last? = a.last?.map (Token.later k) := by
  unfold last? later
  dsimp only
  rw [Scanner.step_later]
  generalize a.scanner.step = p
  obtain ⟨⟨piece, start, stop, fault⟩, next⟩ := p
  cases fault with
  | some => rfl
  | none =>
    cases piece with
    | comment => rfl
    | lineEnd => rfl
    | token kind => cases kind <;> rfl

/-- **Tokens found later in a text** are later copies of those found where it starts earlier. -/
theorem Runs.earlier {l : List Token} (h : Runs (a.later k) l b) :
    ∃ m c, Runs a m c ∧ l = m.map (Token.later k) ∧ b = c.later k := by
  generalize hlater : a.later k = d at h
  induction h generalizing a with
  | refl => exact ⟨[], a, .refl a, rfl, hlater.symm⟩
  | step first _ ih =>
    subst hlater
    rw [next?_later] at first
    cases hnext : a.next? with
    | none =>
      rw [hnext] at first
      cases first
    | some p =>
      obtain ⟨found, a'⟩ := p
      rw [hnext] at first
      cases first
      obtain ⟨m, c, hruns, rfl, rfl⟩ := ih rfl
      refine ⟨found.toList ++ m, c, .step hnext hruns, ?_, rfl⟩
      rw [List.map_append]
      cases found <;> rfl

end Scan

end ScriptBundle.Python
