import ScriptBundle.Proofs.Bundle.DeeperStep
import ScriptBundle.Proofs.Bundle.FutureImports
import ScriptBundle.Proofs.Bundle.ReadBack
import ScriptBundle.Proofs.Token.Replace

/-!
# Scanning the block of a script

A bundle has its script in a block, one level deeper. A scanner that gets there goes along with one
that scans the script alone, up to the end of the script; there the block is closed.
-/

namespace ScriptBundle

open Text Template Python

variable {t : List Char} {s d : Scanner} {n k m : Nat}

/-! ## Moments -/

def pieceKind : Piece → Option Kind
  | .token kind => some kind
  | .comment | .lineEnd => none

section Moments

variable {a b : Scan} {found : Option Token}

theorem step_of_next? (h : a.next? = some (found, b)) :
    a.scanner.step.1.fault = none ∧ a.scanner.step.2 = b.scanner ∧
      a.scanner.step.1.piece ≠ .token .endOfFile ∧
      pieceKind a.scanner.step.1.piece = found.map Token.kind := by
  obtain ⟨lexeme, hstep, hfault, hsome, hnone⟩ := Scan.step_of_next? h
  rw [hstep]
  refine ⟨hfault, rfl, ?_⟩
  cases found with
  | some token =>
    obtain rfl := hsome token rfl
    have hkind := (Scan.next?_moved h).kind token rfl
    exact ⟨fun h => hkind (Piece.token.inj h), rfl⟩
  | none =>
    obtain hpiece | hpiece := hnone rfl
    · simp [hpiece, pieceKind]
    · simp [hpiece, pieceKind]

theorem exists_next? (hfault : a.scanner.step.1.fault = none)
    (hfile : a.scanner.step.1.piece ≠ .token .endOfFile) :
    ∃ found lineEnd, a.next? = some (found, ⟨a.scanner.step.2, lineEnd⟩) ∧
      found.map Token.kind = pieceKind a.scanner.step.1.piece := by
  unfold Scan.next?
  generalize a.scanner.step = p at hfault hfile ⊢
  obtain ⟨⟨piece, start, stop, fault⟩, next⟩ := p
  cases hfault
  cases piece with
  | token kind =>
    have hkind : kind ≠ .endOfFile := fun h => hfile (congrArg Piece.token h)
    simp [hkind, pieceKind]
  | comment => simp [pieceKind]
  | lineEnd => simp [pieceKind]

theorem last?_piece {token : Token} (h : a.last? = some token) :
    a.scanner.step.1.fault = none ∧ a.scanner.step.1.piece = .token .endOfFile := by
  unfold Scan.last? at h
  dsimp only at h
  split at h
  · cases h
  · rename_i hfault
    split at h
    · rename_i hpiece
      exact ⟨by simpa using hfault, hpiece⟩
    · cases h

theorem kinds_append {p : Option Kind} (h : p = found.map Token.kind) (later : List Token) :
    (found.toList ++ later).map Token.kind = p.toList ++ later.map Token.kind := by
  subst h
  cases found <;> rfl

end Moments

/-! ## The end of a text -/

/-- Nothing but the ends of the line and of blocks is left. -/
structure AtEnd (s : Scanner) : Prop where
  strings : s.strings = []
  pending : s.pending = none
  nesting : s.nesting = 0
  line : s.line ≠ .afterIndent
  blank : behindBlanks s = []

/-- Where blanks alone are left, they are measured up to the end. -/
theorem blanks_of_stepCode (hend : behindBlanks s = []) (hfault : s.stepCode.1.fault = none) :
    (s.line = .atStart ∧ ∃ indent m, measureIndent s.rest {} none 0 = (indent, m, false) ∧
      s.rest.drop m = []) ∨
    (s.line ≠ .atStart ∧ ∃ m, measureBlanks s.rest 0 = (m, false) ∧ s.rest.drop m = []) := by
  obtain ⟨hline, -, indent, m, hm⟩ | ⟨hline, m, hm, -⟩ := Scanner.stepCode_cases hfault
  · rw [behindBlanks, if_pos hline, hm] at hend
    exact .inl ⟨hline, indent, m, hm, hend⟩
  · rw [behindBlanks, if_neg hline, hm] at hend
    exact .inr ⟨hline, m, hm, hend⟩

theorem stepCharacter_nil (hrest : s.rest = []) : s.stepCharacter = s.stepEnd := by
  unfold Scanner.stepCharacter
  simp only [hrest]

theorem stepCode_eq_stepEnd (hend : behindBlanks s = []) (hfault : s.stepCode.1.fault = none) :
    ∃ m, s.rest.drop m = [] ∧ s.stepCode = (s.advance m).stepEnd := by
  obtain ⟨hline, indent, m, hm, hrest⟩ | ⟨hline, m, hm, hrest⟩ := blanks_of_stepCode hend hfault
  · refine ⟨m, hrest, ?_⟩
    rw [stepCode_idle hline hm (by rw [hrest]; rfl), stepCharacter_nil hrest]
  · refine ⟨m, hrest, ?_⟩
    rw [stepCode_behind hline hm, stepCharacter_nil hrest]

theorem stepEnd_nesting (hfault : s.stepEnd.1.fault = none) : s.nesting = 0 := by
  by_contra hnesting
  unfold Scanner.stepEnd at hfault
  rw [if_pos (Nat.pos_of_ne_zero hnesting)] at hfault
  cases hfault

theorem Below.atEnd (h : Below t s d) (code : InCode s) (hend : behindBlanks s = [])
    (hfault : s.step.1.fault = none) : AtEnd s := by
  have hline : s.line ≠ .afterIndent := fun hline =>
    behindBlanks_ne_nil (by simp [hline]) (h.sound.code hline) hend
  have hpending : s.pending = none := by
    by_contra hpending
    exact hline (h.sound.pending hpending).1
  have hstep : s.step = s.stepCode := by
    unfold Scanner.step
    split
    · exact if_pos (code _ _ ‹_›)
    · rw [hpending]
  rw [hstep] at hfault
  obtain ⟨m, -, hm⟩ := stepCode_eq_stepEnd hend hfault
  rw [hm] at hfault
  have hnesting : s.nesting = 0 := stepEnd_nesting (s := s.advance m) hfault
  exact ⟨code.strings_eq_nil hnesting, hpending, hnesting, hline, hend⟩

theorem behindBlanks_nil (hrest : s.rest = []) : behindBlanks s = [] := by
  rw [behindBlanks, hrest, List.drop_nil]

/-- At the end, the last line ends first, then its blocks end, one at each step. -/
theorem AtEnd.step_cases (h : AtEnd s) (hfault : s.step.1.fault = none) :
    (s.line = .inside ∧ s.step.1.piece = .token .newline ∧ AtEnd s.step.2 ∧
      s.step.2.line = .atStart ∧ s.step.2.indents = s.indents) ∨
    (s.line ≠ .inside ∧ (∃ i, s.indents = i :: s.step.2.indents) ∧
      s.step.1.piece = .token .dedent ∧ AtEnd s.step.2 ∧ s.step.2.line = s.line) ∨
    (s.line ≠ .inside ∧ s.indents = [] ∧ s.step.1.piece = .token .endOfFile) := by
  have hstep := Scanner.step_eq_stepCode h.strings h.pending
  rw [hstep] at hfault ⊢
  obtain ⟨m, hrest, hm⟩ := stepCode_eq_stepEnd h.blank hfault
  have hnesting : ¬0 < (s.advance m).nesting := by
    rw [show (s.advance m).nesting = 0 from h.nesting]
    exact Nat.lt_irrefl 0
  rw [hm]
  unfold Scanner.stepEnd
  rw [if_neg hnesting]
  by_cases hline : s.line = .inside
  · left
    rw [if_pos (show (s.advance m).line = .inside from hline)]
    refine ⟨hline, rfl, ?_, rfl, rfl⟩
    exact ⟨h.strings, h.pending, h.nesting, by simp, behindBlanks_nil hrest⟩
  · right
    rw [if_neg (show (s.advance m).line ≠ .inside from hline)]
    cases hindents : (s.advance m).indents with
    | nil => exact .inr ⟨hline, hindents, rfl⟩
    | cons i outer =>
      refine .inl ⟨hline, ⟨i, hindents⟩, rfl, ?_, rfl⟩
      exact ⟨h.strings, h.pending, h.nesting, h.line, behindBlanks_nil hrest⟩

/-- The tokens at the end of a text. -/
theorem AtEnd.kinds {a c : Scan} {l : List Token} {e : Token} (h : AtEnd a.scanner)
    (hruns : Scan.Runs a l c) (hlast : c.last? = some e) :
    l.map Token.kind = (if a.scanner.line = .inside then [.newline] else []) ++
      List.replicate a.scanner.indents.length .dedent := by
  induction hruns with
  | refl a =>
    obtain ⟨hfault, hpiece⟩ := last?_piece hlast
    obtain ⟨-, hkind, -⟩ | ⟨-, -, hkind, -⟩ | ⟨hline, hindents, -⟩ := h.step_cases hfault
    · simp [hpiece] at hkind
    · simp [hpiece] at hkind
    · simp [hline, hindents]
  | step first rest ih =>
    obtain ⟨hfault, hnext, hfile, hkind⟩ := step_of_next? first
    obtain ⟨hline, hpiece, hend, hline', hindents⟩ | ⟨hline, ⟨i, hindents⟩, hpiece, hend, hline'⟩ |
      ⟨-, -, hpiece⟩ := h.step_cases hfault
    · rw [hpiece, pieceKind] at hkind
      rw [hnext] at hend hline' hindents
      rw [kinds_append hkind, ih hend hlast, if_pos hline, hline', hindents]
      rfl
    · rw [hpiece, pieceKind] at hkind
      rw [hnext] at hindents hend hline'
      rw [kinds_append hkind, ih hend hlast, hline', if_neg hline, hindents]
      rfl
    · exact absurd hpiece hfile

/-! ## Behind the block -/

/-- The scanner stands at the start of a line, with some blocks open. -/
structure Stands (text : List Char) (indents : List Indentation) (s : Scanner) : Prop where
  rest : s.rest = text
  line : s.line = .atStart
  nesting : s.nesting = 0
  strings : s.strings = []
  pending : s.pending = none
  indents : s.indents = indents

theorem stepCharacter_lineFeed (text : List Char) (hrest : s.rest = '\n' :: text)
    (hnesting : s.nesting = 0) (hstrings : s.strings = []) (hpending : s.pending = none)
    (hline : s.line ≠ .afterIndent) :
    s.stepCharacter.1.fault = none ∧
      s.stepCharacter.1.piece = (if s.line = .inside then .token .newline else .lineEnd) ∧
      Stands text s.indents s.stepCharacter.2 := by
  have hstep : s.stepCharacter = s.stepLineEnd 1 := by
    unfold Scanner.stepCharacter
    simp only [hrest]
    rfl
  have hmap : (s.advance 1).mapString (·.closeSpec s.nesting) = s.advance 1 := by
    unfold Scanner.mapString
    rw [show (s.advance 1).strings = [] from hstrings]
  have hbehind : (s.advance 1).rest = text := by
    simp [Scanner.advance, hrest]
  rw [hstep]
  unfold Scanner.stepLineEnd
  rw [hmap]
  cases hs : s.line with
  | inside =>
    rw [if_pos (by simp [hnesting])]
    exact ⟨rfl, rfl, hbehind, rfl, hnesting, hstrings, hpending, rfl⟩
  | atStart =>
    rw [if_neg (by simp)]
    exact ⟨rfl, rfl, hbehind, hs, hnesting, hstrings, hpending, rfl⟩
  | afterIndent => exact absurd hs hline

/-- Where the text ends, the last line ends one level deeper. -/
theorem Below.lastLine (h : Below t s d) (hend : AtEnd s) (hfault : s.step.1.fault = none) :
    d.step.1.fault = none ∧
      d.step.1.piece = (if s.line = .inside then .token .newline else .lineEnd) ∧
      Stands t d.indents d.step.2 := by
  have hpending := h.pending_eq_none hend.pending
  have hstrings : d.strings = [] := h.strings.trans hend.strings
  rw [Scanner.step_eq_stepCode hend.strings hend.pending] at hfault
  rw [Scanner.step_eq_stepCode hstrings hpending, ← h.line]
  obtain ⟨k, hrest, hstep⟩ : ∃ k, d.rest.drop k = '\n' :: t ∧
      d.stepCode = (d.advance k).stepCharacter := by
    obtain ⟨hline, indent, m, hm, hnil⟩ | ⟨hline, m, hm, hnil⟩ :=
      blanks_of_stepCode hend.blank hfault
    · obtain ⟨k, hk, hrest⟩ := h.skipIndent hm
      rw [hnil] at hrest
      exact ⟨k, hrest, stepCode_idle (h.line.trans hline) (Prod.ext rfl hk) (by rw [hrest]; rfl)⟩
    · obtain ⟨k, hk, hrest⟩ := h.skipBlanks hm
      rw [hnil] at hrest
      exact ⟨k, hrest, stepCode_behind (by rwa [h.line]) hk⟩
  rw [hstep]
  exact stepCharacter_lineFeed (s := d.advance k) t hrest (h.nesting.trans hend.nesting) hstrings
    hpending (by rw [show (d.advance k).line = s.line from h.line]; exact hend.line)

/-- Code that no blank stands in front of. -/
structure AtMargin (text : List Char) : Prop where
  measure : measureIndent text {} none 0 = ({}, 0, false)
  code : ¬Scanner.idle text = true

/-- The scanner stands in front of code at the margin, with some blocks still to be closed. -/
structure Leaving (text : List Char) (indents : List Indentation) (s : Scanner) : Prop where
  rest : s.rest = text
  line : s.line = .afterIndent
  nesting : s.nesting = 0
  strings : s.strings = []
  pending : s.pending = some {}
  indents : s.indents = indents

section Leaving

variable {text : List Char} {indents : List Indentation} {i : Indentation}

theorem Stands.emptyLine (text : List Char) (h : Stands ('\n' :: text) indents s) :
    s.step.1.fault = none ∧ s.step.1.piece = .lineEnd ∧ Stands text indents s.step.2 := by
  have hm : measureIndent s.rest {} none 0 = ({}, 0, false) := by
    rw [h.rest]
    rfl
  rw [Scanner.step_eq_stepCode h.strings h.pending,
    stepCode_idle h.line hm (by rw [h.rest]; rfl)]
  have hfound := stepCharacter_lineFeed (s := s.advance 0) text h.rest h.nesting h.strings
    h.pending (by rw [show (s.advance 0).line = .atStart from h.line]; simp)
  rw [show (s.advance 0).line = .atStart from h.line,
    show (s.advance 0).indents = indents from h.indents] at hfound
  exact hfound

theorem reaches_margin (hall : ∀ j ∈ s.indents, j.compare? {} = some .gt) : Reaches s {} := by
  unfold Reaches Scanner.currentIndent
  cases hs : s.indents with
  | nil => exact .inl rfl
  | cons j outer => exact .inr (hall j (by simp [hs]))

/-- Code at the margin closes the innermost block. -/
theorem Stands.leave (h : Stands text (i :: indents) s) (margin : AtMargin text)
    (hall : ∀ j ∈ i :: indents, j.compare? {} = some .gt) :
    s.step.1.fault = none ∧ s.step.1.piece = .token .dedent ∧ Leaving text indents s.step.2 := by
  have hm : measureIndent s.rest {} none 0 = ({}, 0, false) := by
    rw [h.rest]
    exact margin.measure
  have hidle : ¬Scanner.idle (s.rest.drop 0) = true := by
    rw [h.rest]
    exact margin.code
  have horder : s.currentIndent.compare? {} = some .gt := by
    rw [Scanner.currentIndent, h.indents]
    exact hall i (by simp)
  have hstep : s.stepCode = s.stepIndent := if_pos h.line
  have htail : s.indents.tail = indents := by
    rw [h.indents]
    rfl
  rw [Scanner.step_eq_stepCode h.strings h.pending, hstep,
    (stepIndent_closes hm hidle horder rfl).1 (reaches_margin ?_)]
  · exact ⟨rfl, rfl, h.rest, rfl, h.nesting, h.strings, rfl, htail⟩
  · dsimp only
    rw [htail]
    exact fun j hj => hall j (by simp [hj])

/-- So it does with the other blocks. -/
theorem Leaving.leave (h : Leaving text (i :: indents) s)
    (hall : ∀ j ∈ i :: indents, j.compare? {} = some .gt) :
    s.step.1.fault = none ∧ s.step.1.piece = .token .dedent ∧ Leaving text indents s.step.2 := by
  have horder : s.currentIndent.compare? {} = some .gt := by
    rw [Scanner.currentIndent, h.indents]
    exact hall i (by simp)
  have htail : s.indents.tail = indents := by
    rw [h.indents]
    rfl
  rw [(step_closes h.strings h.pending horder rfl).1 (reaches_margin ?_)]
  · exact ⟨rfl, rfl, h.rest, h.line, h.nesting, h.strings, h.pending, htail⟩
  · dsimp only
    rw [htail]
    exact fun j hj => hall j (by simp [hj])

/-- A step in front of which nothing has gone wrong is part of a run. -/
theorem run_of_step {a : Scan} (hfault : a.scanner.step.1.fault = none)
    (hfile : a.scanner.step.1.piece ≠ .token .endOfFile) :
    ∃ l b, Scan.Runs a l b ∧ l.map Token.kind = (pieceKind a.scanner.step.1.piece).toList ∧
      b.scanner = a.scanner.step.2 := by
  obtain ⟨found, lineEnd, hnext, hkind⟩ := exists_next? hfault hfile
  refine ⟨found.toList, _, by simpa using Scan.Runs.step hnext (.refl _), ?_, rfl⟩
  simpa using kinds_append hkind.symm []

theorem Leaving.run {a : Scan} (h : Leaving text indents a.scanner)
    (hall : ∀ j ∈ indents, j.compare? {} = some .gt) :
    ∃ l b, Scan.Runs a l b ∧ l.map Token.kind = List.replicate indents.length .dedent ∧
      Leaving text [] b.scanner := by
  induction indents generalizing a with
  | nil => exact ⟨[], a, .refl a, rfl, h⟩
  | cons i indents ih =>
    obtain ⟨hfault, hpiece, hnext⟩ := h.leave hall
    obtain ⟨l, b, hruns, hkinds, hb⟩ := run_of_step hfault (by simp [hpiece])
    obtain ⟨l', c, hruns', hkinds', hc⟩ := ih (hb ▸ hnext) fun j hj => hall j (by simp [hj])
    refine ⟨l ++ l', c, hruns.trans hruns', ?_, hc⟩
    rw [List.map_append, hkinds, hkinds', hpiece]
    rfl

/-- Behind empty lines, code at the margin closes all blocks. -/
theorem Stands.run {a : Scan} {lines : Nat}
    (h : Stands (List.replicate lines '\n' ++ text) (i :: indents) a.scanner)
    (margin : AtMargin text) (hall : ∀ j ∈ i :: indents, j.compare? {} = some .gt) :
    ∃ l b, Scan.Runs a l b ∧ l.map Token.kind = List.replicate (indents.length + 1) .dedent ∧
      Leaving text [] b.scanner := by
  induction lines generalizing a with
  | zero =>
    obtain ⟨hfault, hpiece, hnext⟩ := Stands.leave h margin hall
    obtain ⟨l, b, hruns, hkinds, hb⟩ := run_of_step hfault (by simp [hpiece])
    obtain ⟨l', c, hruns', hkinds', hc⟩ :=
      Leaving.run (a := b) (hb ▸ hnext) fun j hj => hall j (by simp [hj])
    refine ⟨l ++ l', c, hruns.trans hruns', ?_, hc⟩
    rw [List.map_append, hkinds, hkinds', hpiece]
    rfl
  | succ lines ih =>
    obtain ⟨hfault, hpiece, hnext⟩ := Stands.emptyLine (List.replicate lines '\n' ++ text) h
    obtain ⟨l, b, hruns, hkinds, hb⟩ := run_of_step hfault (by simp [hpiece])
    obtain ⟨l', c, hruns', hkinds', hc⟩ := ih (a := b) (hb ▸ hnext)
    refine ⟨l ++ l', c, hruns.trans hruns', ?_, hc⟩
    rw [List.map_append, hkinds, hkinds', hpiece]
    rfl

end Leaving

/-! ## The end of the file -/

theorem stepCode_endOfFile (hfault : s.stepCode.1.fault = none)
    (hpiece : s.stepCode.1.piece = .token .endOfFile) :
    behindBlanks s = [] ∧ s.line ≠ .inside := by
  obtain ⟨hline, hstep, indent, m, hm⟩ | ⟨hline, m, hm, hstep⟩ := Scanner.stepCode_cases hfault
  · rw [hstep] at hfault hpiece
    refine ⟨?_, by simp [hline]⟩
    rw [behindBlanks, if_pos hline, hm]
    obtain ⟨other, hother, horder⟩ := Scanner.stepIndent_eq hm
    rw [hother] at hfault hpiece
    split at hpiece
    · exact Scanner.rest_of_endOfFile hpiece
    · rename_i hidle
      rw [if_neg hidle] at hfault
      split at horder
      · rw [horder] at hpiece
        exact Scanner.rest_of_endOfFile hpiece
      · simp [horder] at hpiece
      · obtain hdedent | hother := horder
        · simp [hdedent] at hpiece
        · exact absurd hfault hother
      · exact absurd hfault horder
  · rw [hstep] at hpiece
    rw [behindBlanks, if_neg hline, hm]
    exact ⟨Scanner.rest_of_endOfFile hpiece,
      Scanner.stepCharacter_endOfFile (s := s.advance m) hpiece⟩

theorem stepText_piece {opened : OpenString} {p : Lexeme × Scanner}
    (h : s.stepText opened = some p) : p.1.piece ≠ .token .endOfFile := by
  unfold Scanner.stepText at h
  extract_lets form closing inSpec at h
  split at h
  · cases h
    exact fun h => nomatch h
  · split at h
    split at h
    · cases h
      exact fun h => nomatch h
    · split at h
      · cases h
      · cases h
        exact fun h => nomatch h

/-- The file ends behind all text, and not within a line. -/
theorem step_endOfFile (hfault : s.step.1.fault = none)
    (hpiece : s.step.1.piece = .token .endOfFile) : behindBlanks s = [] ∧ s.line ≠ .inside := by
  cases hs : s.strings with
  | cons opened outer =>
    unfold Scanner.step at hfault hpiece
    rw [hs] at hfault hpiece
    dsimp only at hfault hpiece
    split at hpiece
    · rename_i hcode
      rw [if_pos hcode] at hfault
      exact stepCode_endOfFile hfault hpiece
    · rename_i hcode
      rw [if_neg hcode] at hfault
      cases htext : s.stepText opened with
      | some p =>
        rw [htext] at hpiece
        exact absurd hpiece (stepText_piece htext)
      | none =>
        rw [htext] at hfault hpiece
        exact stepCode_endOfFile hfault hpiece
  | nil =>
    cases hpending : s.pending with
    | none =>
      rw [Scanner.step_eq_stepCode hs hpending] at hfault hpiece
      exact stepCode_endOfFile hfault hpiece
    | some target =>
      cases horder : s.currentIndent.compare? target with
      | none => exact absurd hfault (step_apart hs hpending horder)
      | some order =>
        by_cases hgt : order = .gt
        · subst hgt
          have hcloses := step_closes hs hpending horder rfl
          by_cases hreaches : Reaches { s with indents := s.indents.tail } target
          · rw [hcloses.1 hreaches] at hpiece
            cases hpiece
          · exact absurd hfault (hcloses.2 hreaches)
        · rw [step_resumes hs hpending horder hgt] at hfault hpiece
          exact stepCode_endOfFile (s := { s with pending := none }) hfault hpiece

/-! ## Blocks -/

theorem gt_of_forall₂ {indents front : List Indentation} (h : List.Forall₂ Deeper indents front) :
    ∀ j ∈ front, j.compare? {} = some .gt := by
  induction h with
  | nil => exact fun j hj => nomatch hj
  | cons hij _ ih =>
    intro j hj
    obtain rfl | hj := List.mem_cons.1 hj
    · exact hij.gt
    · exact ih j hj

/-- Code at the margin closes all blocks that are open one level deeper. -/
theorem Alongside.indents_gt (h : Alongside s d) :
    ∃ i outer, d.indents = i :: outer ∧ outer.length = s.indents.length ∧
      ∀ j ∈ i :: outer, j.compare? {} = some .gt := by
  obtain ⟨front, hfront, hindents⟩ := h.indents
  have hall : ∀ j ∈ front ++ [⟨4, 4⟩], j.compare? {} = some .gt := by
    intro j hj
    obtain hj | hj := List.mem_append.1 hj
    · exact gt_of_forall₂ hfront j hj
    · rw [List.mem_singleton.1 hj]
      exact (Deeper.blanks 0).gt
  have hlength := hfront.length_eq
  cases front with
  | nil => exact ⟨_, _, hindents, hlength.symm, hall⟩
  | cons i outer =>
    refine ⟨i, _, hindents, ?_, hall⟩
    rw [hlength]
    exact List.length_append

theorem pieceKind_hangPiece (piece : Piece) :
    pieceKind (hangPiece piece) = (pieceKind piece).map hangKind := by
  cases piece <;> rfl

theorem hangPiece_eq_endOfFile {piece : Piece} (h : hangPiece piece = .token .endOfFile) :
    piece = .token .endOfFile := by
  cases piece with
  | token kind => cases kind <;> first | rfl | cases h
  | comment => cases h
  | lineEnd => cases h

variable {a b c : Scan} {l : List Token} {e : Token} {text : List Char} {lines : Nat}

/-- At the end of the text, the blocks that are still open are closed together with the one
around them. -/
theorem Below.closes (h : Below t a.scanner b.scanner) (ht : t = List.replicate lines '\n' ++ text)
    (margin : AtMargin text) (hend : AtEnd a.scanner) (hfault : a.scanner.step.1.fault = none)
    (hruns : Scan.Runs a l c) (hlast : c.last? = some e) :
    ∃ l' c', Scan.Runs b l' c' ∧
      l'.map Token.kind = (l.map Token.kind).map hangKind ++ [.dedent] ∧
      Leaving text [] c'.scanner := by
  obtain ⟨hfault', hpiece, hstands⟩ := h.lastLine hend hfault
  obtain ⟨i, outer, hindents, hlength, hall⟩ := h.indents_gt
  obtain ⟨l₁, b₁, hruns₁, hkinds₁, hb₁⟩ := run_of_step hfault' (by
    rw [hpiece]
    split <;> simp)
  rw [ht, hindents, ← hb₁] at hstands
  obtain ⟨l₂, b₂, hruns₂, hkinds₂, hleaving⟩ := hstands.run margin hall
  refine ⟨l₁ ++ l₂, b₂, hruns₁.trans hruns₂, ?_, hleaving⟩
  rw [List.map_append, hkinds₁, hkinds₂, hpiece, hend.kinds hruns hlast, hlength,
    List.replicate_succ']
  split <;> simp [hangKind, pieceKind]

/-- **A run one level deeper** finds the same tokens, and then closes its blocks. -/
theorem Below.run (h : Below t a.scanner b.scanner) (ht : t = List.replicate lines '\n' ++ text)
    (margin : AtMargin text) (hruns : Scan.Runs a l c) (hlast : c.last? = some e) :
    ∃ l' c', Scan.Runs b l' c' ∧
      l'.map Token.kind = (l.map Token.kind).map hangKind ++ [.dedent] ∧
      Leaving text [] c'.scanner := by
  induction hruns generalizing b with
  | refl a =>
    obtain ⟨hfault, hpiece⟩ := last?_piece hlast
    obtain ⟨hblank, hline⟩ := step_endOfFile hfault hpiece
    have hcode := inCode_of_nil (h.strings_eq_nil hline)
    exact h.closes ht margin (h.atEnd hcode hblank hfault) hfault (.refl a) hlast
  | @step a a' c found later first rest ih =>
    obtain ⟨hfault, hnext, hfile, hkind⟩ := step_of_next? first
    by_cases hend : InCode a.scanner ∧ behindBlanks a.scanner = []
    · exact h.closes ht margin (h.atEnd hend.1 hend.2 hfault) hfault (.step first rest) hlast
    · have hfound := h.step (fun code hblank => hend ⟨code, hblank⟩) hfault
      obtain ⟨l₁, b₁, hruns₁, hkinds₁, hb₁⟩ := run_of_step hfound.fault (by
        rw [hfound.piece]
        exact fun hpiece => hfile (hangPiece_eq_endOfFile hpiece))
      have hbelow := hfound.next
      rw [hnext, ← hb₁] at hbelow
      obtain ⟨l₂, b₂, hruns₂, hkinds₂, hleaving⟩ := ih hbelow hlast
      refine ⟨l₁ ++ l₂, b₂, hruns₁.trans hruns₂, ?_, hleaving⟩
      rw [List.map_append, hkinds₁, hkinds₂, kinds_append hkind, hfound.piece, pieceKind_hangPiece,
        List.map_append, List.append_assoc]
      cases pieceKind a.scanner.step.1.piece <;> rfl

/-! ## Scripts in their block -/

/-- The text that a string has, as it is written. -/
def writtenText? : Kind → Option (List Char)
  | .string _ text | .replacementText _ text _ => some text
  | _ => none

theorem hangKind_eq_self (kind : Kind) :
    hangKind kind = kind ↔ ∀ text ∈ writtenText? kind, hangText text = text := by
  cases kind <;> simp [hangKind, writtenText?]

theorem map_eq_self {α : Type} {f : α → α} {l : List α} : l.map f = l ↔ ∀ x ∈ l, f x = x := by
  simpa using List.map_inj_left (f := f) (g := id) (l := l)

theorem atMargin_closing : AtMargin closing.toList := by
  constructor
  · decide +kernel
  · decide +kernel

/-- What stands in a bundle behind the registrations. -/
def blockText (source : List Char) : List Char :=
  block source ++ ['\n'] ++ closing.toList

/-- The script in its block ends a line, and one empty line may follow. -/
theorem blockText_eq (source : List Char) :
    ∃ lines, blockText source =
      indent (hoist source).body ++ '\n' :: (List.replicate lines '\n' ++ closing.toList) := by
  unfold blockText block
  split
  · exact ⟨0, by simp⟩
  · exact ⟨1, by simp⟩

/-- A scanner at the start of a script, and one at the start of its block. -/
theorem below_start {source : List Char} (starts : startsTidily source = true)
    (tidy : isTidy source = true) (h : Stands (indent source ++ '\n' :: t) [⟨4, 4⟩] s) :
    Below t { rest := source } s where
  nesting := h.nesting
  line := h.line
  strings := h.strings
  indents := ⟨[], .nil, h.indents⟩
  pending := by
    rw [h.pending]
    exact .none
  sound := {
    tidy
    pending := fun hpending => absurd rfl hpending
    code := fun hline => nomatch hline
    quotes := fun opened hopened => nomatch hopened }
  inside := fun hstrings => absurd rfl hstrings
  standing := by
    apply Standing.atLine
    · rw [h.rest, indent_eq, List.append_assoc]
    · exact starts
    · exact inCode_of_nil rfl

theorem toList_assemble (options : AssembleOptions) (source : String) (modules : List Record) :
    (assemble options source modules).value.toList =
      front options source.toList ++ (modules.map registrationLine).flatMap (· ++ ['\n']) ++
        blockText source.toList := by
  rw [value_assemble, toList_bundleText_eq, blockText]
  simp only [List.append_assoc]

/-- The tokens of a text, and of the text in a block that code at the margin closes. -/
theorem tokens_indent {body text : List Char} {lines : Nat}
    (scanned : (Python.tokens body).fault = none) (mark : body.head? ≠ some '\uFEFF')
    (starts : startsTidily body = true) (tidy : isTidy body = true) (margin : AtMargin text)
    {a : Scan}
    (stands : Stands (indent body ++ '\n' :: (List.replicate lines '\n' ++ text)) [⟨4, 4⟩]
      a.scanner) :
    ∃ l b, Scan.Runs a l b ∧ Leaving text [] b.scanner ∧
      l.map Token.kind =
        ((Python.tokens body).tokens.dropLast.map Token.kind).map hangKind ++ [.dedent] := by
  obtain ⟨c, inner, e, hruns, hlast, htokens⟩ :=
    tokens_eq_iff.1 (show Python.tokens body = ⟨(Python.tokens body).tokens, none⟩ by
      rw [← scanned])
  rw [Scan.start_of_ne mark] at hruns
  obtain ⟨l, b, hruns', hkinds, hleaving⟩ :=
    (below_start starts tidy stands).run rfl margin hruns hlast
  refine ⟨l, b, hruns', hleaving, ?_⟩
  rw [hkinds, htokens, List.dropLast_concat]

/-- Kinds stay the same one level deeper if and only if all lines of strings behind the first are
empty. -/
theorem map_hangKind_eq_self {kinds : List Kind} :
    kinds.map hangKind = kinds ↔ ∀ kind ∈ kinds, ∀ text ∈ writtenText? kind,
      ∀ front back, text = front ++ '\n' :: back → endsEmpty back = true := by
  rw [map_eq_self]
  simp only [hangKind_eq_self, hangText_eq_self]

theorem fault_of_parse {source : List Char} {m : Module} (h : Module.parse source = .ok m) :
    (Python.tokens source).fault = none := by
  unfold Module.parse at h
  dsimp only at h
  split at h
  · assumption
  all_goals cases h

/-- **A script is scanned in its block.** A bundle has its script behind the registrations, in a
block of four blanks. A scanner that gets there finds the tokens of the script, but for the blanks in
the texts of strings, and leaves the block at the closing. The tokens are those of the script if and
only if all lines of strings behind the first are empty. -/
theorem block_scanned (options : AssembleOptions) {source : String} (modules : List Record)
    {m : Module} (accepted : Module.parse source.toList = .ok m) {body : List Char}
    (hoisted : (hoist source.toList).body = body) (mark : body.head? ≠ some '\uFEFF')
    (starts : startsTidily body = true) (tidy : isTidy body = true) :
    ∃ text kinds, (assemble options source modules).value.toList =
        front options source.toList ++ (modules.map registrationLine).flatMap (· ++ ['\n']) ++ text ∧
      (Python.tokens body).tokens.map Token.kind = kinds ++ [.endOfFile] ∧
      (∀ a : Scan, Stands text [⟨4, 4⟩] a.scanner → ∃ l b, Scan.Runs a l b ∧
        Leaving closing.toList [] b.scanner ∧
        l.map Token.kind = kinds.map hangKind ++ [.dedent]) ∧
      (kinds.map hangKind = kinds ↔ ∀ kind ∈ kinds, ∀ text ∈ writtenText? kind,
        ∀ front back, text = front ++ '\n' :: back → endsEmpty back = true) := by
  obtain ⟨m', hparse⟩ := parse_hoist accepted
  rw [hoisted] at hparse
  have scanned := fault_of_parse hparse
  obtain ⟨lines, htext⟩ := blockText_eq source.toList
  rw [hoisted] at htext
  obtain ⟨inner, e, htokens, hkind, -⟩ :=
    closed_of_tokens (show Python.tokens body = ⟨(Python.tokens body).tokens, none⟩ by
      rw [← scanned])
  refine ⟨blockText source.toList, inner.map Token.kind, toList_assemble options source modules,
    ?_, fun a stands => ?_, map_hangKind_eq_self⟩
  · rw [htokens, List.map_append, List.map_singleton, hkind]
  · rw [htext] at stands
    obtain ⟨l, b, hruns, hleaving, hl⟩ :=
      tokens_indent scanned mark starts tidy atMargin_closing stands
    refine ⟨l, b, hruns, hleaving, ?_⟩
    rw [hl, htokens, List.dropLast_concat]

/-! ## Literals over several lines -/

def multiline : String := "x = \"\"\"a\nb\"\"\"\n"

def assigned? : Stmt → Option (List Char)
  | .simple _ (.assign _ (.constant _ (.text value))) => some value
  | _ => none

/-- The statements of the block that a bundle runs its script in. -/
def blockOf (body : List Stmt) : List Stmt :=
  match body.getLast? with
  | some (.compound _ .try block _) => block
  | _ => []

theorem steps_multiline :
    hoist multiline.toList = ⟨[], multiline.toList⟩ ∧
    (Module.parse multiline.toList).toOption.map (·.body.map assigned?) =
      some [some "a\nb".toList] ∧
    (indent multiline.toList).getLast?.getD '\n' = '\n' := by
  decide +kernel

theorem block_scanned_multiline : ∃ text kinds,
    (assemble {} multiline []).value.toList = front {} multiline.toList ++ [] ++ text ∧
      (Python.tokens multiline.toList).tokens.map Token.kind = kinds ++ [.endOfFile] ∧
      ∃ l b, Scan.Runs ⟨{ rest := text, indents := [⟨4, 4⟩] }, none⟩ l b ∧
        Leaving closing.toList [] b.scanner ∧ l.map Token.kind ≠ kinds ++ [.dedent] := by
  obtain ⟨hhoist, hparse, -⟩ := steps_multiline
  obtain ⟨hmark, hstarts, htidy, htext⟩ : multiline.toList.head? ≠ some '\uFEFF' ∧
      startsTidily multiline.toList = true ∧ isTidy multiline.toList = true ∧
      ((Python.tokens multiline.toList).tokens.map Token.kind).map hangKind ≠
        (Python.tokens multiline.toList).tokens.map Token.kind := by
    decide +kernel
  obtain ⟨m, accepted⟩ : ∃ m, Module.parse multiline.toList = .ok m := by
    cases h : Module.parse multiline.toList with
    | ok m => exact ⟨m, rfl⟩
    | error => simp [h, Except.toOption] at hparse
  obtain ⟨text, kinds, hbundle, hkinds, hblock, -⟩ :=
    block_scanned {} [] accepted (congrArg Hoisted.body hhoist) hmark hstarts htidy
  obtain ⟨l, b, hruns, hleaving, hl⟩ :=
    hblock ⟨{ rest := text, indents := [⟨4, 4⟩] }, none⟩ ⟨rfl, rfl, rfl, rfl, rfl, rfl⟩
  refine ⟨text, kinds, hbundle, hkinds, l, b, hruns, hleaving, fun hsame => htext ?_⟩
  rw [hkinds, List.map_append, List.append_cancel_right (hl.symm.trans hsame)]
  rfl

theorem toList_text (lines : List String) :
    (Template.text lines).toList = lines.flatMap (·.toList ++ ['\n']) := by
  have hend : "\n".toList = ['\n'] := by decide
  simp only [Template.text, String.toList_join, List.flatMap_map, String.toList_append, hend]

theorem toList_multiline : (assemble {} multiline []).value.toList =
    defaultShebang.toList ++ ['\n'] ++ openingLines.flatMap (·.toList ++ ['\n']) ++
      indent multiline.toList ++ ['\n'] ++ closingLines.flatMap (·.toList ++ ['\n']) := by
  obtain ⟨hhoist, -, hlast⟩ := steps_multiline
  have hshebang : shebangLine {} multiline.toList = defaultShebang := rfl
  rw [value_assemble, toList_bundleText_eq, front, block, hhoist, if_pos hlast, hshebang, opening,
    closing, toList_text, toList_text]
  simp only [List.flatMap_nil, List.map_nil, List.append_nil]

/-- The script assigns one text, and the block of its bundle assigns another. -/
theorem constant_indented :
    (Module.parse multiline.toList).toOption.map (·.body.map assigned?) =
      some [some "a\nb".toList] ∧
    (Module.parse (assemble {} multiline []).value.toList).toOption.map
        (fun m => (blockOf m.body).map assigned?) =
      some [none, some "a\n    b".toList] := by
  refine ⟨steps_multiline.2.1, ?_⟩
  rw [toList_multiline]
  -- The characters of the literals are written out first, which is slow to compute.
  simp only [defaultShebang, openingLines, closingLines, multiline, List.flatMap_cons,
    List.flatMap_nil, String.reduceToList]
  decide +kernel

end ScriptBundle
