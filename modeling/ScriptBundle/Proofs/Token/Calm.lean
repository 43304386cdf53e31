import ScriptBundle.Proofs.Token.Runs

namespace ScriptBundle.Python

open ScriptBundle.Text

namespace Kind

/-- Tokens that leave blocks and strings as they are. -/
def isCalm : Kind → Bool
  | .name _ | .keyword _ | .string _ _ | .newline => true
  | .symbol mark => match mark with
    | .lpar | .rpar | .dot | .ellipsis | .comma | .star | .semi => true
    | _ => false
  | _ => false

def brackets : Kind → Nat → Nat
  | .symbol .lpar, n => n + 1
  | .symbol .rpar, n => n - 1
  | _, n => n

end Kind

namespace Piece

/-- Pieces that leave blocks and strings as they are. -/
def isCalm : Piece → Bool
  | .token kind => kind.isCalm
  | .comment | .lineEnd => true

def brackets : Piece → Nat → Nat
  | .token kind, n => kind.brackets n
  | .comment, n | .lineEnd, n => n

end Piece

namespace Scanner

/-- What a calm piece does to the scanner: it leaves strings and blocks alone and counts
parentheses. Only a line end outside brackets ends a line. -/
structure Keeps (s : Scanner) (piece : Piece) (next : Scanner) : Prop where
  strings : next.strings = s.strings
  pending : next.pending = s.pending
  indents : next.indents = s.indents
  nesting : next.nesting = piece.brackets s.nesting
  inside : ∀ kind, piece = .token kind → kind ≠ .newline → next.line = .inside
  stays : (∀ kind, piece ≠ .token kind) → s.line = .inside → next.line = .inside
  lineEnd : piece = .lineEnd → ¬(s.nesting = 0 ∧ s.line = .inside)

/-- A step keeps strings and blocks if it finds a calm piece and no fault. -/
def KeepsCalm (s : Scanner) (p : Lexeme × Scanner) : Prop :=
  p.1.fault = none → p.1.piece.isCalm = true → s.Keeps p.1.piece p.2

variable {s : Scanner} {n : Nat}

/-- What keeps strings and blocks behind some characters keeps them. -/
theorem KeepsCalm.behind {p : Lexeme × Scanner} (h : (s.advance n).KeepsCalm p) :
    s.KeepsCalm p := by
  intro hfault hcalm
  obtain ⟨hstrings, hpending, hindents, hnesting, hinside, hstays, hend⟩ := h hfault hcalm
  exact ⟨hstrings, hpending, hindents, hnesting, hinside, hstays, hend⟩

/-- A token that is neither a bracket nor a line end. -/
theorem keeps_accept (kind : Kind) (hkind : ∀ m, kind.brackets m = m) :
    s.Keeps (.token kind) (s.accept n kind).2 where
  strings := rfl
  pending := rfl
  indents := rfl
  nesting := (hkind s.nesting).symm
  inside := fun _ _ _ => rfl
  stays := fun h => absurd rfl (h kind)
  lineEnd := fun h => nomatch h

/-- A bracket. -/
theorem keeps_bracket (mark : Symbol) {m : Nat} (hmark : (Kind.symbol mark).brackets s.nesting = m) :
    s.Keeps (.token (.symbol mark)) ({ s with nesting := m }.accept n (.symbol mark)).2 where
  strings := rfl
  pending := rfl
  indents := rfl
  nesting := hmark.symm
  inside := fun _ _ _ => rfl
  stays := fun h => absurd rfl (h _)
  lineEnd := fun h => nomatch h

/-- The end of a line. -/
theorem keeps_newline :
    s.Keeps (.token .newline) { s.advance n with line := .atStart } where
  strings := rfl
  pending := rfl
  indents := rfl
  nesting := rfl
  inside := fun _ h hkind => absurd (Piece.token.inj h).symm hkind
  stays := fun h => absurd rfl (h _)
  lineEnd := fun h => nomatch h

theorem keepsCalm_reject {fault : Nat} : s.KeepsCalm (s.reject n fault) := fun h => nomatch h

theorem keepsCalm_stepEnd : s.KeepsCalm s.stepEnd := by
  unfold stepEnd
  split
  · exact fun h => nomatch h
  · split
    · exact fun _ _ => keeps_newline (n := 0)
    · split <;> exact fun _ h => nomatch h

theorem keepsCalm_stepLineEnd (hstrings : s.strings = []) : s.KeepsCalm (s.stepLineEnd n) := by
  unfold stepLineEnd
  split
  · exact fun _ _ => keeps_newline
  · rename_i hline
    have hmap : (s.advance n).mapString (·.closeSpec s.nesting) = s.advance n := by
      unfold mapString advance
      simp only [hstrings]
    rw [hmap]
    refine fun _ _ => ⟨rfl, rfl, rfl, rfl, fun _ h => (nomatch h), fun _ h => h, fun _ h => ?_⟩
    simp [h.1, h.2] at hline

theorem keepsCalm_stepString (letters : Nat) (form : StringForm) (quote : Char) :
    s.KeepsCalm (s.stepString letters form quote) := by
  unfold stepString
  extract_lets text triple form opening body
  split
  · exact fun _ h => nomatch h
  · exact fun _ _ => keeps_accept (.string form _) fun _ => rfl

theorem keepsCalm_stepWord (c : Char) (start : isIdentifierStart c = true) (t : List Char) :
    s.KeepsCalm (s.stepWord c start t) := by
  unfold stepWord
  dsimp only
  split
  · split
    · exact fun _ _ => keeps_accept (.keyword _) fun _ => rfl
    · exact fun _ _ => keeps_accept (.name _) fun _ => rfl
  · exact fun _ _ => keeps_accept (.name _) fun _ => rfl

theorem keepsCalm_stepIdentifier (c : Char) (start : isIdentifierStart c = true) (t : List Char) :
    s.KeepsCalm (s.stepIdentifier c start t) := by
  have hword := keepsCalm_stepWord (s := s) c start t
  unfold stepIdentifier
  split
  · split
    · split
      · exact keepsCalm_stepString _ _ _
      · exact hword
    · split
      · split
        · split
          · exact keepsCalm_stepString _ _ _
          · exact hword
        · exact hword
      · exact hword
  · exact hword

theorem keepsCalm_stepSymbol (hstrings : s.strings = []) : s.KeepsCalm s.stepSymbol := by
  unfold stepSymbol
  cases symbol? s.rest with
  | none => exact keepsCalm_reject
  | some found =>
    obtain ⟨mark, length⟩ := found
    cases mark with
    | lpar => exact fun _ _ => keeps_bracket .lpar rfl
    | rpar => exact fun _ _ => keeps_bracket .rpar rfl
    | dot | ellipsis | comma | star | semi =>
      exact fun _ _ => keeps_accept (.symbol _) fun _ => rfl
    | rbrace | colon | colonEqual =>
      rw [hstrings]
      exact fun _ h => nomatch h
    | _ => exact fun _ h => nomatch h

theorem keepsCalm_stepNumber : s.KeepsCalm s.stepNumber := by
  unfold stepNumber
  split
  · exact fun _ h => nomatch h
  · exact fun h => nomatch h

theorem keepsCalm_stepCharacter (hstrings : s.strings = []) : s.KeepsCalm s.stepCharacter := by
  unfold stepCharacter
  split
  · exact keepsCalm_stepEnd
  · split
    · exact keepsCalm_stepIdentifier _ _ _
    · split
      · exact keepsCalm_stepNumber
      · split
        · exact fun _ _ => ⟨rfl, rfl, rfl, rfl, fun _ h => (nomatch h), fun _ h => h,
            fun h => nomatch h⟩
        · split
          · exact keepsCalm_stepString _ _ _
          · split
            · exact keepsCalm_stepNumber
            · split
              · exact keepsCalm_stepLineEnd hstrings
              · split
                · exact keepsCalm_stepLineEnd hstrings
                · exact keepsCalm_stepSymbol hstrings

theorem keepsCalm_stepIndent (hstrings : s.strings = []) (hline : s.line = .atStart) :
    s.KeepsCalm s.stepIndent := by
  unfold stepIndent
  split
  rename_i indent length stray _
  split
  · exact keepsCalm_reject
  · extract_lets next idle next' last
    split
    · exact KeepsCalm.behind (keepsCalm_stepCharacter (s := s.advance length) hstrings)
    · split
      · intro hfault hcalm
        have hnext := keepsCalm_stepCharacter (s := next') hstrings hfault hcalm
        refine ⟨hnext.strings, hnext.pending, hnext.indents, hnext.nesting, hnext.inside, ?_, ?_⟩
        · exact fun _ h => nomatch hline.symm.trans h
        · exact fun _ h => nomatch hline.symm.trans h.2
      · exact fun _ h => nomatch h
      · split
        · exact fun _ h => nomatch h
        · exact fun _ h => nomatch h
        · exact fun h => nomatch h
      · exact fun h => nomatch h

/-- **A step that finds a calm piece** leaves strings and blocks as they are. -/
theorem step_keeps (hstrings : s.strings = []) (hpending : s.pending = none) :
    s.KeepsCalm s.step := by
  unfold step
  rw [hstrings, hpending]
  unfold stepCode
  dsimp only
  split
  · exact keepsCalm_stepIndent hstrings ‹_›
  · split
    · exact keepsCalm_reject
    · exact KeepsCalm.behind (keepsCalm_stepCharacter hstrings)

end Scanner

namespace Scan

variable {a b c : Scan} {l m : List Token} {found : Option Token} {t : Token}

/-- A run to a token finds nothing before it. -/
theorem Runs.uncons (h : Runs a (t :: l) c) :
    ∃ b b', Runs a [] b ∧ b.next? = some (some t, b') ∧ Runs b' l c := by
  generalize hlist : t :: l = list at h
  induction h with
  | refl => cases hlist
  | @step a b c found later first rest ih =>
    cases found with
    | some u =>
      obtain ⟨rfl, rfl⟩ := List.cons.inj hlist
      exact ⟨a, b, .refl a, first, rest⟩
    | none =>
      obtain ⟨d, d', hd, hnext, hrest⟩ := ih hlist
      exact ⟨d, d', .step first hd, hnext, hrest⟩

/-- Behind a token no line end has been seen. -/
theorem next?_lineEnd (h : a.next? = some (some t, b)) : t.lineEnd = a.lineEnd ∧ b.lineEnd = none := by
  unfold next? at h
  dsimp only at h
  split at h
  · cases h
  · split at h
    · cases h
    · cases h
    · split at h
      · cases h
      · cases h
        exact ⟨rfl, rfl⟩

/-- A run is split behind a token. -/
theorem Runs.split (h : Runs a (l ++ m) c) :
    ∃ b, Runs a l b ∧ Runs b m c ∧ ∀ t ∈ l.getLast?, t.stop = b.scanner.pos ∧ b.lineEnd = none := by
  induction l generalizing a with
  | nil => exact ⟨a, .refl a, h, fun t ht => nomatch ht⟩
  | cons t l ih =>
    obtain ⟨d, d', hd, hnext, hrest⟩ := Runs.uncons h
    have hfirst : Runs a [t] d' := hd.trans (.step hnext (.refl d'))
    cases l with
    | nil =>
      refine ⟨d', hfirst, hrest, fun u hu => ?_⟩
      obtain rfl := Option.mem_some.1 hu
      exact ⟨(next?_moved hnext).next _ rfl, (next?_lineEnd hnext).2⟩
    | cons u l =>
      obtain ⟨b, hb, hbc, hlast⟩ := ih hrest
      exact ⟨b, hfirst.trans hb, hbc, fun v hv => hlast v (by rwa [List.getLast?_cons_cons] at hv)⟩

/-- No string and no dedent is open. -/
structure Plain (a : Scan) : Prop where
  strings : a.scanner.strings = []
  pending : a.scanner.pending = none

theorem plain_start (source : List Char) : (start source).Plain := by
  unfold start
  constructor
  · dsimp only
    split <;> rfl
  · dsimp only
    split <;> rfl

/-- A step that finds a calm token, or none. -/
theorem next?_keeps (h : a.next? = some (found, b)) (ha : a.Plain)
    (hcalm : ∀ t ∈ found, t.kind.isCalm = true) :
    ∃ piece, a.scanner.Keeps piece b.scanner ∧ (∀ t ∈ found, piece = .token t.kind) ∧
      (found = none → piece = .comment ∧ b.lineEnd = a.lineEnd ∨ piece = .lineEnd) := by
  have hkeeps := Scanner.step_keeps ha.strings ha.pending
  unfold next? at h
  generalize a.scanner.step = p at h hkeeps
  obtain ⟨⟨piece, start, stop, fault⟩, next⟩ := p
  cases fault with
  | some => cases h
  | none =>
    cases piece with
    | comment =>
      cases h
      exact ⟨.comment, hkeeps rfl rfl, fun t ht => (nomatch ht), fun _ => .inl ⟨rfl, rfl⟩⟩
    | lineEnd =>
      cases h
      exact ⟨.lineEnd, hkeeps rfl rfl, fun t ht => (nomatch ht), fun _ => .inr rfl⟩
    | token kind =>
      by_cases hkind : kind = .endOfFile
      · simp [hkind] at h
      · simp only [hkind] at h
        cases h
        refine ⟨.token kind, hkeeps rfl (hcalm _ rfl), fun t ht => ?_, fun h => nomatch h⟩
        obtain rfl := Option.mem_some.1 ht
        rfl

/-- The brackets open behind some calm tokens. -/
def bracketsBehind (l : List Kind) (n : Nat) : Nat := l.foldl (fun n kind => kind.brackets n) n

/-- **A run over calm tokens** leaves strings and blocks as they are. -/
theorem Runs.keeps (h : Runs a l b) (ha : a.Plain) (hcalm : ∀ t ∈ l, t.kind.isCalm = true) :
    b.Plain ∧ b.scanner.indents = a.scanner.indents ∧
      b.scanner.nesting = bracketsBehind (l.map Token.kind) a.scanner.nesting := by
  induction h with
  | refl => exact ⟨ha, rfl, rfl⟩
  | @step a b c found later first rest ih =>
    have hfound : ∀ t ∈ found, t.kind.isCalm = true := by
      intro t ht
      exact hcalm t (List.mem_append_left _ (Option.mem_toList.2 ht))
    obtain ⟨piece, hkeeps, hpiece, hnone⟩ := next?_keeps first ha hfound
    have hb : b.Plain := ⟨hkeeps.strings.trans ha.strings, hkeeps.pending.trans ha.pending⟩
    obtain ⟨hc, hindents, hnesting⟩ :=
      ih hb fun t ht => hcalm t (List.mem_append_right _ ht)
    refine ⟨hc, hindents.trans hkeeps.indents, hnesting.trans ?_⟩
    rw [List.map_append, hkeeps.nesting]
    cases found with
    | none => obtain ⟨rfl, -⟩ | rfl := hnone rfl <;> rfl
    | some t =>
      rw [hpiece t rfl]
      rfl

/-- Behind calm tokens that end no line, the scanner is inside one. -/
theorem Runs.inside (h : Runs a l b) (ha : a.Plain) (hcalm : ∀ t ∈ l, t.kind.isCalm = true)
    (hline : ∀ t ∈ l, t.kind ≠ .newline) (hinside : l ≠ [] ∨ a.scanner.line = .inside) :
    b.scanner.line = .inside := by
  induction h with
  | refl => exact hinside.resolve_left fun h => h rfl
  | @step a b c found later first rest ih =>
    have hfound : ∀ t ∈ found, t ∈ found.toList ++ later := fun t ht =>
      List.mem_append_left _ (Option.mem_toList.2 ht)
    obtain ⟨piece, hkeeps, hpiece, hnone⟩ := next?_keeps first ha fun t ht => hcalm t (hfound t ht)
    have hb : b.Plain := ⟨hkeeps.strings.trans ha.strings, hkeeps.pending.trans ha.pending⟩
    refine ih hb (fun t ht => hcalm t (List.mem_append_right _ ht))
      (fun t ht => hline t (List.mem_append_right _ ht)) ?_
    cases found with
    | none =>
      refine hinside.imp_right fun h => hkeeps.stays ?_ h
      rintro kind rfl
      obtain ⟨h, -⟩ | h := hnone rfl <;> cases h
    | some t => exact .inr (hkeeps.inside t.kind (hpiece t rfl) (hline t (hfound t rfl)))

/-- Outside brackets, no line ends before the next token of a line. -/
theorem Runs.lineEnd_eq_none (h : Runs a (t :: l) c) (ha : a.Plain) (hend : a.lineEnd = none)
    (hnesting : a.scanner.nesting = 0) (hline : a.scanner.line = .inside) : t.lineEnd = none := by
  obtain ⟨b, b', hb, hnext, -⟩ := h.uncons
  rw [(next?_lineEnd hnext).1]
  generalize hnil : ([] : List Token) = m at hb
  clear hnext h
  induction hb with
  | refl => exact hend
  | @step a b c found later first rest ih =>
    cases found with
    | some => cases hnil
    | none =>
      obtain ⟨piece, hkeeps, -, hnone⟩ := next?_keeps first ha fun t ht => nomatch ht
      obtain ⟨rfl, hsame⟩ | rfl := hnone rfl
      · have hb : b.Plain := ⟨hkeeps.strings.trans ha.strings, hkeeps.pending.trans ha.pending⟩
        refine ih hb (hsame.trans hend) (hkeeps.nesting.trans hnesting) ?_ hnil
        exact hkeeps.stays (fun _ h => nomatch h) hline
      · exact absurd ⟨hnesting, hline⟩ (hkeeps.lineEnd rfl)

end Scan

/-! ## Brackets that are closed again -/

/-- Tokens of some kinds that close the brackets that they open. -/
structure Balanced (P : Kind → Prop) (l : List Token) : Prop where
  kinds : ∀ t ∈ l, P t.kind
  brackets : ∀ n, Scan.bracketsBehind (l.map Token.kind) n = n

namespace Balanced

variable {P : Kind → Prop} {l m : List Token} {opener closer : Token}

theorem of_neutral (hkinds : ∀ t ∈ l, P t.kind) (h : ∀ t ∈ l, ∀ n, t.kind.brackets n = n) :
    Balanced P l := by
  refine ⟨hkinds, fun n => ?_⟩
  induction l with
  | nil => rfl
  | cons t l ih =>
    rw [List.map_cons, Scan.bracketsBehind, List.foldl_cons, h t (by simp)]
    exact ih (fun u hu => hkinds u (by simp [hu])) fun u hu => h u (by simp [hu])

theorem append (hl : Balanced P l) (hm : Balanced P m) : Balanced P (l ++ m) := by
  constructor
  · intro t ht
    obtain ht | ht := List.mem_append.1 ht
    · exact hl.kinds t ht
    · exact hm.kinds t ht
  · intro n
    have hl' := hl.brackets n
    have hm' := hm.brackets n
    rw [Scan.bracketsBehind] at *
    rw [List.map_append, List.foldl_append, hl', hm']

theorem parenthesized (hl : Balanced P l) (hopen : opener.kind = .symbol .lpar)
    (hclose : closer.kind = .symbol .rpar) (hlpar : P (.symbol .lpar)) (hrpar : P (.symbol .rpar)) :
    Balanced P (opener :: (l ++ [closer])) := by
  constructor
  · intro t ht
    simp only [List.mem_cons, List.mem_append] at ht
    obtain rfl | ht | rfl | ht := ht
    · rwa [hopen]
    · exact hl.kinds t ht
    · rwa [hclose]
    · cases ht
  · intro n
    have hl' := hl.brackets (n + 1)
    have hopened : opener.kind.brackets n = n + 1 := by
      rw [hopen]
      rfl
    have hclosed : closer.kind.brackets (n + 1) = n := by
      rw [hclose]
      rfl
    rw [Scan.bracketsBehind] at *
    simp only [List.map_cons, List.map_append, List.map_nil, List.foldl_cons, List.foldl_append,
      List.foldl_nil, hopened, hl', hclosed]

end Balanced

end ScriptBundle.Python
