import ScriptBundle.Proofs.Token.Range
import ScriptBundle.Proofs.Token.Shift

/-!
# A statement in the place of another

Where an import opens a module, the word `pass` may stand in its place: the tokens before it are the
same, and those behind it are the same in earlier places.
-/

namespace ScriptBundle.Python

open ScriptBundle.Text

namespace Scan

def before (a : Scan) (text : List Char) : Scan := ⟨a.scanner.before text, a.lineEnd⟩

variable {a b c : Scan} {l : List Token} {found : Option Token} {t : Token}

/-- The same step before another text finds the same. -/
theorem next?_before {text z : List Char} (h : a.next? = some (found, b))
    (hstep : (a.scanner.before text).step = (a.scanner.step.1, b.scanner.before z)) :
    (a.before text).next? = some (found, b.before z) := by
  unfold next? at h ⊢
  unfold before
  dsimp only
  rw [hstep]
  generalize a.scanner.step = p at h ⊢
  obtain ⟨⟨piece, start, stop, fault⟩, next⟩ := p
  cases fault with
  | some => cases h
  | none =>
    cases piece with
    | comment | lineEnd =>
      cases h
      rfl
    | token kind =>
      by_cases hkind : kind = .endOfFile
      · simp [hkind] at h
      · simp only [hkind] at h ⊢
        cases h
        rfl

/-- A step at the front of a module finds the same before all texts. -/
theorem next?_swap (h : a.next? = some (found, b)) (ha : a.Plain)
    (hfront : ∀ t ∈ found, t.kind.isFront = true) {z : List Char} (hz : Swapped b.scanner.rest z) :
    (a.before (a.scanner.rest.take (b.scanner.pos - a.scanner.pos) ++ z)).next? =
      some (found, b.before z) := by
  have hmoved := (next?_moved h).rest
  obtain ⟨lexeme, hstep, hfault, htoken, hnone⟩ := step_of_next? h
  have hpiece : lexeme.piece.isFront = true := by
    cases found with
    | none => rcases hnone rfl with h | h <;> rw [h] <;> rfl
    | some t =>
      rw [htoken t rfl]
      exact hfront t rfl
  have hne : b.scanner.rest ≠ [] := by
    rintro hnil
    rw [hnil] at hz
    cases hz
  obtain ⟨k, -, hrest, hswap⟩ :=
    Scanner.finds_step ha.strings ha.pending (by rw [hstep]; exact hfault)
      (by rw [hstep]; exact hpiece) (by rw [hstep]; exact hne)
  rw [hstep] at hrest hswap
  -- both ways to count the characters of the piece leave the same text
  have hk : k = b.scanner.pos - a.scanner.pos := by
    have hlengths := congrArg List.length (hrest.symm.trans hmoved)
    have hpos := List.length_pos_iff.2 hne
    rw [hmoved] at hpos
    rw [List.length_drop] at hpos
    rw [List.length_drop, List.length_drop] at hlengths
    omega
  rw [← hk]
  refine next?_before h ((hswap z ?_).trans ?_)
  · rw [← hrest]
    exact hz
  · rw [hstep]

/-- **Tokens at the front of a module** are found before all texts. -/
theorem Runs.swap (h : Runs a l b) (ha : a.Plain) (hfront : ∀ t ∈ l, t.kind.isFront = true)
    {z : List Char} (hz : Swapped b.scanner.rest z) :
    Runs (a.before (a.scanner.rest.take (b.scanner.pos - a.scanner.pos) ++ z)) l (b.before z) := by
  induction h with
  | refl a =>
    rw [Nat.sub_self]
    exact .refl _
  | @step a b c found later first rest ih =>
    have hfound : ∀ t ∈ found, t.kind.isFront = true := fun t ht =>
      hfront t (List.mem_append_left _ (Option.mem_toList.2 ht))
    obtain ⟨_, hkeeps, -⟩ := next?_keeps first ha fun t ht => Kind.isCalm_of_isFront (hfound t ht)
    have hmoved := next?_moved first
    have hle := hmoved.pos
    have hle' := rest.pos_le
    have hsplit : a.scanner.rest.take (c.scanner.pos - a.scanner.pos) ++ z =
        a.scanner.rest.take (b.scanner.pos - a.scanner.pos) ++
          (b.scanner.rest.take (c.scanner.pos - b.scanner.pos) ++ z) := by
      rw [hmoved.rest, ← List.append_assoc, ← List.take_add]
      congr 2
      omega
    have hnext : Swapped b.scanner.rest
        (b.scanner.rest.take (c.scanner.pos - b.scanner.pos) ++ z) := by
      have happend := hz.append (b.scanner.rest.take (c.scanner.pos - b.scanner.pos))
      rwa [rest.rest_eq, List.take_append_drop] at happend
    rw [hsplit]
    refine .step (next?_swap first ha hfound hnext) (ih ?_ ?_ hz)
    · exact ⟨hkeeps.strings.trans ha.strings, hkeeps.pending.trans ha.pending⟩
    · exact fun t ht => hfront t (List.mem_append_right _ ht)

/-- No word goes on behind a token that is followed by the end of its statement. -/
theorem Runs.stops (h : Runs a (t :: l) c) (ha : a.Plain) (hline : a.scanner.line = .inside)
    (ht : t.kind = .newline ∨ t.kind = .symbol .semi) : Scanner.Stops a.scanner.rest := by
  generalize hlist : t :: l = list at h
  cases h with
  | refl => cases hlist
  | @step _ b _ found later first rest =>
    obtain ⟨lexeme, hstep, hfault, htoken, hnone⟩ := step_of_next? first
    refine Scanner.stops_of_step ha.strings ha.pending hline (by rw [hstep]; exact hfault) ?_
    intro kind hkind
    rw [hstep] at hkind
    cases found with
    | none => rcases hnone rfl with h | h <;> rw [h] at hkind <;> cases hkind
    | some u =>
      obtain ⟨rfl, -⟩ := List.cons.inj hlist
      rw [htoken t rfl] at hkind
      exact Piece.token.inj hkind ▸ ht

/-- The word `pass` is found in the place of `from`. -/
theorem next?_pass (h : a.next? = some (some t, b)) (ha : a.Plain)
    (ht : t.kind = .keyword .«from») {z : List Char} (hz : Scanner.Stops z) :
    ∃ m, a.scanner.rest.drop m = 'f' :: 'r' :: 'o' :: 'm' :: b.scanner.rest ∧
      t.start = a.scanner.pos + m ∧ t.stop = t.start + 4 ∧
      (a.before (a.scanner.rest.take m ++ 'p' :: 'a' :: 's' :: 's' :: z)).next? =
        some (some { t with kind := .keyword .«pass» }, b.before z) := by
  obtain ⟨lexeme, hstep, -, htoken, -⟩ := step_of_next? h
  obtain rfl := htoken t rfl
  rw [ht] at hstep
  obtain ⟨m, hdrop, hstart, hstop, hpass⟩ := Scanner.step_pass ha.strings ha.pending hstep
  refine ⟨m, hdrop, hstart, hstop, ?_⟩
  have hfrom : a.next? = some (some ⟨.keyword .«from», t.start, t.stop, b.scanner.nesting,
      a.lineEnd⟩, ⟨b.scanner, none⟩) := by
    unfold next?
    rw [hstep]
    rfl
  have hpair := Option.some.inj (h.symm.trans hfrom)
  obtain ⟨htoken', hb⟩ := Prod.mk.inj hpair
  have hnesting := congrArg Token.nesting (Option.some.inj htoken')
  have hlineEnd := congrArg Token.lineEnd (Option.some.inj htoken')
  unfold next? before
  dsimp only at hnesting hlineEnd ⊢
  rw [hpass z hz, hnesting, hlineEnd, hb]
  rfl

/-- The file does not end within a line. -/
theorem Runs.last?_inside (h : Runs a [] b) (ha : a.Plain) (hline : a.scanner.line = .inside) :
    b.last? = none := by
  have hcalm : ∀ t ∈ ([] : List Token), t.kind.isCalm = true := fun t ht => nomatch ht
  have hb := (h.keeps ha hcalm).1
  have hinside := h.inside ha hcalm (fun t ht => nomatch ht) (.inr hline)
  unfold last?
  dsimp only
  split
  · rfl
  · split
    · rename_i hpiece
      exact absurd hinside (Scanner.step_endOfFile hb.strings hb.pending hpiece)
    · rfl

theorem start_of_ne {text : List Char} (h : text.head? ≠ some '\uFEFF') :
    start text = ⟨{ rest := text }, none⟩ := by
  unfold start
  split
  · exact absurd rfl h
  · rfl

/-- A source is scanned from its start, up to its byte-order mark. -/
theorem rest_start (source : List Char) :
    (start source).scanner.rest = source.drop (start source).scanner.pos := by
  unfold start
  dsimp only
  split <;> rfl

theorem start_pos_le (source : List Char) : (start source).scanner.pos ≤ source.length := by
  unfold start
  dsimp only
  split
  · exact Nat.le_add_left 1 _
  · exact Nat.zero_le _

/-- Where scanning starts does not depend on what stands later. -/
theorem start_before {source z : List Char} {n : Nat} (hn : (start source).scanner.pos ≤ n)
    (hz : z.head? ≠ some '\uFEFF') :
    start (source.take n ++ z) = (start source).before
      ((start source).scanner.rest.take (n - (start source).scanner.pos) ++ z) := by
  by_cases hmark : source.head? = some '\uFEFF'
  · obtain ⟨text, rfl⟩ := List.head?_eq_some_iff.1 hmark
    obtain ⟨j, rfl⟩ : ∃ j, n = j + 1 := ⟨n - 1, by
      have hone : (start ('\uFEFF' :: text)).scanner.pos = 1 := rfl
      omega⟩
    rfl
  · have hhead : (source.take n ++ z).head? ≠ some '\uFEFF' := by
      cases source with
      | nil => simpa using hz
      | cons c text =>
        cases n with
        | zero => simpa using hz
        | succ n => exact hmark
    rw [start_of_ne hhead, start_of_ne hmark]
    rfl

/-- The moments of scanning around an import: before its word, behind it, and behind the import. -/
structure Around (source : List Char) (front inner behind : List Token) (first : Token)
    (a b d : Scan) : Prop where
  toWord : Runs (.start source) front a
  word : a.next? = some (some first, b)
  toEnd : Runs b inner d
  last : ∀ t ∈ (first :: inner).getLast?, t.stop = d.scanner.pos ∧ d.lineEnd = none
  later : ∃ mid eof c, behind = mid ++ [eof] ∧ Runs d mid c ∧ c.last? = some eof

theorem around_of_tokens {source : List Char} {front inner behind : List Token} {first : Token}
    (h : Python.tokens source = ⟨front ++ first :: (inner ++ behind), none⟩) (hne : behind ≠ []) :
    ∃ a b d, Around source front inner behind first a b d := by
  obtain ⟨c, l, eof, hruns, heof, hlist⟩ := tokens_eq_iff.1 h
  obtain rfl | ⟨mid, u, rfl⟩ := List.eq_nil_or_concat behind
  · exact absurd rfl hne
  · have happend : (front ++ (first :: inner ++ mid)) ++ [u] = l ++ [eof] := by simpa using hlist
    obtain ⟨rfl, hlast⟩ := List.append_inj' happend rfl
    obtain rfl := (List.cons.inj hlast).1
    obtain ⟨a, hfront, hrest, -⟩ := hruns.split
    obtain ⟨d, hinner, hbehind, hd⟩ := hrest.split
    obtain ⟨a', b, ha', hword, hinner⟩ := hinner.uncons
    exact ⟨a', b, d, by simpa using hfront.trans ha', hword, hinner, hd,
      mid, u, c, by simp, hbehind, heof⟩

/-- `from` is the first word of an import. -/
theorem Around.word_le {source : List Char} {front inner behind : List Token} {first last : Token}
    {d : Scan} (h : Around source front inner behind first a b d)
    (hlast : (first :: inner).getLast? = some last) (hfour : first.stop = first.start + 4) :
    first.start + 4 ≤ last.stop := by
  have hword := (next?_moved h.word).next first rfl
  have hle := h.toEnd.pos_le
  have hstop := (h.last last hlast).1
  omega

section Around

variable {source : List Char} {front inner behind : List Token} {first : Token} {d : Scan}
  (h : Around source front inner behind first a b d)
  (hfront : ∀ t ∈ front, t.kind.isFront = true) (hfirst : first.kind = .keyword .«from»)
  (hinner : ∀ t ∈ inner, t.kind.isCalm = true ∧ t.kind ≠ .newline)
include h hfront

theorem Around.before : a.Plain ∧ a.scanner.nesting = bracketsBehind (front.map Token.kind) 0 := by
  have hcalm : ∀ t ∈ front, t.kind.isCalm = true := fun t ht => Kind.isCalm_of_isFront (hfront t ht)
  obtain ⟨hplain, -, hnesting⟩ := h.toWord.keeps (plain_start source) hcalm
  refine ⟨hplain, hnesting.trans (congrArg _ ?_)⟩
  unfold start
  dsimp only
  split <;> rfl

/-- Up to the import, a module with the word `pass` in its place has the same tokens. -/
theorem Around.toPass {m : Nat} {word : List Char}
    (hfrom : a.scanner.rest.drop m = 'f' :: word) (hstart : first.start = a.scanner.pos + m)
    (z : List Char) :
    Runs (.start (source.take first.start ++ 'p' :: z)) front
      (a.before (a.scanner.rest.take m ++ 'p' :: z)) := by
  have hswap := (Swapped.letter word z).append (a.scanner.rest.take m)
  rw [← hfrom, List.take_append_drop] at hswap
  have hrun := h.toWord.swap (plain_start source) hfront hswap
  have hle := h.toWord.pos_le
  have htext : (start source).scanner.rest.take (a.scanner.pos - (start source).scanner.pos) ++
        (a.scanner.rest.take m ++ 'p' :: z) =
      (start source).scanner.rest.take (first.start - (start source).scanner.pos) ++ 'p' :: z := by
    rw [h.toWord.rest_eq, ← List.append_assoc, ← List.take_add, hstart]
    congr 2
    omega
  rwa [htext, ← start_before (by omega) (by simp)] at hrun

include hfirst

theorem Around.afterWord : b.Plain ∧ b.scanner.line = .inside ∧ b.lineEnd = none ∧
    b.scanner.nesting = a.scanner.nesting ∧ Runs a [first] b := by
  obtain ⟨ha, -⟩ := h.before hfront
  have hrun : Runs a [first] b := .step h.word (.refl b)
  have hcalm : ∀ t ∈ [first], t.kind.isCalm = true := by
    intro t ht
    rw [List.mem_singleton.1 ht, hfirst]
    rfl
  have hline : ∀ t ∈ [first], t.kind ≠ .newline := by
    intro t ht
    rw [List.mem_singleton.1 ht, hfirst]
    simp
  obtain ⟨hb, -, hnesting⟩ := hrun.keeps ha hcalm
  refine ⟨hb, hrun.inside ha hcalm hline (.inl (by simp)), (next?_lineEnd h.word).2, ?_, hrun⟩
  rw [hnesting, List.map_singleton, hfirst]
  rfl

theorem Around.whole : Runs (.start source) (front ++ ([first] ++ inner)) d := by
  obtain ⟨-, -, -, -, hword⟩ := h.afterWord hfront hfirst
  exact h.toWord.trans (hword.trans h.toEnd)

/-- The text behind an import. -/
theorem Around.rest_eq {last : Token} (hlast : (first :: inner).getLast? = some last) :
    d.scanner.rest = source.drop last.stop := by
  have hwhole := h.whole hfront hfirst
  have hdrop := hwhole.rest_eq
  have hle := hwhole.pos_le
  rw [rest_start, List.drop_drop] at hdrop
  rw [hdrop, (h.last last hlast).1]
  congr 1
  omega

include hinner

theorem Around.afterImport : d.Plain ∧ d.scanner.line = .inside ∧
    d.scanner.nesting = bracketsBehind (inner.map Token.kind) a.scanner.nesting := by
  obtain ⟨hb, hline, -, hnesting, -⟩ := h.afterWord hfront hfirst
  obtain ⟨hd, -, hnesting'⟩ := h.toEnd.keeps hb fun t ht => (hinner t ht).1
  refine ⟨hd, ?_, hnesting ▸ hnesting'⟩
  exact h.toEnd.inside hb (fun t ht => (hinner t ht).1) (fun t ht => (hinner t ht).2) (.inr hline)

/-- Behind an import without brackets left open, the line goes on. -/
theorem Around.next (hbrackets : bracketsBehind (front.map Token.kind) 0 = 0)
    (hbrackets' : bracketsBehind (inner.map Token.kind) 0 = 0) :
    ∀ t ∈ behind.head?, t.kind ≠ .endOfFile ∧ t.lineEnd = none := by
  obtain ⟨hd, hline, hnesting⟩ := h.afterImport hfront hfirst hinner
  rw [(h.before hfront).2, hbrackets, hbrackets'] at hnesting
  obtain ⟨mid, eof, c, rfl, hrun, heof⟩ := h.later
  obtain ⟨last, hlast⟩ : ∃ t, (first :: inner).getLast? = some t :=
    ⟨_, List.getLast?_eq_getLast_of_ne_nil (List.cons_ne_nil _ _)⟩
  cases mid with
  | nil =>
    rw [hrun.last?_inside hd hline] at heof
    cases heof
  | cons u mid =>
    intro t ht
    obtain rfl := Option.mem_some.1 ht
    exact ⟨hrun.kind_ne _ (List.mem_cons_self ..),
      hrun.lineEnd_eq_none hd (h.last last hlast).2 hnesting hline⟩

theorem Around.calm : ∀ t ∈ front ++ ([first] ++ inner), t.kind.isCalm = true := by
  intro t ht
  obtain ht | ht := List.mem_append.1 ht
  · exact Kind.isCalm_of_isFront (hfront t ht)
  · obtain rfl | ht := List.mem_cons.1 ht
    · rw [hfirst]
      rfl
    · exact (hinner t ht).1

theorem Around.stop_le {last : Token} (hlast : (first :: inner).getLast? = some last) :
    last.stop ≤ source.length := by
  have hin := (h.whole hfront hfirst).pos_le_length (plain_start source)
    (h.calm hfront hfirst hinner)
  have hpos := start_pos_le source
  rw [rest_start, List.length_drop, ← (h.last last hlast).1] at hin
  omega

end Around

end Scan

/-- Behind an import, the scanner is where it would be behind a word in its place, only later. -/
theorem Scan.Runs.later_of_inner {a b : Scan} {inner : List Token} (h : Runs a inner b)
    (ha : a.Plain) (hinner : ∀ t ∈ inner, t.kind.isCalm = true ∧ t.kind ≠ .newline)
    (hbrackets : ∀ n, bracketsBehind (inner.map Token.kind) n = n)
    (hline : a.scanner.line = .inside) (hend : a.lineEnd = none) (hend' : b.lineEnd = none) :
    b = (a.before b.scanner.rest).later (b.scanner.pos - a.scanner.pos) := by
  obtain ⟨hplain, hindents, hnesting⟩ := h.keeps ha fun t ht => (hinner t ht).1
  have hinside := h.inside ha (fun t ht => (hinner t ht).1) (fun t ht => (hinner t ht).2) (.inr hline)
  have hle := h.pos_le
  obtain ⟨⟨rest, pos, nesting, line, indents, pending, strings⟩, lineEnd⟩ := b
  have hstrings := hplain.strings
  have hpending := hplain.pending
  dsimp only at hindents hnesting hinside hle hstrings hpending hend'
  rw [hbrackets] at hnesting
  subst hindents hnesting hinside hend' hstrings hpending
  simp only [Scan.later, Scan.before, Scanner.later, Scanner.before, hend, hline, ha.strings,
    ha.pending, Option.map_none, Nat.add_sub_cancel' hle]

/-- **A statement in the place of another.** Let an import stand between tokens of the front of a
module and the end of its statement. With `pass` in its place, the tokens before it are the same,
and those behind it are the same in earlier places. -/
theorem tokens_replace {source : List Char} {front inner behind : List Token}
    {first next : Token} (h : Python.tokens source =
      ⟨front ++ first :: (inner ++ next :: behind), none⟩)
    (hfront : ∀ t ∈ front, t.kind.isFront = true) (hfirst : first.kind = .keyword .«from»)
    (hinner : ∀ t ∈ inner, t.kind.isCalm = true ∧ t.kind ≠ .newline)
    (hbrackets : ∀ n, Scan.bracketsBehind (inner.map Token.kind) n = n)
    (hnext : next.kind = .newline ∨ next.kind = .symbol .semi) {last : Token}
    (hlast : (first :: inner).getLast? = some last) :
    first.start + 4 ≤ last.stop ∧ last.stop ≤ source.length ∧
      ∃ behind', List.Forall₂ (Token.Shifted ⟨inner.length, last.stop - (first.start + 4)⟩)
          (next :: behind) behind' ∧
        Python.tokens (source.take first.start ++ 'p' :: 'a' :: 's' :: 's' ::
          source.drop last.stop) =
            ⟨front ++ { first with kind := .keyword .«pass» } :: behind', none⟩ := by
  obtain ⟨a, b, d, haround⟩ := Scan.around_of_tokens h (List.cons_ne_nil _ _)
  obtain ⟨ha, -⟩ := haround.before hfront
  obtain ⟨hb, hbLine, hbEnd, -, hwordRun⟩ := haround.afterWord hfront hfirst
  obtain ⟨hd, hdLine, -⟩ := haround.afterImport hfront hfirst hinner
  obtain ⟨hstop, hdEnd⟩ := haround.last last hlast
  obtain ⟨mid, eof, c, hbehind, hbehindRun, heof⟩ := haround.later
  obtain ⟨mid, rfl⟩ : ∃ later, mid = next :: later := by
    cases mid with
    | nil =>
      obtain rfl := (List.cons.inj hbehind).1
      rw [Scan.last?_kind heof] at hnext
      rcases hnext with h | h <;> cases h
    | cons u later =>
      obtain rfl := (List.cons.inj hbehind).1
      exact ⟨later, rfl⟩
  have hstops := hbehindRun.stops hd hdLine hnext
  have hlater := haround.toEnd.later_of_inner hb hinner hbrackets hbLine hbEnd hdEnd
  obtain ⟨m, hfrom, hstart, hfour, hpass⟩ := Scan.next?_pass haround.word ha hfirst hstops
  have hbPos : first.stop = b.scanner.pos := (Scan.next?_moved haround.word).next first rfl
  have hbefore := haround.toPass hfront hfrom hstart ('a' :: 's' :: 's' :: d.scanner.rest)
  refine ⟨haround.word_le hlast hfour, haround.stop_le hfront hfirst hinner hlast, ?_⟩
  rw [hlater] at hbehindRun
  obtain ⟨found, c', hrun', hfound, rfl⟩ := hbehindRun.earlier
  rw [Scan.last?_later] at heof
  obtain ⟨eof', heof', rfl⟩ := Option.map_eq_some_iff.1 heof
  rw [← haround.rest_eq hfront hfirst hlast]
  refine ⟨found ++ [eof'], ?_, tokens_eq_iff.2 ⟨c', _, eof',
    hbefore.trans (.step hpass hrun'), heof', by simp⟩⟩
  have hmap : next :: behind =
      (found ++ [eof']).map (Token.later (last.stop - (first.start + 4))) := by
    rw [hbehind, hfound, List.map_append, hstop, ← hfour, hbPos]
    rfl
  rw [hmap, List.forall₂_map_left_iff, List.forall₂_same]
  exact fun t _ => Token.shifted_later _ _ t

end ScriptBundle.Python
