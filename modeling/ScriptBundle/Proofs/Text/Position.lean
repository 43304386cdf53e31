import Mathlib.Algebra.Ring.Nat
import Mathlib.Data.List.Induction
import ScriptBundle.Import.Extract

namespace ScriptBundle

namespace Text

/-- The number of bytes of a text. -/
def byteSize (text : List Char) : Nat := (String.ofList text).utf8ByteSize

@[simp] theorem byteSize_nil : byteSize [] = 0 := rfl

@[simp] theorem byteSize_cons (c : Char) (text : List Char) :
    byteSize (c :: text) = c.utf8Size + byteSize text := by
  simp [byteSize]

@[simp] theorem byteSize_append (front text : List Char) :
    byteSize (front ++ text) = byteSize front + byteSize text := by
  simp [byteSize]

theorem byteSize_toList (text : String) : byteSize text.toList = text.utf8ByteSize := by
  simp [byteSize]

theorem byteSize_lineFeed : byteSize ['\n'] = 1 := by decide

/-! ## Slices -/

/-- The text behind a given number of bytes, if no character straddles its start. -/
def dropBytes? : Nat → List Char → Option (List Char)
  | 0, text => some text
  | _ + 1, [] => none
  | n + 1, c :: rest =>
    if c.utf8Size ≤ n + 1 then dropBytes? (n + 1 - c.utf8Size) rest else none
termination_by _ text => text.length

/-- The bytes of a text are those of its first character and the rest, at least one in all. -/
theorem exists_byteSize_cons (c : Char) (text : List Char) :
    ∃ n, byteSize (c :: text) = n + 1 ∧ c.utf8Size ≤ n + 1 ∧
      n + 1 - c.utf8Size = byteSize text := by
  have positive := c.utf8Size_pos
  have cons := byteSize_cons c text
  exact ⟨byteSize (c :: text) - 1, by omega, by omega, by omega⟩

theorem takeBytes?_append (front text : List Char) :
    takeBytes? (byteSize front) (front ++ text) = some front := by
  induction front with
  | nil => simp [takeBytes?]
  | cons c front ih =>
    obtain ⟨n, hn, fits, rest⟩ := exists_byteSize_cons c front
    rw [hn, List.cons_append, takeBytes?, if_pos fits, rest, ih]
    rfl

theorem takeBytes?_eq_some {n : Nat} {text front : List Char} (h : takeBytes? n text = some front) :
    ∃ rest, text = front ++ rest ∧ byteSize front = n := by
  fun_induction takeBytes? n text generalizing front with
  | case1 text => exact ⟨text, by cases h; simp⟩
  | case2 => cases h
  | case3 n c rest fits ih =>
    obtain ⟨front', h', rfl⟩ := Option.map_eq_some_iff.1 h
    obtain ⟨more, rfl, hsize⟩ := ih h'
    exact ⟨more, rfl, by rw [byteSize_cons, hsize]; omega⟩
  | case4 => cases h

theorem dropBytes?_append (front text : List Char) :
    dropBytes? (byteSize front) (front ++ text) = some text := by
  induction front with
  | nil => simp [dropBytes?]
  | cons c front ih =>
    obtain ⟨n, hn, fits, rest⟩ := exists_byteSize_cons c front
    rw [hn, List.cons_append, dropBytes?, if_pos fits, rest, ih]

/-- A byte offset is one of a character exactly if a front of the text takes so many bytes. -/
theorem isValid_iff {source : String} {offset : Nat} :
    (⟨offset⟩ : String.Pos.Raw).IsValid source ↔
      ∃ front rest, source.toList = front ++ rest ∧ byteSize front = offset := by
  rw [String.Pos.Raw.isValid_iff_exists_take_toList]
  constructor
  · rintro ⟨i, hi⟩
    exact ⟨source.toList.take i, source.toList.drop i, (List.take_append_drop ..).symm, hi.symm⟩
  · rintro ⟨front, rest, h, hsize⟩
    exact ⟨front.length, by rw [h, List.take_left]; exact hsize.symm⟩

/-- The number of bytes before the last line feed of a text. -/
def lastLineFeed? (text : List Char) : Option Nat :=
  match text.reverse.dropWhile (· ≠ '\n') with
  | [] => none
  | _ :: above => some (byteSize above.reverse)

/-- The number of bytes before the last line of a text. -/
def lineStart (text : List Char) : Nat := ((lastLineFeed? text).map (· + 1)).getD 0

theorem lineStart_lineFeed (text : List Char) : lineStart (text ++ ['\n']) = byteSize text + 1 := by
  simp [lineStart, lastLineFeed?]

theorem lineStart_concat {c : Char} (h : c ≠ '\n') (text : List Char) :
    lineStart (text ++ [c]) = lineStart text := by
  simp [lineStart, lastLineFeed?, h]

namespace Position

/-- The order of reading: an earlier line, or an earlier column of the same line. -/
def Before (p q : Position) : Prop := p.line < q.line ∨ p.line = q.line ∧ p.column < q.column

/-- The number of bytes up to a position of a text: those of the lines above it, each with its line
feed, and those of the characters before it in its line. -/
def offset? (p : Position) (text : List Char) : Option Nat := do
  let line ← (text.splitOn '\n')[p.line - 1]?
  if 1 ≤ p.line ∧ 1 ≤ p.column ∧ p.column - 1 ≤ line.length then
    some ((((text.splitOn '\n').take (p.line - 1)).map (byteSize · + 1)).sum
      + byteSize (line.take (p.column - 1)))
  else none

/-- The place of a byte offset, counted in the slice before it: line feeds, and characters in the
slice behind the last of them. There is none if that slice would start inside a character. -/
def ofSlices? (text : List Char) (offset : Nat) : Option Position :=
  let before := (takeBytes? (min offset (byteSize text)) text).getD text
  (dropBytes? (lineStart before) before).map fun line => ⟨before.count '\n' + 1, line.length + 1⟩

/-! ## The order of reading -/

theorem Before.trans {p q r : Position} (hpq : Before p q) (hqr : Before q r) : Before p r := by
  unfold Before at *
  omega

theorem Before.ne {p q : Position} (h : Before p q) : p ≠ q := by
  rintro rfl
  unfold Before at h
  omega

theorem before_step (p : Position) (c : Char) : Before p (p.step c) := by
  unfold Before step
  split
  · exact .inl (Nat.lt_succ_self _)
  · exact .inr ⟨rfl, Nat.lt_succ_self _⟩

theorem behind_concat (text : List Char) (c : Char) :
    behind (text ++ [c]) = (behind text).step c := by
  simp [behind]

theorem before_behind (front : List Char) (c : Char) (rest : List Char) :
    Before (behind front) (behind (front ++ c :: rest)) := by
  induction rest using List.reverseRecOn with
  | nil =>
    rw [behind_concat]
    exact before_step _ _
  | append_singleton rest d ih =>
    rw [← List.cons_append, ← List.append_assoc, behind_concat]
    exact ih.trans (before_step _ _)

/-! ## The last line of a text -/

/-- A text ends in a line, with lines above it; the cuts above stay whatever comes behind it. -/
structure EndsIn (text : List Char) (above : List (List Char)) (line : List Char) : Prop where
  calm : '\n' ∉ line
  splits : ∀ rest, (text ++ rest).splitOn '\n' = above ++ (line ++ rest).splitOn '\n'
  size : byteSize text = (above.map (byteSize · + 1)).sum + byteSize line
  count : text.count '\n' = above.length
  starts : ∃ stem, text = stem ++ line ∧ lineStart text = byteSize stem
  behind : behind text = ⟨above.length + 1, line.length + 1⟩

theorem EndsIn.lineFeed {text line : List Char} {above : List (List Char)}
    (ends : EndsIn text above line) : EndsIn (text ++ ['\n']) (above ++ [line]) [] where
  calm := List.not_mem_nil
  splits rest := by
    rw [List.append_assoc, List.singleton_append, ends.splits, List.splitOn_append_cons_self,
      List.splitOn_eq_singleton ends.calm, List.nil_append, List.append_assoc]
  size := by
    rw [byteSize_append, byteSize_lineFeed, ends.size]
    simp [Nat.add_assoc]
  count := by simp [ends.count]
  starts := by
    refine ⟨text ++ ['\n'], (List.append_nil _).symm, ?_⟩
    rw [lineStart_lineFeed, byteSize_append, byteSize_lineFeed]
  behind := by
    rw [behind_concat, ends.behind]
    simp [step]

theorem EndsIn.concat {text line : List Char} {above : List (List Char)} {c : Char} (hc : c ≠ '\n')
    (ends : EndsIn text above line) : EndsIn (text ++ [c]) above (line ++ [c]) where
  calm := by simpa [ends.calm] using Ne.symm hc
  splits rest := by rw [List.append_assoc, List.append_assoc, ends.splits]
  size := by
    rw [byteSize_append, byteSize_append, ends.size, Nat.add_assoc]
  count := by simp [ends.count, hc]
  starts := by
    obtain ⟨stem, htext, hstart⟩ := ends.starts
    refine ⟨stem, by rw [htext, List.append_assoc], ?_⟩
    rw [lineStart_concat hc, hstart]
  behind := by
    rw [behind_concat, ends.behind]
    simp [step, hc]

theorem exists_endsIn (text : List Char) : ∃ above line, EndsIn text above line := by
  induction text using List.reverseRecOn with
  | nil => exact ⟨[], [], List.not_mem_nil, fun _ => rfl, rfl, rfl, ⟨[], rfl, rfl⟩, rfl⟩
  | append_singleton text c ih =>
    obtain ⟨above, line, ends⟩ := ih
    by_cases hc : c = '\n'
    · subst hc
      exact ⟨_, _, ends.lineFeed⟩
    · exact ⟨_, _, ends.concat hc⟩

/-- A line goes on up to the next line feed. -/
theorem splitOn_calm {line : List Char} (h : '\n' ∉ line) (rest : List Char) :
    ∃ more below, (line ++ rest).splitOn '\n' = (line ++ more) :: below := by
  induction line with
  | nil => exact List.exists_cons_of_ne_nil (List.splitOn_ne_nil _ _)
  | cons c line ih =>
    simp only [List.mem_cons, not_or] at h
    obtain ⟨more, below, hsplit⟩ := ih h.2
    refine ⟨more, below, ?_⟩
    rw [List.cons_append, List.splitOn_cons_eq_if_modifyHead, hsplit]
    simp [Ne.symm h.1]

/-- Walking to the position behind a front of a text ends behind that front. -/
theorem offset?_behind (front rest : List Char) :
    (behind front).offset? (front ++ rest) = some (byteSize front) := by
  obtain ⟨above, line, ends⟩ := exists_endsIn front
  obtain ⟨more, below, hsplit⟩ := splitOn_calm ends.calm rest
  simp [offset?, ends.behind, ends.splits, hsplit, ends.size]

/-! ## Positions of offsets -/

theorem ofByte_append (front rest : List Char) :
    ofByte (front ++ rest) (byteSize front) = behind front := by
  rw [ofByte, takeBytes?_append]
  rfl

theorem ofByte_end (text : List Char) : ofByte text (byteSize text) = behind text := by
  simpa using ofByte_append text []

/-- An offset that no front of a text takes stands for its end. -/
theorem ofByte_of_forall {text : List Char} {offset : Nat}
    (h : ∀ front rest, text = front ++ rest → byteSize front ≠ offset) :
    ofByte text offset = behind text := by
  cases ht : takeBytes? offset text with
  | none => rw [ofByte, ht, Option.getD_none]
  | some front =>
    obtain ⟨rest, htext, hsize⟩ := takeBytes?_eq_some ht
    exact absurd hsize (h front rest htext)

theorem takeBytes?_min (text : List Char) (offset : Nat) :
    (takeBytes? (min offset (byteSize text)) text).getD text =
      (takeBytes? offset text).getD text := by
  by_cases h : offset ≤ byteSize text
  · rw [Nat.min_eq_left h]
  · have all : takeBytes? (byteSize text) text = some text := by
      simpa using takeBytes?_append text []
    rw [Nat.min_eq_right (Nat.le_of_not_le h), all]
    cases ht : takeBytes? offset text with
    | none => rfl
    | some front =>
      obtain ⟨rest, htext, hsize⟩ := takeBytes?_eq_some ht
      have := congrArg byteSize htext
      rw [byteSize_append] at this
      omega

/-- No slice starts inside a character, so counting in slices comes to the same place. -/
theorem ofSlices?_eq (text : List Char) (offset : Nat) :
    ofSlices? text offset = some (ofByte text offset) := by
  unfold ofSlices? ofByte
  rw [takeBytes?_min]
  generalize (takeBytes? offset text).getD text = before
  obtain ⟨above, line, ends⟩ := exists_endsIn before
  obtain ⟨stem, hbefore, hstart⟩ := ends.starts
  have slice : dropBytes? (byteSize stem) before = some line := by
    rw [hbefore, dropBytes?_append]
  simp [hstart, slice, ends.count, ends.behind]

/-- Of two fronts of a text, the one with fewer bytes ends before the other. -/
theorem before_of_size {text one other rest more : List Char} (hone : text = one ++ rest)
    (hother : text = other ++ more) (h : byteSize one < byteSize other) :
    Before (behind one) (behind other) := by
  have start : one <+: text := ⟨rest, hone.symm⟩
  have longer : other <+: text := ⟨more, hother.symm⟩
  obtain ⟨gap, hgap⟩ | ⟨gap, hgap⟩ := List.prefix_or_prefix_of_prefix start longer
  · cases gap with
    | nil => simp [← hgap] at h
    | cons c gap =>
      rw [← hgap]
      exact before_behind _ _ _
  · rw [← hgap, byteSize_append] at h
    omega

/-- **Positions identify offsets.** The position of an offset between two characters leads back to
it, and positions are in the order of their offsets. Any other offset stands for the end of the
text. The place where a source does not parse is the position of its byte offset. -/
theorem ofByte_locates (source : String) :
    (∀ offset, (⟨offset⟩ : String.Pos.Raw).IsValid source →
      (ofByte source.toList offset).offset? source.toList = some offset) ∧
    (∀ one other, (⟨one⟩ : String.Pos.Raw).IsValid source →
      (⟨other⟩ : String.Pos.Raw).IsValid source →
      (one ≠ other → ofByte source.toList one ≠ ofByte source.toList other) ∧
      (one < other → Before (ofByte source.toList one) (ofByte source.toList other))) ∧
    (∀ offset, ¬ (⟨offset⟩ : String.Pos.Raw).IsValid source →
      ofByte source.toList offset = ofByte source.toList source.utf8ByteSize) ∧
    (∀ offset, ofSlices? source.toList offset = some (ofByte source.toList offset)) ∧
    ∀ path place, parseFailure path source.toList place =
      .parse path (ofByte source.toList (byteSize (source.toList.take place)))
        Failure.syntaxDetail := by
  have ordered : ∀ one other, (⟨one⟩ : String.Pos.Raw).IsValid source →
      (⟨other⟩ : String.Pos.Raw).IsValid source → one < other →
      Before (ofByte source.toList one) (ofByte source.toList other) := by
    intro one other hone hother h
    obtain ⟨front, rest, hfront, rfl⟩ := isValid_iff.1 hone
    obtain ⟨longer, more, hlonger, rfl⟩ := isValid_iff.1 hother
    have before := before_of_size hfront hlonger h
    rwa [← ofByte_append front rest, ← hfront, ← ofByte_append longer more, ← hlonger] at before
  refine ⟨?_, ?_, ?_, ?_, ?_⟩
  · intro offset h
    obtain ⟨front, rest, hfront, rfl⟩ := isValid_iff.1 h
    rw [hfront, ofByte_append, offset?_behind]
  · intro one other hone hother
    refine ⟨fun hne => ?_, ordered one other hone hother⟩
    rcases Nat.lt_or_gt_of_ne hne with h | h
    · exact (ordered one other hone hother h).ne
    · exact (ordered other one hother hone h).ne.symm
  · intro offset h
    rw [← byteSize_toList, ofByte_end]
    apply ofByte_of_forall
    intro front rest hfront hsize
    exact h (isValid_iff.2 ⟨front, rest, hfront, hsize⟩)
  · exact ofSlices?_eq source.toList
  · intro path place
    have place_eq := ofByte_append (source.toList.take place) (source.toList.drop place)
    rw [List.take_append_drop] at place_eq
    rw [parseFailure, place_eq]

/-- A letter of two bytes, a line feed and one more letter: the offset behind the line feed is in
the second line, the one before it in the first, and one inside the first letter is none. -/
theorem ofByte_locates_wide :
    (ofByte "é\nb".toList 3 = ⟨2, 1⟩ ∧ (⟨2, 1⟩ : Position).offset? "é\nb".toList = some 3) ∧
    (ofByte "é\nb".toList 2 = ⟨1, 2⟩ ∧ Before ⟨1, 2⟩ ⟨2, 1⟩) ∧
    ofByte "é\nb".toList 1 = ofByte "é\nb".toList 4 := by
  have third : (⟨3⟩ : String.Pos.Raw).IsValid "é\nb" :=
    isValid_iff.2 ⟨['é', '\n'], ['b'], by decide, by decide⟩
  have second : (⟨2⟩ : String.Pos.Raw).IsValid "é\nb" :=
    isValid_iff.2 ⟨['é'], ['\n', 'b'], by decide, by decide⟩
  have first : ¬ (⟨1⟩ : String.Pos.Raw).IsValid "é\nb" := by decide
  have three : ofByte "é\nb".toList 3 = ⟨2, 1⟩ := ofByte_append ['é', '\n'] ['b']
  have two : ofByte "é\nb".toList 2 = ⟨1, 2⟩ := ofByte_append ['é'] ['\n', 'b']
  obtain ⟨leads, ordered, others, -⟩ := ofByte_locates "é\nb"
  have before := (ordered 2 3 second third).2 (by decide)
  rw [two, three] at before
  exact ⟨⟨three, three ▸ leads 3 third⟩, ⟨two, before⟩, others 1 first⟩

end Position

end Text

end ScriptBundle
