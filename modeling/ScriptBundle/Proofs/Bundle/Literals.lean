import ScriptBundle.Python.Literal
import ScriptBundle.Python.StringText
import ScriptBundle.Python.Token.Scan

namespace ScriptBundle.Python

open Text StringText

/-! ## Characters -/

/-- Some text in a literal stands for a character, whatever comes behind it: it does not end the
literal, and its escapes are read as the character. -/
structure Written (word : List Char) (c : Char) : Prop where
  opens : ∃ d rest, word = d :: rest ∧ d ≠ '"'
  measured : ∀ behind n, measureLine '"' (word ++ behind) n =
    measureLine '"' behind (n + word.length)
  read : ∀ behind offset, unescape false offset (word ++ behind) =
    (unescape false (offset + word.length) behind).map (c :: ·)
  visible : ∀ d ∈ word, isControl d = false

theorem ne_of_visible {c : Char} (h : isControl c = false) : c ≠ '\n' ∧ c ≠ '\r' := by
  constructor <;> rintro rfl <;> revert h <;> decide

theorem measureLine_visible {c : Char} (h : isControl c = false) (hslash : c ≠ '\\') (hquote : c ≠ '"')
    (behind : List Char) (n : Nat) :
    measureLine '"' (c :: behind) n = measureLine '"' behind (n + 1) := by
  obtain ⟨hfeed, hreturn⟩ := ne_of_visible h
  rw [measureLine]
  · simp [hquote, hfeed, hreturn]
  · exact fun _ h => absurd h hslash
  · exact fun _ _ h => absurd h hslash
  · exact fun h => absurd h hslash

theorem measureLine_escape {c : Char} (h : isControl c = false) (behind : List Char) (n : Nat) :
    measureLine '"' ('\\' :: c :: behind) n = measureLine '"' behind (n + 2) := by
  rw [measureLine]
  exact fun _ hreturn => absurd hreturn (ne_of_visible h).2

theorem unescape_escape {text : List Char} {e : Escape} (h : escape false text = .ok e)
    (offset : Nat) :
    unescape false offset ('\\' :: text) =
      (unescape false (offset + 1 + e.length) (text.drop e.length)).map (e.value ++ ·) := by
  rw [unescape, if_pos rfl, h]
  dsimp only
  cases unescape false (offset + 1 + e.length) (text.drop e.length) <;> rfl

/-- A character that is no control character, backslash or quote stands for itself. -/
theorem Written.self {c : Char} (h : isControl c = false) (hslash : c ≠ '\\') (hquote : c ≠ '"') :
    Written [c] c where
  opens := ⟨c, [], rfl, hquote⟩
  measured := measureLine_visible h hslash hquote
  read := by
    intro behind offset
    rw [List.singleton_append, unescape, if_neg hslash]
    cases unescape false (offset + 1) behind <;> rfl
  visible := by simpa using h

/-- A backslash and a letter stand for a character. -/
theorem Written.letter {c d : Char} (hd : isControl d = false)
    (h : ∀ behind, escape false (d :: behind) = .ok ⟨[c], 1⟩) : Written ['\\', d] c where
  opens := ⟨'\\', [d], rfl, by decide⟩
  measured := measureLine_escape hd
  read := fun behind offset => unescape_escape (h behind) offset
  visible := by
    have hslash : isControl '\\' = false := by decide
    simpa using ⟨hslash, hd⟩

theorem lowerHexDigit_spec : ∀ n < 16, isControl (lowerHexDigit n) = false ∧
    lowerHexDigit n ≠ '\\' ∧ lowerHexDigit n ≠ '"' := by
  decide

theorem character?_of_lt {n : Nat} (h : n < 256) : character? n = some (Char.ofNat n) := by
  rw [character?, if_neg (by omega), if_pos (by omega)]

theorem twoDigits_spec : ∀ n < 256,
    ((twoDigits n).takeWhile fun c => (hexDigit? c).isSome) = twoDigits n ∧
      hexNumber (twoDigits n) = n := by
  decide +kernel

theorem numbered_twoDigits {c : Char} (h : c.toNat < 256) (behind : List Char) :
    numbered 2 (twoDigits c.toNat ++ behind) = .ok ⟨[c], 3⟩ := by
  obtain ⟨hdigits, hnumber⟩ := twoDigits_spec c.toNat h
  have htake : (twoDigits c.toNat ++ behind).take 2 = twoDigits c.toNat := rfl
  have hlength : (twoDigits c.toNat).length = 2 := rfl
  have hvalue : hexValue 2 (twoDigits c.toNat ++ behind) = .ok c.toNat := by
    simp only [hexValue, htake, hdigits, hlength, if_true, hnumber]
  simp only [numbered, hvalue, character?_of_lt h, Char.ofNat_toNat]

/-- A character below 256 can be written by its number. -/
theorem Written.numbered {c : Char} (h : c.toNat < 256) :
    Written ('\\' :: 'x' :: twoDigits c.toNat) c where
  opens := ⟨'\\', _, rfl, by decide⟩
  measured := by
    obtain ⟨hhigh, hhigh'⟩ := lowerHexDigit_spec (c.toNat / 16) (by omega)
    obtain ⟨hlow, hlow'⟩ := lowerHexDigit_spec (c.toNat % 16) (by omega)
    intro behind n
    simp only [twoDigits, List.cons_append, List.nil_append]
    rw [measureLine_escape (by decide), measureLine_visible hhigh hhigh'.1 hhigh'.2,
      measureLine_visible hlow hlow'.1 hlow'.2]
    rfl
  read := by
    intro behind offset
    have hescape : escape false ('x' :: (twoDigits c.toNat ++ behind)) = .ok ⟨[c], 3⟩ :=
      numbered_twoDigits h behind
    exact unescape_escape hescape offset
  visible := by
    have hslash : isControl '\\' = false ∧ isControl 'x' = false := by decide
    simpa [twoDigits] using ⟨hslash.1, hslash.2, (lowerHexDigit_spec (c.toNat / 16) (by omega)).1,
      (lowerHexDigit_spec (c.toNat % 16) (by omega)).1⟩

theorem toNat_lt_of_isControl {c : Char} (h : isControl c = true) : c.toNat < 256 := by
  simp only [isControl, Bool.or_eq_true, Bool.and_eq_true, decide_eq_true_eq] at h
  omega

theorem written_literalChar (c : Char) : Written (literalChar c) c := by
  unfold literalChar
  split
  · exact .letter (by decide) fun _ => rfl
  · exact .letter (by decide) fun _ => rfl
  · exact .letter (by decide) fun _ => rfl
  · exact .letter (by decide) fun _ => rfl
  · exact .letter (by decide) fun _ => rfl
  · rename_i hslash hquote _ _ _
    split
    · rename_i hcontrol
      exact .numbered (toNat_lt_of_isControl hcontrol)
    · rename_i hvisible
      exact .self (by simpa using hvisible) hslash hquote

/-! ## Literals -/

theorem measureLine_literal (text behind : List Char) (n : Nat) :
    measureLine '"' (text.flatMap literalChar ++ '"' :: behind) n =
      (n + (text.flatMap literalChar).length, true) := by
  induction text generalizing n with
  | nil =>
    rw [List.flatMap_nil, List.nil_append, measureLine]
    · simp
    · simp
    · simp
    · simp
  | cons c text ih =>
    rw [List.flatMap_cons, List.append_assoc, (written_literalChar c).measured, ih,
      List.length_append, Nat.add_assoc]

theorem unescape_literal (text : List Char) (offset : Nat) :
    unescape false offset (text.flatMap literalChar) = .ok text := by
  induction text generalizing offset with
  | nil => rw [List.flatMap_nil, unescape]
  | cons c text ih =>
    rw [List.flatMap_cons, (written_literalChar c).read, ih]
    rfl

theorem visible_literal (text : String) : ∀ c ∈ (literal text).toList, isControl c = false := by
  have hquote : isControl '"' = false := by decide
  intro c hc
  rw [literal, String.toList_ofList] at hc
  simp only [List.mem_append, List.mem_cons, List.mem_flatMap, List.not_mem_nil, or_false] at hc
  rcases hc with (rfl | ⟨d, -, hc⟩) | rfl
  · exact hquote
  · exact (written_literalChar d).visible c hc
  · exact hquote

/-- The value of the plain literal that a text starts with, and what stands behind it. -/
def literalAt? (text : List Char) : Option (String × List Char) :=
  match Scanner.stepCharacter { rest := text } with
  | (⟨.token (.string form inner), _, _, none⟩, behind) =>
    match form.flavour, decode form inner with
    | .plain, .ok value => some (String.ofList value, behind.rest)
    | _, _ => none
  | _ => none

/-- The text of a literal does not start like one in three quotes. -/
theorem take_two_ne (text : List Char) {behind : List Char} (h : behind.head? ≠ some '"') :
    ¬ (text.flatMap literalChar ++ '"' :: behind).take 2 = ['"', '"'] := by
  cases text with
  | nil =>
    cases behind with
    | nil => simp
    | cons d behind => simpa using h
  | cons c text =>
    obtain ⟨d, rest, hword, hd⟩ := (written_literalChar c).opens
    simp [hword, hd]

theorem stepCharacter_quote {s : Scanner} {text : List Char} (h : s.rest = '"' :: text) :
    s.stepCharacter = s.stepString 0 {} '"' := by
  have hstart : ¬ isIdentifierStart '"' = true := by decide
  have hdigit : ¬ '"'.isDigit = true := by decide
  have hhash : ¬ '"' = '#' := by decide
  have hquote : Scanner.isQuote '"' = true := by decide
  rw [Scanner.stepCharacter, h]
  dsimp only
  rw [dif_neg hstart, if_neg hdigit, if_neg hhash, if_pos hquote]

/-- The literal for a text is read back, and what stands behind it is left. -/
theorem literalAt?_literal (text : String) {behind : List Char} (h : behind.head? ≠ some '"') :
    literalAt? ((literal text).toList ++ behind) = some (text, behind) := by
  have hliteral : (literal text).toList ++ behind =
      '"' :: (text.toList.flatMap literalChar ++ '"' :: behind) := by
    rw [literal, String.toList_ofList, List.append_assoc]
    rfl
  have hmeasured := measureLine_literal text.toList behind 0
  have hread := unescape_literal text.toList 0
  have hsingle := take_two_ne text.toList h
  rw [Nat.zero_add] at hmeasured
  rw [hliteral, literalAt?, stepCharacter_quote rfl]
  generalize text.toList.flatMap literalChar = inner at *
  have hbehind : ('"' :: (inner ++ '"' :: behind)).drop (1 + inner.length + 1) = behind := by
    rw [Nat.add_comm 1, List.drop_succ_cons, ← List.drop_drop, List.drop_left]
    rfl
  simp only [Scanner.stepString, Scanner.accept, Scanner.advance]
  simp [hsingle, hmeasured, decode, hread, hbehind]

end ScriptBundle.Python
