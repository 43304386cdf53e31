import ScriptBundle.Proofs.Bundle.Literals

namespace ScriptBundle.Python

open Text

def escaped? : Char → Option Char
  | '\\' => some '\\'
  | '"' => some '"'
  | 'n' => some '\n'
  | 'r' => some '\r'
  | 't' => some '\t'
  | _ => none

/-- The text up to a double quote, and what stands behind that quote. A line end or a backslash that
starts no escape cannot stand there. -/
def readText? : List Char → Option (List Char × List Char)
  | [] => none
  | '"' :: behind => some ([], behind)
  | '\\' :: 'x' :: high :: low :: rest => do
    let c := Char.ofNat (16 * (← hexDigit? high) + (← hexDigit? low))
    let (text, behind) ← readText? rest
    return (c :: text, behind)
  | '\\' :: letter :: rest => do
    let c ← escaped? letter
    let (text, behind) ← readText? rest
    return (c :: text, behind)
  | c :: rest =>
    if c = '\\' ∨ c = '\n' ∨ c = '\r' then none
    else do
      let (text, behind) ← readText? rest
      return (c :: text, behind)

/-- The text of the literal in double quotes that a text starts with, and what stands behind. -/
def readLiteral? : List Char → Option (List Char × List Char)
  | '"' :: rest => readText? rest
  | _ => none

/-- The number of backslashes that a text ends with. -/
def endingBackslashes (text : List Char) : Nat := (text.reverse.takeWhile (· = '\\')).length

/-! ## Characters -/

theorem readText?_escape {letter c : Char} (h : escaped? letter = some c) (rest : List Char) :
    readText? ('\\' :: letter :: rest) =
      (readText? rest).map fun (text, behind) => (c :: text, behind) := by
  have hx : letter ≠ 'x' := by
    rintro rfl
    cases h
  rw [readText?]
  · rw [h]
    cases readText? rest <;> rfl
  · exact fun _ _ _ hx' => absurd hx' hx

theorem readText?_self {c : Char} (h : isControl c = false) (hslash : c ≠ '\\') (hquote : c ≠ '"')
    (rest : List Char) :
    readText? (c :: rest) = (readText? rest).map fun (text, behind) => (c :: text, behind) := by
  obtain ⟨hfeed, hreturn⟩ := ne_of_visible h
  rw [readText?]
  · rw [if_neg (by simp [hslash, hfeed, hreturn])]
    cases readText? rest <;> rfl
  · exact hquote
  · exact fun _ _ _ h => absurd h hslash
  · exact fun _ _ h => absurd h hslash

theorem hexDigit?_lowerHexDigit : ∀ n < 16, hexDigit? (lowerHexDigit n) = some n := by
  decide

theorem readText?_twoDigits {c : Char} (h : c.toNat < 256) (rest : List Char) :
    readText? ('\\' :: 'x' :: (twoDigits c.toNat ++ rest)) =
      (readText? rest).map fun (text, behind) => (c :: text, behind) := by
  have hhigh := hexDigit?_lowerHexDigit (c.toNat / 16) (by omega)
  have hlow := hexDigit?_lowerHexDigit (c.toNat % 16) (by omega)
  have hnumber : 16 * (c.toNat / 16) + c.toNat % 16 = c.toNat := Nat.div_add_mod _ _
  rw [twoDigits, List.cons_append, List.cons_append, List.nil_append, readText?, hhigh, hlow]
  simp only [Option.pure_def, Option.bind_eq_bind, Option.bind_some, hnumber, Char.ofNat_toNat]
  cases readText? rest <;> rfl

/-- What is written for a character is read as that character, whatever comes behind it. -/
theorem readText?_literalChar (c : Char) (rest : List Char) :
    readText? (literalChar c ++ rest) =
      (readText? rest).map fun (text, behind) => (c :: text, behind) := by
  unfold literalChar
  split
  · exact readText?_escape rfl rest
  · exact readText?_escape rfl rest
  · exact readText?_escape rfl rest
  · exact readText?_escape rfl rest
  · exact readText?_escape rfl rest
  · rename_i hslash hquote _ _ _
    split
    · rename_i hcontrol
      exact readText?_twoDigits (toNat_lt_of_isControl hcontrol) rest
    · rename_i hvisible
      exact readText?_self (by simpa using hvisible) hslash hquote rest

/-! ## Quotes -/

theorem endingBackslashes_append {front : List Char} (h : endingBackslashes front % 2 = 0)
    (back : List Char) : endingBackslashes (front ++ back) % 2 = endingBackslashes back % 2 := by
  unfold endingBackslashes at h ⊢
  rw [List.reverse_append, List.takeWhile_append]
  split
  · rename_i hall
    rw [hall, List.length_append]
    omega
  · rfl

theorem endingBackslashes_concat {c : Char} (h : c ≠ '\\') (front : List Char) :
    endingBackslashes (front ++ [c]) = 0 := by
  simp [endingBackslashes, h]

/-- Backslashes at the end of what is written for a character come in pairs. -/
theorem endingBackslashes_literalChar (c : Char) :
    endingBackslashes (literalChar c) % 2 = 0 := by
  unfold literalChar
  split
  · rfl
  · rfl
  · rfl
  · rfl
  · rfl
  · rename_i hslash _ _ _ _
    split
    · have hlow := (lowerHexDigit_spec (c.toNat % 16) (by omega)).2.1
      exact congrArg (· % 2)
        (endingBackslashes_concat hlow ['\\', 'x', Text.lowerHexDigit (c.toNat / 16)])
    · exact congrArg (· % 2) (endingBackslashes_concat hslash [])

theorem eq_quote_of_mem {c : Char} (h : '"' ∈ literalChar c) : c = '"' := by
  unfold literalChar at h
  split at h
  · simp at h
  · rfl
  · simp at h
  · simp at h
  · simp at h
  · split at h
    · rename_i hcontrol
      have hbyte := toNat_lt_of_isControl hcontrol
      have hhigh := (lowerHexDigit_spec (c.toNat / 16) (by omega)).2.2
      have hlow := (lowerHexDigit_spec (c.toNat % 16) (by omega)).2.2
      simp [twoDigits, hhigh.symm, hlow.symm] at h
    · exact (List.mem_singleton.1 h).symm

/-- A quote in what is written for a character is the second of two. -/
theorem front_of_literalChar {c : Char} {front back : List Char}
    (h : literalChar c = front ++ '"' :: back) : front = ['\\'] := by
  obtain rfl : c = '"' := eq_quote_of_mem (by simp [h])
  have hword : ['\\', '"'] = front ++ '"' :: back := h
  rcases front with _ | ⟨a, _ | ⟨b, front⟩⟩
  · simp at hword
  · rw [← (List.cons.inj hword).1]
  · simp at hword

/-- Every quote inside a literal stands behind an odd number of backslashes. -/
theorem odd_backslashes (text : List Char) {front back : List Char}
    (h : text.flatMap literalChar = front ++ '"' :: back) : endingBackslashes front % 2 = 1 := by
  induction text generalizing front with
  | nil => simp at h
  | cons c text ih =>
    rw [List.flatMap_cons, List.append_eq_append_iff] at h
    rcases h with ⟨later, rfl, hlater⟩ | ⟨inner, hword, hinner⟩
    · rw [endingBackslashes_append (endingBackslashes_literalChar c)]
      exact ih hlater
    · cases inner with
      | nil =>
        have hodd : endingBackslashes [] % 2 = 1 := ih hinner.symm
        exact absurd hodd (by decide)
      | cons d inner =>
        obtain ⟨rfl, -⟩ := List.cons.inj hinner
        rw [front_of_literalChar hword]
        rfl

/-! ## Literals -/

theorem toList_literal (value : String) :
    (literal value).toList = '"' :: (value.toList.flatMap literalChar ++ ['"']) := by
  rw [literal, String.toList_ofList]
  rfl

/-- A literal is read back by its escapes, whatever stands behind it. -/
theorem readLiteral?_literal (value : String) (behind : List Char) :
    readLiteral? ((literal value).toList ++ behind) = some (value.toList, behind) := by
  rw [toList_literal, List.cons_append, List.append_assoc, readLiteral?]
  induction value.toList with
  | nil => rfl
  | cons c text ih =>
    rw [List.flatMap_cons, List.append_assoc, readText?_literalChar, ih]
    rfl

/-- **A literal stands for its text alone.** It is one literal between two double quotes, without a
control character, and every quote inside it is escaped; its escapes give back the text, whatever
comes behind, and so does the scanner of the language. So no two texts have the same literal, and no
literal is the start of another one. -/
theorem literal_spelled :
    (∀ value : String,
      (∃ inner, (literal value).toList = '"' :: (inner ++ ['"']) ∧
        ∀ front back, inner = front ++ '"' :: back → endingBackslashes front % 2 = 1) ∧
      (∀ c ∈ (literal value).toList, isControl c = false) ∧
      (∀ behind, readLiteral? ((literal value).toList ++ behind) = some (value.toList, behind)) ∧
      ∀ behind : List Char, behind.head? ≠ some '"' →
        literalAt? ((literal value).toList ++ behind) = some (value, behind)) ∧
    Function.Injective literal ∧
    ∀ value other, (literal value).toList <+: (literal other).toList → value = other := by
  have starts : ∀ value other, (literal value).toList <+: (literal other).toList →
      value = other := by
    rintro value other ⟨more, hmore⟩
    have hread := readLiteral?_literal value more
    have hother := readLiteral?_literal other []
    rw [List.append_nil, ← hmore, hread] at hother
    exact String.toList_injective (Prod.mk.inj (Option.some.inj hother)).1
  refine ⟨fun value => ⟨?_, visible_literal value, readLiteral?_literal value, fun behind h =>
    literalAt?_literal value h⟩, fun value other h => starts value other (h ▸ List.prefix_rfl),
    starts⟩
  exact ⟨_, toList_literal value, fun front back h => odd_backslashes value.toList h⟩

end ScriptBundle.Python
