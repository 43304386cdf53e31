import Mathlib.Data.List.TakeWhile
import ScriptBundle.Bundle.Contents
import ScriptBundle.Proofs.Bundle.ReadBack
import ScriptBundle.Proofs.Payload.Base64

namespace ScriptBundle

open Python Template Text

/-- A digit stands for itself in a literal, and does not end it. -/
theorem Payload.Base64.IsDigit.literalChar {c : Char} (h : IsDigit c) :
    literalChar c = [c] ∧ c ≠ '"' := by
  have hvisible : (35 ≤ c.toNat ∧ c.toNat < 92) ∨ (93 ≤ c.toNat ∧ c.toNat < 127) := by
    obtain h | h | h | rfl | rfl := h
    · have upper : 65 ≤ c.toNat ∧ c.toNat ≤ 90 := h
      omega
    · have lower : 97 ≤ c.toNat ∧ c.toNat ≤ 122 := h
      omega
    · have digit : 48 ≤ c.toNat ∧ c.toNat ≤ 57 := h
      omega
    · decide
    · decide
  have hne : ∀ d : Char, d.toNat < 35 ∨ d.toNat = 92 → c ≠ d := by
    rintro d hd rfl
    omega
  have hcontrol : ¬ isControl c = true := by
    simp only [isControl, Bool.or_eq_true, Bool.and_eq_true, decide_eq_true_eq]
    omega
  refine ⟨?_, hne _ (by decide)⟩
  rw [Python.literalChar, if_neg hcontrol]
  · exact hne _ (by decide)
  · exact hne _ (by decide)
  · exact hne _ (by decide)
  · exact hne _ (by decide)
  · exact hne _ (by decide)

namespace Contents

variable {part before behind : List Char}

theorem splitAtFirst?_append (h : ∀ front back, before ++ part = front ++ part ++ back → back = [])
    (behind : List Char) :
    splitAtFirst? part (before ++ part ++ behind) = some (before, behind) := by
  induction before with
  | nil =>
    cases part with
    | nil => cases behind <;> rfl
    | cons c part => simp [splitAtFirst?]
  | cons c before ih =>
    have hno : ¬ part.isPrefixOf (c :: (before ++ part ++ behind)) = true := by
      intro hprefix
      have hwhole : part <+: c :: before ++ part ++ behind := List.isPrefixOf_iff_prefix.1 hprefix
      obtain ⟨back, hback⟩ : part <+: c :: before ++ part := by
        refine List.prefix_of_prefix_length_le hwhole (List.prefix_append _ _) ?_
        rw [List.length_append]
        exact Nat.le_add_left _ _
      obtain rfl := h [] back (by rw [List.nil_append, hback])
      have hlength := congrArg List.length hback
      simp only [List.length_append, List.length_cons, List.length_nil] at hlength
      omega
    have hrest := ih fun front back hback => h (c :: front) back (by simp [hback])
    rw [List.cons_append, List.cons_append, splitAtFirst?, if_neg hno, hrest]
    rfl

/-- What has no quote stands behind the last separator. -/
theorem splitAtLast?_append {payload : List Char} (h : '"' ∉ payload) (name : List Char) :
    splitAtLast? literalSeparator (name ++ literalSeparator ++ payload) = some (name, payload) := by
  have hfirst : splitAtFirst? literalSeparator.reverse
      (payload.reverse ++ literalSeparator.reverse ++ name.reverse) =
        some (payload.reverse, name.reverse) := by
    refine splitAtFirst?_append (fun front back hback => ?_) _
    have hcount := congrArg (List.count '"') hback
    simp only [List.count_append, List.count_reverse, List.count_eq_zero_of_not_mem h] at hcount
    have hnone : '"' ∉ back := List.count_eq_zero.1 (by omega)
    have hlast := congrArg List.getLast? hback
    rw [List.getLast?_append, List.getLast?_append] at hlast
    cases hb : back.getLast? with
    | none => exact List.getLast?_eq_none_iff.1 hb
    | some c =>
      rw [hb] at hlast
      obtain rfl : '"' = c := by simpa [literalSeparator] using hlast
      exact absurd (List.mem_of_getLast? hb) hnone
  rw [splitAtLast?, List.reverse_append, List.reverse_append, ← List.append_assoc, hfirst]
  simp

/-! ## Registrations -/

/-- What stands in the literal for a text. -/
def spelled (text : String) : List Char := text.toList.flatMap literalChar

/-- The line for a module, with a mark in the place of its payload. -/
def markedLine (r : Record) : List Char :=
  registrationStart ++ spelled r.canonical ++ literalSeparator ++ payloadMark ++ registrationEnd

/-- A payload stands for itself in its literal. -/
theorem spelled_encode (source : String) :
    spelled (Payload.encode source) = (Payload.encode source).toList ∧
      '"' ∉ (Payload.encode source).toList := by
  obtain ⟨-, digits, padding, htext, hdigits, hpadding⟩ :=
    Payload.Base64.padded_encode (Payload.compress source.toUTF8.toList)
  have hplain : ∀ c ∈ (Payload.encode source).toList, literalChar c = [c] ∧ c ≠ '"' := by
    intro c hc
    rw [Payload.encode, String.toList_ofList, htext, List.mem_append] at hc
    obtain hc | hc := hc
    · exact (hdigits c hc).literalChar
    · obtain rfl : c = '=' := by
        rcases hpadding with rfl | rfl | rfl <;> simp at hc <;> exact hc
      decide
  refine ⟨?_, fun h => (hplain _ h).2 rfl⟩
  rw [spelled]
  generalize (Payload.encode source).toList = text at hplain
  induction text with
  | nil => rfl
  | cons c text ih =>
    obtain ⟨hc, hplain⟩ := List.forall_mem_cons.1 hplain
    rw [List.flatMap_cons, hc.1, ih hplain, List.singleton_append]

theorem registrationLine_eq (r : Record) :
    registrationLine r = registrationStart ++
      (spelled r.canonical ++ literalSeparator ++ (Payload.encode r.source).toList) ++
        registrationEnd := by
  have hend : ", ".toList = [',', ' '] := by decide
  rw [← (spelled_encode r.source).1]
  simp [registrationLine, literal, registrationStart, literalSeparator, registrationEnd, spelled]

theorem registered?_registrationLine (r : Record) :
    registered? (registrationLine r) =
      some (spelled r.canonical, (Payload.encode r.source).toList) := by
  rw [registrationLine_eq]
  generalize hinner : spelled r.canonical ++ literalSeparator ++ (Payload.encode r.source).toList =
    inner
  have hstart :
      registrationStart.isPrefixOf (registrationStart ++ inner ++ registrationEnd) = true :=
    List.isPrefixOf_iff_prefix.2 (by rw [List.append_assoc]; exact List.prefix_append _ _)
  have hbehind : (registrationStart ++ inner ++ registrationEnd).drop registrationStart.length =
      inner ++ registrationEnd := by
    rw [List.append_assoc, List.drop_left]
  have hend : registrationEnd.isSuffixOf (inner ++ registrationEnd) = true :=
    List.isSuffixOf_iff_suffix.2 (List.suffix_append _ _)
  have htake : (inner ++ registrationEnd).take
      ((inner ++ registrationEnd).length - registrationEnd.length) = inner := by
    rw [List.length_append, Nat.add_sub_cancel, List.take_left]
  rw [registered?]
  simp only [hbehind, htake, hstart, hend]
  exact hinner ▸ splitAtLast?_append (spelled_encode r.source).2 _

theorem takeWhile_lineFeed (text rest : List Char) :
    (text ++ '\n' :: rest).takeWhile (· ≠ '\n') = text.takeWhile (· ≠ '\n') := by
  induction text with
  | nil => rfl
  | cons c text ih => rw [List.cons_append, List.takeWhile_cons, List.takeWhile_cons, ih]

theorem takeRegistrations_line (r : Record) (lines : Nat) (rest : List Char) :
    takeRegistrations (lines + 1) (registrationLine r ++ '\n' :: rest) =
      ⟨markedLine r ++ '\n' :: (takeRegistrations lines rest).text,
        (String.ofList (spelled r.canonical), r.source) ::
          (takeRegistrations lines rest).modules⟩ := by
  have hline : (registrationLine r ++ '\n' :: rest).takeWhile (· ≠ '\n') = registrationLine r := by
    rw [takeWhile_lineFeed]
    refine List.takeWhile_eq_self_iff.2 fun c hc => ?_
    simpa using fun hfeed : c = '\n' => notMem_registrationLine r (hfeed ▸ hc)
  rw [takeRegistrations]
  simp only [hline, registered?_registrationLine, String.ofList_toList, Payload.decode_encode,
    List.drop_left]
  simp [markedLine]

/-- The lines of modules are taken off, up to what is no such line. -/
theorem takeRegistrations_lines {rest : List Char}
    (stop : ∀ lines, takeRegistrations lines rest = ⟨rest, []⟩) (modules : List Record)
    {lines : Nat} (enough : modules.length ≤ lines) :
    takeRegistrations lines ((modules.map registrationLine).flatMap (· ++ ['\n']) ++ rest) =
      ⟨(modules.map markedLine).flatMap (· ++ ['\n']) ++ rest,
        modules.map fun r => (String.ofList (spelled r.canonical), r.source)⟩ := by
  induction modules generalizing lines with
  | nil => exact stop lines
  | cons r modules ih =>
    obtain ⟨lines, rfl⟩ : ∃ fewer, lines = fewer + 1 := ⟨lines - 1, by
      rw [List.length_cons] at enough
      omega⟩
    have hrest := ih (Nat.le_of_succ_le_succ enough)
    rw [List.map_cons, List.flatMap_cons, List.append_assoc, List.append_assoc,
      List.singleton_append, takeRegistrations_line, hrest]
    simp

theorem length_le_lines (modules : List Record) (rest : List Char) :
    modules.length ≤
      ((modules.map registrationLine).flatMap (· ++ ['\n']) ++ rest).length + 1 := by
  induction modules with
  | nil => exact Nat.zero_le _
  | cons r modules ih =>
    simp only [List.map_cons, List.flatMap_cons, List.length_append, List.length_cons] at ih ⊢
    omega

theorem takeRegistrations_stop {rest : List Char}
    (h : ∀ name payload, registered? (rest.takeWhile (· ≠ '\n')) = some (name, payload) →
      ∃ fault, Payload.decode (String.ofList payload) = .error fault) (lines : Nat) :
    takeRegistrations lines rest = ⟨rest, []⟩ := by
  cases lines with
  | zero => rfl
  | succ lines =>
    rw [takeRegistrations]
    dsimp only
    split
    · rfl
    · rename_i name payload hline
      obtain ⟨fault, hfault⟩ := h name payload hline
      rw [hfault]

/-- **A bundle is read back**, where nothing before its opening is an opening and the script does
not start with the line of a module: the modules come back with their sources, and marks stand in
the places of their payloads. -/
theorem ofBundle_assemble (options : AssembleOptions) (source : String) (modules : List Record)
    (first : ∀ before behind, front options source.toList = before ++ opening.toList ++ behind →
      behind = [])
    (stop : ∀ name payload,
      registered? ((block source.toList).takeWhile (· ≠ '\n')) = some (name, payload) →
        ∃ fault, Payload.decode (String.ofList payload) = .error fault) :
    ofBundle (assemble options source modules).value =
      ⟨front options source.toList ++ (modules.map markedLine).flatMap (· ++ ['\n']) ++
          block source.toList ++ ['\n'] ++ closing.toList,
        modules.map fun r => (String.ofList (spelled r.canonical), r.source)⟩ := by
  obtain ⟨before, hfront⟩ : ∃ before, front options source.toList = before ++ opening.toList :=
    ⟨_, rfl⟩
  obtain ⟨rest, hrest⟩ : ∃ rest, rest = block source.toList ++ '\n' :: closing.toList := ⟨_, rfl⟩
  have htext : (bundleText options source.toList modules).toList = before ++ opening.toList ++
      ((modules.map registrationLine).flatMap (· ++ ['\n']) ++ rest) := by
    simp [toList_bundleText_eq, hfront, hrest]
  have hstop : ∀ lines, takeRegistrations lines rest = ⟨rest, []⟩ := by
    refine takeRegistrations_stop ?_
    rw [hrest, takeWhile_lineFeed]
    exact stop
  rw [value_assemble, ofBundle, htext]
  simp only [splitAtFirst?_append (hfront ▸ first),
    takeRegistrations_lines hstop modules (length_le_lines modules rest)]
  simp only [hfront, hrest, List.append_assoc, List.singleton_append]

end Contents

end ScriptBundle
