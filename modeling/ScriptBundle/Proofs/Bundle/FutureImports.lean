import ScriptBundle.Proofs.Grammar.Replaced

namespace ScriptBundle

open Python

/-! ## Stretches of a text -/

/-- Stretches lie behind one another, from a place on, in a text of so many characters. -/
def Stretches (place length : Nat) : List (Nat × Nat) → Prop
  | [] => place ≤ length
  | (start, stop) :: rest => place ≤ start ∧ start ≤ stop ∧ Stretches stop length rest

def stretch (text : List Char) (place : Nat × Nat) : List Char :=
  (text.drop place.1).take (place.2 - place.1)

/-- How many bytes the characters before a place take. -/
def byteOffset (text : List Char) (place : Nat) : Nat :=
  (String.ofList (text.take place)).toByteArray.size

/-- What lies before, between and behind stretches, from a place on. -/
def around (text : List Char) (place : Nat) : List (Nat × Nat) → List (List Char)
  | [] => [text.drop place]
  | (start, stop) :: rest => stretch text (place, start) :: around text stop rest

/-- Texts in turn, the first one of the first list before the first one of the second. -/
def interleave : List (List Char) → List (List Char) → List Char
  | outer :: outers, inner :: inners => outer ++ inner ++ interleave outers inners
  | outers, _ => outers.flatten

section Texts

variable {text : List Char} {place length : Nat} {places : List (Nat × Nat)}

/-- A stretch stands before what lies behind it. -/
theorem stretch_append {p : Nat × Nat} (hp : p.1 ≤ p.2) :
    stretch text p ++ text.drop p.2 = text.drop p.1 := by
  have hsplit := List.take_append_drop (p.2 - p.1) (text.drop p.1)
  rwa [List.drop_drop, Nat.add_sub_of_le hp] at hsplit

theorem Stretches.start_le_stop (h : Stretches place length places) : ∀ p ∈ places, p.1 ≤ p.2 := by
  induction places generalizing place with
  | nil => exact fun p hp => nomatch hp
  | cons p places ih => exact List.forall_mem_cons.2 ⟨h.2.1, ih h.2.2⟩

/-- The bytes of a stretch are those between its ends. -/
theorem extract_stretch {p : Nat × Nat} (hp : p.1 ≤ p.2) :
    (String.ofList text).toByteArray.extract (byteOffset text p.1) (byteOffset text p.2) =
      (String.ofList (stretch text p)).toByteArray := by
  have htake : text.take p.2 = text.take p.1 ++ stretch text p := by
    rw [stretch, ← List.take_add, Nat.add_sub_of_le hp]
  have htext : text.utf8Encode = (text.take p.1).utf8Encode ++
      ((stretch text p).utf8Encode ++ (text.drop p.2).utf8Encode) := by
    rw [← List.utf8Encode_append, ← List.utf8Encode_append, ← List.append_assoc, ← htake,
      List.take_append_drop]
  simp only [byteOffset, String.toByteArray_ofList]
  calc text.utf8Encode.extract (text.take p.1).utf8Encode.size (text.take p.2).utf8Encode.size
    _ = ((stretch text p).utf8Encode ++ (text.drop p.2).utf8Encode).extract 0
          (stretch text p).utf8Encode.size := by
        rw [htake, List.utf8Encode_append, ByteArray.size_append, htext]
        exact ByteArray.extract_append_size_add (i := 0)
    _ = (stretch text p).utf8Encode := ByteArray.extract_append_eq_left rfl

/-- The first stretch is taken out, and then those behind it. -/
theorem takeOut_cons {start stop : Nat} (hstart : place ≤ start) (hstop : start ≤ stop) :
    takeOut place (text.drop place) ((start, stop) :: places) =
      ⟨stretch text (start, stop) :: (takeOut stop (text.drop stop) places).statements,
        stretch text (place, start) ++ ['p', 'a', 's', 's'] ++
          (takeOut stop (text.drop stop) places).body⟩ := by
  have hbehind : (text.drop place).drop (start - place) = text.drop start := by
    rw [List.drop_drop, Nat.add_sub_of_le hstart]
  have hbehind' : (text.drop place).drop (stop - place) = text.drop stop := by
    rw [List.drop_drop, Nat.add_sub_of_le (Nat.le_trans hstart hstop)]
  simp only [takeOut, hbehind, hbehind', stretch]

/-- **What is taken out of a text** are its stretches, and each leaves the word `pass`. -/
theorem takeOut_eq (h : Stretches place text.length places) :
    takeOut place (text.drop place) places = ⟨places.map (stretch text),
      interleave (around text place places) (places.map fun _ => ['p', 'a', 's', 's'])⟩ := by
  induction places generalizing place with
  | nil => simp [takeOut, around, interleave]
  | cons p places ih =>
    obtain ⟨hstart, hstop, hrest⟩ := h
    rw [takeOut_cons hstart hstop, ih hrest]
    rfl

/-- Back in their places, the stretches of a text are the text. -/
theorem interleave_stretches (h : Stretches place text.length places) :
    interleave (around text place places) (places.map (stretch text)) = text.drop place := by
  induction places generalizing place with
  | nil => simp [around, interleave]
  | cons p places ih =>
    obtain ⟨start, stop⟩ := p
    obtain ⟨hstart, hstop, hrest⟩ := h
    calc interleave (around text place ((start, stop) :: places))
          (((start, stop) :: places).map (stretch text))
      _ = stretch text (place, start) ++ stretch text (start, stop) ++
            interleave (around text stop places) (places.map (stretch text)) := rfl
      _ = stretch text (place, start) ++ (stretch text (start, stop) ++ text.drop stop) := by
        rw [ih hrest, List.append_assoc]
      _ = stretch text (place, start) ++ text.drop start := by rw [stretch_append hstop]
      _ = text.drop place := stretch_append hstart

/-- A stretch behind the front of a text gives way to a word. -/
theorem replace_behind {left word : List Char} {a b : Nat} (ha : left.length ≤ a) (hab : a ≤ b) :
    (left ++ text.drop place).take a ++ (word ++ (left ++ text.drop place).drop b) =
      left ++ stretch text (place, place + (a - left.length)) ++ word ++
        text.drop (place + (b - left.length)) := by
  have htake : (left ++ text.drop place).take a =
      left ++ stretch text (place, place + (a - left.length)) := by
    rw [List.take_append, List.take_of_length_le ha, stretch, Nat.add_sub_cancel_left]
  have hdrop : (left ++ text.drop place).drop b = text.drop (place + (b - left.length)) := by
    rw [List.drop_append, List.drop_of_length_le (Nat.le_trans ha hab), List.nil_append,
      List.drop_drop]
  rw [htake, hdrop]
  simp only [List.append_assoc]

end Texts

/-! ## Imports in the order of their source -/

namespace Python

/-- The places of statements in the source of a module. -/
def Module.places (m : Module) (l : List Stmt) : List (Nat × Nat) := l.map fun s => m.bounds s.span

theorem Module.places_cons (m : Module) (s : Stmt) (l : List Stmt) :
    m.places (s :: l) = m.bounds s.span :: m.places l := rfl

/-- All tokens from a number on lie behind a place. -/
def Module.Behind (m : Module) (place n : Nat) : Prop :=
  ∀ i t, n ≤ i → m.tokens[i]? = some t → t.kind ≠ .endOfFile → place ≤ t.start

section Order

variable {source : List Char} {m : Module} (h : Module.parse source = .ok m)
include h

/-- A from-import starts behind all that lies before its tokens, and its end lies before all tokens
behind it. -/
theorem behind_of_importFrom {levels place : Nat} {c e : Cursor} {span : Span} {level : Nat}
    {module : Option DottedName} {names : List (Alias Member)} (hc : c.On m.tokens)
    (hread : (Rules.upTo levels).statement c =
      .ok (.simple span (.importFrom level module names), e)) (hplace : m.Behind place c.number) :
    place ≤ (m.bounds span).1 ∧ m.Behind (m.bounds span).2 e.number := by
  obtain ⟨htokens, -⟩ := Module.parse_eq_ok_iff.1 h
  have hclosed := closed_of_tokens htokens
  obtain ⟨first, inner, d, hfirst, -, -, hrest, hd, -, hnumber, rfl, hline⟩ :=
    tokens_of_importFrom hclosed hc hread
  have hfirst' : m.tokens[c.number]? = some first := by
    have hhead := congrArg (·[0]?) (hc.rest.symm.trans hrest)
    simpa using hhead
  have hpast : d.number ≤ e.number := by
    have hagree : Reading.Agree ⟨0, 0⟩ d.rest.length 0 _
        (Rules.lineRest (.simple ⟨c.number, d.number⟩ (.importFrom level module names)))
        (Rules.lineRest (.simple ⟨c.number, d.number⟩ (.importFrom level module names))) :=
      Rules.lineRest_agree _ _
    obtain ⟨-, -, -, hreach⟩ := hagree.reads (hd.alike hclosed) (Nat.le_refl _) hline
    exact hreach.number
  constructor
  · simp only [Module.bounds, hfirst', Option.map_some, Option.getD_some]
    exact hplace _ first (Nat.le_refl _) hfirst' (by simp [hfirst])
  · intro i t hi ht hkind
    have hlt := hd.lt
    simp only [Module.bounds, List.getElem?_eq_getElem (show d.number - 1 < m.tokens.length by omega),
      Option.map_some, Option.getD_some]
    exact stop_le_start_of_tokens htokens (i := d.number - 1) (by omega)
      (List.getElem?_eq_getElem _) ht hkind

end Order

/-- A statement that imports names from a module. -/
def Stmt.IsImportFrom (s : Stmt) : Prop :=
  ∃ span level module names, s = .simple span (.importFrom level module names)

/-- A statement that does nothing. -/
def Stmt.IsPass (s : Stmt) : Prop := ∃ span, s = .simple span .pass

/-- What the first statement that is read starts with. -/
theorem ReadToEnd.kind {r : Reading Stmt} {c : Cursor} {l : List Stmt} (h : ReadToEnd r c l) :
    c.kind = .endOfFile ∨ ListKind.module.startsItem c.kind = true := by
  cases h with
  | nil file => exact .inl file
  | cons start => exact .inr start

/-- **Imports give way to `pass`**, the first one first, and the rest of the source is read as
before. `left` is what the source became up to a place of the original. -/
theorem Replaced.imports {original left : List Char} {m : Module} {place : Nat}
    {before imports rest : List Stmt} {shift : Shift} {c e : Cursor} {front : List Token}
    (hm : Module.parse original = .ok m)
    (h : Replaced (left ++ original.drop place) before shift c front e)
    (hleft : left.length + shift.characters = place) (hplace : place ≤ original.length)
    (hc : c.On m.tokens) (hbehind : m.Behind place c.number)
    (himports : ∀ s ∈ imports, s.IsImportFrom)
    (hread : ReadToEnd (Rules.upTo (2 * m.tokens.length + 16)).statement c (imports ++ rest)) :
    Stretches place original.length (m.places imports) ∧
      ∃ m' passes n, Module.parse (left ++ (takeOut place (original.drop place)
          (m.places imports)).body) = .ok m' ∧
        passes.length = imports.length ∧ (∀ s ∈ passes, s.IsPass) ∧
        m'.body = before ++ passes ++ rest.map (Stmt.lower n) := by
  have hclosed := closed_of_tokens (Module.parse_eq_ok_iff.1 hm).1
  induction imports generalizing left place before shift c front e with
  | nil =>
    have hlength := hc.length
    obtain ⟨m', hparse, hbody⟩ := h.parse hread (by omega)
    refine ⟨hplace, m', [], shift.tokens, hparse, rfl, by simp, ?_⟩
    rw [hbody, List.append_nil]
    rfl
  | cons s imports ih =>
    obtain ⟨span, level, module, names, rfl⟩ := himports s (List.mem_cons_self ..)
    cases hread with
    | @cons _ c' _ _ start read later =>
      have hlength := hc.length
      obtain ⟨hstart, hbehind'⟩ := behind_of_importFrom hm hc read hbehind
      obtain ⟨a, b, shift', front', e', hfour, hb, hbounds, hshift, h'⟩ :=
        h.step hc read (by omega) later.kind
      rw [hbounds] at hstart hbehind'
      dsimp only at hstart hbehind'
      rw [List.length_append, List.length_drop] at hb
      have hfirst : place + (a - left.length) = a + shift.characters := by omega
      have hpast : place + (b - left.length) = b + shift.characters := by omega
      have hsource : (left ++ original.drop place).take a ++
          (['p', 'a', 's', 's'] ++ (left ++ original.drop place).drop b) = _ :=
        replace_behind (by omega) (by omega)
      rw [hfirst, hpast] at hsource
      have hleft' : (left ++ stretch original (place, a + shift.characters) ++
          ['p', 'a', 's', 's']).length + shift'.characters = b + shift.characters := by
        simp only [stretch, List.length_append, List.length_take, List.length_drop,
          List.length_cons, List.length_nil]
        omega
      obtain ⟨hstretches, m', passes, n, hparse, hpassed, hpasses, hbody⟩ :=
        ih (hsource ▸ h') hleft' (by omega) (hc.statement hclosed (by omega) read) hbehind'
          (fun s hs => himports s (List.mem_cons_of_mem _ hs)) later
      refine ⟨?_, m', .simple ⟨front.length, front.length + 1⟩ .pass :: passes, n, ?_, ?_, ?_, ?_⟩
      · rw [Module.places_cons, Stmt.span, hbounds]
        exact ⟨hstart, by omega, hstretches⟩
      · rw [← hparse, Module.places_cons, Stmt.span, hbounds, takeOut_cons hstart (by omega)]
        simp only [List.append_assoc]
      · rw [List.length_cons, List.length_cons, hpassed]
      · exact List.forall_mem_cons.2 ⟨⟨_, rfl⟩, hpasses⟩
      · rw [hbody]
        simp

/-! ## The future imports of a module -/

/-- A statement that imports from `__future__`. -/
def Stmt.IsFutureImport (s : Stmt) : Prop :=
  ∃ span name names, s = .simple span (.importFrom 0 (some name) names) ∧ name.text = "__future__"

theorem Stmt.IsFutureImport.isImportFrom {s : Stmt} (h : s.IsFutureImport) : s.IsImportFrom := by
  obtain ⟨span, name, names, rfl, -⟩ := h
  exact ⟨span, 0, some name, names, rfl⟩

theorem futureSpan?_eq_some_iff {s : Stmt} {span : Span} :
    futureSpan? s = some span ↔ s.IsFutureImport ∧ s.span = span := by
  constructor
  · intro h
    unfold futureSpan? at h
    split at h
    · rename_i span' name names
      split at h
      · rename_i hname
        cases h
        exact ⟨⟨span, name, names, rfl, hname⟩, rfl⟩
      · cases h
    · cases h
  · rintro ⟨⟨span, name, names, rfl, hname⟩, rfl⟩
    unfold futureSpan?
    exact if_pos hname

/-- A body opens with a docstring, if it has one, and with all future imports that follow. -/
structure OpensWith (body : List Stmt) (docstring : Option Stmt) (imports rest : List Stmt) :
    Prop where
  split : body = docstring.toList ++ imports ++ rest
  opens : ∀ s ∈ docstring, isDocstring s = true
  otherwise : docstring = none → ∀ s ∈ body.head?, isDocstring s = false
  future : ∀ s ∈ imports, s.IsFutureImport
  behind : ∀ s ∈ rest.head?, ¬s.IsFutureImport

/-- Future imports at the start of some statements give their spans. -/
theorem exists_futureSpans (l : List Stmt) : ∃ imports rest, l = imports ++ rest ∧
    (∀ s ∈ imports, s.IsFutureImport) ∧ (∀ s ∈ rest.head?, ¬s.IsFutureImport) ∧
      resultsWhile futureSpan? l = imports.map Stmt.span := by
  induction l with
  | nil => exact ⟨[], [], rfl, by simp, by simp, rfl⟩
  | cons s l ih =>
    by_cases hs : s.IsFutureImport
    · obtain ⟨imports, rest, rfl, himports, hrest, hspans⟩ := ih
      refine ⟨s :: imports, rest, rfl, List.forall_mem_cons.2 ⟨hs, himports⟩, hrest, ?_⟩
      rw [resultsWhile, futureSpan?_eq_some_iff.2 ⟨hs, rfl⟩]
      simp only [hspans, List.map_cons]
    · have hnone : futureSpan? s = none := by
        rw [Option.eq_none_iff_forall_ne_some]
        exact fun span hspan => hs (futureSpan?_eq_some_iff.1 hspan).1
      refine ⟨[], s :: l, rfl, by simp, by simpa using hs, ?_⟩
      rw [resultsWhile, hnone]
      rfl

/-- **The future imports of a body** are those that it opens with. -/
theorem exists_opensWith (body : List Stmt) : ∃ docstring imports rest,
    OpensWith body docstring imports rest ∧ futureSpans body = imports.map Stmt.span := by
  obtain ⟨imports, rest, hsplit, himports, hrest, hspans⟩ := exists_futureSpans (behindDocstring body)
  cases body with
  | nil =>
    obtain ⟨rfl, rfl⟩ := List.append_eq_nil_iff.1 hsplit.symm
    exact ⟨none, [], [], ⟨rfl, by simp, by simp, himports, hrest⟩, hspans⟩
  | cons s body =>
    rw [behindDocstring] at hsplit
    by_cases hs : isDocstring s = true
    · rw [if_pos hs] at hsplit
      subst hsplit
      exact ⟨some s, imports, rest, ⟨rfl, by simpa using hs, by simp, himports, hrest⟩, hspans⟩
    · rw [if_neg hs] at hsplit
      exact ⟨none, imports, rest, ⟨hsplit, by simp, by simpa using hs, himports, hrest⟩, hspans⟩

section Module

variable {source : List Char} {m : Module} (h : Module.parse source = .ok m)
include h

/-- A module whose statements are all left where they are is read as before. -/
theorem map_lower_zero : m.body.map (Stmt.lower 0) = m.body := by
  have hread := (readToEnd_of_parse h).2
  have hlength : (Cursor.start m.tokens).rest.length = m.tokens.length := rfl
  obtain ⟨m', hparse, hbody⟩ := (replaced_start h).parse hread (by omega)
  rw [h] at hparse
  cases hparse
  rw [List.nil_append] at hbody
  exact hbody.symm

/-- A module's imports behind a docstring give way to `pass`. -/
theorem parse_takeOut {docstring : Option Stmt} {imports rest : List Stmt}
    (hopens : OpensWith m.body docstring imports rest) :
    Stretches 0 source.length (m.places imports) ∧
      ∃ m' passes n,
        Module.parse (takeOut 0 source (m.places imports)).body = .ok m' ∧
          passes.length = imports.length ∧ (∀ s ∈ passes, s.IsPass) ∧
            m'.body = docstring.toList ++ passes ++ rest.map (Stmt.lower n) := by
  obtain ⟨hclosed, hread⟩ := readToEnd_of_parse h
  have hbehind : ∀ n, m.Behind 0 n := fun n i t _ _ _ => Nat.zero_le _
  have himports : ∀ s ∈ imports, s.IsImportFrom := fun s hs => (hopens.future s hs).isImportFrom
  rw [hopens.split] at hread
  cases docstring with
  | none =>
    have hreplaced : Replaced ([] ++ source.drop 0) [] ⟨0, 0⟩ (.start m.tokens) []
        (.start m.tokens) := replaced_start h
    simpa using hreplaced.imports h rfl (Nat.zero_le _) (Cursor.on_start hclosed) (hbehind _)
      himports hread
  | some s =>
    cases imports with
    | nil =>
      have hzero := map_lower_zero h
      rw [hopens.split] at hzero
      simp only [Option.toList_some, List.append_nil, List.map_append] at hzero
      have hrest := (List.append_inj hzero (by simp)).2
      exact ⟨Nat.zero_le _, m, [], 0, h, rfl, by simp, by simp [hopens.split, hrest]⟩
    | cons i imports =>
      cases hread with
      | @cons _ d _ _ start read later =>
        have hlength : (Cursor.start m.tokens).rest.length = m.tokens.length := rfl
        have hon := (Cursor.on_start hclosed).statement hclosed (by omega) read
        have hd : d.kind.startsSimple = true := by
          obtain ⟨span, level, module, names, rfl⟩ := himports i (List.mem_cons_self ..)
          cases later with
          | cons _ readImport =>
            obtain ⟨first, -, -, hfirst, htook, -⟩ := tokens_of_importFrom hclosed hon readImport
            rw [htook.kind_eq, hfirst]
            rfl
        obtain ⟨hon, l, hreplaced⟩ := replaced_docstring h (hopens.opens s rfl) read hd
        have hfront : Replaced ([] ++ source.drop 0) [s] ⟨0, 0⟩ d l d := hreplaced
        simpa using hfront.imports h rfl (Nat.zero_le _) hon (hbehind _) himports later

end Module

end Python

/-- What is left of a module without its future imports is a module. -/
theorem parse_hoist {source : List Char} {m : Module} (h : Module.parse source = .ok m) :
    ∃ m', Module.parse (hoist source).body = .ok m' := by
  obtain ⟨docstring, imports, rest, hopens, hspans⟩ := exists_opensWith m.body
  obtain ⟨-, m', passes, n, hparse, -⟩ := parse_takeOut h hopens
  have hplaces : (futureSpans m.body).map m.bounds = m.places imports := by
    rw [hspans, List.map_map]
    rfl
  unfold hoist
  rw [h]
  dsimp only
  rw [hplaces]
  exact ⟨m', hparse⟩

/-- The imports of a module were taken out of its source, with `pass` in the place of each. -/
structure TakenOut (source : List Char) (m : Module) (docstring : Option Stmt)
    (imports rest : List Stmt) (hoisted : Hoisted) : Prop where
  inside : Stretches 0 source.length (m.places imports)
  bytes : ∀ p ∈ m.places imports,
    (String.ofList source).toByteArray.extract (byteOffset source p.1) (byteOffset source p.2) =
      (String.ofList (stretch source p)).toByteArray
  statements : hoisted.statements = (m.places imports).map (stretch source)
  body : hoisted.body = interleave (around source 0 (m.places imports))
    ((m.places imports).map fun _ => ['p', 'a', 's', 's'])
  back : interleave (around source 0 (m.places imports)) hoisted.statements = source
  unchanged : imports = [] → hoisted.body = source
  parses : ∃ m' passes n, Module.parse hoisted.body = .ok m' ∧ passes.length = imports.length ∧
    (∀ s ∈ passes, s.IsPass) ∧ m'.body = docstring.toList ++ passes ++ rest.map (Stmt.lower n)

/-- **Future imports leave a script as they are written.** A source that does not parse stays as it
is. From any other, exactly the future imports behind an optional docstring are taken out, each as
it stands in the source; what is left is the source with `pass` in their places, and parses to the
same statements with `pass` in the place of each import. -/
theorem hoist_faithful (source : List Char) :
    match Module.parse source with
    | .error _ => hoist source = ⟨[], source⟩
    | .ok m => ∃ docstring imports rest, OpensWith m.body docstring imports rest ∧
        TakenOut source m docstring imports rest (hoist source) := by
  unfold hoist
  cases h : Module.parse source with
  | error => rfl
  | ok m =>
    obtain ⟨docstring, imports, rest, hopens, hspans⟩ := exists_opensWith m.body
    obtain ⟨hinside, hparses⟩ := parse_takeOut h hopens
    have hplaces : (futureSpans m.body).map m.bounds = m.places imports := by
      rw [hspans, List.map_map]
      rfl
    have htaken : takeOut 0 source (m.places imports) =
        ⟨(m.places imports).map (stretch source), interleave (around source 0 (m.places imports))
          ((m.places imports).map fun _ => ['p', 'a', 's', 's'])⟩ := takeOut_eq hinside
    refine ⟨docstring, imports, rest, hopens, ?_⟩
    dsimp only
    rw [hplaces]
    constructor
    · exact hinside
    · exact fun p hp => extract_stretch (hinside.start_le_stop p hp)
    · rw [htaken]
    · rw [htaken]
    · rw [htaken]
      exact interleave_stretches hinside
    · rintro rfl
      rfl
    · exact hparses

/-- Imports that share their line with other statements, behind a docstring and in brackets. -/
example : hoist "'é'; from __future__ import (a,\n b); from __future__ import c; x\n".toList =
    ⟨["from __future__ import (a,\n b)".toList, "from __future__ import c".toList],
      "'é'; pass; pass; x\n".toList⟩ := by decide +kernel

end ScriptBundle
