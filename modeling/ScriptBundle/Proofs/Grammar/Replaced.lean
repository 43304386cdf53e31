import ScriptBundle.Proofs.Grammar.Front
import ScriptBundle.Proofs.Token.Replace

/-!
# Imports that give way to `pass`

A from-import that stands behind a docstring and other `pass` can be replaced by `pass`: the
statements behind it are read as before.
-/

namespace ScriptBundle.Python

open Reading

/-- A source that opens with statements read from `front` and goes on with the tokens from `e`,
which are those from `c` in places that are `shift` earlier. -/
structure Replaced (source : List Char) (before : List Stmt) (shift : Shift) (c : Cursor)
    (front : List Token) (e : Cursor) : Prop where
  tokens : Python.tokens source = ⟨front ++ e.rest, none⟩
  reads : Front front before
  took : (Cursor.start (front ++ e.rest)).Took front e
  follows : Follows front e.kind
  alike : c.Alike shift e

section Source

variable {source : List Char} {m : Module} (h : Module.parse source = .ok m)
include h

/-- The statements of a source are read from its tokens. -/
theorem readToEnd_of_parse : Closed m.tokens ∧
    ReadToEnd (Rules.upTo (2 * m.tokens.length + 16)).statement (.start m.tokens) m.body := by
  obtain ⟨htokens, hbody⟩ := Module.parse_eq_ok_iff.1 h
  have hclosed := closed_of_tokens htokens
  exact ⟨hclosed, (statements_eq_ok_iff hclosed).1 hbody⟩

/-- Nothing of a source is replaced to begin with. -/
theorem replaced_start : Replaced source [] ⟨0, 0⟩ (.start m.tokens) [] (.start m.tokens) where
  tokens := (Module.parse_eq_ok_iff.1 h).1
  reads := front_nil
  took := .refl rfl
  follows := by simp [Follows]
  alike := (Cursor.on_start (readToEnd_of_parse h).1).alike (readToEnd_of_parse h).1

/-- A docstring stays as it is. -/
theorem replaced_docstring {s : Stmt} {d : Cursor} (hdocstring : isDocstring s = true)
    (hread : (Rules.upTo (2 * m.tokens.length + 16)).statement (.start m.tokens) = .ok (s, d))
    (hd : d.kind.startsSimple = true) :
    d.On m.tokens ∧ ∃ l, Replaced source [s] ⟨0, 0⟩ d l d := by
  obtain ⟨hclosed, -⟩ := readToEnd_of_parse h
  obtain ⟨hon, l, hl, htook, hfollows, hs⟩ :=
    frontStatement_of_docstring hclosed (Cursor.on_start hclosed) rfl hdocstring hread hd
  have hrest : m.tokens = l ++ d.rest := htook.rest
  refine ⟨hon, l, ?_, front_nil.concat hs hl, ?_, hfollows, hon.alike hclosed⟩
  · rw [← hrest]
    exact (Module.parse_eq_ok_iff.1 h).1
  · rw [← hrest]
    exact htook

end Source

/-- Where `pass` stands in the place of a statement, the rest of its line ends it as well. -/
theorem replaced_pass {source : List Char} {front behind : List Token} {before : List Stmt}
    {pass : Token} {shift shift' : Shift} {stmt : Stmt} {c d d' : Cursor} (hfront : Front front before)
    (hpass : pass.kind = .keyword .«pass»)
    (htokens : Python.tokens source = ⟨front ++ pass :: behind, none⟩)
    (hd : d.Alike shift' ⟨behind, front.length + 1, (front ++ pass :: behind).length, [.module], false⟩)
    (hkind : d.kind = .symbol .semi ∨ d.kind = .newline)
    (hline : Rules.lineRest stmt d = .ok (stmt, d')) (hc : c.Alike shift d') :
    ∃ front' e', Replaced source (before ++ [.simple ⟨front.length, front.length + 1⟩ .pass])
      ⟨shift.tokens + shift'.tokens, shift.characters + shift'.characters⟩ c front' e' := by
  have hclosed := closed_of_tokens htokens
  have hagree : Agree shift' d.rest.length 0 _ (Rules.lineRest stmt)
      (Rules.lineRest (.simple ⟨front.length, front.length + 1⟩ .pass)) :=
    Rules.lineRest_agree _ _
  obtain ⟨e, hread, he, -⟩ := hagree.reads hd (Nat.le_refl _) hline
  have hbehind : behind ≠ [] := by
    rintro rfl
    exact hd.closed.ne_nil (List.eq_nil_of_length_eq_zero hd.length_eq.symm)
  have hstart : (Cursor.start (front ++ pass :: behind)).Took (front ++ [pass])
      ⟨behind, front.length + 1, (front ++ pass :: behind).length, [.module], false⟩ :=
    ⟨by simp [Cursor.start], by simp [Cursor.start], rfl, rfl, rfl, rfl⟩
  have hon := hstart.on (Cursor.on_start hclosed) hbehind
  obtain ⟨-, seps, hends, htook, hfollows⟩ | ⟨-, hneither, -⟩ :=
    Rules.gives_lineRest hclosed hon rfl _ e hread
  · have hsplit : front ++ pass :: behind = (front ++ pass :: seps) ++ e.rest := by
      have hrest : behind = seps ++ e.rest := htook.rest
      rw [hrest]
      simp
    have hpassed : front ++ [pass] ++ seps = front ++ pass :: seps := by simp
    have hwhole := hstart.trans htook
    rw [hpassed, hsplit] at hwhole
    refine ⟨front ++ pass :: seps, e, hsplit ▸ htokens, ?_, hwhole, ?_, hc.trans he⟩
    · exact hfront.concat (frontStatement_pass hpass hends) (List.cons_ne_nil _ _)
    · rw [← hpassed]
      exact hfollows.append hends.ne_nil
  · rw [← hd.kind_eq] at hkind
    obtain hkind | hkind := hkind
    · exact absurd hkind hneither.1
    · exact absurd hkind hneither.2

namespace Replaced

variable {source : List Char} {before : List Stmt} {shift : Shift} {c e : Cursor}
  {front : List Token} (h : Replaced source before shift c front e)
include h

theorem closed : Closed (front ++ e.rest) := closed_of_tokens h.tokens

theorem rest_ne_nil : e.rest ≠ [] := by
  intro hrest
  have hlength := h.alike.length_eq
  rw [hrest] at hlength
  exact h.alike.closed.ne_nil (List.eq_nil_of_length_eq_zero hlength.symm)

theorem on : e.On (front ++ e.rest) := h.took.on (Cursor.on_start h.closed) h.rest_ne_nil

/-- **What is left of a source** is read as before. -/
theorem parse {levels : Nat} {later : List Stmt}
    (hlater : ReadToEnd (Rules.upTo levels).statement c later)
    (hlevels : 2 * c.rest.length + 1 ≤ levels) :
    ∃ m, Module.parse source = .ok m ∧ m.body = before ++ later.map (Stmt.lower shift.tokens) := by
  have hlength := h.alike.length_eq
  have hagree : Agree shift c.rest.length 1 (Stmt.lower shift.tokens)
      (Rules.upTo levels).statement
      (Rules.upTo (2 * (front ++ e.rest).length + 16)).statement :=
    Rules.upTo_statement hlevels (by rw [List.length_append]; omega)
  have hbehind := hlater.alike hagree h.alike (Nat.le_refl _)
  have hread := h.reads.read (by rw [List.length_append]; omega) rfl h.took h.follows
    h.rest_ne_nil (by simp [Cursor.start]) hbehind
  exact ⟨⟨_, _⟩, Module.parse_eq_ok_iff.2 ⟨h.tokens, (statements_eq_ok_iff h.closed).2 hread⟩, rfl⟩

/-- Behind an import, the next token stands in the same line. -/
theorem next_of_import {first : Token} {inner : List Token} {d : Cursor}
    (hfirst : first.kind = .keyword .«from») (hinner : Inner inner)
    (hrest : e.rest = first :: (inner ++ d.rest)) (hd : d.On (front ++ e.rest))
    (hcuts : d.CutsAtLineEnd) : d.cutOff = false ∧ d.kind ≠ .endOfFile := by
  obtain ⟨next, -, hbehind⟩ := hd.rest_eq_cons
  have htokens := h.tokens
  rw [hrest] at htokens
  obtain ⟨a, b, f, haround⟩ := Scan.around_of_tokens htokens (by simp [hbehind])
  obtain ⟨hfile, hline⟩ := haround.next h.reads.opening.kinds hfirst hinner.kinds
    (h.reads.opening.brackets 0) (hinner.brackets 0) next (by simp [hbehind])
  have hsees : d.cutOff = false := by
    by_contra hcut
    obtain ⟨t, ht, hend⟩ := hcuts (by simpa using hcut)
    rw [hbehind] at ht
    obtain rfl := Option.mem_some.1 ht
    rw [hline] at hend
    cases hend
  refine ⟨hsees, ?_⟩
  rw [Cursor.kind, hbehind, hsees]
  exact hfile

omit h in
/-- The places of a statement between two of its tokens. -/
theorem bounds_of_alike {m : Module} {first last : Token} {n : Nat} (halike : c.Alike shift e)
    (hc : c.On m.tokens) (hfirst : e.rest[0]? = some first) (hlast : e.rest[n]? = some last) :
    m.bounds ⟨c.number, c.number + n + 1⟩ =
      (first.start + shift.characters, last.stop + shift.characters) := by
  have hget : ∀ i t, e.rest[i]? = some t →
      ∃ u, m.tokens[c.number + i]? = some u ∧ u.Shifted shift t := by
    intro i t ht
    have hrel := halike.getElem? i
    rw [ht, hc.rest, List.getElem?_drop] at hrel
    cases hu : m.tokens[c.number + i]? with
    | none =>
      rw [hu] at hrel
      cases hrel
    | some u =>
      rw [hu] at hrel
      cases hrel with
      | some hrel => exact ⟨u, rfl, hrel⟩
  obtain ⟨t, ht, hshift⟩ := hget 0 first hfirst
  obtain ⟨u, hu, hshift'⟩ := hget n last hlast
  unfold Module.bounds
  simp only [Nat.add_zero] at ht
  simp only [Nat.add_sub_cancel, ht, hu, Option.map_some, Option.getD_some]
  rw [hshift.start, hshift'.stop]

/-- In the place of an import, `pass` stands before the tokens that stood behind it. -/
theorem pass_for_import {first last : Token} {inner : List Token} {d : Cursor}
    (hfirst : first.kind = .keyword .«from») (hinner : Inner inner)
    (hlast : (first :: inner).getLast? = some last) (hrest : e.rest = first :: (inner ++ d.rest))
    (hd : d.On (front ++ e.rest)) (hsees : d.cutOff = false)
    (hkind : d.kind = .symbol .semi ∨ d.kind = .newline) (hlists : d.lists = e.lists)
    (hnumber : d.number = e.number + (inner.length + 1)) :
    first.start + 4 ≤ last.stop ∧ last.stop ≤ source.length ∧ ∃ pass behind,
      pass.kind = .keyword .«pass» ∧
      Python.tokens (source.take first.start ++
        ('p' :: 'a' :: 's' :: 's' :: source.drop last.stop)) = ⟨front ++ pass :: behind, none⟩ ∧
      d.Alike ⟨inner.length, last.stop - (first.start + 4)⟩
        ⟨behind, front.length + 1, (front ++ pass :: behind).length, [.module], false⟩ := by
  obtain ⟨next, -, hbehind⟩ := hd.rest_eq_cons
  generalize (front ++ e.rest).drop (d.number + 1) = later at hbehind
  have hnext : d.kind = next.kind := by
    rw [Cursor.kind, hbehind, hsees]
    rfl
  rw [hnext] at hkind
  have htokens := h.tokens
  rw [hrest, hbehind] at htokens
  obtain ⟨hfour, hlength, behind, hshift, htokens'⟩ :=
    tokens_replace htokens h.reads.opening.kinds hfirst hinner.kinds hinner.brackets hkind.symm hlast
  have hfront : e.number = front.length := h.took.number.trans (Nat.zero_add _)
  have hsame := hd.alike h.closed
  refine ⟨hfour, hlength, { first with kind := .keyword .«pass» }, behind, rfl, htokens', ?_⟩
  constructor
  · rw [hbehind]
    exact hshift
  · exact hsame.closed
  · dsimp only
    omega
  · exact hsame.total
  · simp only [List.length_append, List.length_cons]
    omega
  · rw [hlists, h.took.lists]
    rfl
  · exact hsees.symm

/-- **One import gives way to `pass`**, and the source goes on behind it. -/
theorem step {m : Module} {levels : Nat} {c' : Cursor} {span : Span} {level : Nat}
    {module : Option DottedName} {names : List (Alias Member)} (hc : c.On m.tokens)
    (hread : (Rules.upTo levels).statement c =
      .ok (.simple span (.importFrom level module names), c'))
    (hlevels : 2 * c.rest.length + 1 ≤ levels)
    (hnext : c'.kind = .endOfFile ∨ ListKind.module.startsItem c'.kind = true) :
    ∃ start stop shift' front' e', start + 4 ≤ stop ∧ stop ≤ source.length ∧
      m.bounds span = (start + shift.characters, stop + shift.characters) ∧
      shift'.characters = shift.characters + (stop - (start + 4)) ∧
      Replaced (source.take start ++ ('p' :: 'a' :: 's' :: 's' :: source.drop stop))
        (before ++ [.simple ⟨front.length, front.length + 1⟩ .pass]) shift' c' front' e' := by
  have hagree := Rules.upTo_statement (s := shift) (n := c.rest.length) hlevels hlevels
  obtain ⟨d', hread', hd', hreach⟩ := hagree.reads h.alike (Nat.le_refl _) hread
  obtain ⟨first, inner, d, hfirst, -, hinner, hrest, hd, hcuts, hnumber, hspan, hline⟩ :=
    tokens_of_importFrom h.closed h.on hread'
  obtain ⟨hsees, hfile⟩ := h.next_of_import hfirst hinner hrest hd hcuts
  obtain ⟨-, seps, hends, htook, -⟩ | ⟨rfl, -, hsimple, hcompound⟩ :=
    Rules.gives_lineRest h.closed hd hsees _ d' hline
  · have hkind := hends.kind htook
    have hlists : d.lists = e.lists := by
      rw [← htook.lists, hd'.lists, hreach.lists, h.alike.lists]
    obtain ⟨last, hlast⟩ : ∃ t, (first :: inner).getLast? = some t :=
      ⟨_, List.getLast?_eq_getLast_of_ne_nil (List.cons_ne_nil _ _)⟩
    obtain ⟨hfour, hlength, pass, behind, hpass, htokens, hafter⟩ :=
      h.pass_for_import hfirst hinner hlast hrest hd hsees hkind hlists hnumber
    obtain ⟨front', e', hreplaced⟩ := replaced_pass h.reads hpass htokens hafter hkind hline hd'
    refine ⟨first.start, last.stop, _, front', e', hfour, hlength, ?_, rfl, hreplaced⟩
    have hspan' : span = ⟨c.number, c.number + inner.length + 1⟩ := by
      obtain ⟨_, d₀, -, rfl, -⟩ := simple_of_statement hread
      have hpast : d₀.number - shift.tokens = d.number := congrArg Span.past hspan
      have hstart := h.alike.number
      congr 1
      omega
    have hlast' : e.rest[inner.length]? = some last := by
      rw [hrest, ← List.cons_append, List.getElem?_append_left (by simp), ← hlast,
        List.getLast?_eq_getElem?]
      simp
    rw [hspan']
    exact bounds_of_alike h.alike hc (by simp [hrest]) hlast'
  · -- Nothing but the end of its line may follow an import.
    rw [hd'.kind_eq] at hfile hsimple hcompound
    obtain hnext | hnext := hnext
    · exact absurd hnext hfile
    · simp [ListKind.startsItem, hsimple, hcompound] at hnext

end Replaced

end ScriptBundle.Python
