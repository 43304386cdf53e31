import Mathlib.Algebra.Ring.Nat
import ScriptBundle.Proofs.Grammar.Imports
import ScriptBundle.Proofs.Import.Spelling
import ScriptBundle.Proofs.Token.Runs

namespace ScriptBundle

open Python

/-- The events of a computation that starts with one that cannot fail. -/
theorem Trial.events_ofLogged_bind {α β : Type} (x : Logged α) (f : α → Trial β) :
    (Trial.ofLogged x >>= f).events = x.events ++ (f x.value).events := by
  change x.events ++ [] ++ (f x.value).events = _
  rw [List.append_nil]

namespace Python

/-! ## Addresses -/

/-- The statement without blocks at an address in a block. An address is the number of a statement
in its block; if that has blocks, the number of one of these and the address there follow. -/
def statementAt : List Nat → List Stmt → Option (Span × SimpleStmt)
  | [], _ => none
  | [i], block =>
    match block[i]? with
    | some (.simple span s) => some (span, s)
    | _ => none
  | i :: j :: address, block =>
    match block[i]? with
    | some (.compound _ _ body clauses) =>
      (body :: clauses.map (·.2))[j]?.bind (statementAt address)
    | _ => none

/-- A list with an address for every element, under which it is found. -/
def Addressed {α : Type} (found : List Nat → Option α) (l : List α) : Prop :=
  ∃ addressed : List (List Nat × α), addressed.map (·.2) = l ∧
    ∀ address a, (address, a) ∈ addressed ↔ found address = some a

namespace Addressed

variable {α : Type} {found later : List Nat → Option α} {l m : List α}

theorem nil : Addressed (fun _ => none) ([] : List α) := ⟨[], rfl, by simp⟩

/-- What is found under the number 0, and what is found under the numbers behind it. -/
def join (found later : List Nat → Option α) : List Nat → Option α
  | [] => none
  | 0 :: address => found address
  | (i + 1) :: address => later (i :: address)

def further : List Nat → List Nat
  | [] => []
  | i :: address => (i + 1) :: address

theorem append (h : Addressed found l) (h' : Addressed later m) (hlater : later [] = none) :
    Addressed (join found later) (l ++ m) := by
  obtain ⟨first, rfl, hfirst⟩ := h
  obtain ⟨rest, rfl, hrest⟩ := h'
  refine ⟨first.map (fun p => (0 :: p.1, p.2)) ++ rest.map (fun p => (further p.1, p.2)), ?_, ?_⟩
  · simp [Function.comp_def]
  · intro address a
    simp only [List.mem_append, List.mem_map, Prod.exists, Prod.mk.injEq]
    constructor
    · rintro (⟨address, a, h, rfl, rfl⟩ | ⟨address, a, h, rfl, rfl⟩)
      · exact (hfirst address a).1 h
      · have hfound := (hrest address a).1 h
        cases address with
        | nil =>
          rw [hlater] at hfound
          cases hfound
        | cons i address => exact hfound
    · intro h
      match address with
      | [] => cases h
      | 0 :: address => exact .inl ⟨address, a, (hfirst address a).2 h, rfl, rfl⟩
      | (i + 1) :: address => exact .inr ⟨i :: address, a, (hrest (i :: address) a).2 h, rfl, rfl⟩

theorem congr (h : Addressed found l) (hfound : ∀ address, later address = found address) :
    Addressed later l := by
  obtain rfl : later = found := funext hfound
  exact h

end Addressed

/-- The statement at an address in one of some blocks. -/
def statementIn (blocks : List (List Stmt)) : List Nat → Option (Span × SimpleStmt)
  | [] => none
  | j :: address => blocks[j]?.bind (statementAt address)

/-- The statement at an address in a statement. -/
def Stmt.statementAt : Stmt → List Nat → Option (Span × SimpleStmt)
  | .simple span s, [] => some (span, s)
  | .simple _ _, _ :: _ => none
  | .compound _ _ body clauses, address => statementIn (body :: clauses.map (·.2)) address

theorem statementAt_cons (s : Stmt) (rest : List Stmt) (address : List Nat) :
    statementAt address (s :: rest) =
      Addressed.join s.statementAt (fun address => statementAt address rest) address := by
  match address with
  | [] => rfl
  | [0] => cases s <;> rfl
  | 0 :: j :: address => cases s <;> rfl
  | [i + 1] => rfl
  | (i + 1) :: j :: address => rfl

theorem statementIn_cons (block : List Stmt) (blocks : List (List Stmt)) (address : List Nat) :
    statementIn (block :: blocks) address =
      Addressed.join (fun address => Python.statementAt address block) (statementIn blocks)
        address := by
  match address with
  | [] => rfl
  | 0 :: address => rfl
  | (j + 1) :: address => rfl

mutual

/-- Every statement without blocks has an address. -/
theorem Stmt.addressed : ∀ s : Stmt, Addressed s.statementAt s.simples
  | .simple span s => by
    refine ⟨[([], span, s)], rfl, fun address a => ?_⟩
    cases address with
    | nil => simp [Stmt.statementAt, eq_comm]
    | cons => simp [Stmt.statementAt]
  | .compound span header body clauses => by
    have hclauses := clauses_addressed clauses
    refine ((block_addressed body).append hclauses rfl).congr fun address => ?_
    exact statementIn_cons body _ address

theorem block_addressed :
    ∀ block : List Stmt, Addressed (fun address => Python.statementAt address block)
      (blockSimples block)
  | [] => Addressed.nil.congr fun address => by
    match address with
    | [] | [_] | _ :: _ :: _ => rfl
  | s :: rest => (s.addressed.append (block_addressed rest) rfl).congr (statementAt_cons s rest)

theorem clauses_addressed :
    ∀ clauses : List (ClauseHeader × List Stmt),
      Addressed (statementIn (clauses.map (·.2))) (clausesSimples clauses)
  | [] => Addressed.nil.congr fun address => by cases address <;> rfl
  | (_, body) :: rest =>
    ((block_addressed body).append (clauses_addressed rest) rfl).congr (statementIn_cons body _)

end

/-! ## Order -/

/-- The number of the first token of an alias of an `import` whose first token has a given number:
behind its word come the aliases before, each with a comma. -/
def aliasStart (first : Nat) (names : List (Alias DottedName)) (index : Nat) : Nat :=
  first + 1 + ((names.take index).map fun a => a.width + 1).sum

theorem aliasStart_lt {first : Nat} {names : List (Alias DottedName)} {i j : Nat} (hij : i < j)
    (hj : j ≤ names.length) : aliasStart first names i < aliasStart first names j := by
  have htake : names.take j = names.take i ++ (names.drop i).take (j - i) := by
    rw [← List.take_add]
    congr 1
    omega
  have hne : (names.drop i).take (j - i) ≠ [] := by
    rw [← List.length_pos_iff, List.length_take, List.length_drop]
    omega
  obtain ⟨a, rest, ha⟩ := List.exists_cons_of_ne_nil hne
  simp only [aliasStart, htake, ha, List.map_append, List.map_cons, List.sum_append, List.sum_cons]
  omega

theorem Listed.le {tokens : List Token} {first past : Nat} {names : List (Alias DottedName)}
    (h : Listed tokens (AliasAt tokens) first names past) : first ≤ past := by
  induction h with
  | nil => exact Nat.le_refl _
  | last item => exact item.1 ▸ Nat.le_add_right _ _
  | cons item _ _ ih =>
    have := item.1
    omega

theorem Listed.alias {tokens : List Token} {first past : Nat} {names : List (Alias DottedName)}
    (h : Listed tokens (AliasAt tokens) (first + 1) names past) {i : Nat} {a : Alias DottedName}
    (ha : names[i]? = some a) :
    WrittenAt tokens (aliasStart first names i) a.target.words ∧
      aliasStart first names i + a.width ≤ past := by
  obtain ⟨start, hstart⟩ : ∃ start, start = first + 1 := ⟨_, rfl⟩
  rw [← hstart] at h
  rw [aliasStart, ← hstart]
  clear hstart
  induction h generalizing i with
  | nil => cases ha
  | last item =>
    cases i with
    | zero =>
      cases ha
      exact ⟨item.2, Nat.le_of_eq item.1.symm⟩
    | succ i => cases ha
  | @cons start comma past b l item mark later ih =>
    cases i with
    | zero =>
      cases ha
      have hpast := later.le
      rw [item.1] at hpast
      exact ⟨item.2, Nat.le_of_succ_le hpast⟩
    | succ i =>
      have hnext : start + (((b :: l).take (i + 1)).map fun a => a.width + 1).sum =
          comma + 1 + ((l.take i).map fun a => a.width + 1).sum := by
        rw [item.1]
        simp only [List.take_succ_cons, List.map_cons, List.sum_cons]
        omega
      rw [hnext]
      exact ih ha

theorem Kind.isWord_of_word? {kind : Kind} {word : Word} (h : kind.word? = some word) :
    kind.isWord = true := by
  cases kind <;> first | rfl | cases h

def Module.place (m : Module) (number : Nat) : Nat := (m.tokens[number]?.map Token.start).getD 0

end Python

/-! ## Sites -/

/-- An import in a module: an alias of an `import`, or a from-import. -/
structure Site where
  /-- The address of the statement. -/
  address : List Nat
  /-- The number of the alias, for a from-import 0. -/
  index : Nat
  /-- The characters before the alias, for a from-import those before the statement. -/
  place : Nat
  reference : Reference

/-- The imports that stand in a module. An alias asks for its module, a from-import for its module
and the names taken from it, where a star takes none. -/
inductive HasSite (m : Module) : Site → Prop
  | import {address : List Nat} {span : Span} {names : List (Alias DottedName)} {index : Nat}
    {a : Alias DottedName} (stands : statementAt address m.body = some (span, .import names))
    (found : names[index]? = some a) :
    HasSite m ⟨address, index, m.place (aliasStart span.first names index),
      ⟨LogicalPath.ofImport 0 (some a.target.text), []⟩⟩
  | importFrom {address : List Nat} {span : Span} {level : Nat} {name : Option DottedName}
    {names : List (Alias Member)}
    (stands : statementAt address m.body = some (span, .importFrom level name names)) :
    HasSite m ⟨address, 0, m.place span.first,
      ⟨LogicalPath.ofImport level (name.map DottedName.text), names.filterMap (·.target.name?)⟩⟩

def sitesOf (m : Module) (address : List Nat) (span : Span) : SimpleStmt → List Site
  | .import names => names.mapIdx fun index a =>
    ⟨address, index, m.place (aliasStart span.first names index),
      ⟨LogicalPath.ofImport 0 (some a.target.text), []⟩⟩
  | .importFrom level name names =>
    [⟨address, 0, m.place span.first,
      ⟨LogicalPath.ofImport level (name.map DottedName.text), names.filterMap (·.target.name?)⟩⟩]
  | _ => []

theorem hasSite_iff {m : Module} {site : Site} :
    HasSite m site ↔ ∃ span s, statementAt site.address m.body = some (span, s) ∧
      site ∈ sitesOf m site.address span s := by
  constructor
  · rintro (⟨stands, found⟩ | ⟨stands⟩)
    · refine ⟨_, _, stands, List.mem_mapIdx.2 ?_⟩
      obtain ⟨hindex, rfl⟩ := List.getElem?_eq_some_iff.1 found
      exact ⟨_, hindex, rfl⟩
    · exact ⟨_, _, stands, List.mem_singleton.2 rfl⟩
  · rintro ⟨span, s, stands, hsite⟩
    cases s with
    | «import» names =>
      obtain ⟨index, hindex, hsite⟩ := List.mem_mapIdx.1 hsite
      rw [← hsite] at stands ⊢
      exact .import stands (List.getElem?_eq_getElem hindex)
    | importFrom level name names =>
      have hsite := List.mem_singleton.1 hsite
      rw [hsite] at stands ⊢
      exact .importFrom stands
    | _ => cases hsite

theorem address_of_mem_sitesOf {m : Module} {address : List Nat} {span : Span} {s : SimpleStmt}
    {site : Site} (h : site ∈ sitesOf m address span s) : site.address = address := by
  cases s with
  | «import» names =>
    obtain ⟨index, hindex, rfl⟩ := List.mem_mapIdx.1 h
    rfl
  | importFrom level name names => rw [List.mem_singleton.1 h]
  | _ => cases h

/-- A path that an import spells is not empty. -/
theorem ofImport_ne_empty {level : Nat} {name : Option DottedName}
    (h : level ≠ 0 ∨ name.isSome = true) :
    LogicalPath.ofImport level (name.map DottedName.text) ≠ "" := by
  intro hempty
  have hspelled : Reference.Spelled ⟨LogicalPath.ofImport level (name.map DottedName.text), []⟩ :=
    ⟨level, name, h, rfl, fun item hitem => nomatch hitem⟩
  obtain ⟨first, rest, hsegments, hfirst⟩ := hspelled.first
  rw [hempty] at hsegments
  exact hfirst (List.cons.inj hsegments).1.symm

section Read

variable {m : Module} {address : List Nat} {span : Span} {s : SimpleStmt}
  (hclosed : Closed m.tokens) (h : ReadFrom m.tokens span s)
include hclosed h

theorem references_sitesOf :
    (sitesOf m address span s).map Site.reference = referencesOf s := by
  cases s with
  | «import» names =>
    refine List.ext_getElem ?_ ?_
    all_goals simp [sitesOf, referencesOf]
  | importFrom level name names =>
    have hpath := ofImport_ne_empty (h.importFrom hclosed).2
    simp [sitesOf, referencesOf, hpath]
  | _ => rfl

theorem emptyFromImport_not_mem : Event.emptyFromImport ∉ importEvents s := by
  cases s with
  | «import» names => simp [importEvents]
  | importFrom level name names =>
    have hpath := ofImport_ne_empty (h.importFrom hclosed).2
    simp [importEvents, hpath]
  | _ => simp [importEvents]

omit h in
/-- An alias starts at a word of its statement. -/
theorem word_at_alias {names : List (Alias DottedName)} (h : ReadFrom m.tokens span (.import names))
    {i : Nat} (hi : i < names.length) :
    span.first ≤ aliasStart span.first names i ∧ aliasStart span.first names i < span.past ∧
      ∃ t, m.tokens[aliasStart span.first names i]? = some t ∧ t.kind.isWord = true := by
  obtain ⟨hwritten, hpast⟩ := (h.import hclosed).2.alias (List.getElem?_eq_getElem hi)
  have hfirst := hwritten 0 names[i].target.first rfl
  rw [Nat.mul_zero, Nat.add_zero] at hfirst
  obtain ⟨kind, hkind, hword⟩ := Option.bind_eq_some_iff.1 hfirst
  obtain ⟨t, ht, rfl⟩ := Option.map_eq_some_iff.1 hkind
  refine ⟨?_, ?_, t, ht, Kind.isWord_of_word? hword⟩
  · simp only [aliasStart]
    omega
  · simp only [Alias.width, DottedName.width] at hpast
    omega

/-- A site lies at a word of its statement. -/
theorem word_of_mem_sitesOf (hspan : span.first < span.past) {site : Site}
    (hsite : site ∈ sitesOf m address span s) :
    ∃ n t, span.first ≤ n ∧ n < span.past ∧ m.tokens[n]? = some t ∧ t.kind.isWord = true ∧
      site.place = t.start := by
  cases s with
  | «import» names =>
    obtain ⟨index, hindex, rfl⟩ := List.mem_mapIdx.1 hsite
    obtain ⟨hle, hlt, t, ht, hword⟩ := word_at_alias hclosed h hindex
    exact ⟨_, t, hle, hlt, ht, hword, by simp [Module.place, ht]⟩
  | importFrom level name names =>
    obtain ⟨t, ht, hkind⟩ := Option.map_eq_some_iff.1 (h.importFrom hclosed).1
    rw [List.mem_singleton.1 hsite]
    exact ⟨span.first, t, Nat.le_refl _, hspan, ht, by rw [hkind]; rfl, by simp [Module.place, ht]⟩
  | _ => cases hsite

/-- The sites of a statement stand in the order of its aliases. -/
theorem sitesOf_inOrder {source : List Char} (htokens : Python.tokens source = ⟨m.tokens, none⟩) :
    (sitesOf m address span s).Pairwise (·.place < ·.place) := by
  cases s with
  | «import» names =>
    refine List.pairwise_iff_getElem.2 fun i j hi hj hij => ?_
    simp only [sitesOf, List.length_mapIdx] at hi hj
    obtain ⟨-, -, t, ht, hwordt⟩ := word_at_alias hclosed h hi
    obtain ⟨-, -, u, hu, hwordu⟩ := word_at_alias hclosed h hj
    simp only [sitesOf, List.getElem_mapIdx, Module.place, ht, hu, Option.map_some,
      Option.getD_some]
    exact start_lt_of_tokens htokens (aliasStart_lt hij (Nat.le_of_lt hj)) ht hu hwordt hwordu
  | importFrom level name names => exact List.pairwise_singleton _ _
  | _ => exact .nil

end Read

theorem placed_pairwise {tokens : List Token} {first past : Nat} {l : List (Span × SimpleStmt)}
    (h : Placed tokens first past l) :
    l.Pairwise (fun a b => a.1.past ≤ b.1.first) ∧
      ∀ a ∈ l, first ≤ a.1.first ∧ a.1.first < a.1.past ∧ ReadFrom tokens a.1 a.2 := by
  induction h with
  | nil => exact ⟨.nil, fun a ha => nomatch ha⟩
  | cons start length read rest ih =>
    refine ⟨List.pairwise_cons.2 ⟨fun a ha => (ih.2 a ha).1, ih.1⟩, fun a ha => ?_⟩
    obtain rfl | ha := List.mem_cons.1 ha
    · exact ⟨start, length, read⟩
    · have := ih.2 a ha
      exact ⟨by omega, this.2⟩

/-- What is made of a source that parses. -/
theorem extractImports_of_parse {source : String} (path : String) {m : Module}
    (h : Module.parse source.toList = .ok m) :
    (extractImports source path).outcome =
        .ok ((blockSimples m.body).flatMap fun s => referencesOf s.2) ∧
      (extractImports source path).events =
        (blockSimples m.body).flatMap fun s => importEvents s.2 := by
  have hread : extractImports source path = (do
      Trial.ofLogged (Logged.recordAll (((blockSimples m.body).map (·.2)).flatMap importEvents))
      return ((blockSimples m.body).map (·.2)).flatMap referencesOf) := by
    unfold extractImports
    simp only [h]
  rw [hread, Trial.outcome_bind, Trial.outcome_ofLogged, Trial.events_ofLogged_bind,
    List.flatMap_map, List.flatMap_map]
  exact ⟨rfl, List.append_nil _⟩

/-- **Every import counts once, in source order.** The references of a source that parses are those
of its sites, however deep these stand, in strictly increasing order of their places, and no
from-import is left out for want of a path. The words of an alias are those that stand at its
place. -/
theorem extractImports_sites (source path : String) (m : Module)
    (h : Module.parse source.toList = .ok m) :
    ∃ sites : List Site,
      (extractImports source path).outcome = .ok (sites.map Site.reference) ∧
      sites.Pairwise (·.place < ·.place) ∧
      (∀ site, site ∈ sites ↔ HasSite m site) ∧
      (∀ address span names index a, statementAt address m.body = some (span, .import names) →
        names[index]? = some a →
        WrittenAt m.tokens (aliasStart span.first names index) a.target.words) ∧
      Event.emptyFromImport ∉ (extractImports source path).events := by
  obtain ⟨houtcome, hevents⟩ := extractImports_of_parse path h
  obtain ⟨htokens, hbody⟩ := Module.parse_eq_ok_iff.1 h
  have hclosed := closed_of_tokens htokens
  obtain ⟨hapart, hread⟩ := placed_pairwise (placed_of_statements hclosed hbody)
  obtain ⟨addressed, hlist, haddressed⟩ := block_addressed m.body
  have hmem : ∀ {address : List Nat} {span : Span} {s : SimpleStmt},
      (address, span, s) ∈ addressed → span.first < span.past ∧ ReadFrom m.tokens span s := by
    intro address span s hs
    refine (hread (span, s) ?_).2
    rw [← hlist]
    exact List.mem_map_of_mem hs
  have hsimples : blockSimples m.body = addressed.map (·.2) := hlist.symm
  refine ⟨addressed.flatMap fun p => sitesOf m p.1 p.2.1 p.2.2, ?_, ?_, ?_, ?_, ?_⟩
  · have hreferences : (addressed.flatMap fun p => sitesOf m p.1 p.2.1 p.2.2).map Site.reference =
        addressed.flatMap fun p => referencesOf p.2.2 := by
      rw [List.map_flatMap]
      exact List.flatMap_congr fun p hp => references_sitesOf hclosed (hmem hp).2
    rw [houtcome, hreferences, hsimples, List.flatMap_map]
  · refine List.pairwise_flatMap.2 ⟨fun p hp => sitesOf_inOrder hclosed (hmem hp).2 htokens, ?_⟩
    rw [hsimples, List.pairwise_map] at hapart
    refine hapart.imp_of_mem fun {p q} hp hq hle a ha b hb => ?_
    obtain ⟨i, t, -, hi, ht, hwordt, hplacet⟩ :=
      word_of_mem_sitesOf hclosed (hmem hp).2 (hmem hp).1 ha
    obtain ⟨j, u, hj, -, hu, hwordu, hplaceu⟩ :=
      word_of_mem_sitesOf hclosed (hmem hq).2 (hmem hq).1 hb
    rw [hplacet, hplaceu]
    exact start_lt_of_tokens htokens (Nat.lt_of_lt_of_le hi (Nat.le_trans hle hj)) ht hu hwordt hwordu
  · intro site
    rw [hasSite_iff, List.mem_flatMap]
    constructor
    · rintro ⟨⟨address, span, s⟩, hs, hsite⟩
      obtain rfl := address_of_mem_sitesOf hsite
      exact ⟨span, s, (haddressed site.address _).1 hs, hsite⟩
    · rintro ⟨span, s, hstands, hsite⟩
      exact ⟨(site.address, span, s), (haddressed site.address _).2 hstands, hsite⟩
  · intro address span names index a hstands ha
    have hread := (hmem ((haddressed address _).2 hstands)).2
    exact ((hread.import hclosed).2.alias ha).1
  · rw [hevents, hsimples, List.flatMap_map, List.mem_flatMap]
    rintro ⟨⟨address, span, s⟩, hs, hempty⟩
    exact emptyFromImport_not_mem hclosed (hmem hs).2 hempty

/-- Imports of a `try`, of its handler and of its last block: modules, names, and a star. -/
theorem extractImports_sites_try :
    ∃ (m : Module) (sites : List Site),
      Module.parse ("try:\n import a, b.c as d\nexcept E: from .p import q as r, s\n" ++
        "finally: from . import *\n").toList = .ok m ∧
      sites.map Site.reference = [⟨"a", []⟩, ⟨"b/c", []⟩, ⟨"./p", ["q", "s"]⟩, ⟨".", []⟩] ∧
      sites.Pairwise (·.place < ·.place) ∧ ∀ site, site ∈ sites ↔ HasSite m site := by
  obtain ⟨source, hsource⟩ : ∃ source : String,
      source = "try:\n import a, b.c as d\nexcept E: from .p import q as r, s\n" ++
        "finally: from . import *\n" := ⟨_, rfl⟩
  have hparses : (Module.parse source.toList).isOk = true := by
    rw [hsource]
    decide +kernel
  have hreferences : (extractImports source "main.py").outcome =
      .ok [⟨"a", []⟩, ⟨"b/c", []⟩, ⟨"./p", ["q", "s"]⟩, ⟨".", []⟩] := by
    rw [hsource]
    decide +kernel
  cases hm : Module.parse source.toList with
  | error place =>
    rw [hm] at hparses
    cases hparses
  | ok m =>
    obtain ⟨sites, houtcome, hplaces, hsites, -, -⟩ :=
      extractImports_sites source "main.py" m hm
    rw [houtcome] at hreferences
    exact ⟨m, sites, hsource ▸ hm, Except.ok.inj hreferences, hplaces, hsites⟩

end ScriptBundle
