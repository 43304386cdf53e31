import Mathlib.Data.List.Induction
import Mathlib.Data.List.Nodup
import Mathlib.Data.Option.Basic
import ScriptBundle.Config.Basic
import ScriptBundle.Toml.Document

namespace ScriptBundle

namespace Toml

/-! ## Keys of tables -/

namespace Table

/-- Each key stands in a table once. -/
def Distinct (table : Table) : Prop := (table.map Prod.fst).Nodup

variable {table grown : Table} {key : String} {value : Value}

theorem find?_concat (table : Table) (key : String) (value : Value) (other : String) :
    find? (table ++ [(key, value)]) other =
      (find? table other).or (if key = other then some value else none) := by
  unfold find?
  rw [List.find?_append]
  cases List.find? (fun e => e.1 = other) table with
  | some e => rfl
  | none =>
    by_cases h : key = other
    · simp [h]
    · simp [h]

theorem find?_eq_none : find? table key = none ↔ key ∉ table.map Prod.fst := by
  rw [find?, Option.map_eq_none_iff, List.find?_eq_none, List.mem_map]
  constructor
  · rintro h ⟨e, he, rfl⟩
    exact h e he (by simp)
  · intro h e he hkey
    exact h ⟨e, he, by simpa using hkey⟩

theorem Distinct.find?_of_mem (h : Distinct table) (he : (key, value) ∈ table) :
    find? table key = some value := by
  induction table with
  | nil => cases he
  | cons first table ih =>
    unfold Distinct at *
    rw [List.map_cons, List.nodup_cons] at h
    rcases List.mem_cons.1 he with rfl | he
    · simp [find?]
    · have other : first.1 ≠ key := by
        intro hkey
        exact h.1 (hkey ▸ List.mem_map_of_mem (f := Prod.fst) he)
      have rest := ih h.2 he
      unfold find? at rest ⊢
      rwa [List.find?_cons_of_neg (by simpa using other)]

theorem Distinct.concat (h : Distinct table) (new : find? table key = none) :
    Distinct (table ++ [(key, value)]) := by
  have absent := find?_eq_none.1 new
  unfold Distinct at *
  rw [List.map_append, List.nodup_append]
  refine ⟨h, List.nodup_singleton _, ?_⟩
  rintro a ha b hb rfl
  obtain rfl := List.mem_singleton.1 hb
  exact absent ha

theorem Distinct.replace (h : Distinct table) (key : String) (value : Value) :
    Distinct (replace table key value) := by
  have keys : (Table.replace table key value).map Prod.fst = table.map Prod.fst := by
    unfold Table.replace
    rw [List.map_map]
    apply List.map_congr_left
    rintro ⟨other, v⟩ -
    by_cases he : other = key
    · simp [he]
    · simp [he]
  unfold Distinct
  rwa [keys]

theorem Distinct.define (h : Distinct table) {keys : List String}
    (hd : define table keys = some grown) : Distinct grown := by
  unfold Table.define at hd
  split at hd
  · cases hd
  · split at hd
    · rename_i new
      cases hd
      exact h.concat new
    · cases hd
      exact h.replace _ _
    · cases hd
  · split at hd
    · rename_i new
      obtain ⟨inner, -, rfl⟩ := Option.map_eq_some_iff.1 hd
      exact h.concat new
    · split at hd
      · cases hd
      · obtain ⟨inner, -, rfl⟩ := Option.map_eq_some_iff.1 hd
        exact h.replace _ _
    · cases hd

theorem Distinct.assign (h : Distinct table) {keys : List String}
    (ha : assign table value keys = some grown) : Distinct grown := by
  unfold Table.assign at ha
  split at ha
  · cases ha
  · split at ha
    · cases ha
    · rename_i new
      cases ha
      exact h.concat (by simpa using new)
  · split at ha
    · rename_i new
      obtain ⟨inner, -, rfl⟩ := Option.map_eq_some_iff.1 ha
      exact h.concat new
    · split at ha
      · cases ha
      · obtain ⟨inner, -, rfl⟩ := Option.map_eq_some_iff.1 ha
        exact h.replace _ _
    · cases ha

theorem Distinct.assignIn (h : Distinct table) {keys path : List String}
    (ha : assignIn table value keys path = some grown) : Distinct grown := by
  cases path with
  | nil => exact h.assign ha
  | cons key path =>
    unfold Table.assignIn at ha
    split at ha
    · obtain ⟨inner, -, rfl⟩ := Option.map_eq_some_iff.1 ha
      exact h.replace _ _
    · cases ha

end Table

/-! ## What readers give -/

/-- Whatever a reader gives has a property. -/
def Reader.Gives {α : Type} (x : Reader α) (P : α → Prop) : Prop :=
  ∀ text a rest, x.run text = some (a, rest) → P a

namespace Reader

variable {α β : Type} {P : β → Prop}

theorem Gives.pure {b : β} (h : P b) : Gives (pure b) P := by
  rintro text a rest he
  cases he
  exact h

theorem Gives.bind (x : Reader α) {f : α → Reader β} (h : ∀ a, Gives (f a) P) :
    Gives (x >>= f) P := by
  intro text b rest he
  obtain ⟨⟨a, next⟩, -, hf⟩ := Option.bind_eq_some_iff.1 he
  exact h a next b rest hf

theorem Gives.bind_of {x : Reader α} {Q : α → Prop} {f : α → Reader β} (hx : Gives x Q)
    (h : ∀ a, Q a → Gives (f a) P) : Gives (x >>= f) P := by
  intro text b rest he
  obtain ⟨⟨a, next⟩, ha, hf⟩ := Option.bind_eq_some_iff.1 he
  exact h a (hx text a next ha) next b rest hf

/-- What a reader takes from elsewhere. -/
theorem gives_lift (o : Option α) : Gives (liftM o : Reader α) fun a => o = some a := by
  intro text a rest he
  obtain ⟨b, hb, hpure⟩ := Option.bind_eq_some_iff.1 he
  cases hpure
  exact hb

theorem Gives.ite {x y : Reader β} {c : Prop} [Decidable c] (hx : Gives x P) (hy : Gives y P) :
    Gives (if c then x else y) P := by
  split
  · exact hx
  · exact hy

theorem gives_failure : Gives (failure : Reader β) P := by
  intro text a rest he
  cases he

end Reader

namespace Document

open Reader Table

theorem gives_statement {d : Document} (h : Distinct d.table) :
    Gives d.statement (Distinct ·.table) := by
  unfold statement
  refine .bind _ fun headed => .ite ?_ ?_
  · refine .bind _ fun keys => .bind _ fun _ => .bind _ fun _ => ?_
    exact .bind_of (gives_lift _) fun grown hd => .pure (h.define hd)
  · refine .bind _ fun keys => .bind _ fun _ => .bind _ fun _ => .bind _ fun _ => .bind _ fun v =>
      .bind _ fun _ => ?_
    exact .bind_of (gives_lift _) fun grown ha => .pure (h.assignIn ha)

theorem gives_statements (rounds : Nat) {d : Document} (h : Distinct d.table) :
    Gives (statements rounds d) (Distinct ·.table) := by
  induction rounds generalizing d with
  | zero => exact gives_failure
  | succ rounds ih =>
    refine .bind _ fun _ => .bind _ fun next => .ite (.pure h) ?_
    exact .bind_of (gives_statement h) fun more hmore => ih hmore

theorem distinct_parse {text : List Char} {table : Table} (h : parse text = some table) :
    Distinct table := by
  obtain ⟨⟨d, rest⟩, hd, rfl⟩ := Option.map_eq_some_iff.1 h
  exact gives_statements _ (d := {}) List.nodup_nil _ d rest hd

end Document

end Toml

/-! ## Settings of tables -/

namespace Settings

open Toml

/-- What settings have under a key is what a value there says, if there is one. Nothing stands
under other keys. -/
def Reflects (s : Settings) (key : String) (value : Option Value) : Prop :=
  match key with
  | "src" => (value.map texts?).getD (some []) = some s.src
  | "extra-modules" => (value.map texts?).getD (some []) = some s.extraModules
  | "python" => value.map text? = s.python.map some
  | "copy-shebang" => value.map truth? = s.copyShebang.map some
  | "default-shebang" => value.map text? = s.defaultShebang.map some
  | "resolution" => value.map mode? = s.resolution.map some
  | _ => value = none

variable {s t : Settings} {key : String} {value : Value}

theorem reflects_default (key : String) : Reflects {} key none := by
  unfold Reflects
  split <;> rfl

/-- One more entry sets what its key is for, and nothing else. -/
theorem set_eq_some (h : set s (key, value) = some t) :
    (key = "src" ∧ ∃ v, texts? value = some v ∧ t = { s with src := v }) ∨
    (key = "extra-modules" ∧ ∃ v, texts? value = some v ∧ t = { s with extraModules := v }) ∨
    (key = "python" ∧ ∃ v, text? value = some v ∧ t = { s with python := some v }) ∨
    (key = "copy-shebang" ∧ ∃ v, truth? value = some v ∧ t = { s with copyShebang := some v }) ∨
    (key = "default-shebang" ∧
      ∃ v, text? value = some v ∧ t = { s with defaultShebang := some v }) ∨
    (key = "resolution" ∧ ∃ v, mode? value = some v ∧ t = { s with resolution := some v }) := by
  unfold set at h
  dsimp only at h
  split at h
  all_goals first
    | cases h
    | obtain ⟨v, hv, rfl⟩ := Option.map_eq_some_iff.1 h
      simp [hv]

theorem reflects_set (h : set s (key, value) = some t) : t.Reflects key (some value) := by
  rcases set_eq_some h with ⟨rfl, v, hv, rfl⟩ | ⟨rfl, v, hv, rfl⟩ | ⟨rfl, v, hv, rfl⟩ |
    ⟨rfl, v, hv, rfl⟩ | ⟨rfl, v, hv, rfl⟩ | ⟨rfl, v, hv, rfl⟩
  all_goals simp [Reflects, hv]

theorem reflects_set_other (h : set s (key, value) = some t) {other : String} (ho : other ≠ key)
    (v : Option Value) : t.Reflects other v ↔ s.Reflects other v := by
  rcases set_eq_some h with ⟨rfl, w, -, rfl⟩ | ⟨rfl, w, -, rfl⟩ | ⟨rfl, w, -, rfl⟩ |
    ⟨rfl, w, -, rfl⟩ | ⟨rfl, w, -, rfl⟩ | ⟨rfl, w, -, rfl⟩
  all_goals
    unfold Reflects
    split
    all_goals first
      | rfl
      | exact absurd rfl ho

theorem isSome_of_map {α : Type} {o p : Option α} (h : some o = p.map some) : o.isSome = true := by
  cases p with
  | none => cases h
  | some a =>
    cases h
    rfl

/-- An entry that some settings reflect can be added to any. -/
theorem isSome_set (h : t.Reflects key (some value)) (s : Settings) :
    (set s (key, value)).isSome = true := by
  unfold Reflects at h
  unfold set
  split at h
  case h_7 => cases h
  all_goals
    simp only [Option.isSome_map]
    first
      | exact isSome_of_map h
      | exact Option.isSome_of_eq_some h

/-- What settings reflect under all keys determines them. -/
theorem eq_of_reflects (look : String → Option Value) (hs : ∀ key, s.Reflects key (look key))
    (ht : ∀ key, t.Reflects key (look key)) : s = t := by
  have src := (hs "src").symm.trans (ht "src")
  have modules := (hs "extra-modules").symm.trans (ht "extra-modules")
  have python := (hs "python").symm.trans (ht "python")
  have copy := (hs "copy-shebang").symm.trans (ht "copy-shebang")
  have shebang := (hs "default-shebang").symm.trans (ht "default-shebang")
  have resolution := (hs "resolution").symm.trans (ht "resolution")
  have injective {α : Type} {o p : Option α} (h : o.map some = p.map some) : o = p :=
    Option.map_injective (Option.some_injective α) h
  obtain ⟨_, _, _, _, _, _⟩ := s
  obtain ⟨_, _, _, _, _, _⟩ := t
  congr 1
  · exact Option.some.inj src
  · exact Option.some.inj modules
  · exact injective python
  · exact injective copy
  · exact injective shebang
  · exact injective resolution

theorem ofTable_concat (table : Table) (entry : String × Value) :
    ofTable (table ++ [entry]) = (ofTable table).bind (set · entry) := by
  simp [ofTable, List.foldlM_append]

/-- Settings that were taken from a table reflect it. -/
theorem reflects_ofTable {table : Table} (distinct : table.Distinct) {s : Settings}
    (h : ofTable table = some s) (key : String) : s.Reflects key (table.find? key) := by
  induction table using List.reverseRecOn generalizing s with
  | nil =>
    cases h
    exact reflects_default key
  | append_singleton table entry ih =>
    obtain ⟨own, value⟩ := entry
    rw [ofTable_concat] at h
    obtain ⟨before, hbefore, hset⟩ := Option.bind_eq_some_iff.1 h
    unfold Table.Distinct at distinct
    rw [List.map_append, List.nodup_append] at distinct
    obtain ⟨distinct, -, apart⟩ := distinct
    rw [Table.find?_concat]
    by_cases hkey : own = key
    · subst hkey
      have new : Table.find? table own = none := by
        rw [Table.find?_eq_none]
        intro known
        exact apart own known own (List.mem_singleton.2 rfl) rfl
      rw [new, if_pos rfl]
      exact reflects_set hset
    · rw [if_neg hkey, Option.or_none, reflects_set_other hset (Ne.symm hkey)]
      exact ih distinct hbefore

theorem isSome_ofTable {table : Table}
    (h : ∀ entry ∈ table, ∃ t : Settings, t.Reflects entry.1 (some entry.2)) :
    (ofTable table).isSome = true := by
  induction table using List.reverseRecOn with
  | nil => rfl
  | append_singleton table entry ih =>
    have before := ih fun e he => h e (List.mem_append_left _ he)
    obtain ⟨s, hs⟩ := Option.isSome_iff_exists.1 before
    obtain ⟨t, ht⟩ := h entry (List.mem_append_right _ (List.mem_singleton.2 rfl))
    rw [ofTable_concat, hs]
    exact isSome_set ht s

/-- A table gives settings exactly if they reflect it under every key. -/
theorem ofTable_eq_some_iff {table : Table} (distinct : table.Distinct) {s : Settings} :
    ofTable table = some s ↔ ∀ key, s.Reflects key (table.find? key) := by
  constructor
  · exact reflects_ofTable distinct
  · intro h
    have found : ∀ entry ∈ table, ∃ t : Settings, t.Reflects entry.1 (some entry.2) := by
      rintro ⟨key, value⟩ he
      refine ⟨s, ?_⟩
      rw [← distinct.find?_of_mem he]
      exact h key
    obtain ⟨t, ht⟩ := Option.isSome_iff_exists.1 (isSome_ofTable found)
    rw [ht, eq_of_reflects table.find? (reflects_ofTable distinct ht) h]

end Settings

end ScriptBundle
