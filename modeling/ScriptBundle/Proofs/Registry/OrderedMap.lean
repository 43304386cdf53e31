import Std.Data.HashMap

namespace ScriptBundle

/-- What a key has in a map: an entry, or a place for one with the number it will have. -/
inductive Slot (State Value : Type)
  | occupied
  | vacant (index : Nat) (insert : Value → State)

/-- The operations of a map that numbers its entries. -/
structure OrderedMap (Value : Type) where
  State : Type
  empty : State
  entry : State → String → Slot State Value
  containsKey : State → String → Bool
  get? : State → Nat → Option (String × Value)
  keys : State → List String
  values : State → List Value

theorem getElem?_concat {α : Type} (l : List α) (a : α) (i : Nat) :
    (l ++ [a])[i]? = if i = l.length then some a else l[i]? := by
  rw [List.getElem?_append, List.getElem?_singleton]
  split
  · rw [if_neg (by omega)]
  · split
    · rw [if_pos (by omega)]
    · rw [if_neg (by omega), List.getElem?_eq_none (by omega)]

variable {Value : Type}

/-- Entries have the numbers from zero on, each a key of its own. A new one comes behind the
others, which keep their numbers; keys and values are listed by number. -/
structure OrderedMap.Lawful (M : OrderedMap Value) : Prop where
  get?_empty : ∀ i, M.get? M.empty i = none
  containsKey_iff : ∀ m key,
    M.containsKey m key = true ↔ ∃ i value, M.get? m i = some (key, value)
  occupied_iff : ∀ m key, M.entry m key = .occupied ↔ M.containsKey m key = true
  index_vacant : ∀ m key index insert, M.entry m key = .vacant index insert →
    ∀ i, M.get? m i = none ↔ index ≤ i
  get?_insert : ∀ m key index insert, M.entry m key = .vacant index insert →
    ∀ value i, M.get? (insert value) i = if i = index then some (key, value) else M.get? m i
  keys_eq : ∀ m i, (M.keys m)[i]? = (M.get? m i).map (·.1)
  values_eq : ∀ m i, (M.values m)[i]? = (M.get? m i).map (·.2)

/-- Entries in a row, with a hash table that has the number of each key. -/
structure Hashed (Value : Type) where
  entries : List (String × Value) := []
  places : Std.HashMap String Nat := {}
  coherent : ∀ (key : String) (i : Nat),
    places[key]? = some i ↔ ∃ value : Value, entries[i]? = some (key, value) := by simp

namespace Hashed

/-- The number of a new key is that of the place behind the others. -/
theorem coherent_push (h : Hashed Value) {key : String} (new : h.places[key]? = none)
    (value : Value) (other : String) (i : Nat) :
    (h.places.insert key h.entries.length)[other]? = some i ↔
      ∃ v, (h.entries ++ [(key, value)])[i]? = some (other, v) := by
  have absent : ∀ v, h.entries[i]? ≠ some (key, v) := by
    intro v hv
    have placed := (h.coherent key i).2 ⟨v, hv⟩
    rw [new] at placed
    cases placed
  rw [Std.HashMap.getElem?_insert, getElem?_concat]
  by_cases hkey : key = other
  · subst hkey
    by_cases hi : i = h.entries.length
    · simp [hi]
    · simp [hi, absent, Ne.symm hi]
  · by_cases hi : i = h.entries.length
    · have outside : h.places[other]? ≠ some i := by
        intro placed
        obtain ⟨v, hv⟩ := (h.coherent other i).1 placed
        simp [hi] at hv
      simp [hkey, hi, hi ▸ outside]
    · simp [hkey, hi, h.coherent]

/-- One more entry behind the others, under a key that has no number. -/
def push (h : Hashed Value) (key : String) (new : h.places[key]? = none) (value : Value) :
    Hashed Value where
  entries := h.entries ++ [(key, value)]
  places := h.places.insert key h.entries.length
  coherent := h.coherent_push new value

/-- What the table says about a key. -/
def entry (h : Hashed Value) (key : String) : Slot (Hashed Value) Value :=
  match new : h.places[key]? with
  | some _ => .occupied
  | none => .vacant h.entries.length (h.push key new)

def map (Value : Type) : OrderedMap Value where
  State := Hashed Value
  empty := {}
  entry := entry
  containsKey h key := h.places.contains key
  get? h i := h.entries[i]?
  keys h := h.entries.map (·.1)
  values h := h.entries.map (·.2)

theorem contains_iff (h : Hashed Value) (key : String) :
    h.places.contains key = true ↔
      ∃ (i : Nat) (value : Value), h.entries[i]? = some (key, value) := by
  rw [Std.HashMap.contains_eq_isSome_getElem?, Option.isSome_iff_exists]
  simp only [h.coherent]

theorem entry_eq_occupied (h : Hashed Value) (key : String) :
    h.entry key = .occupied ↔ h.places.contains key = true := by
  rw [Std.HashMap.contains_eq_isSome_getElem?]
  unfold entry
  split
  · rename_i hplace
    simp [hplace]
  · rename_i hplace
    simp [hplace]

theorem entry_eq_vacant {h : Hashed Value} {key : String} {index : Nat}
    {insert : Value → Hashed Value} (he : h.entry key = .vacant index insert) :
    index = h.entries.length ∧ ∀ value, (insert value).entries = h.entries ++ [(key, value)] := by
  unfold entry at he
  split at he
  · cases he
  · cases he
    exact ⟨rfl, fun _ => rfl⟩

theorem lawful_hashed : (map Value).Lawful where
  get?_empty _ := rfl
  containsKey_iff := contains_iff
  occupied_iff := entry_eq_occupied
  index_vacant h key index insert he i := by
    obtain ⟨rfl, -⟩ := entry_eq_vacant he
    exact List.getElem?_eq_none_iff
  get?_insert h key index insert he value i := by
    obtain ⟨rfl, entries⟩ := entry_eq_vacant he
    show (insert value).entries[i]? = _
    rw [entries value, getElem?_concat]
    rfl
  keys_eq h i := List.getElem?_map
  values_eq h i := List.getElem?_map

end Hashed

end ScriptBundle
