namespace ScriptBundle.Toml

/-- How a table came about. -/
inductive Origin
  /-- By a header of its own. -/
  | header
  /-- By the header of a table inside it. -/
  | implied
  /-- By a dotted key. -/
  | dotted
  /-- In braces, as a whole. -/
  | inline
  deriving DecidableEq, Repr

/-- A value. Settings need neither numbers nor times. -/
inductive Value
  | text (value : String)
  | truth (value : Bool)
  | list (items : List Value)
  | table (origin : Origin) (entries : List (String × Value))
  deriving Repr

abbrev Table := List (String × Value)

namespace Table

/-- What stands under a key. -/
def find? (table : Table) (key : String) : Option Value :=
  (List.find? (fun e => e.1 = key) table).map (·.2)

/-- The table with another value under a key that it has. -/
def replace (table : Table) (key : String) (value : Value) : Table :=
  table.map fun e => if e.1 = key then (key, value) else e

/-- Add a table by the keys of its header. A table may have been implied, but not defined. -/
def define (table : Table) : List String → Option Table
  | [] => none
  | [key] =>
    match find? table key with
    | none => some (table ++ [(key, .table .header [])])
    | some (.table .implied entries) => some (replace table key (.table .header entries))
    | some _ => none
  | key :: keys =>
    match find? table key with
    | none => (define [] keys).map fun inner => table ++ [(key, .table .implied inner)]
    | some (.table origin entries) =>
      if origin = .inline then none
      else (define entries keys).map fun inner => replace table key (.table origin inner)
    | some _ => none

/-- Add a value by the parts of its key. Tables on the way may not have a header. -/
def assign (table : Table) (value : Value) : List String → Option Table
  | [] => none
  | [key] => if (find? table key).isSome then none else some (table ++ [(key, value)])
  | key :: keys =>
    match find? table key with
    | none => (assign [] value keys).map fun inner => table ++ [(key, .table .dotted inner)]
    | some (.table origin entries) =>
      if origin = .inline ∨ origin = .header then none
      else (assign entries value keys).map fun inner => replace table key (.table origin inner)
    | some _ => none

/-- Add a value in a table that was defined by a header with given keys. -/
def assignIn (table : Table) (value : Value) (keys : List String) : List String → Option Table
  | [] => assign table value keys
  | key :: path =>
    match find? table key with
    | some (.table origin entries) =>
      (assignIn entries value keys path).map fun inner => replace table key (.table origin inner)
    | _ => none

end Table

end ScriptBundle.Toml
