import ScriptBundle.Payload.Bits

/-!
# Canonical prefix codes

A code is given by the lengths of its codewords. Shorter codewords come first, and among those of
one length the order is that of the symbols; read as binary numbers they then count up from zero,
doubled at each further bit.
-/

namespace ScriptBundle.Payload

/-- A code: for each length from one the symbols with codewords of that length, in order. -/
structure PrefixCode where
  levels : List (Array Nat)
  deriving DecidableEq, Repr

namespace PrefixCode

def maxLength : Nat := 15

def symbolsOfLength (lengths : List Nat) (length : Nat) : Array Nat :=
  (lengths.zipIdx.filterMap fun (l, symbol) => if l = length then some symbol else none).toArray

/-- The code in which symbol `n` has a codeword of length `lengths[n]`, or none if that is zero. -/
def ofLengths (lengths : List Nat) : PrefixCode where
  levels := (List.range maxLength).map fun n => symbolsOfLength lengths (n + 1)

/-- The codeword of a symbol in further levels, where `first` is the first codeword of the next one
and `depth` its length. -/
def codewordFrom (symbol : Nat) : Nat → Nat → List (Array Nat) → Option (List Bool)
  | _, _, [] => none
  | depth, first, level :: levels =>
    match level.toList.idxOf? symbol with
    | some index => some (bitsOf depth (first + index)).reverse
    | none => codewordFrom symbol (depth + 1) (2 * (first + level.size)) levels

def codeword? (code : PrefixCode) (symbol : Nat) : Option (List Bool) :=
  codewordFrom symbol 1 0 code.levels

/-- Read a symbol in further levels, where `first` is the first codeword of the next one and
`passed` are the bits so far. -/
def symbolFrom : Nat → Nat → List (Array Nat) → BitReading Nat
  | _, _, [] => failure
  | passed, first, level :: levels => do
    let passed := 2 * passed + (← BitReading.bit).toNat
    match level[passed - first]? with
    | some symbol => return symbol
    | none => symbolFrom passed (2 * (first + level.size)) levels

def symbol (code : PrefixCode) : BitReading Nat := symbolFrom 0 0 code.levels

/-- The number of codewords that would still fit below all levels, if the levels fit. -/
def roomFrom : Nat → List (Array Nat) → Option Nat
  | room, [] => some room
  | room, level :: levels =>
    if level.size ≤ 2 * room then roomFrom (2 * room - level.size) levels else none

/-- Whether every sequence of bits starts with a codeword. -/
def isComplete (code : PrefixCode) : Bool := roomFrom 1 code.levels = some 0

def size (code : PrefixCode) : Nat := code.levels.foldl (fun n level => n + level.size) 0

/-- Whether a code can be used: it is complete, or there is nothing to tell apart. -/
def isUsable (code : PrefixCode) : Bool := code.isComplete || code.size ≤ 1

/-- Lengths for `count` codewords that differ by one at most: as many short ones as a complete code
can have. A single codeword has one bit. -/
def balancedLengths (count : Nat) : List Nat :=
  if count = 1 then [1]
  else
    let short := Nat.log2 count
    let shorts := Nat.pow 2 (short + 1) - count
    List.replicate shorts short ++ List.replicate (count - shorts) (short + 1)

/-- Put lengths at the symbols in use, in order. -/
def spread : List Bool → List Nat → List Nat
  | true :: used, length :: lengths => length :: spread used lengths
  | _ :: used, lengths => 0 :: spread used lengths
  | [], _ => []

/-- Balanced lengths for the symbols in use among the first `count`. -/
def balanced (count : Nat) (symbols : List Nat) : List Nat :=
  let used := (List.range count).map symbols.contains
  spread used (balancedLengths (used.count true))

end PrefixCode

end ScriptBundle.Payload
