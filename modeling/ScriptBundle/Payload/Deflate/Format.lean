import ScriptBundle.Payload.PrefixCode

/-!
# Compressed data

Data is written as tokens: bytes as they are, and copies of what went before. A token is written as
symbols of two codes and further bits.
-/

namespace ScriptBundle.Payload.Deflate

inductive Token
  | literal (byte : UInt8)
  /-- So many bytes, from so many bytes back. A copy may reach into itself. -/
  | copy (length distance : Nat)
  deriving DecidableEq, Repr

/-- Bytes with a copy behind them, if its start is there. -/
def copyOnto (distance : Nat) : Nat → Array UInt8 → Option (Array UInt8)
  | 0, done => some done
  | length + 1, done =>
    if distance = 0 ∨ done.size < distance then none
    else
      match done[done.size - distance]? with
      | some byte => copyOnto distance length (done.push byte)
      | none => none

def Token.onto (done : Array UInt8) : Token → Option (Array UInt8)
  | .literal byte => some (done.push byte)
  | .copy length distance => copyOnto distance length done

def expand (tokens : List Token) : Option (Array UInt8) := tokens.foldlM Token.onto #[]

/-- A band of numbers that share a symbol: the first of them and the number of bits that tell them
apart. -/
structure Band where
  first : Nat
  bits : Nat
  deriving DecidableEq, Repr

def Band.contains (b : Band) (n : Nat) : Bool := b.first ≤ n && n < b.first + Nat.pow 2 b.bits

/-- Lengths of copies, for symbols from 257. The greatest length has a symbol of its own, the
last. -/
def lengthBands : List Band :=
  [⟨3, 0⟩, ⟨4, 0⟩, ⟨5, 0⟩, ⟨6, 0⟩, ⟨7, 0⟩, ⟨8, 0⟩, ⟨9, 0⟩, ⟨10, 0⟩, ⟨11, 1⟩, ⟨13, 1⟩, ⟨15, 1⟩,
    ⟨17, 1⟩, ⟨19, 2⟩, ⟨23, 2⟩, ⟨27, 2⟩, ⟨31, 2⟩, ⟨35, 3⟩, ⟨43, 3⟩, ⟨51, 3⟩, ⟨59, 3⟩, ⟨67, 4⟩,
    ⟨83, 4⟩, ⟨99, 4⟩, ⟨115, 4⟩, ⟨131, 5⟩, ⟨163, 5⟩, ⟨195, 5⟩, ⟨227, 5⟩, ⟨258, 0⟩]

def distanceBands : List Band :=
  [⟨1, 0⟩, ⟨2, 0⟩, ⟨3, 0⟩, ⟨4, 0⟩, ⟨5, 1⟩, ⟨7, 1⟩, ⟨9, 2⟩, ⟨13, 2⟩, ⟨17, 3⟩, ⟨25, 3⟩, ⟨33, 4⟩,
    ⟨49, 4⟩, ⟨65, 5⟩, ⟨97, 5⟩, ⟨129, 6⟩, ⟨193, 6⟩, ⟨257, 7⟩, ⟨385, 7⟩, ⟨513, 8⟩, ⟨769, 8⟩,
    ⟨1025, 9⟩, ⟨1537, 9⟩, ⟨2049, 10⟩, ⟨3073, 10⟩, ⟨4097, 11⟩, ⟨6145, 11⟩, ⟨8193, 12⟩,
    ⟨12289, 12⟩, ⟨16385, 13⟩, ⟨24577, 13⟩]

def endOfBlock : Nat := 256

def firstLengthSymbol : Nat := 257

/-- The number of symbols for literals and lengths that may be used, and of those for distances. -/
def literalCount : Nat := 286

def distanceCount : Nat := 30

/-- The code for literals and lengths of a block that sends none along. -/
def fixedLiterals : PrefixCode := .ofLengths
  (List.replicate 144 8 ++ List.replicate 112 9 ++ List.replicate 24 7 ++ List.replicate 8 8)

/-- The code for distances of a block that sends none along. -/
def fixedDistances : PrefixCode := .ofLengths (List.replicate 32 5)

/-- The order in which the lengths of the header's own code are sent. -/
def headerOrder : List Nat :=
  [16, 17, 18, 0, 8, 7, 9, 6, 10, 5, 11, 4, 12, 3, 13, 2, 14, 1, 15]

inductive Run
  | length (n : Nat)
  /-- The length before, so many times more. -/
  | again (count : Nat)
  | zeros (count : Nat)
  deriving DecidableEq, Repr

def Run.onto (done : List Nat) : Run → Option (List Nat)
  | .length n => some (done ++ [n])
  | .again count => done.getLast?.map fun n => done ++ List.replicate count n
  | .zeros count => some (done ++ List.replicate count 0)

end ScriptBundle.Payload.Deflate
