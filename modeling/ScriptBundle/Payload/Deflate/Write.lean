import Std.Data.HashMap
import ScriptBundle.Payload.Deflate.Format

/-!
# Writing compressed data

Repeated bytes become copies of their last occurrence. A text of some size is written with codes
for the symbols that it uses; a short one does not pay for sending them along.
-/

namespace ScriptBundle.Payload.Deflate

/-! ## Tokens -/

/-- The number of equal bytes from two places on, at most `limit`. -/
def commonLength (bytes : Array UInt8) (earlier later : Nat) : Nat → Nat
  | 0 => 0
  | limit + 1 =>
    match bytes[later]? with
    | none => 0
    | some b =>
      if bytes[earlier]? = some b then 1 + commonLength bytes (earlier + 1) (later + 1) limit
      else 0

/-- The least and the greatest length of a copy. -/
def minCopy : Nat := 3

def maxCopy : Nat := 258

def maxDistance : Nat := 32768

/-- Three bytes from a place on, as one number. -/
def trigram? (bytes : Array UInt8) (place : Nat) : Option Nat := do
  let a ← bytes[place]?
  let b ← bytes[place + 1]?
  let c ← bytes[place + 2]?
  return (a.toNat * 256 + b.toNat) * 256 + c.toNat

abbrev Seen := Std.HashMap Nat Nat

/-- Note the places from one on, so many of them. -/
def Seen.note (bytes : Array UInt8) (seen : Seen) (place : Nat) : Nat → Seen
  | 0 => seen
  | count + 1 =>
    let seen := match trigram? bytes place with
      | some t => seen.insert t place
      | none => seen
    Seen.note bytes seen (place + 1) count

/-- The copy that can stand at a place: what follows occurs at an earlier place that was noted. -/
def copyAt? (bytes : Array UInt8) (seen : Seen) (place : Nat) : Option (Nat × Nat) := do
  let earlier ← seen[← trigram? bytes place]?
  guard (earlier < place ∧ place - earlier ≤ maxDistance)
  let length := commonLength bytes earlier place maxCopy
  guard (minCopy ≤ length)
  return (length, place - earlier)

def tokensFrom (bytes : Array UInt8) (seen : Seen) (place : Nat) : List Token :=
  if h : place < bytes.size then
    match copyAt? bytes seen place with
    | some (length + 1, distance) =>
      .copy (length + 1) distance ::
        tokensFrom bytes (seen.note bytes place (length + 1)) (place + (length + 1))
    | _ => .literal bytes[place] :: tokensFrom bytes (seen.note bytes place 1) (place + 1)
  else []
termination_by bytes.size - place

def tokensOf (bytes : Array UInt8) : List Token := tokensFrom bytes {} 0

/-! ## Symbols -/

/-- The band that a number lies in, with its place among the bands. Later bands come first, since
the last length has a band of its own. -/
def bandOf? (bands : List Band) (n : Nat) : Option (Band × Nat) :=
  bands.zipIdx.reverse.find? fun (b, _) => b.contains n

structure Mark where
  symbol : Nat
  further : List Bool := []
  deriving DecidableEq, Repr

/-- The mark for a number in bands whose symbols count from `first`. -/
def markOf (bands : List Band) (first n : Nat) : Mark :=
  match bandOf? bands n with
  | some (b, index) => ⟨first + index, bitsOf b.bits (n - b.first)⟩
  | none => ⟨first, []⟩

def Token.mark : Token → Mark
  | .literal byte => ⟨byte.toNat, []⟩
  | .copy length _ => markOf lengthBands firstLengthSymbol length

def Token.distanceMark? : Token → Option Mark
  | .literal _ => none
  | .copy _ distance => some (markOf distanceBands 0 distance)

def codewords (code : PrefixCode) (count : Nat) : Array (List Bool) :=
  ((List.range count).map fun symbol => (code.codeword? symbol).getD []).toArray

def Mark.write (words : Array (List Bool)) (m : Mark) : List Bool :=
  words.getD m.symbol [] ++ m.further

def Token.write (literals distances : Array (List Bool)) (t : Token) : List Bool :=
  t.mark.write literals ++ ((t.distanceMark?.map (·.write distances)).getD [])

def writeTokens (literals distances : PrefixCode) (tokens : List Token) : List Bool :=
  let literals := codewords literals literalCount
  let distances := codewords distances distanceCount
  tokens.flatMap (Token.write literals distances) ++ Mark.write literals ⟨endOfBlock, []⟩

/-! ## Codes -/

/-- Lengths without the zeros at their end, but not fewer than so many. -/
def trimLengths (least : Nat) (lengths : List Nat) : List Nat :=
  lengths.take least ++ ((lengths.drop least).reverse.dropWhile (· = 0)).reverse

/-- Some zeros as items, 138 in one at most, one or two of them one by one. -/
def zeroRuns (count : Nat) : List Run :=
  let rest := count % 138
  List.replicate (count / 138) (.zeros 138) ++
    if 3 ≤ rest then [.zeros rest] else List.replicate rest (.length 0)

/-- Lengths as items, where `zeros` counts those just passed. -/
def runsFrom (zeros : Nat) : List Nat → List Run
  | [] => zeroRuns zeros
  | n :: lengths =>
    if n = 0 then runsFrom (zeros + 1) lengths
    else zeroRuns zeros ++ .length n :: runsFrom 0 lengths

def Run.mark : Run → Mark
  | .length n => ⟨n, []⟩
  | .again count => ⟨16, bitsOf 2 (count - 3)⟩
  | .zeros count => if count ≤ 10 then ⟨17, bitsOf 3 (count - 3)⟩ else ⟨18, bitsOf 7 (count - 11)⟩

/-- The bits that send along the codes of some lengths. -/
def writeCodes (literals distances : List Nat) : List Bool :=
  let marks := (runsFrom 0 (literals ++ distances)).map Run.mark
  let header := PrefixCode.balanced headerOrder.length (marks.map (·.symbol))
  let sent := trimLengths 4 (headerOrder.map fun symbol => header.getD symbol 0)
  let words := codewords (.ofLengths header) headerOrder.length
  bitsOf 5 (literals.length - 257) ++ bitsOf 5 (distances.length - 1) ++ bitsOf 4 (sent.length - 4)
    ++ sent.flatMap (bitsOf 3) ++ marks.flatMap (Mark.write words)

/-! ## Blocks -/

def writeFixed (tokens : List Token) : List Bool :=
  true :: bitsOf 2 1 ++ writeTokens fixedLiterals fixedDistances tokens

/-- The bits of a last block with codes for the symbols that it uses. -/
def writeBalanced (tokens : List Token) : List Bool :=
  let literals := trimLengths 257
    (PrefixCode.balanced literalCount (endOfBlock :: tokens.map (·.mark.symbol)))
  let distances := trimLengths 1
    (PrefixCode.balanced distanceCount (tokens.filterMap fun t => t.distanceMark?.map (·.symbol)))
  true :: bitsOf 2 2 ++ writeCodes literals distances
    ++ writeTokens (.ofLengths literals) (.ofLengths distances) tokens

/-- The size of data, in bytes, from which codes are sent along. -/
def codesFrom : Nat := 48

def deflate (bytes : Array UInt8) : List Bool :=
  let tokens := tokensOf bytes
  if bytes.size < codesFrom then writeFixed tokens else writeBalanced tokens

end ScriptBundle.Payload.Deflate
