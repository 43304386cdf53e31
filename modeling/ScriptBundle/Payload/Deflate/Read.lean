import ScriptBundle.Payload.Deflate.Format

namespace ScriptBundle.Payload.Deflate

open BitReading

def Band.read (b : Band) : BitReading Nat := return b.first + (← number b.bits)

def token (literals distances : PrefixCode) : BitReading (Option Token) := do
  let symbol ← literals.symbol
  if symbol < endOfBlock then return some (.literal (UInt8.ofNat symbol))
  else if symbol = endOfBlock then return none
  else
    let length ← (← (lengthBands[symbol - firstLengthSymbol]? : Option Band)).read
    let distance ← (← (distanceBands[← distances.symbol]? : Option Band)).read
    return some (.copy length distance)

/-- Read tokens up to the end of a block, behind some bytes. Every token takes a bit. -/
def tokens (literals distances : PrefixCode) : Nat → Array UInt8 → BitReading (Array UInt8)
  | 0, _ => failure
  | fuel + 1, done => do
    match ← token literals distances with
    | none => return done
    | some t => tokens literals distances fuel (← (t.onto done : Option (Array UInt8)))

/-- Read an item of a list of codeword lengths. -/
def run (header : PrefixCode) : BitReading Run := do
  let symbol ← header.symbol
  if symbol < 16 then return .length symbol
  else if symbol = 16 then return .again (3 + (← number 2))
  else if symbol = 17 then return .zeros (3 + (← number 3))
  else return .zeros (11 + (← number 7))

/-- Read so many codeword lengths, behind some. -/
def codeLengths (header : PrefixCode) (count : Nat) : Nat → List Nat → BitReading (List Nat)
  | 0, _ => failure
  | fuel + 1, done =>
    if done.length = count then return done
    else if count < done.length then failure
    else do
      let r ← run header
      codeLengths header count fuel (← (r.onto done : Option (List Nat)))

def numbers (width : Nat) : Nat → BitReading (List Nat)
  | 0 => return []
  | count + 1 => do
    let n ← number width
    return n :: (← numbers width count)

/-- The lengths of the header's code by symbol, from those that were sent. -/
def headerLengths (sent : List Nat) : List Nat :=
  (List.range headerOrder.length).map fun symbol =>
    (((headerOrder.zip sent).find? (·.1 = symbol)).map (·.2)).getD 0

def codes : BitReading (PrefixCode × PrefixCode) := do
  let literals := 257 + (← number 5)
  let distances := 1 + (← number 5)
  let sent := 4 + (← number 4)
  guard (literals ≤ literalCount ∧ distances ≤ distanceCount)
  let header := PrefixCode.ofLengths (headerLengths (← numbers 3 sent))
  guard header.isComplete
  let lengths ← codeLengths header (literals + distances) (literals + distances + 1) []
  let literalCode := PrefixCode.ofLengths (lengths.take literals)
  let distanceCode := PrefixCode.ofLengths (lengths.drop literals)
  guard (literalCode.isUsable ∧ distanceCode.isUsable)
  return (literalCode, distanceCode)

/-- Read the bytes of a block that holds them as they are, with their number and its complement. -/
def stored : BitReading (List UInt8) := do
  align
  let size ← number 16
  let complement ← number 16
  guard (size + complement = 65535)
  bytes size

/-- Read a block behind some bytes; whether it is the last is read already. -/
def block (done : Array UInt8) : BitReading (Array UInt8) := do
  match ← number 2 with
  | 0 => return done ++ (← stored)
  | 1 => tokens fixedLiterals fixedDistances ((← get).length + 1) done
  | 2 =>
    let (literals, distances) ← codes
    tokens literals distances ((← get).length + 1) done
  | _ => failure

/-- Read blocks up to the last one, behind some bytes. Every block takes a bit. -/
def blocks : Nat → Array UInt8 → BitReading (Array UInt8)
  | 0, _ => failure
  | fuel + 1, done => do
    let last ← bit
    let done ← block done
    if last then return done else blocks fuel done

def inflate : BitReading (List UInt8) := do
  let done ← blocks ((← get).length + 1) #[]
  return done.toList

end ScriptBundle.Payload.Deflate
