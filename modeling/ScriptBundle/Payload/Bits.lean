/-!
# Bits of bytes

Bits are taken from each byte lowest first, and numbers from bits likewise. A `BitReading` takes
bits off the front of a list, or fails.
-/

namespace ScriptBundle.Payload

def bitsOf : Nat → Nat → List Bool
  | 0, _ => []
  | width + 1, n => (n % 2 = 1) :: bitsOf width (n / 2)

def numberOf : List Bool → Nat
  | [] => 0
  | b :: rest => b.toNat + 2 * numberOf rest

def bitsOfBytes (bytes : List UInt8) : List Bool := bytes.flatMap fun b => bitsOf 8 b.toNat

/-- Bytes with given bits. Zeros fill up the last one. -/
def bytesOfBits : List Bool → List UInt8
  | [] => []
  | b :: rest =>
    UInt8.ofNat (numberOf ((b :: rest).take 8)) :: bytesOfBits ((b :: rest).drop 8)
termination_by bits => bits.length
decreasing_by simp only [List.length_drop, List.length_cons]; omega

abbrev BitReading := StateT (List Bool) Option

namespace BitReading

def bit : BitReading Bool := fun bits =>
  match bits with
  | b :: rest => some (b, rest)
  | [] => none

/-- Take a number of so many bits, lowest first. -/
def number : Nat → BitReading Nat
  | 0 => return 0
  | width + 1 => do
    let b ← bit
    return b.toNat + 2 * (← number width)

def bytes : Nat → BitReading (List UInt8)
  | 0 => return []
  | count + 1 => do
    let b ← number 8
    return UInt8.ofNat b :: (← bytes count)

/-- Go on to the next whole byte. The bits that are left make whole bytes then. -/
def align : BitReading Unit := fun bits => some ((), bits.drop (bits.length % 8))

end BitReading

end ScriptBundle.Payload
