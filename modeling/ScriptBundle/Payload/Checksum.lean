/-!
# Adler-32

Two sums modulo 65521: of the bytes, from one, and of all the first sums.
-/

namespace ScriptBundle.Payload

/-- The modulus of both sums, the greatest prime below 65536. -/
def checksumModulus : Nat := 65521

def checksumStep (sums : Nat × Nat) (byte : UInt8) : Nat × Nat :=
  let low := (sums.1 + byte.toNat) % checksumModulus
  (low, (sums.2 + low) % checksumModulus)

/-- The checksum of bytes: the second sum above the first. -/
def checksum (bytes : List UInt8) : Nat :=
  let (low, high) := bytes.foldl checksumStep (1, 0)
  65536 * high + low

def checksumBytes (bytes : List UInt8) : List UInt8 :=
  let n := checksum bytes
  [UInt8.ofNat (n / 16777216), UInt8.ofNat (n / 65536), UInt8.ofNat (n / 256), UInt8.ofNat n]

end ScriptBundle.Payload
