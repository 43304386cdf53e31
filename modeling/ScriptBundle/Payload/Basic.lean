import ScriptBundle.Payload.Base64
import ScriptBundle.Payload.Checksum
import ScriptBundle.Payload.Deflate.Read
import ScriptBundle.Payload.Deflate.Write

/-!
# Payloads

A payload carries the source of a module in a literal: its bytes, compressed, between a header and
a checksum, in base64.
-/

namespace ScriptBundle.Payload

/-- The header: data compressed as well as may be, in a window of 32768 bytes. -/
def header : List UInt8 := [0x78, 0xDA]

/-- Whether a header is one of compressed data without a dictionary, in a window of at most 32768
bytes. -/
def isHeader (a b : UInt8) : Bool :=
  a.toNat % 16 = 8 && a.toNat / 16 ≤ 7 && (a.toNat * 256 + b.toNat) % 31 = 0
    && b.toNat / 32 % 2 = 0

def compress (bytes : List UInt8) : List UInt8 :=
  header ++ bytesOfBits (Deflate.deflate bytes.toArray) ++ checksumBytes bytes

/-- Read compressed bytes; what follows them is not looked at. -/
def decompress (data : List UInt8) : Option (List UInt8) := do
  match data with
  | a :: b :: rest =>
    guard (isHeader a b)
    let (bytes, rest) ← Deflate.inflate.run (bitsOfBytes rest)
    let (_, rest) ← BitReading.align.run rest
    let (sum, _) ← (BitReading.bytes 4).run rest
    guard (sum = checksumBytes bytes)
    return bytes
  | _ => none

/-- What is wrong with a payload. -/
inductive Fault
  | notBase64
  | notText
  deriving DecidableEq, Repr

def Fault.message : Fault → String
  | notBase64 => "Payload is not valid base64"
  | notText => "Payload is not a valid UTF-8 zlib stream"

def encode (source : String) : String :=
  String.ofList (Base64.encode (compress source.toUTF8.toList))

def textOfBytes? (bytes : List UInt8) : Option String := String.fromUTF8? ⟨bytes.toArray⟩

def decode (payload : String) : Except Fault String :=
  match Base64.decode payload.toList with
  | none => .error .notBase64
  | some data =>
    match (decompress data).bind textOfBytes? with
    | some source => .ok source
    | none => .error .notText

end ScriptBundle.Payload
