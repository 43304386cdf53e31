namespace ScriptBundle.Text.Utf8

inductive Step
  | character (c : Char) (length : Nat)
  /-- So many bytes start a sequence that the next byte does not go on with. -/
  | invalid (length : Nat)
  /-- The bytes end within a sequence. -/
  | incomplete

def isContinuation (b : UInt8) : Bool := 0x80 ≤ b && b ≤ 0xBF

/-- The sequence length that a first byte asks for, and the range of the second byte. -/
def shape (b : UInt8) : Option (Nat × UInt8 × UInt8) :=
  if 0xC2 ≤ b && b ≤ 0xDF then some (2, 0x80, 0xBF)
  else if b = 0xE0 then some (3, 0xA0, 0xBF)
  else if b = 0xED then some (3, 0x80, 0x9F)
  else if 0xE1 ≤ b && b ≤ 0xEF then some (3, 0x80, 0xBF)
  else if b = 0xF0 then some (4, 0x90, 0xBF)
  else if b = 0xF4 then some (4, 0x80, 0x8F)
  else if 0xF1 ≤ b && b ≤ 0xF3 then some (4, 0x80, 0xBF)
  else none

/-- The six low bits of a continuation byte. -/
def low (b : UInt8) : Nat := b.toNat % 64

/-- What stands at the start of a nonempty list of bytes. -/
def step (b : UInt8) (rest : List UInt8) : Step :=
  if b < 0x80 then .character (Char.ofNat b.toNat) 1
  else
    match shape b with
    | none => .invalid 1
    | some (length, least, greatest) =>
      match rest with
      | [] => .incomplete
      | c :: rest =>
        if c < least || greatest < c then .invalid 1
        else if length = 2 then .character (Char.ofNat (b.toNat % 32 * 64 + low c)) 2
        else
          match rest with
          | [] => .incomplete
          | d :: rest =>
            if !isContinuation d then .invalid 2
            else if length = 3 then
              .character (Char.ofNat ((b.toNat % 16 * 64 + low c) * 64 + low d)) 3
            else
              match rest with
              | [] => .incomplete
              | e :: _ =>
                if !isContinuation e then .invalid 3
                else
                  .character
                    (Char.ofNat (((b.toNat % 8 * 64 + low c) * 64 + low d) * 64 + low e)) 4

/-- Why bytes are no text: the place of the first ill-formed sequence, and its length unless the
bytes end within it. -/
structure Fault where
  index : Nat
  length : Option Nat

namespace Fault

def message (f : Fault) : String :=
  match f.length with
  | some n => "invalid utf-8 sequence of " ++ toString n ++ " bytes from index " ++ toString f.index
  | none => "incomplete utf-8 byte sequence from index " ++ toString f.index

end Fault

/-- The text that bytes encode; `index` bytes went before, whose characters are in `done`,
backwards. -/
def decodeFrom : Nat → Nat → List Char → List UInt8 → Except Fault (List Char)
  | 0, _, done, _ => .ok done.reverse
  | _ + 1, _, done, [] => .ok done.reverse
  | fuel + 1, index, done, b :: rest =>
    match step b rest with
    | .character c length => decodeFrom fuel (index + length) (c :: done) (rest.drop (length - 1))
    | .invalid length => .error ⟨index, some length⟩
    | .incomplete => .error ⟨index, none⟩

/-- The text that bytes encode. Every round takes a byte. -/
def decode (bytes : List UInt8) : Except Fault (List Char) :=
  decodeFrom (bytes.length + 1) 0 [] bytes

/-- The text of bytes with a replacement character for each ill-formed sequence. -/
def lossyFrom : Nat → List Char → List UInt8 → List Char
  | 0, done, _ => done.reverse
  | _ + 1, done, [] => done.reverse
  | fuel + 1, done, b :: rest =>
    match step b rest with
    | .character c length => lossyFrom fuel (c :: done) (rest.drop (length - 1))
    | .invalid length => lossyFrom fuel ('\uFFFD' :: done) (rest.drop (length - 1))
    | .incomplete => ('\uFFFD' :: done).reverse

/-- The text of bytes with a replacement character for each ill-formed sequence. -/
def decodeLossy (bytes : List UInt8) : List Char := lossyFrom (bytes.length + 1) [] bytes

end ScriptBundle.Text.Utf8
