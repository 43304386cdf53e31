import ScriptBundle.Text.CodePoints

namespace ScriptBundle.Shell

open ScriptBundle.Text

def bytesOfChar (c : Char) : List UInt8 := (String.singleton c).toUTF8.toList

def bytesOf (text : List Char) : List UInt8 := text.flatMap bytesOfChar

/-- What is written, whether nothing more may be, and what is wrong. -/
structure Written where
  bytes : List UInt8
  stopped : Bool := false
  faults : List String := []
  /-- What the command ends with. -/
  status : Nat := 0

namespace Written

/-- What is written first and then. -/
def append (a b : Written) : Written :=
  ⟨a.bytes ++ b.bytes, b.stopped, a.faults ++ b.faults, max a.status b.status⟩

/-- Nothing is written because of a fault. -/
def refused (fault : String) : Written := ⟨[], true, [fault], 2⟩

end Written

/-- The octal digits at the start of a text, so many at most. -/
def octalDigits (most : Nat) (text : List Char) : List Char :=
  (text.take most).takeWhile fun c => '0' ≤ c && c ≤ '7'

def octalByte (digits : List Char) : UInt8 :=
  UInt8.ofNat (digits.foldl (fun n d => 8 * n + (d.toNat - '0'.toNat)) 0)

def letterEscape? : Char → Option UInt8
  | 'a' => some 7
  | 'b' => some 8
  | 'f' => some 12
  | 'n' => some 10
  | 'r' => some 13
  | 't' => some 9
  | 'v' => some 11
  | '\\' => some 92
  | _ => none

/-- A text with its escapes, where numbers start with a zero. `\c` stops all output. -/
def escaped : Nat → List Char → Written
  | 0, _ => { bytes := [] }
  | _, [] => { bytes := [] }
  | _ + 1, '\\' :: 'c' :: _ => { bytes := [], stopped := true }
  | rounds + 1, '\\' :: '0' :: rest =>
    let digits := octalDigits 3 rest
    let behind := escaped rounds (rest.drop digits.length)
    { behind with bytes := octalByte digits :: behind.bytes }
  | rounds + 1, '\\' :: c :: rest =>
    let behind := escaped rounds rest
    match letterEscape? c with
    | some b => { behind with bytes := b :: behind.bytes }
    | none => { behind with bytes := 92 :: bytesOfChar c ++ behind.bytes }
  | rounds + 1, c :: rest =>
    let behind := escaped rounds rest
    { behind with bytes := bytesOfChar c ++ behind.bytes }

def joinWords (words : List (List Char)) : List Char := List.intercalate [' '] words

def echo (words : List (List Char)) : List UInt8 :=
  let (newline, words) := match words with
    | ['-', 'n'] :: rest => (false, rest)
    | _ => (true, words)
  let text := joinWords words
  let w := escaped (text.length + 1) text
  if newline && !w.stopped then w.bytes ++ [10] else w.bytes

/-- The number that digits stand for in a base. -/
def numberIn (base : Nat) (digits : List Char) : Nat :=
  digits.foldl (fun n d => base * n + (hexDigit? d).getD 0) 0

def decimal (digits : List Char) : Nat := numberIn 10 digits

def isDigitIn (base : Nat) (c : Char) : Bool := (hexDigit? c).any (· < base)

def natural? (word : List Char) : Option Nat :=
  if !word.isEmpty && word.all Char.isDigit then some (decimal word) else none

/-- A word with an optional sign before its digits, as a number. -/
def integer? (word : List Char) : Option Int :=
  match word with
  | '-' :: digits => (natural? digits).map fun n => -(n : Int)
  | '+' :: digits => (natural? digits).map fun n => (n : Int)
  | digits => (natural? digits).map fun n => (n : Int)

/-- The integer that a word stands for, zero if it is none. -/
def integerOf (word : List Char) : Int := (integer? word).getD 0

/-- The base that digits are written in, by their start, and the digits behind the mark of it. -/
def baseOf : List Char → Nat × List Char
  | '0' :: 'x' :: digits | '0' :: 'X' :: digits => (16, digits)
  | '0' :: digits => (8, '0' :: digits)
  | digits => (10, digits)

/-- The greatest integer that a field can write. -/
def greatest : Int := 9223372036854775807

/-- The integer at the start of a word, and what is wrong with the word. A quote stands before a
character whose number is meant. -/
def integerIn (word : List Char) : Int × Option String :=
  match word with
  | [] => (0, none)
  | '\'' :: c :: _ | '"' :: c :: _ => (c.toNat, none)
  | _ =>
    let shown := String.ofList word
    let (negative, digits) := match word with
      | '-' :: digits => (true, digits)
      | '+' :: digits => (false, digits)
      | digits => (false, digits)
    let (base, digits) := baseOf digits
    let taken := digits.takeWhile (isDigitIn base)
    let n : Int := numberIn base taken
    let n := if negative then -n else n
    if taken.isEmpty then (0, some (shown ++ ": expected numeric value"))
    else if taken.length < digits.length then (n, some (shown ++ ": not completely converted"))
    else if greatest < n then (greatest, some (shown ++ ": Numerical result out of range"))
    else (n, none)

/-- A field of a format: its flags, width, precision and letter. -/
structure Field where
  flags : List Char := []
  width : Nat := 0
  precision : Option Nat := none
  letter : Char
  deriving Repr

/-- Read a field behind its percent sign. -/
def field? (text : List Char) : Option (Field × List Char) :=
  let flags := text.takeWhile fun c => c = '-' || c = '0' || c = '+' || c = ' ' || c = '#'
  let text := text.drop flags.length
  let width := text.takeWhile Char.isDigit
  let text := text.drop width.length
  let (precision, text) := match text with
    | '.' :: rest =>
      let digits := rest.takeWhile Char.isDigit
      (some (decimal digits), rest.drop digits.length)
    | _ => (none, text)
  match text with
  | letter :: rest => some (⟨flags, decimal width, precision, letter⟩, rest)
  | [] => none

namespace Field

/-- Bytes filled with blanks up to the width of a field. -/
def fill (f : Field) (bytes : List UInt8) : List UInt8 :=
  let missing := List.replicate (f.width - bytes.length) 32
  if f.flags.contains '-' then bytes ++ missing else missing ++ bytes

/-- The sign and the digits of a number, filled with zeros up to the precision or, if asked for, up
to the width of a field. -/
def number (f : Field) (sign digits : List Char) : List UInt8 :=
  let zerosFor (length : Nat) := List.replicate (length - digits.length) '0'
  let zeros := match f.precision with
    | some least => zerosFor least
    | none =>
      if f.flags.contains '0' && !f.flags.contains '-' then zerosFor (f.width - sign.length) else []
  f.fill (bytesOf (sign ++ zeros ++ digits))

/-- What a field writes for an integer, or nothing if it writes no integers. -/
def integer? (f : Field) (n : Int) : Option (List UInt8) :=
  let unsigned := (n % 18446744073709551616).toNat
  match f.letter with
  | 'd' | 'i' =>
    let sign := if n < 0 then ['-'] else if f.flags.contains '+' then ['+']
      else if f.flags.contains ' ' then [' '] else []
    some (f.number sign (Nat.toDigits 10 n.natAbs))
  | 'u' => some (f.number [] (Nat.toDigits 10 unsigned))
  | 'o' => some (f.number [] (Nat.toDigits 8 unsigned))
  | 'x' => some (f.number [] (Nat.toDigits 16 unsigned))
  | 'X' => some (f.number [] ((Nat.toDigits 16 unsigned).map Char.toUpper))
  | _ => none

def write (f : Field) (word : List Char) : Written :=
  match f.letter with
  | 'b' =>
    let w := escaped (word.length + 1) word
    { w with bytes := f.fill w.bytes }
  | 'c' => ⟨f.fill (bytesOf (word.take 1)), false, [], 0⟩
  | 's' =>
    let bytes := bytesOf word
    ⟨f.fill (bytes.take (f.precision.getD bytes.length)), false, [], 0⟩
  | letter =>
    let (n, fault) := integerIn word
    match f.integer? n with
    | some bytes => ⟨bytes, false, fault.toList, if fault.isSome then 1 else 0⟩
    | none => .refused ("%" ++ String.singleton letter ++ ": invalid directive")

end Field

/-- Write a format once. The answer holds the words that are left. -/
def formatOnce : Nat → List Char → List (List Char) → Written × List (List Char)
  | 0, _, words => ({ bytes := [] }, words)
  | _, [], words => ({ bytes := [] }, words)
  | rounds + 1, c :: rest, words =>
    let put (first : Written) (rest : List Char) (words : List (List Char)) :=
      if first.stopped then (first, [])
      else
        let (next, words) := formatOnce rounds rest words
        (first.append next, words)
    let putByte (byte : UInt8) (rest : List Char) := put { bytes := [byte] } rest words
    if c = '\\' then
      let digits := octalDigits 3 rest
      if !digits.isEmpty then putByte (octalByte digits) (rest.drop digits.length)
      else
        match rest with
        | [] => putByte 92 []
        | 'c' :: _ => ({ bytes := [], stopped := true }, words)
        | '"' :: rest => putByte 34 rest
        | e :: rest =>
          match letterEscape? e with
          | some b => putByte b rest
          | none => put { bytes := 92 :: bytesOfChar e } rest words
    else if c = '%' then
      match rest with
      | '%' :: rest => putByte 37 rest
      | _ =>
        match field? rest with
        | none => (.refused "missing format character", [])
        | some (f, rest) => put (f.write (words.headD [])) rest (words.drop 1)
    else put { bytes := bytesOfChar c } rest words

def printfRounds : Nat → List Char → List (List Char) → Written
  | 0, _, _ => { bytes := [] }
  | rounds + 1, format, words =>
    let (w, rest) := formatOnce (format.length + 1) format words
    if w.stopped || rest.isEmpty || rest.length = words.length then w
    else w.append (printfRounds rounds format rest)

/-- What `printf` writes for its words. A format may not look like an option. -/
def printf : List (List Char) → Written
  | [] => .refused "usage: printf format [arg ...]"
  | ['-', '-'] :: format :: words => printfRounds (words.length + 1) format words
  | [['-', '-']] => .refused "usage: printf format [arg ...]"
  | ('-' :: c :: _) :: _ => .refused ("Illegal option -" ++ String.singleton c)
  | format :: words => printfRounds (words.length + 1) format words

end ScriptBundle.Shell
