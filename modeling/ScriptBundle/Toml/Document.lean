import ScriptBundle.Text.CodePoints
import ScriptBundle.Toml.Table

namespace ScriptBundle.Toml

open ScriptBundle.Text

/-- A computation that takes characters off the front of a text, or fails. -/
abbrev Reader := StateT (List Char) Option

namespace Reader

def peek : Reader (Option Char) := return (← get).head?

/-- Take characters as long as they pass a test. -/
def takeWhile (test : Char → Bool) : Reader (List Char) := do
  let text ← get
  set (text.dropWhile test)
  return text.takeWhile test

def eat (part : List Char) : Reader Bool := do
  let text ← get
  if part.isPrefixOf text then
    set (text.drop part.length)
    return true
  else return false

def expect (part : List Char) : Reader Unit := do
  guard (← eat part)

def character : Reader Char := do
  match ← get with
  | c :: rest =>
    set rest
    return c
  | [] => failure

end Reader

open Reader

/-- Control characters other than a tab. They stand nowhere. -/
def isForbidden (c : Char) : Bool := (c.toNat < 0x20 && c ≠ '\t') || c.toNat = 0x7F

def blanks : Reader Unit := do
  let _ ← takeWhile fun c => c = ' ' || c = '\t'

def lineEnd : Reader Bool := do
  if ← eat ['\n'] then return true else eat ['\r', '\n']

def comment : Reader Unit := do
  if ← eat ['#'] then
    let _ ← takeWhile fun c => !isForbidden c

/-- Take blanks, comments and line ends, in at most so many rounds. -/
def skipRounds : Nat → Reader Unit
  | 0 => return ()
  | rounds + 1 => do
    blanks
    comment
    if ← lineEnd then skipRounds rounds

def skip : Reader Unit := do skipRounds ((← get).length + 1)

/-- Take the rest of a line that says nothing. -/
def restOfLine : Reader Unit := do
  blanks
  comment
  let ended ← lineEnd
  guard (ended || (← peek).isNone)

/-! ## Texts -/

/-- The character with a given number in so many hexadecimal digits. -/
def numberedCharacter (width : Nat) : Reader Char := do
  let digits := (← get).take width
  guard (digits.length = width && digits.all fun c => (hexDigit? c).isSome)
  modify (·.drop width)
  let n := hexNumber digits
  guard n.isValidChar
  return Char.ofNat n

/-- The character for an escape, behind its backslash. -/
def escape : Reader Char := do
  match ← character with
  | 'b' => return '\x08'
  | 't' => return '\t'
  | 'n' => return '\n'
  | 'f' => return '\x0c'
  | 'r' => return '\r'
  | 'e' => return '\x1b'
  | '"' => return '"'
  | '\\' => return '\\'
  | 'x' => numberedCharacter 2
  | 'u' => numberedCharacter 4
  | 'U' => numberedCharacter 8
  | _ => failure

/-- The rest of a text on one line, with escapes. -/
def quotedRest : Nat → Reader (List Char)
  | 0 => failure
  | rounds + 1 => do
    match ← character with
    | '"' => return []
    | '\\' =>
      let c ← escape
      return c :: (← quotedRest rounds)
    | c =>
      guard (!isForbidden c)
      return c :: (← quotedRest rounds)

/-- The rest of a text on one line as it is written. -/
def literalRest : Reader (List Char) := do
  let text ← takeWhile fun c => c ≠ '\'' && !isForbidden c
  expect ['\'']
  return text

/-- Take blanks and line ends, in at most so many rounds. -/
def blankLines : Nat → Reader Unit
  | 0 => return ()
  | rounds + 1 => do
    blanks
    if ← lineEnd then blankLines rounds

/-- Take a line end behind a backslash with all blanks and line ends around it, if there is one. -/
def continuation : Reader Bool := do
  let start ← get
  blanks
  if ← lineEnd then
    blankLines (start.length + 1)
    return true
  else
    set start
    return false

/-- The rest of a text over several lines. Up to two quotes may stand before those that end it. -/
def linesRest (quote : Char) (escapes : Bool) : Nat → Reader (List Char)
  | 0 => failure
  | rounds + 1 => do
    if ← eat [quote, quote, quote] then
      let more ← takeWhile (· = quote)
      guard (more.length ≤ 2)
      return more
    else
      match ← character with
      | '\r' =>
        expect ['\n']
        return '\r' :: '\n' :: (← linesRest quote escapes rounds)
      | '\n' => return '\n' :: (← linesRest quote escapes rounds)
      | c =>
        guard (!isForbidden c)
        if c = '\\' && escapes then
          if ← continuation then linesRest quote escapes rounds
          else
            let c ← escape
            return c :: (← linesRest quote escapes rounds)
        else return c :: (← linesRest quote escapes rounds)

/-- A text over several lines, behind its quotes. A line end right behind them does not count. -/
def linesText (quote : Char) (escapes : Bool) : Reader String := do
  let _ ← lineEnd
  return String.ofList (← linesRest quote escapes ((← get).length + 1))

def lineText? : Reader (Option String) := do
  if ← eat ['"'] then
    let text ← quotedRest ((← get).length + 1)
    return some (String.ofList text)
  else if ← eat ['\''] then
    let text ← literalRest
    return some (String.ofList text)
  else return none

/-! ## Keys -/

/-- Whether a character may stand in a key without quotes. -/
def isBare (c : Char) : Bool := c.isAlphanum || c = '_' || c = '-'

def keyPart : Reader String := do
  match ← lineText? with
  | some text => return text
  | none =>
    let bare ← takeWhile isBare
    guard (!bare.isEmpty)
    return String.ofList bare

/-- Further parts of a key, each behind a point. -/
def keyRest : Nat → Reader (List String)
  | 0 => failure
  | rounds + 1 => do
    blanks
    if ← eat ['.'] then
      blanks
      let part ← keyPart
      return part :: (← keyRest rounds)
    else return []

def key : Reader (List String) := do
  blanks
  let first ← keyPart
  return first :: (← keyRest ((← get).length + 1))

/-! ## Values -/

mutual

def value : Nat → Reader Value
  | 0 => failure
  | depth + 1 => do
    if ← eat ['"', '"', '"'] then return .text (← linesText '"' true)
    else if ← eat ['\'', '\'', '\''] then return .text (← linesText '\'' false)
    else
      match ← lineText? with
      | some text => return .text text
      | none =>
        if ← eat "true".toList then return .truth true
        else if ← eat "false".toList then return .truth false
        else if ← eat ['['] then
          skip
          return .list (← items depth)
        else
          expect ['\x7b']
          skip
          return .table .inline (← pairs depth [])

def items : Nat → Reader (List Value)
  | 0 => failure
  | depth + 1 => do
    if ← eat [']'] then return []
    else
      let first ← value depth
      skip
      if ← eat [','] then
        skip
        return first :: (← items depth)
      else
        expect [']']
        return [first]

/-- Entries up to the end of their table, behind some. -/
def pairs : Nat → Table → Reader Table
  | 0, _ => failure
  | depth + 1, table => do
    if ← eat ['\x7d'] then return table
    else
      let keys ← key
      expect ['=']
      blanks
      let v ← value depth
      skip
      let table ← (table.assign v keys : Option Table)
      if ← eat [','] then
        skip
        pairs depth table
      else
        expect ['\x7d']
        return table

end

/-! ## Documents -/

/-- A document so far: its table, and the keys of the header last seen. -/
structure Document where
  table : Table := []
  header : List String := []

namespace Document

def statement (d : Document) : Reader Document := do
  if ← eat ['['] then
    let keys ← key
    expect [']']
    restOfLine
    return ⟨← (d.table.define keys : Option Table), keys⟩
  else
    let keys ← key
    expect ['=']
    blanks
    let v ← value ((← get).length + 1)
    restOfLine
    return { d with table := ← (d.table.assignIn v keys d.header : Option Table) }

def statements : Nat → Document → Reader Document
  | 0, _ => failure
  | rounds + 1, d => do
    skip
    if (← peek).isNone then return d else statements rounds (← d.statement)

/-- The table that a file stands for. A byte order mark at its start does not count. -/
def parse (text : List Char) : Option Table :=
  let text := if text.head? = some '\uFEFF' then text.drop 1 else text
  ((statements (text.length + 1) {}).run text).map (·.1.table)

end Document

end ScriptBundle.Toml
