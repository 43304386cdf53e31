import ScriptBundle.Text.CodePoints

/-!
# Shell scripts

The part of the shell's language that small wrapper scripts are written in: simple commands with
redirections, lists of them, conditions, loops and groups.
-/

namespace ScriptBundle.Shell

mutual

inductive Piece
  | text (quoted : Bool) (value : List Char)
  /-- A parameter by its name, a number or a sign. -/
  | parameter (quoted : Bool) (name : List Char)
  /-- What commands print. -/
  | output (quoted : Bool) (body : List Command)
  /-- The value of an arithmetic expression, after the expansion of its pieces. -/
  | arithmetic (pieces : List Piece)

inductive Target
  /-- To a stream by its number. -/
  | stream (number : Nat)
  /-- To a file. -/
  | file (word : List Piece)
  /-- From a text that stands in the script. -/
  | text (word : List Piece)

inductive Command
  /-- Assignments and words, with redirections of streams; `line` is the line where it starts. -/
  | simple (line : Nat) (assignments : List (List Char × List Piece)) (words : List (List Piece))
      (redirections : List (Nat × Target))
  /-- A second command if the first succeeds, or if it fails. -/
  | both (first second : Command)
  | either (first second : Command)
  | negated (command : Command)
  | group (body : List Command) (redirections : List (Nat × Target))
  /-- Run by a shell of its own, whose variables and end are its own too. -/
  | subshell (body : List Command) (redirections : List (Nat × Target))
  | choice (test body otherwise : List Command)
  /-- Repeated as long as the test succeeds, or as long as it fails. -/
  | loop (wanted : Bool) (test body : List Command)
  | each (name : List Char) (words : List (List Piece)) (body : List Command)

end

abbrev Word := List Piece

/-- The text that is left to read, and the number of its first line. -/
structure Source where
  text : List Char
  line : Nat := 1
  /-- Lines taken out behind the first one. -/
  takenOut : Nat := 0

/-- A computation that takes characters off a script, or fails. -/
abbrev Reader := StateT Source Option

namespace Reader

def peek : Reader (Option Char) := return (← get).text.head?

def character : Reader Char := do
  let s ← get
  match s.text with
  | c :: rest =>
    set (if c = '\n' then ⟨rest, s.line + 1 + s.takenOut, 0⟩ else { s with text := rest })
    return c
  | [] => failure

def at? (part : List Char) : Reader Bool := return part.isPrefixOf (← get).text

/-- Take a text without line feeds, if it comes next. -/
def eat (part : List Char) : Reader Bool := do
  let s ← get
  if part.isPrefixOf s.text then
    set { s with text := s.text.drop part.length }
    return true
  else return false

def expect (part : List Char) : Reader Unit := do
  guard (← eat part)

/-- Take characters other than line feeds as long as they pass a test. -/
def takeWhile (test : Char → Bool) : Reader (List Char) := do
  let s ← get
  let taken := s.text.takeWhile fun c => c ≠ '\n' && test c
  set { s with text := s.text.drop taken.length }
  return taken

/-- Bounds the rounds of a loop that takes a character each round. -/
def rounds : Reader Nat := return (← get).text.length + 1

end Reader

open Reader

/-- Whether a character may start a name, and whether it may go on with one. -/
def startsName (c : Char) : Bool := c.isAlpha || c = '_'

def continuesName (c : Char) : Bool := c.isAlphanum || c = '_'

def endsWord (c : Char) : Bool :=
  c = ' ' || c = '\t' || c = '\n' || c = ';' || c = '&' || c = '|' || c = '<' || c = '>'
    || c = '(' || c = ')'

def blanks : Nat → Reader Unit
  | 0 => return ()
  | rounds + 1 => do
    let _ ← takeWhile fun c => c = ' ' || c = '\t'
    if ← at? ['\\', '\n'] then
      let _ ← character
      let _ ← character
      blanks rounds
    else if ← eat ['#'] then
      let _ ← takeWhile fun _ => true

def skip : Reader Unit := do blanks (← rounds)

/-- Take blanks, comments and line feeds, in at most so many rounds. -/
def linesRounds : Nat → Reader Unit
  | 0 => return ()
  | rounds + 1 => do
    skip
    if (← peek) = some '\n' then
      let _ ← character
      linesRounds rounds

def skipLines : Reader Unit := do linesRounds (← rounds)

def eatWord (word : String) : Reader Bool := do
  let s ← get
  let word := word.toList
  let behind := (s.text.drop word.length).head?
  if word.isPrefixOf s.text && (behind.map endsWord).getD true then
    set { s with text := s.text.drop word.length }
    return true
  else return false

/-- Take a reserved word, which has to come next. -/
def expectWord (word : String) : Reader Unit := do
  guard (← eatWord word)

/-- Lines up to one that is a delimiter, with their ends, and the lines behind it. -/
def linesUpTo (delimiter : List Char) : List (List Char) → List Char × List (List Char)
  | [] => ([], [])
  | line :: rest =>
    if line = delimiter then ([], rest)
    else
      let (inside, behind) := linesUpTo delimiter rest
      (line ++ '\n' :: inside, behind)

/-- Take the lines between the current one and a delimiter out of the script. -/
def takeLinesUpTo (delimiter : List Char) : Reader (List Char) := do
  let s ← get
  let current := s.text.takeWhile (· ≠ '\n')
  let below := Text.pieces '\n' (s.text.drop (current.length + 1))
  let (inside, behind) := linesUpTo delimiter below
  set { s with
    text := current ++ '\n' :: List.intercalate ['\n'] behind
    takenOut := s.takenOut + (below.length - behind.length) }
  return inside

/-- The text of a piece as it is written, if it is one, and whether it was quoted. -/
def Piece.plain? : Piece → Option (Bool × List Char)
  | .text quoted value => some (quoted, value)
  | _ => none

def Piece.isOutput : Piece → Bool
  | .output _ _ => true
  | _ => false

def parameterName? : Reader (Option (List Char)) := do
  match ← peek with
  | none => return none
  | some c =>
    if startsName c then return some (← takeWhile continuesName)
    else if c.isDigit || c = '@' || c = '*' || c = '#' || c = '?' || c = '$' || c = '!' || c = '-'
    then
      let _ ← character
      return some [c]
    else if c = '\x7b' then
      let _ ← character
      let name ← takeWhile fun c => c ≠ '\x7d'
      expect ['\x7d']
      guard (!name.isEmpty && (name.all continuesName || name.length = 1))
      return some name
    else return none

mutual

def expansion (quoted : Bool) : Nat → Reader Piece
  | 0 => failure
  | depth + 1 => do
    if ← eat ['(', '('] then
      let pieces ← arithmeticPieces depth 0
      return .arithmetic pieces
    else if ← eat ['('] then
      let body ← commands depth
      expect [')']
      return .output quoted body
    else
      match ← parameterName? with
      | some name => return .parameter quoted name
      | none => return .text quoted ['$']

/-- The pieces of an arithmetic expression, up to its end. -/
def arithmeticPieces : Nat → Nat → Reader (List Piece)
  | 0, _ => failure
  | depth + 1, level => do
    if level = 0 && (← at? [')', ')']) then
      expect [')', ')']
      return []
    else
      match ← character with
      | '$' =>
        let p ← expansion true depth
        return p :: (← arithmeticPieces depth level)
      | '(' => return .text true ['('] :: (← arithmeticPieces depth (level + 1))
      | ')' => return .text true [')'] :: (← arithmeticPieces depth (level - 1))
      | c => return .text true [c] :: (← arithmeticPieces depth level)

/-- The pieces of a text in double quotes, up to its end. -/
def quotedPieces : Nat → Reader (List Piece)
  | 0 => failure
  | depth + 1 => do
    match ← character with
    | '"' => return []
    | '$' =>
      let p ← expansion true depth
      return p :: (← quotedPieces depth)
    | '\\' =>
      let c ← character
      if c = '\n' then quotedPieces depth
      else if c = '$' || c = '`' || c = '"' || c = '\\' then
        return .text true [c] :: (← quotedPieces depth)
      else return .text true ['\\', c] :: (← quotedPieces depth)
    | c => return .text true [c] :: (← quotedPieces depth)

def wordPieces : Nat → Reader (List Piece)
  | 0 => failure
  | depth + 1 => do
    match ← peek with
    | none => return []
    | some c =>
      if endsWord c then return []
      else
        let _ ← character
        if c = '\'' then
          let text ← singleQuoted depth
          return .text true text :: (← wordPieces depth)
        else if c = '"' then
          let inner ← quotedPieces depth
          return .text true [] :: inner ++ (← wordPieces depth)
        else if c = '$' then
          let p ← expansion false depth
          return p :: (← wordPieces depth)
        else if c = '\\' then
          let next ← character
          if next = '\n' then wordPieces depth
          else return .text true [next] :: (← wordPieces depth)
        else return .text false [c] :: (← wordPieces depth)

def singleQuoted : Nat → Reader (List Char)
  | 0 => failure
  | depth + 1 => do
    match ← character with
    | '\'' => return []
    | c => return c :: (← singleQuoted depth)

/-- The pieces of a text of several lines, up to the end of what there is. -/
def linesPieces : Nat → Reader (List Piece)
  | 0 => failure
  | depth + 1 => do
    if (← peek).isNone then return []
    else
      match ← character with
      | '$' =>
        let p ← expansion true depth
        return p :: (← linesPieces depth)
      | '\\' =>
        match ← peek with
        | some c =>
          let _ ← character
          if c = '\n' then linesPieces depth
          else if c = '$' || c = '`' || c = '\\' then
            return .text true [c] :: (← linesPieces depth)
          else return .text true ['\\', c] :: (← linesPieces depth)
        | none => return [.text true ['\\']]
      | c => return .text true [c] :: (← linesPieces depth)

/-- A text that stands in the script, up to a delimiter. A quoted delimiter keeps it as it is. -/
def textUpTo (delimiter : List Piece) : Nat → Reader (List Piece)
  | 0 => failure
  | depth + 1 => do
    let parts ← (delimiter.mapM Piece.plain? : Option _)
    let inside ← takeLinesUpTo (parts.flatMap (·.2))
    if parts.any (·.1) then return [.text true inside]
    else
      let line := (← get).line + 1
      let (pieces, _) ← ((linesPieces depth).run ⟨inside, line, 0⟩ : Option _)
      return pieces

def redirection? : Nat → Reader (Option (Nat × Target))
  | 0 => failure
  | depth + 1 => do
    let start ← get
    let digits ← takeWhile Char.isDigit
    let source : Option Nat :=
      if digits.isEmpty then none else (String.ofList digits).toNat?
    let out := source.getD 1
    if ← eat ['>', '&'] then
      let number ← takeWhile Char.isDigit
      match (String.ofList number).toNat? with
      | some n => return some (out, .stream n)
      | none => failure
    else if (← eat ['>', '>']) then
      skip
      return some (out, .file (← wordPieces depth))
    else if (← eat ['>']) then
      skip
      return some (out, .file (← wordPieces depth))
    else if ← eat ['<', '<'] then
      skip
      let delimiter ← wordPieces depth
      return some (source.getD 0, .text (← textUpTo delimiter depth))
    else if (← eat ['<']) then
      skip
      return some (source.getD 0, .file (← wordPieces depth))
    else
      set start
      return none

def redirections : Nat → Reader (List (Nat × Target))
  | 0 => failure
  | depth + 1 => do
    skip
    match ← redirection? depth with
    | some r => return r :: (← redirections depth)
    | none => return []

/-- The words and redirections of a simple command. Assignments come first. -/
def simpleParts : Nat → Bool →
    Reader (List (List Char × List Piece) × List (List Piece) × List (Nat × Target))
  | 0, _ => failure
  | depth + 1, begun => do
    skip
    match ← redirection? depth with
    | some r =>
      let (a, w, rs) ← simpleParts depth begun
      return (a, w, r :: rs)
    | none =>
      match ← peek with
      | none => return ([], [], [])
      | some c =>
        if endsWord c then return ([], [], [])
        else
          let start ← get
          let name ← takeWhile continuesName
          let isName := (name.head?.map startsName).getD false
          if !begun && isName && (← eat ['=']) then
            let v ← wordPieces depth
            let (a, w, rs) ← simpleParts depth begun
            return ((name, v) :: a, w, rs)
          else
            set start
            let word ← wordPieces depth
            let (a, w, rs) ← simpleParts depth true
            return (a, word :: w, rs)

/-- The words of a `for`, up to the end of its list. -/
def wordList : Nat → Reader (List (List Piece))
  | 0 => failure
  | depth + 1 => do
    skip
    match ← peek with
    | none => return []
    | some c =>
      if endsWord c then return []
      else
        let word ← wordPieces depth
        return word :: (← wordList depth)

def choiceRest : Nat → Reader Command
  | 0 => failure
  | depth + 1 => do
    let test ← commands depth
    expectWord "then"
    let body ← commands depth
    if ← eatWord "elif" then
      let other ← choiceRest depth
      return .choice test body [other]
    else if ← eatWord "else" then
      let otherwise ← commands depth
      expectWord "fi"
      return .choice test body otherwise
    else
      expectWord "fi"
      return .choice test body []

def command : Nat → Reader Command
  | 0 => failure
  | depth + 1 => do
    skip
    let line := (← get).line
    if ← eatWord "if" then choiceRest depth
    else if ← eatWord "while" then
      let test ← commands depth
      expectWord "do"
      let body ← commands depth
      expectWord "done"
      return .loop true test body
    else if ← eatWord "until" then
      let test ← commands depth
      expectWord "do"
      let body ← commands depth
      expectWord "done"
      return .loop false test body
    else if ← eatWord "for" then
      skip
      let name ← takeWhile continuesName
      skip
      let words ← if ← eatWord "in" then wordList depth else pure [[.parameter true ['@']]]
      skip
      let _ ← eat [';']
      skipLines
      expectWord "do"
      let body ← commands depth
      expectWord "done"
      return .each name words body
    else if ← eatWord "\x7b" then
      let body ← commands depth
      expectWord "\x7d"
      return .group body (← redirections depth)
    else if ← eat ['('] then
      let body ← commands depth
      expect [')']
      return .subshell body (← redirections depth)
    else if ← eatWord "!" then
      return .negated (← command depth)
    else
      let (assignments, words, redirections) ← simpleParts depth false
      guard (!(assignments.isEmpty && words.isEmpty && redirections.isEmpty))
      return .simple line assignments words redirections

/-- Commands joined by `&&` and `||`, behind one. -/
def joined : Nat → Command → Reader Command
  | 0, _ => failure
  | depth + 1, first => do
    skip
    if ← eat ['&', '&'] then
      skipLines
      let second ← command depth
      joined depth (.both first second)
    else if ← eat ['|', '|'] then
      skipLines
      let second ← command depth
      joined depth (.either first second)
    else return first

/-- Commands up to a word or sign that ends them. -/
def commands : Nat → Reader (List Command)
  | 0 => failure
  | depth + 1 => do
    skipLines
    let s ← get
    let word := s.text.takeWhile (!endsWord ·)
    let closes := ["then", "elif", "else", "fi", "do", "done", "\x7d"].any (·.toList = word)
    let stop := match s.text with
      | [] | ')' :: _ => true
      | _ => closes
    if stop then return []
    else
      let c ← command depth
      let c ← joined depth c
      skip
      match ← peek with
      | some ';' | some '\n' =>
        let _ ← character
        return c :: (← commands depth)
      | _ => return c :: (← commands depth)

end

namespace Script

def parse (text : List Char) : Option (List Command) := do
  let depth := 4 * text.length + 64
  let (body, rest) ← (commands depth).run ⟨text, 1, 0⟩
  guard rest.text.isEmpty
  return body

end Script

end ScriptBundle.Shell
