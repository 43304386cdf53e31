import ScriptBundle.FileSystem.Basic
import ScriptBundle.Interpreter.Program
import ScriptBundle.Shell.Arithmetic
import ScriptBundle.Shell.Format
import ScriptBundle.Shell.Script
import ScriptBundle.Text.Utf8

namespace ScriptBundle.Shell

open ScriptBundle.Text Program

/-- Where a stream leads. -/
inductive Sink
  | output | errors | nowhere
  deriving DecidableEq

structure Streams where
  input : List UInt8 := []
  output : Sink := .output
  errors : Sink := .errors

structure State where
  files : FileSystem
  name : List Char
  arguments : List (List Char)
  bindings : List (List Char × List Char) := []
  status : Nat := 0
  /-- Where the streams of the shell itself lead. -/
  streams : Streams := {}
  /-- A command that fails ends the script. -/
  endsOnFailure : Bool := false
  /-- What runs is a test, which may fail. -/
  testing : Bool := false
  output : Array UInt8 := #[]
  errors : Array UInt8 := #[]

abbrev Running := ExceptT Ending (StateM State)

namespace Running

/-- Write bytes to where a stream of the shell leads. -/
def write (sink : Sink) (bytes : List UInt8) : Running Unit := modify fun s =>
  let final := match sink with
    | .output => s.streams.output
    | .errors => s.streams.errors
    | .nowhere => .nowhere
  match final with
  | .output => { s with output := s.output ++ bytes }
  | .errors => { s with errors := s.errors ++ bytes }
  | .nowhere => s

/-- Write a complaint about a line of the script. -/
def complain (streams : Streams) (line : Nat) (what : String) : Running Unit := do
  let place := String.ofList (← get).name ++ ": " ++ toString line ++ ": "
  write streams.errors (bytesOf (place ++ what ++ "\n").toList)

def setStatus (code : Nat) : Running Unit := modify fun s => { s with status := code }

def succeeded : Running Bool := return (← get).status = 0

def tested (run : Running Unit) : Running Unit := do
  let before := (← get).testing
  modify fun s => { s with testing := true }
  run
  modify fun s => { s with testing := before }

/-- End the script if a command failed that should not. -/
def endOnFailure : Running Unit := do
  let s ← get
  if s.endsOnFailure && !s.testing && s.status ≠ 0 then throw (.status s.status)

def assign (name value : List Char) : Running Unit := modify fun s =>
  { s with bindings := (name, value) :: s.bindings.filter (·.1 ≠ name) }

/-- The number of the process that runs a script. -/
def process : List Char := ['4', '2']

/-- The value of a parameter other than all arguments. -/
def parameter (name : List Char) : Running (List Char) := do
  let s ← get
  match name with
  | ['#'] => return (toString s.arguments.length).toList
  | ['?'] => return (toString s.status).toList
  | ['$'] => return process
  | ['0'] => return s.name
  | ['!'] | ['-'] => return []
  | _ =>
    match (String.ofList name).toNat? with
    | some n => return s.arguments.getD (n - 1) []
    | none => return ((s.bindings.find? (·.1 = name)).map (·.2)).getD []

end Running

/-! ## Tests -/

def testedNumber (word : List Char) : Except String Int :=
  match integer? word with
  | some n => .ok n
  | none => .error ("Illegal number: " ++ String.ofList word)

def compareNumbers (operator : String) (a b : Int) : Except String Bool :=
  match operator with
  | "-eq" => .ok (a = b)
  | "-ne" => .ok (a ≠ b)
  | "-lt" => .ok (a < b)
  | "-le" => .ok (a ≤ b)
  | "-gt" => .ok (b < a)
  | _ => .ok (b ≤ a)

def numberOperators : List String := ["-eq", "-ne", "-lt", "-le", "-gt", "-ge"]

/-- Whether a test holds, or what is wrong with it. -/
def test (files : FileSystem) : List (List Char) → Except String Bool
  | [] => .ok false
  | [word] => .ok (!word.isEmpty)
  | ['!'] :: rest => do return !(← test files rest)
  | [operator, word] =>
    let path := String.ofList word
    match String.ofList operator with
    | "-n" => .ok (!word.isEmpty)
    | "-z" => .ok word.isEmpty
    | "-f" => .ok (files.isFile path)
    | "-d" => .ok (files.isDirectory path)
    | "-e" | "-r" | "-w" => .ok (files.entry? path).isSome
    | "-x" => .ok (match files.entry? path with
      | some (.file _ mode) => mode % 2 = 1
      | some .directory => true
      | _ => false)
    | other => .error (other ++ ": unexpected operator")
  | [a, operator, b] =>
    match String.ofList operator with
    | "=" => .ok (a = b)
    | "!=" => .ok (a ≠ b)
    | name =>
      if numberOperators.contains name then do
        compareNumbers name (← testedNumber a) (← testedNumber b)
      else .error (String.ofList a ++ ": unexpected operator")
  | _ :: operator :: _ => .error (String.ofList operator ++ ": unexpected operator")

/-! ## Signals -/

/-- The signal that a word names in either case. -/
def signalNamed? (word : List Char) : Option Nat :=
  match natural? word with
  | some n => if 0 < n ∧ n < 65 then some n else none
  | none => (signals.find? (·.1.toList = word.map Char.toUpper)).map (·.2)

/-- The signal and the processes that `kill` is asked for, or what is wrong. -/
def killed (words : List (List Char)) : Except String (Nat × List (List Char)) :=
  match words with
  | ['-', 's'] :: name :: rest =>
    match signalNamed? name with
    | some n => .ok (n, rest)
    | none => .error ("invalid signal number or name: " ++ String.ofList name)
  | ('-' :: name) :: rest =>
    match signalNamed? name with
    | some n => .ok (n, rest)
    | none => .error ("Illegal option -" ++ String.ofList (name.take 1))
  | rest => .ok (15, rest)

/-! ## Commands -/

/-- The fields of a word so far, and the one that is open. -/
structure Fields where
  done : List (List Char) := []
  current : Option (List Char) := none

namespace Fields

def add (f : Fields) (text : List Char) : Fields :=
  { f with current := some (f.current.getD [] ++ text) }

def close (f : Fields) : Fields :=
  match f.current with
  | some text => ⟨f.done ++ [text], none⟩
  | none => f

def addSplit (f : Fields) (text : List Char) : Fields :=
  text.foldl (fun f c => if c = ' ' || c = '\t' || c = '\n' then f.close else f.add [c]) f

/-- Texts that are a field each; the first and the last join what stands around them. -/
def addAll (f : Fields) : List (List Char) → Fields
  | [] => f
  | [text] => f.add text
  | text :: rest => (f.add text).close.addAll rest

def toList (f : Fields) : List (List Char) := f.close.done

end Fields

def dropLineFeeds (text : List Char) : List Char := (text.reverse.dropWhile (· = '\n')).reverse

open Running

def sinkOf (streams : Streams) : Nat → Sink
  | 1 => streams.output
  | 2 => streams.errors
  | _ => .nowhere

/-- The sink of a file. What goes to an ordinary file is not kept. -/
def sinkOfFile (streams : Streams) (path : String) : Sink :=
  match path with
  | "/dev/stdout" => streams.output
  | "/dev/stderr" => streams.errors
  | _ => .nowhere

def redirect (streams : Streams) (number : Nat) (sink : Sink) : Streams :=
  match number with
  | 1 => { streams with output := sink }
  | 2 => { streams with errors := sink }
  | _ => streams

/-- A file that is always empty. -/
def emptyFile : String := "/dev/null"

def contentAt (path : String) : Running (Except IoError ByteArray) := do
  if path = emptyFile then return .ok .empty else return (← get).files.readBytes path

/-- Write the content of files, or of the input where none is named. -/
def concatenate (streams : Streams) (paths : List (List Char)) : Running Unit := do
  setStatus 0
  for path in if paths.isEmpty then [['-']] else paths do
    if path = ['-'] then write streams.output streams.input
    else
      let name := String.ofList path
      match ← contentAt name with
      | .ok content => write streams.output content.toList
      | .error e =>
        write streams.errors (bytesOf ("cat: " ++ name ++ ": " ++ e.description ++ "\n").toList)
        setStatus 1

/-- End with a number that a command was given, or go on with the last status. -/
def exit (streams : Streams) (line : Nat) (words : List (List Char)) : Running Unit := do
  match words with
  | [] => throw (.status (← get).status)
  | word :: _ =>
    match natural? word with
    | some n => throw (.status (n % 256))
    | none =>
      complain streams line ("exit: Illegal number: " ++ String.ofList word)
      throw (.status 2)

/-- Set options of the shell, or its arguments. -/
def setOptions (words : List (List Char)) : Running Unit := do
  match words with
  | ['-', '-'] :: arguments => modify fun s => { s with arguments }
  | ('-' :: letters) :: _ =>
    if letters.contains 'e' then modify fun s => { s with endsOnFailure := true }
  | ('+' :: letters) :: _ =>
    if letters.contains 'e' then modify fun s => { s with endsOnFailure := false }
  | [] => pure ()
  | arguments => modify fun s => { s with arguments }
  setStatus 0

/-- Run a command that is no part of the control of the shell, by its words. `caller` stands before
a complaint that there is none. -/
def builtin (streams : Streams) (line : Nat) (caller name : String) (words : List (List Char)) :
    Running Unit := do
  match name with
  | "echo" =>
    write streams.output (echo words)
    setStatus 0
  | "printf" =>
    let w := printf words
    for fault in w.faults do
      complain streams line ("printf: " ++ fault)
    write streams.output w.bytes
    setStatus w.status
  | "cat" => concatenate streams words
  | "exit" => exit streams line words
  | "set" => setOptions words
  | ":" | "true" | "sleep" => setStatus 0
  | "export" =>
    for word in words do
      let name := word.takeWhile (· ≠ '=')
      if name.length < word.length then assign name (word.drop (name.length + 1))
    setStatus 0
  | "false" | "read" => setStatus 1
  | "test" | "[" =>
    let closed := name = "test" || words.getLast? = some [']']
    let files := (← get).files
    let operands := if name = "[" then words.dropLast else words
    match if closed then test files operands else .error "missing ]" with
    | .ok b => setStatus (if b then 0 else 1)
    | .error fault =>
      complain streams line (name ++ ": " ++ fault)
      setStatus 2
  | "shift" =>
    let n := (words.head?.bind natural?).getD 1
    if (← get).arguments.length < n then
      complain streams line "shift: can't shift that many"
      throw (.status 2)
    modify fun s => { s with arguments := s.arguments.drop n }
    setStatus 0
  | "pwd" =>
    let path := FileSystem.pathOf (← get).files.workingDirectory
    write streams.output (bytesOf (path.toList ++ ['\n']))
    setStatus 0
  | "kill" =>
    match killed words with
    | .ok (signal, targets) =>
      if targets.contains process && signals.any (·.2 = signal) then throw (.signal signal false)
      setStatus 0
    | .error fault =>
      complain streams line ("kill: " ++ fault)
      setStatus 2
  | _ =>
    complain streams line (caller ++ name ++ ": not found")
    setStatus 127

/-- Run a simple command by its words. Without words the status is that of what was expanded. -/
def runWords (streams : Streams) (line : Nat) : List (List Char) → Running Unit
  | [] => return ()
  | name :: rest =>
    if name = "exec".toList then
      match rest with
      | [] => do
        modify fun s =>
          let led (sink : Sink) : Sink := match sink with
            | .output => s.streams.output
            | .errors => s.streams.errors
            | .nowhere => .nowhere
          { s with streams := ⟨streams.input, led streams.output, led streams.errors⟩ }
        setStatus 0
      | name :: rest => do
        builtin streams line "exec: " (String.ofList name) rest
        throw (.status (← get).status)
    else builtin streams line "" (String.ofList name) rest

mutual

def expandPiece (fields : Fields) : Nat → Piece → Running Fields
  | 0, _ => throw (.status 2)
  | fuel + 1, piece => do
    match piece with
    | .text _ value => return fields.add value
    | .parameter quoted name =>
      if name = ['@'] || name = ['*'] && !quoted then
        let arguments := (← get).arguments
        if quoted then return fields.addAll arguments
        else return fields.addSplit (joinWords arguments)
      else if name = ['*'] then return fields.add (joinWords (← get).arguments)
      else
        let value ← parameter name
        return if quoted then fields.add value else fields.addSplit value
    | .output quoted body =>
      let text ← capture fuel body
      return if quoted then fields.add text else fields.addSplit text
    | .arithmetic pieces =>
      let text := joinWords (← expandWord fuel {} pieces)
      let bindings := (← get).bindings
      let value (name : List Char) : Int :=
        ((bindings.find? (·.1 = name)).map fun v => integerOf v.2).getD 0
      match Arithmetic.evaluate value text with
      | some n => return fields.add (toString n).toList
      | none => throw (.status 2)

def expandWord : Nat → Fields → List Piece → Running (List (List Char))
  | 0, _, _ => throw (.status 2)
  | _ + 1, fields, [] => return fields.toList
  | fuel + 1, fields, piece :: rest => do expandWord fuel (← expandPiece fields fuel piece) rest

def expandWords : Nat → List (List Piece) → Running (List (List Char))
  | 0, _ => throw (.status 2)
  | _ + 1, [] => return []
  | fuel + 1, word :: rest => do
    let first ← expandWord fuel {} word
    return first ++ (← expandWords fuel rest)

/-- What commands print, without line feeds at its end. -/
def capture : Nat → List Command → Running (List Char)
  | 0, _ => throw (.status 2)
  | fuel + 1, body => do
    let before ← get
    set { before with output := #[], streams := { before.streams with output := .output } }
    runInside {} fuel body
    let inner ← get
    set { before with errors := inner.errors, status := inner.status }
    return dropLineFeeds (Utf8.decodeLossy inner.output.toList)

/-- Run commands in a shell of their own, which is the same process for signals. -/
def runInside (streams : Streams) : Nat → List Command → Running Unit
  | 0, _ => throw (.status 2)
  | fuel + 1, body => do
    let before ← get
    let status ← try
        runAll streams fuel body
        pure (← get).status
      catch
        | .status code => pure code
        | .signal n dumped => throw (.signal n dumped)
    let inner ← get
    set { before with output := inner.output, errors := inner.errors, status := status }

def redirectAll (streams : Streams) (line : Nat) : Nat → List (Nat × Target) → Running Streams
  | 0, _ => throw (.status 2)
  | _ + 1, [] => return streams
  | fuel + 1, (number, target) :: rest => do
    match target with
    | .stream n => redirectAll (redirect streams number (sinkOf streams n)) line fuel rest
    | .text word =>
      let text := joinWords (← expandWord fuel {} word)
      redirectAll { streams with input := bytesOf text } line fuel rest
    | .file word =>
      let path := String.ofList (joinWords (← expandWord fuel {} word))
      if number ≠ 0 then
        redirectAll (redirect streams number (sinkOfFile streams path)) line fuel rest
      else
        match ← contentAt path with
        | .ok content => redirectAll { streams with input := content.toList } line fuel rest
        | .error _ =>
          complain streams line ("cannot open " ++ path ++ ": No such file")
          throw (.status 2)

def assignAll : Nat → List (List Char × List Piece) → Running Unit
  | 0, _ => throw (.status 2)
  | _ + 1, [] => return ()
  | fuel + 1, (name, word) :: rest => do
    assign name (joinWords (← expandWord fuel {} word))
    assignAll fuel rest

def runAll (streams : Streams) : Nat → List Command → Running Unit
  | 0, _ => throw (.status 2)
  | _ + 1, [] => return ()
  | fuel + 1, first :: rest => do
    runCommand streams fuel first
    runAll streams fuel rest

def runEach (streams : Streams) (name : List Char) (body : List Command) :
    Nat → List (List Char) → Running Unit
  | 0, _ => throw (.status 2)
  | _ + 1, [] => return ()
  | fuel + 1, value :: rest => do
    assign name value
    runAll streams fuel body
    runEach streams name body fuel rest

/-- Run commands as long as a test has the wanted outcome. -/
def runLoop (streams : Streams) (wanted : Bool) (test body : List Command) (last : Nat) :
    Nat → Running Unit
  | 0 => throw (.status 2)
  | fuel + 1 => do
    tested (runAll streams fuel test)
    if (← succeeded) = wanted then
      runAll streams fuel body
      runLoop streams wanted test body (← get).status fuel
    else setStatus last

def runCommand (streams : Streams) : Nat → Command → Running Unit
  | 0, _ => throw (.status 2)
  | fuel + 1, command => do
    match command with
    | .simple line assignments words redirections =>
      let words ← expandWords fuel words
      if words.isEmpty && !assignments.any (·.2.any Piece.isOutput) then setStatus 0
      assignAll fuel assignments
      runWords (← redirectAll streams line fuel redirections) line words
      endOnFailure
    | .both first second =>
      tested (runCommand streams fuel first)
      if ← succeeded then runCommand streams fuel second
    | .either first second =>
      tested (runCommand streams fuel first)
      if !(← succeeded) then runCommand streams fuel second
    | .negated inner =>
      tested (runCommand streams fuel inner)
      setStatus (if ← succeeded then 1 else 0)
    | .group body redirections => runAll (← redirectAll streams 1 fuel redirections) fuel body
    | .subshell body redirections =>
      runInside (← redirectAll streams 1 fuel redirections) fuel body
      endOnFailure
    | .choice test body otherwise =>
      tested (runAll streams fuel test)
      if ← succeeded then runAll streams fuel body
      else
        setStatus 0
        runAll streams fuel otherwise
    | .loop wanted test body => runLoop streams wanted test body 0 fuel
    | .each name words body =>
      let values ← expandWords fuel words
      setStatus 0
      runEach streams name body fuel values

end

namespace Script

/-- Rounds after which a script counts as one that does not end. -/
def maxRounds : Nat := 1000000

/-- Run a script under a name with arguments and options of the shell. One that does not parse
fails. -/
def run (files : FileSystem) (options name : String) (arguments : List String) (text : String) :
    Outcome :=
  match parse text.toList with
  | none => ⟨.status 2, [], bytesOf (name ++ ": 1: Syntax error\n").toList⟩
  | some body =>
    let start : State :=
      { files := files, name := name.toList, arguments := arguments.map String.toList
        endsOnFailure := "-".isPrefixOf options && options.toList.contains 'e' }
    let (ended, s) := ((runAll {} maxRounds body).run.run start)
    let ending := match ended with
      | .ok () => Ending.status s.status
      | .error e => e
    ⟨ending, s.output.toList, s.errors.toList⟩

end Script

end ScriptBundle.Shell
