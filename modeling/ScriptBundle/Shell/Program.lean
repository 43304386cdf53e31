import ScriptBundle.Shell.Run
import ScriptBundle.Text.Lines

/-!
# Programs among the files of a snapshot

Where nothing but a snapshot of files is at hand, a program named by a path with a slash is a script
of the shell among them, and a bare name is one of a few programs whose answer does not depend on
the system.
-/

namespace ScriptBundle.Shell

open Program Text

def shells : List String := ["/bin/sh", "/usr/bin/sh", "/bin/dash", "/usr/bin/dash"]

/-- The program that finds another by its name. -/
def finder : String := "/usr/bin/env"

/-- The program in a script's first line, and the one argument it is given. -/
def scriptHead? (text : List Char) : Option (String × String) :=
  match text with
  | '#' :: '!' :: rest =>
    let line := trim (rest.takeWhile (· ≠ '\n'))
    let program := line.takeWhile fun c => c ≠ ' ' && c ≠ '\t'
    some (String.ofList program, String.ofList (trim (line.drop program.length)))
  | _ => none

/-- The options of the shell that a script's head asks for, if it asks for the shell. -/
def shellOptions? (program argument : String) : Option String :=
  if shells.contains program then some argument
  else if program = finder && (argument = "sh" || argument = "dash") then some ""
  else none

def runFile (fs : FileSystem) (path : String) (arguments : List String) :
    Except IoError Outcome := do
  match fs.find? (← fs.resolve path) with
  | some (.file content mode) =>
    if mode % 2 = 0 then .error .permissionDenied
    else
      let text := Utf8.decodeLossy content.toList
      match scriptHead? text with
      | none => .error .badExecutable
      | some (program, argument) =>
        match shellOptions? program argument with
        | some options => .ok (Script.run fs options path arguments (String.ofList text))
        | none => .error .notFound
  | some _ => .error .permissionDenied
  | none => .error .notFound

/-- The first argument that is an option with letters, without its sign. -/
def firstOption (arguments : List String) : List Char :=
  match arguments with
  | first :: _ => first.toList.drop 1
  | [] => []

/-- The complaint of a program that does not know an option. -/
def invalidOption (name : String) (arguments : List String) : List UInt8 :=
  bytesOf (name ++ ": invalid option -- '" ++ String.ofList ((firstOption arguments).take 1)
    ++ "'\nTry '" ++ name ++ " --help' for more information.\n").toList

def runNamed (name : String) (arguments : List String) : Except IoError Outcome :=
  match name with
  | "true" => .ok ⟨.status 0, [], []⟩
  | "false" => .ok ⟨.status 1, [], []⟩
  | "dir" | "ls" | "vdir" => .ok ⟨.status 2, [], invalidOption name arguments⟩
  | "sh" | "dash" =>
    .ok ⟨.status 2, [], bytesOf (name ++ ": 0: Illegal option -"
      ++ String.ofList ((firstOption arguments).take 1) ++ "\n").toList⟩
  | _ => .error .notFound

def programs (fs : FileSystem) : Programs := fun program arguments =>
  let outcome :=
    if program.toList.contains '\x00' then .error .nulInData
    else if program.toList.contains '/' then runFile fs program arguments
    else runNamed program arguments
  outcome.mapError IoError.message

end ScriptBundle.Shell
