import ScriptBundle.Bundle.Hoist
import ScriptBundle.Bundle.Template
import ScriptBundle.Import.Record
import ScriptBundle.Log
import ScriptBundle.Payload.Basic
import ScriptBundle.Python.Literal

/-!
# Assembling a bundle

A bundle is, in order, a shebang line, the future imports of the entry, the opening, a registration
for each module, the rest of the entry as a block, and the closing.
-/

namespace ScriptBundle

open Text

/-- Where the first line of a bundle comes from. -/
structure AssembleOptions where
  /-- The entry's own shebang line is taken over. -/
  copyShebang : Bool := false
  defaultShebang : String := Template.defaultShebang
  deriving DecidableEq, Repr

def shebang? (source : List Char) : Option (List Char) :=
  match lines source with
  | first :: _ => if first.take 2 = ['#', '!'] then some (dropReturn first) else none
  | [] => none

def shebangLine (options : AssembleOptions) (source : List Char) : String :=
  match if options.copyShebang then shebang? source else none with
  | some line => String.ofList line
  | none => options.defaultShebang

def registration (record : Record) : String :=
  Template.indentation ++ Template.registerFunction ++ "(" ++ Python.literal record.canonical
    ++ ", " ++ Python.literal (Payload.encode record.source) ++ ")\n"

def isEmptyLine (line : List Char) : Bool := line.all fun c => c = '\r' || c = '\n'

/-- Text one level deeper. Empty lines stay empty. -/
def indent (text : List Char) : List Char :=
  (lineFeedPieces text).flatMap fun line =>
    if isEmptyLine line then line else Template.indentation.toList ++ line

def missingLineFeed (text : String) : String :=
  if text.toList.getLast? = some '\n' then "" else "\n"

def bundleText (options : AssembleOptions) (source : List Char) (modules : List Record) : String :=
  let hoisted := hoist source
  let script := shebangLine options source ++ "\n"
    ++ String.join (hoisted.statements.map fun s => String.ofList s ++ "\n")
    ++ Template.opening
    ++ String.join (modules.map registration)
    ++ String.ofList (indent hoisted.body)
  script ++ missingLineFeed script ++ "\n" ++ Template.closing

def assemble (options : AssembleOptions) (source : String) (modules : List Record) :
    Logged String := do
  let hoisted := (hoist source.toList).statements.length
  if 0 < hoisted then Logged.record (.hoisted hoisted)
  Logged.record (.registered modules.length)
  return bundleText options source.toList modules

end ScriptBundle
