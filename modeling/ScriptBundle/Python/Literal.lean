import ScriptBundle.Text.Lines
import ScriptBundle.Text.Quoted

namespace ScriptBundle.Python

open ScriptBundle.Text

def twoDigits (n : Nat) : List Char := [lowerHexDigit (n / 16), lowerHexDigit (n % 16)]

/-- A character of a literal. Control characters have numbers below 256. -/
def literalChar (c : Char) : List Char :=
  match c with
  | '\\' => ['\\', '\\']
  | '"' => ['\\', '"']
  | '\n' => ['\\', 'n']
  | '\r' => ['\\', 'r']
  | '\t' => ['\\', 't']
  | _ => if isControl c then '\\' :: 'x' :: twoDigits c.toNat else [c]

def literal (text : String) : String :=
  String.ofList ('"' :: text.toList.flatMap literalChar ++ ['"'])

end ScriptBundle.Python
