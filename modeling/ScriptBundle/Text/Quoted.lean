import ScriptBundle.Text.Printable

namespace ScriptBundle.Text

/-- What differs between quoted texts: whether a single quote is escaped too. -/
structure QuoteStyle where
  escapesSingle : Bool

def QuoteStyle.name : QuoteStyle := ⟨false⟩

def QuoteStyle.path : QuoteStyle := ⟨true⟩

def lowerHexDigit (n : Nat) : Char :=
  if n < 10 then Char.ofNat ('0'.toNat + n) else Char.ofNat ('a'.toNat + (n - 10))

def lowerHex (n : Nat) : List Char :=
  if n < 16 then [lowerHexDigit n] else lowerHex (n / 16) ++ [lowerHexDigit (n % 16)]

def quotedChar (style : QuoteStyle) (c : Char) : List Char :=
  match c with
  | '\x00' => ['\\', '0']
  | '\t' => ['\\', 't']
  | '\r' => ['\\', 'r']
  | '\n' => ['\\', 'n']
  | '"' => ['\\', '"']
  | '\\' => ['\\', '\\']
  | '\'' => if style.escapesSingle then ['\\', '\''] else [c]
  | _ => if isShownAsIs c then [c] else ['\\', 'u', '{'] ++ lowerHex c.toNat ++ ['}']

def quoted (style : QuoteStyle) (text : String) : String :=
  String.ofList ('"' :: text.toList.flatMap (quotedChar style) ++ ['"'])

def quotedList (style : QuoteStyle) (texts : List String) : String :=
  "[" ++ ", ".intercalate (texts.map (quoted style)) ++ "]"

end ScriptBundle.Text
