import ScriptBundle.Python.Token
import ScriptBundle.Text.Identifier
import ScriptBundle.Text.Normalization

/-!
# Scanning tokens

`Scanner.step` takes one piece off a source: a token, a comment, a line end inside brackets, or the
end. Indentation is compared with the stack of enclosing indentations; inside a string with
replacement fields the scanner goes back and forth between text and code.
-/

namespace ScriptBundle.Python

open ScriptBundle.Text

/-- The blank start of a line: its width with tabs at multiples of eight, and its character
count. -/
structure Indentation where
  column : Nat := 0
  length : Nat := 0
  deriving DecidableEq, Repr

namespace Indentation

def addBlank (i : Indentation) : Indentation := ⟨i.column + 1, i.length + 1⟩

def addTab (i : Indentation) : Indentation := ⟨i.column / 8 * 8 + 8, i.length + 1⟩

/-- Indentations are comparable when both measures agree, so that no choice of tab width changes
the order. -/
def compare? (i j : Indentation) : Option Ordering :=
  let byColumn := compare i.column j.column
  if byColumn = compare i.length j.length then some byColumn else none

end Indentation

/-- Where the scanner stands in a logical line. -/
inductive LinePlace
  | atStart | afterIndent | inside
  deriving DecidableEq, Repr

/-- A string with replacement fields whose end has not been seen. -/
structure OpenString where
  form : StringForm
  /-- Brackets open before the string. -/
  nesting : Nat
  /-- Format specifications open inside one another. -/
  specs : Nat := 0
  deriving DecidableEq, Repr

namespace OpenString

/-- The scanner is in the code of a replacement field, not in text. -/
def inCode (s : OpenString) (nesting : Nat) : Bool := s.specs < nesting - s.nesting

/-- The scanner is in the text of a format specification. -/
def inSpec (s : OpenString) (nesting : Nat) : Bool := 0 < s.specs && !s.inCode nesting

/-- A colon directly inside a replacement field opens its format specification. -/
def opensSpec (s : OpenString) (nesting : Nat) : Bool := nesting - s.nesting - s.specs = 1

/-- The string behind the end of a format specification. -/
def closeSpec (s : OpenString) (nesting : Nat) : OpenString :=
  if s.inSpec nesting then { s with specs := s.specs - 1 } else s

end OpenString

structure Scanner where
  rest : List Char
  pos : Nat := 0
  nesting : Nat := 0
  line : LinePlace := .atStart
  /-- Enclosing indentations, innermost first. -/
  indents : List Indentation := []
  /-- The indentation that dedents are still to reach. -/
  pending : Option Indentation := none
  strings : List OpenString := []

/-- What one step yields. -/
inductive Piece
  | token (kind : Kind)
  | comment
  /-- A line end that ends no logical line. -/
  | lineEnd

/-- A piece in its place, with the place of the fault if the text is not well formed. -/
structure Lexeme where
  piece : Piece
  start : Nat
  stop : Nat
  fault : Option Nat := none

/-! ## Lengths of lexemes -/

/-- The blank start of a line: its indentation, its length, and whether it ends in a backslash that
continues no line. The first indentation before a continuation counts for the whole line; a form
feed starts over. -/
def measureIndent : List Char → Indentation → Option Indentation → Nat →
    Indentation × Nat × Bool
  | ' ' :: t, i, first, n => measureIndent t i.addBlank first (n + 1)
  | '\t' :: t, i, first, n => measureIndent t i.addTab first (n + 1)
  | '\x0c' :: t, _, _, n => measureIndent t {} none (n + 1)
  | '\\' :: '\r' :: '\n' :: t, i, first, n =>
    measureIndent t i (first.or (if i.length = 0 then none else some i)) (n + 3)
  | '\\' :: '\r' :: t, i, first, n =>
    measureIndent t i (first.or (if i.length = 0 then none else some i)) (n + 2)
  | '\\' :: '\n' :: t, i, first, n =>
    measureIndent t i (first.or (if i.length = 0 then none else some i)) (n + 2)
  | '\\' :: _, i, first, n => (first.getD i, n, true)
  | _, i, first, n => (first.getD i, n, false)

/-- The length of blanks and continued line ends, and whether a stray backslash follows. -/
def measureBlanks : List Char → Nat → Nat × Bool
  | '\\' :: '\r' :: '\n' :: t, n => measureBlanks t (n + 3)
  | '\\' :: '\r' :: t, n => measureBlanks t (n + 2)
  | '\\' :: '\n' :: t, n => measureBlanks t (n + 2)
  | '\\' :: _, n => (n, true)
  | c :: t, n => if c = ' ' || c = '\t' || c = '\x0c' then measureBlanks t (n + 1) else (n, false)
  | [], n => (n, false)

/-- The number of characters up to the first that fails the test. -/
def measureWhile (p : Char → Bool) : List Char → Nat → Nat
  | c :: t, n => if p c then measureWhile p t (n + 1) else n
  | [], n => n

/-- The length of a run of digits; single underscores may stand between digits. -/
def measureDigits (p : Char → Bool) : List Char → Nat → Nat
  | '_' :: d :: t, n => if p d then measureDigits p t (n + 2) else n
  | c :: t, n => if p c then measureDigits p t (n + 1) else n
  | [], n => n

/-- The length of a string's text on one line, and whether its quote follows. -/
def measureLine (quote : Char) : List Char → Nat → Nat × Bool
  | '\\' :: '\r' :: '\n' :: t, n => measureLine quote t (n + 3)
  | '\\' :: _ :: t, n => measureLine quote t (n + 2)
  | '\\' :: [], n => (n + 1, false)
  | c :: t, n =>
    if c = quote then (n, true)
    else if c = '\n' || c = '\r' then (n, false)
    else measureLine quote t (n + 1)
  | [], n => (n, false)

/-- The length of a string's text up to three quotes, and whether they follow. -/
def measureLines (quote : Char) : List Char → Nat → Nat × Bool
  | '\\' :: _ :: t, n => measureLines quote t (n + 2)
  | '\\' :: [], n => (n + 1, false)
  | c :: t, n =>
    if c = quote && t.take 2 = [quote, quote] then (n, true) else measureLines quote t (n + 1)
  | [], n => (n, false)

/-- The length of text between replacement fields, and whether the string ends there for want of
its quote. Doubled braces are text outside format specifications, and so are the braces of a
character's name (`named` is set behind the opening one). -/
def measureText (form : StringForm) (inSpec : Bool) : Bool → List Char → Nat → Nat × Bool
  | _, [], n => (n, true)
  | named, '\\' :: '{' :: t, n => measureText form inSpec named ('{' :: t) (n + 1)
  | named, '\\' :: '}' :: t, n => measureText form inSpec named ('}' :: t) (n + 1)
  | named, '\\' :: 'N' :: '{' :: t, n =>
    if form.raw then measureText form inSpec named ('{' :: t) (n + 2)
    else measureText form inSpec true t (n + 3)
  | named, '\\' :: '\r' :: '\n' :: t, n => measureText form inSpec named t (n + 3)
  | named, '\\' :: _ :: t, n => measureText form inSpec named t (n + 2)
  | _, '\\' :: [], n => (n + 1, true)
  | named, '{' :: '{' :: t, n =>
    if inSpec then (n, false) else measureText form inSpec named t (n + 2)
  | _, '{' :: _, n => (n, false)
  | true, '}' :: t, n => measureText form inSpec false t (n + 1)
  | false, '}' :: '}' :: t, n =>
    if inSpec then (n, false) else measureText form inSpec false t (n + 2)
  | false, '}' :: _, n => (n, false)
  | named, c :: t, n =>
    if !form.triple && (c = '\n' || c = '\r') then (n, true)
    else if c = form.quote && (!form.triple || t.take 2 = [c, c]) then (n, false)
    else measureText form inSpec named t (n + 1)

/-- The flavour that a letter before a quote asks for. -/
def flavour? : Char → Option Flavour
  | 'f' | 'F' => some .formatted
  | 't' | 'T' => some .template
  | 'b' | 'B' => some .bytes
  | _ => none

/-- Whether a letter before a quote asks for raw text. -/
def isRawLetter (c : Char) : Bool := c = 'r' || c = 'R'

/-- What the letters before a quote ask for. Raw text goes with any flavour, in either order. -/
def stringForm? : List Char → Option StringForm
  | [c] =>
    if isRawLetter c then some { raw := true }
    else if c = 'u' || c = 'U' then some { marked := true }
    else (flavour? c).map fun flavour => { flavour }
  | [c, d] =>
    if isRawLetter c then (flavour? d).map fun flavour => { flavour, raw := true }
    else if isRawLetter d then (flavour? c).map fun flavour => { flavour, raw := true }
    else none
  | _ => none

/-- The longest operator or delimiter at the start of a text, with its length. -/
def symbol? : List Char → Option (Symbol × Nat)
  | '*' :: '*' :: '=' :: _ => some (.doubleStarEqual, 3)
  | '/' :: '/' :: '=' :: _ => some (.doubleSlashEqual, 3)
  | '<' :: '<' :: '=' :: _ => some (.leftShiftEqual, 3)
  | '>' :: '>' :: '=' :: _ => some (.rightShiftEqual, 3)
  | '.' :: '.' :: '.' :: _ => some (.ellipsis, 3)
  | '*' :: '*' :: _ => some (.doubleStar, 2)
  | '*' :: '=' :: _ => some (.starEqual, 2)
  | '*' :: _ => some (.star, 1)
  | '/' :: '/' :: _ => some (.doubleSlash, 2)
  | '/' :: '=' :: _ => some (.slashEqual, 2)
  | '/' :: _ => some (.slash, 1)
  | '<' :: '<' :: _ => some (.leftShift, 2)
  | '<' :: '=' :: _ => some (.lessEqual, 2)
  | '<' :: _ => some (.less, 1)
  | '>' :: '>' :: _ => some (.rightShift, 2)
  | '>' :: '=' :: _ => some (.greaterEqual, 2)
  | '>' :: _ => some (.greater, 1)
  | '=' :: '=' :: _ => some (.equalEqual, 2)
  | '=' :: _ => some (.equal, 1)
  | '!' :: '=' :: _ => some (.notEqual, 2)
  | '!' :: _ => some (.exclamation, 1)
  | '+' :: '=' :: _ => some (.plusEqual, 2)
  | '+' :: _ => some (.plus, 1)
  | '-' :: '=' :: _ => some (.minusEqual, 2)
  | '-' :: '>' :: _ => some (.arrow, 2)
  | '-' :: _ => some (.minus, 1)
  | '%' :: '=' :: _ => some (.percentEqual, 2)
  | '%' :: _ => some (.percent, 1)
  | '@' :: '=' :: _ => some (.atEqual, 2)
  | '@' :: _ => some (.atSign, 1)
  | '|' :: '=' :: _ => some (.vbarEqual, 2)
  | '|' :: _ => some (.vbar, 1)
  | '&' :: '=' :: _ => some (.amperEqual, 2)
  | '&' :: _ => some (.amper, 1)
  | '^' :: '=' :: _ => some (.circumflexEqual, 2)
  | '^' :: _ => some (.circumflex, 1)
  | ':' :: '=' :: _ => some (.colonEqual, 2)
  | ':' :: _ => some (.colon, 1)
  | '~' :: _ => some (.tilde, 1)
  | ';' :: _ => some (.semi, 1)
  | ',' :: _ => some (.comma, 1)
  | '.' :: _ => some (.dot, 1)
  | '(' :: _ => some (.lpar, 1)
  | ')' :: _ => some (.rpar, 1)
  | '[' :: _ => some (.lsqb, 1)
  | ']' :: _ => some (.rsqb, 1)
  | '{' :: _ => some (.lbrace, 1)
  | '}' :: _ => some (.rbrace, 1)
  | _ => none

/-- A number at the start of a text: its length and sort, or the length of a malformed one with the
offset of its fault. -/
inductive NumberShape
  | good (length : Nat) (form : NumberForm)
  | bad (length : Nat) (fault : Nat)

/-- The length of an exponent at the start of a text. -/
def measureExponent : List Char → Nat
  | 'e' :: t | 'E' :: t =>
    match t with
    | '+' :: d :: r | '-' :: d :: r =>
      if d.isDigit then measureDigits Char.isDigit (d :: r) 2 else 0
    | d :: r => if d.isDigit then measureDigits Char.isDigit (d :: r) 1 else 0
    | [] => 0
  | _ => 0

/-- A number in base ten. A whole number with a leading zero has no other digit. -/
def decimalShape (text : List Char) : NumberShape :=
  let whole := measureDigits Char.isDigit text 0
  let behind := text.drop whole
  let (fraction, broken) := match behind with
    | '.' :: '_' :: _ => (1, true)
    | '.' :: t => (measureDigits Char.isDigit t 1, false)
    | _ => (0, false)
  if broken then .bad (whole + 2) (whole + 1)
  else
    let exponent := measureExponent (behind.drop fraction)
    let length := whole + fraction + exponent
    match text.drop length with
    | 'j' :: _ | 'J' :: _ => .good (length + 1) .imaginary
    | _ =>
      if fraction + exponent ≠ 0 then .good length .float
      else if text.head? = some '0' && (text.take length).any (fun c => c ≠ '0' && c ≠ '_') then
        .bad length 0
      else .good length .integer

/-- A number with a base letter needs a digit behind it. -/
def radixShape (isDigit : Char → Bool) (digits : List Char) : NumberShape :=
  match measureDigits isDigit digits 0 with
  | 0 => .bad 2 0
  | n => .good (n + 2) .integer

/-- The number at the start of a text that begins with a digit, or a point and a digit. An
underscore may follow a base letter. -/
def numberShape : List Char → NumberShape
  | '0' :: 'x' :: t | '0' :: 'X' :: t => radixShape (fun c => (hexDigit? c).isSome) t
  | '0' :: 'o' :: t | '0' :: 'O' :: t => radixShape (fun c => '0' ≤ c && c ≤ '7') t
  | '0' :: 'b' :: t | '0' :: 'B' :: t => radixShape (fun c => c = '0' || c = '1') t
  | text => decimalShape text

/-! ## Steps -/

namespace Scanner

def advance (s : Scanner) (n : Nat) : Scanner :=
  { s with rest := s.rest.drop n, pos := s.pos + n }

def currentIndent (s : Scanner) : Indentation := s.indents.headD {}

/-- A token of the next `n` characters, within a logical line. -/
def accept (s : Scanner) (n : Nat) (kind : Kind) : Lexeme × Scanner :=
  (⟨.token kind, s.pos, s.pos + n, none⟩, { s.advance n with line := .inside })

/-- Text that is no token, `n` characters long, with its fault at a given place. -/
def reject (s : Scanner) (n : Nat) (fault : Nat) : Lexeme × Scanner :=
  (⟨.token .invalid, fault, s.pos + n, some fault⟩, s.advance n)

/-- The innermost open string is changed. -/
def mapString (s : Scanner) (f : OpenString → OpenString) : Scanner :=
  match s.strings with
  | opened :: outer => { s with strings := f opened :: outer }
  | [] => s

/-- The end of the source closes brackets, the last line and all blocks, one step each. -/
def stepEnd (s : Scanner) : Lexeme × Scanner :=
  if 0 < s.nesting then
    (⟨.token .invalid, s.pos, s.pos, some s.pos⟩, { s with nesting := 0 })
  else if s.line = .inside then
    (⟨.token .newline, s.pos, s.pos, none⟩, { s with line := .atStart })
  else
    match s.indents with
    | _ :: outer => (⟨.token .dedent, s.pos, s.pos, none⟩, { s with indents := outer })
    | [] => (⟨.token .endOfFile, s.pos, s.pos, none⟩, s)

/-- A line end `n` characters long. It ends a logical line unless a bracket is open or the line is
empty. -/
def stepLineEnd (s : Scanner) (n : Nat) : Lexeme × Scanner :=
  if s.nesting = 0 && s.line = .inside then
    (⟨.token .newline, s.pos, s.pos + n, none⟩, { s.advance n with line := .atStart })
  else
    (⟨.lineEnd, s.pos, s.pos + n, none⟩, (s.advance n).mapString (·.closeSpec s.nesting))

/-- A string behind its letters: `form` is what they say, `letters` their number. -/
def stepString (s : Scanner) (letters : Nat) (form : StringForm) (quote : Char) :
    Lexeme × Scanner :=
  let text := s.rest.drop (letters + 1)
  let triple := text.take 2 = [quote, quote]
  let form := { form with quote, triple }
  let opening := letters + if triple then 3 else 1
  if form.flavour = .formatted || form.flavour = .template then
    let (lexeme, next) := s.accept opening (.replacementStart form)
    (lexeme, { next with strings := ⟨form, s.nesting, 0⟩ :: next.strings })
  else
    let body := s.rest.drop opening
    let (length, closed) := if triple then measureLines quote body 0 else measureLine quote body 0
    let closing := if !closed then 0 else if triple then 3 else 1
    let (lexeme, next) :=
      s.accept (opening + length + closing) (.string form (body.take length))
    ({ lexeme with fault := if closed then none else some s.pos }, next)

/-- The characters of the word that starts with a letter. -/
def letters (c : Char) (t : List Char) : List Char := c :: t.takeWhile isIdentifierContinue

theorem letters_behindSlash {c : Char} (start : isIdentifierStart c = true) (t : List Char) :
    ∀ d ∈ letters c t, Normalization.isBehindSlash d.toNat = true := by
  intro d hd
  rcases List.mem_cons.1 hd with rfl | hd
  · exact Normalization.isBehindSlash_of_start start
  · have hp : isIdentifierContinue d = true := List.all_eq_true.1 (List.all_takeWhile ..) d hd
    exact Normalization.isBehindSlash_of_continue hp

/-- A name or keyword. Only a word in ASCII can be a keyword. -/
def stepWord (s : Scanner) (c : Char) (start : isIdentifierStart c = true) (t : List Char) :
    Lexeme × Scanner :=
  let word := letters c t
  let length := word.length
  have behind := letters_behindSlash start t
  if word.all (fun c => c.toNat < 128) then
    match Keyword.ofText? (String.ofList word) with
    | some k => s.accept length (.keyword k)
    | none =>
      have plain := fun d hd => Normalization.plain_of_behindSlash (behind d hd)
      s.accept length (.name (.ofList word (List.cons_ne_nil _ _) plain))
  else
    have normal := Normalization.normalize_plain (List.cons_ne_nil _ _) behind
    s.accept length (.name (.ofList (Normalization.normalize word) normal.1 normal.2))

def isQuote (c : Char) : Bool := c = '\'' || c = '"'

/-- A word, or the string that its letters open. -/
def stepIdentifier (s : Scanner) (c : Char) (start : isIdentifierStart c = true) (t : List Char) :
    Lexeme × Scanner :=
  match t with
  | d :: behind =>
    if isQuote d then
      match stringForm? [c] with
      | some form => s.stepString 1 form d
      | none => s.stepWord c start t
    else
      match behind with
      | q :: _ =>
        if isQuote q then
          match stringForm? [c, d] with
          | some form => s.stepString 2 form q
          | none => s.stepWord c start t
        else s.stepWord c start t
      | [] => s.stepWord c start t
  | [] => s.stepWord c start t

def stepSymbol (s : Scanner) : Lexeme × Scanner :=
  match symbol? s.rest with
  | none => s.reject 1 s.pos
  | some (mark, length) =>
    match mark with
    | .lpar | .lsqb | .lbrace => { s with nesting := s.nesting + 1 }.accept 1 (.symbol mark)
    | .rpar | .rsqb => { s with nesting := s.nesting - 1 }.accept 1 (.symbol mark)
    | .rbrace =>
      match s.strings with
      | opened :: _ =>
        if opened.nesting = s.nesting then s.reject 1 s.pos
        else
          { s.mapString (·.closeSpec s.nesting) with nesting := s.nesting - 1 }.accept 1
            (.symbol mark)
      | [] => { s with nesting := s.nesting - 1 }.accept 1 (.symbol mark)
    | .colon | .colonEqual =>
      match s.strings with
      | opened :: _ =>
        if opened.opensSpec s.nesting then
          (s.mapString fun o => { o with specs := o.specs + 1 }).accept 1 (.symbol .colon)
        else s.accept length (.symbol mark)
      | [] => s.accept length (.symbol mark)
    | _ => s.accept length (.symbol mark)

def stepNumber (s : Scanner) : Lexeme × Scanner :=
  match numberShape s.rest with
  | .good length form =>
    s.accept length (.number form (String.ofList (s.rest.take length)))
  | .bad length fault =>
    let (lexeme, next) := s.reject length (s.pos + fault)
    (lexeme, { next with line := .inside })

/-- The piece at the next character, which is no blank. -/
def stepCharacter (s : Scanner) : Lexeme × Scanner :=
  match s.rest with
  | [] => s.stepEnd
  | c :: t =>
    if start : isIdentifierStart c then s.stepIdentifier c start t
    else if c.isDigit then s.stepNumber
    else if c = '#' then
      let length := measureWhile (fun c => c ≠ '\n' && c ≠ '\r') t 1
      (⟨.comment, s.pos, s.pos + length, none⟩, s.advance length)
    else if isQuote c then s.stepString 0 {} c
    else if c = '.' && (t.head?.map Char.isDigit).getD false then s.stepNumber
    else if c = '\n' then s.stepLineEnd 1
    else if c = '\r' then s.stepLineEnd (if t.head? = some '\n' then 2 else 1)
    else s.stepSymbol

/-- The first piece of a line: a change of indentation comes before all else, except on a line
that is empty or holds only a comment. -/
def stepIndent (s : Scanner) : Lexeme × Scanner :=
  let (indent, length, stray) := measureIndent s.rest {} none 0
  if stray then s.reject (length + 1) (s.pos + length)
  else
    let next := s.advance length
    let idle := match next.rest with
      | [] => true
      | c :: _ => c = '\n' || c = '\r' || c = '#' || c = '\x00'
    if idle then next.stepCharacter
    else
      let next := { next with line := .afterIndent }
      match s.currentIndent.compare? indent with
      | some .eq => next.stepCharacter
      | some .lt =>
        (⟨.token .indent, s.pos, next.pos, none⟩, { next with indents := indent :: next.indents })
      | some .gt =>
        let next := { next with pending := some indent, indents := next.indents.tail }
        match next.currentIndent.compare? indent with
        | some .eq | some .gt => (⟨.token .dedent, next.pos, next.pos, none⟩, next)
        | _ => (⟨.token .invalid, s.pos, next.pos, some s.pos⟩, next)
      | none => (⟨.token .invalid, s.pos, next.pos, some s.pos⟩, next)

def stepCode (s : Scanner) : Lexeme × Scanner :=
  if s.line = .atStart then s.stepIndent
  else
    let (length, stray) := measureBlanks s.rest 0
    if stray then s.reject (length + 1) (s.pos + length) else (s.advance length).stepCharacter

/-- The next piece of an open string's text: its end, or text, or nothing if code comes first. A
string that its line or the source cuts off is closed there. -/
def stepText (s : Scanner) (opened : OpenString) : Option (Lexeme × Scanner) :=
  let form := opened.form
  let closing := if form.triple then 3 else 1
  if s.rest.take closing = List.replicate closing form.quote then
    let (lexeme, next) := s.accept closing (.replacementEnd form)
    some (lexeme, { next with strings := s.strings.tail, line := s.line })
  else
    let inSpec := opened.inSpec s.nesting
    let (length, cut) := measureText form inSpec false s.rest 0
    if cut then
      let next := s.advance length
      some (⟨.token .invalid, s.pos, s.pos + length, some s.pos⟩,
        { next with strings := s.strings.tail, nesting := opened.nesting })
    else if length = 0 then none
    else
      some (⟨.token (.replacementText form (s.rest.take length) inSpec), s.pos, s.pos + length,
        none⟩, s.advance length)

def step (s : Scanner) : Lexeme × Scanner :=
  match s.strings with
  | opened :: _ =>
    if opened.inCode s.nesting then s.stepCode
    else (s.stepText opened).getD s.stepCode
  | [] =>
    match s.pending with
    | none => s.stepCode
    | some target =>
      match s.currentIndent.compare? target with
      | some .gt =>
        let next := { s with indents := s.indents.tail }
        match next.currentIndent.compare? target with
        | some .eq | some .gt => (⟨.token .dedent, s.pos, s.pos, none⟩, next)
        | _ => (⟨.token .invalid, s.pos, s.pos, some s.pos⟩, next)
      | some _ => { s with pending := none }.stepCode
      | none => (⟨.token .invalid, s.pos, s.pos, some s.pos⟩, { s with pending := none })

end Scanner

/-! ## Whole sources -/

/-- The tokens of a source, ending with the end of file, and the place of the first fault found on
the way. -/
structure TokenList where
  tokens : List Token
  fault : Option Nat

/-- Collect tokens, latest first, in `done`. `lineEnd` is the first line end since the last
token. -/
def collect : Nat → Scanner → Option Nat → Option Nat → List Token → TokenList
  | 0, s, lineEnd, fault, done =>
    ⟨(⟨.endOfFile, s.pos, s.pos, s.nesting, lineEnd⟩ :: done).reverse, fault⟩
  | fuel + 1, s, lineEnd, fault, done =>
    let (lexeme, next) := s.step
    let fault := fault.or lexeme.fault
    match lexeme.piece with
    | .comment => collect fuel next lineEnd fault done
    | .lineEnd => collect fuel next (lineEnd.or (some lexeme.start)) fault done
    | .token kind =>
      let token : Token := ⟨kind, lexeme.start, lexeme.stop, next.nesting, lineEnd⟩
      match kind with
      | .endOfFile => ⟨(token :: done).reverse, fault⟩
      | _ => collect fuel next none fault (token :: done)

/-- Scan a whole source. A byte-order mark at its start is passed over. Every step takes a
character, closes a block or a string, or ends the last line, so three steps a character and a few
at the end are enough. -/
def tokens (source : List Char) : TokenList :=
  let scanner : Scanner := match source with
    | '\uFEFF' :: rest => { rest, pos := 1 }
    | _ => { rest := source }
  collect (3 * source.length + 8) scanner none none []

end ScriptBundle.Python
