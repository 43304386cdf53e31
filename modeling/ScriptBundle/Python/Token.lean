/-!
# Tokens of a Python source

A token is a `Kind`, which says all that the grammar looks at, together with its place in the
source. Places count characters from the start of the source. Comments and line ends inside
brackets never reach the grammar; a token only remembers where the first such line end before it
stood.
-/

namespace ScriptBundle.Python

/-- Reserved words. `case`, `match` and `type` are reserved only where a statement or a pattern can
start with them. -/
inductive Keyword
  | «False» | «None» | «True» | «and» | «as» | «assert» | «async» | «await» | «break» | «case»
  | «class» | «continue» | «def» | «del» | «elif» | «else» | «except» | «finally» | «for» | «from»
  | «global» | «if» | «import» | «in» | «is» | «lambda» | «match» | «nonlocal» | «not» | «or»
  | «pass» | «raise» | «return» | «try» | «type» | «while» | «with» | «yield»
  deriving DecidableEq, Repr

/-- The text of a name: it is not empty and holds no point and no slash. -/
structure Word where
  text : String
  nonempty : text ≠ ""
  plain : text.toList.all (fun c => c ≠ '.' && c ≠ '/') = true
  deriving DecidableEq, Repr

namespace Word

theorem plain_of_mem (word : Word) {c : Char} (h : c ∈ word.text.toList) : c ≠ '.' ∧ c ≠ '/' := by
  simpa using List.all_eq_true.1 word.plain c h

/-- The word made of some characters. -/
def ofList (letters : List Char) (nonempty : letters ≠ [])
    (plain : ∀ c ∈ letters, c ≠ '.' ∧ c ≠ '/') : Word where
  text := String.ofList letters
  nonempty := by simpa using nonempty
  plain := by simpa using plain

end Word

namespace Keyword

def text : Keyword → String
  | «False» => "False" | «None» => "None" | «True» => "True" | «and» => "and" | «as» => "as"
  | «assert» => "assert" | «async» => "async" | «await» => "await" | «break» => "break"
  | «case» => "case" | «class» => "class" | «continue» => "continue" | «def» => "def"
  | «del» => "del" | «elif» => "elif" | «else» => "else" | «except» => "except"
  | «finally» => "finally" | «for» => "for" | «from» => "from" | «global» => "global"
  | «if» => "if" | «import» => "import" | «in» => "in" | «is» => "is" | «lambda» => "lambda"
  | «match» => "match" | «nonlocal» => "nonlocal" | «not» => "not" | «or» => "or"
  | «pass» => "pass" | «raise» => "raise" | «return» => "return" | «try» => "try"
  | «type» => "type" | «while» => "while" | «with» => "with" | «yield» => "yield"

def word (k : Keyword) : Word where
  text := k.text
  nonempty := by cases k <;> decide
  plain := by cases k <;> decide +kernel

def all : List Keyword :=
  [«False», «None», «True», «and», «as», «assert», «async», «await», «break», «case», «class»,
    «continue», «def», «del», «elif», «else», «except», «finally», «for», «from», «global», «if»,
    «import», «in», «is», «lambda», «match», «nonlocal», «not», «or», «pass», «raise», «return»,
    «try», «type», «while», «with», «yield»]

def ofText? (word : String) : Option Keyword :=
  all.find? (fun k => k.text == word)

/-- Words that are names wherever the grammar has no other use for them. -/
def isSoft : Keyword → Bool
  | «case» | «match» | «type» => true
  | _ => false

end Keyword

inductive Symbol
  | lpar | rpar | lsqb | rsqb | lbrace | rbrace
  | colon | comma | semi | dot | ellipsis | arrow | exclamation
  | equal | colonEqual | less | greater | equalEqual | notEqual | lessEqual | greaterEqual
  | plus | minus | star | slash | percent | atSign | vbar | amper | circumflex | tilde
  | leftShift | rightShift | doubleStar | doubleSlash
  | plusEqual | minusEqual | starEqual | slashEqual | percentEqual | atEqual | vbarEqual
  | amperEqual | circumflexEqual | leftShiftEqual | rightShiftEqual | doubleStarEqual
  | doubleSlashEqual
  deriving DecidableEq, Repr

namespace Symbol

def isCloser : Symbol → Bool
  | rpar | rsqb | rbrace => true
  | _ => false

end Symbol

/-- What the letters before a string's quote ask for. -/
inductive Flavour
  | plain | bytes | formatted | template
  deriving DecidableEq, Repr

/-- How a string literal is written. -/
structure StringForm where
  flavour : Flavour := .plain
  raw : Bool := false
  /-- Whether the letter `u` stands before the quote. -/
  marked : Bool := false
  quote : Char := '\''
  triple : Bool := false
  deriving DecidableEq, Repr

namespace StringForm

/-- The characters from the start of the literal to the start of its text. -/
def opening (form : StringForm) : Nat :=
  (if form.raw then 1 else 0) + (if form.marked then 1 else 0)
    + (if form.flavour = .plain then 0 else 1) + (if form.triple then 3 else 1)

end StringForm

inductive NumberForm
  | integer | float | imaginary
  deriving DecidableEq, Repr

/-- What the grammar sees of a token. Names are in compatibility normal form; texts of strings and
numbers are as written. -/
inductive Kind
  | name (word : Word)
  | number (form : NumberForm) (text : String)
  | string (form : StringForm) (text : List Char)
  | replacementStart (form : StringForm)
  | replacementText (form : StringForm) (text : List Char) (inSpec : Bool)
  | replacementEnd (form : StringForm)
  | keyword (word : Keyword)
  | symbol (mark : Symbol)
  | newline
  | indent
  | dedent
  | endOfFile
  /-- Text that is no token. -/
  | invalid
  deriving DecidableEq, Repr

/-- A token in its place. -/
structure Token where
  kind : Kind
  /-- The first character of the token and the character behind it. -/
  start : Nat
  stop : Nat
  /-- The number of brackets open behind the token. -/
  nesting : Nat
  /-- The first line end inside brackets since the token before. -/
  lineEnd : Option Nat := none
  deriving DecidableEq, Repr

end ScriptBundle.Python
