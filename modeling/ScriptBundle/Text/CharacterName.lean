import ScriptBundle.Text.CodePoints
import ScriptBundle.Text.CharacterName.Alphabets
import ScriptBundle.Text.CharacterName.Syllabaries
import ScriptBundle.Text.CharacterName.Symbols
import ScriptBundle.Text.CharacterName.EastAsia
import ScriptBundle.Text.CharacterName.Historic
import ScriptBundle.Text.CharacterName.Notations
import ScriptBundle.Text.CharacterName.Pictographs
import ScriptBundle.Text.CharacterName.Further

/-!
# Characters by name

`characterNamed?` finds a character by its Unicode name. Names are matched loosely: case, blanks,
low lines and hyphens inside words do not count.
-/

namespace ScriptBundle.Text.CharacterName

/-- Whether a character is a letter or digit of names. -/
def isNamePart (c : Char) : Bool := c.isAlphanum

/-- Characters of a name that count, given the one before. A hyphen between two letters or digits
does not. -/
def countingCharacters (before : Option Char) : List Char → List Char
  | [] => []
  | c :: rest =>
    let inside := before.any isNamePart && rest.head?.any isNamePart
    let skipped := c = ' ' || ('\t' ≤ c && c ≤ '\r' && c ≠ '\x0b') || c = '_' || c = '-' && inside
    if skipped then countingCharacters (some c) rest
    else c.toUpper :: countingCharacters (some c) rest

/-- What counts of a name. In one name a hyphen is all that tells it from another. -/
def looseName (name : List Char) : List Char :=
  let loose := countingCharacters none name
  if loose = "HANGULJUNGSEONGOE".toList && (name.map Char.toUpper).reverse.take 2 = ['E', '-'] then
    "HANGULJUNGSEONGO-E".toList
  else loose

/-- The names of consecutive code points, the first of them begun. A small letter drops as many
characters from the end of a name as letters come before it, and the next name goes on from there.
-/
def namesFrom (begun : List Char) : List Char → List (List Char)
  | [] => [begun.reverse]
  | c :: rest =>
    if 'a' ≤ c ∧ c ≤ 'z' then
      begun.reverse :: namesFrom (begun.drop (c.toNat - 'a'.toNat)) rest
    else namesFrom (c :: begun) rest

/-- The names of an item of a table, with their code points. -/
def namesOfItem (item : List Char) : List (List Char × Nat) :=
  match pieces ':' item with
  | [code, names] => (namesFrom [] names).zipIdx (hexNumber code)
  | _ => []

/-- The code point that a name has in a table. A table is one text, cut into rows, with blanks
between its items. -/
def inTable? (table : List String) (name : List Char) : Option Nat :=
  (pieces ' ' (table.flatMap String.toList)).findSome? fun item => (namesOfItem item).lookup name

def tables : List (List String) :=
  [alphabetNames, syllabaryNames, symbolNames, eastAsiaNames, historicNames, notationNames,
    pictographNames, furtherNames]

/-- The starts of names that end in the character's number, and the characters that have them. -/
def numberedNames : List (String × CodePoints) :=
  [("CJKUNIFIEDIDEOGRAPH", .ofRows
     ["3400-4dbf 4e00-9fff 20000-2a6df 2a700-2b739 2b740-2b81d 2b820-2cea1 2ceb0-2ebe0",
      "30000-3134a 31350-323af"]),
   ("CJKCOMPATIBILITYIDEOGRAPH", .ofRows ["f900-fa6d fa70-fad9 2f800-2fa1d"]),
   ("TANGUTIDEOGRAPH", .ofRows ["17000-187f7 18d00-18d08"]),
   ("NUSHUCHARACTER", .ofRows ["1b170-1b2fb"]),
   ("KHITANSMALLSCRIPTCHARACTER", .ofRows ["18b00-18cd5"])]

/-- The code point that a name ends in, if characters of its number are named that way. -/
def numbered? (name : List Char) : Option Nat :=
  numberedNames.findSome? fun (start, set) =>
    if start.toList.isPrefixOf name then
      let digits := name.drop start.length
      let code := hexNumber digits
      if digits.length ≤ 5 && digits.all (fun c => (hexDigit? c).isSome) && set.contains code then
        some code
      else none
    else none

def leadingLetters : List String :=
  ["G", "GG", "N", "D", "DD", "R", "M", "B", "BB", "S", "SS", "", "J", "JJ", "C", "K", "T", "P",
    "H"]

def vowels : List String :=
  ["A", "AE", "YA", "YAE", "EO", "E", "YEO", "YE", "O", "WA", "WAE", "OE", "YO", "U", "WEO", "WE",
    "WI", "YU", "EU", "YI", "I"]

def trailingLetters : List String :=
  ["", "G", "GG", "GS", "N", "NJ", "NH", "D", "L", "LG", "LM", "LB", "LS", "LT", "LP", "LH", "M",
    "B", "BS", "S", "SS", "NG", "J", "C", "K", "T", "P", "H"]

/-- The spelled Hangul syllables, in the order of their code points. -/
def syllables : List String :=
  leadingLetters.flatMap fun l => vowels.flatMap fun v => trailingLetters.map fun t => l ++ v ++ t

/-- The code point of a Hangul syllable by the letters in its name. -/
def syllable? (name : List Char) : Option Nat :=
  let start := "HANGULSYLLABLE".toList
  if start.isPrefixOf name then
    (syllables.idxOf? (String.ofList (name.drop start.length))).map (0xac00 + ·)
  else none

end CharacterName

def characterNamed? (name : List Char) : Option Char :=
  let loose := CharacterName.looseName name
  let code := (CharacterName.syllable? loose).or <| (CharacterName.numbered? loose).or <|
    CharacterName.tables.findSome? (CharacterName.inTable? · loose)
  code.map Char.ofNat

end ScriptBundle.Text
