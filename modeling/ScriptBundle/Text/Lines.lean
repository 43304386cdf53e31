namespace ScriptBundle.Text

/-- The characters of the property White_Space. -/
def isBlank (c : Char) : Bool :=
  let n := c.toNat
  (9 ≤ n && n ≤ 13) || n = 0x20 || n = 0x85 || n = 0xA0 || n = 0x1680
    || (0x2000 ≤ n && n ≤ 0x200A) || n = 0x2028 || n = 0x2029 || n = 0x202F || n = 0x205F
    || n = 0x3000

/-- The control characters: the category Cc. -/
def isControl (c : Char) : Bool :=
  let n := c.toNat
  n < 0x20 || (0x7F ≤ n && n < 0xA0)

def trim (text : List Char) : List Char :=
  ((text.dropWhile isBlank).reverse.dropWhile isBlank).reverse

def dropReturn (text : List Char) : List Char :=
  if text.getLast? = some '\r' then text.dropLast else text

/-- Pieces of a text, each with the line feed that ends it. `line` holds the current piece,
backwards. -/
def piecesFrom (line : List Char) : List Char → List (List Char)
  | [] => if line.isEmpty then [] else [line.reverse]
  | c :: rest =>
    if c = '\n' then (c :: line).reverse :: piecesFrom [] rest else piecesFrom (c :: line) rest

/-- A text cut behind each line feed. -/
def lineFeedPieces (text : List Char) : List (List Char) := piecesFrom [] text

/-- The lines of a text without their ends. A text that ends in a line feed has no empty line
behind it. -/
def lines (text : List Char) : List (List Char) :=
  (lineFeedPieces text).map fun piece =>
    if piece.getLast? = some '\n' then dropReturn piece.dropLast else piece

end ScriptBundle.Text
