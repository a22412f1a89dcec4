/-!
# Blanks, words and lines

What counts as a blank is decided once, for the whole library: a definition is split into words at
blanks, a backup may hold blanks between its elements, and a cell loses the blanks at its end. The
class is the Unicode white space together with the four ASCII separators `1C` to `1F`.

Lines end at more characters than the line feed; `lines` knows all of them and never gives a last
empty line.
-/

namespace Tablekeep.Text

/-! ## Blanks -/

/-- A blank: a character that separates words and is trimmed. -/
def isBlank (c : Char) : Bool :=
  let n := c.toNat
  (0x09 ≤ n && n ≤ 0x0D) || (0x1C ≤ n && n ≤ 0x20) || n == 0x85 || n == 0xA0 || n == 0x1680
    || (0x2000 ≤ n && n ≤ 0x200A) || n == 0x2028 || n == 0x2029 || n == 0x202F || n == 0x205F
    || n == 0x3000

/-- The characters without the blanks at the front. -/
def dropBlanks (cs : List Char) : List Char :=
  cs.dropWhile isBlank

/-- The characters without the blanks at the end. -/
def dropBlanksEnd (cs : List Char) : List Char :=
  (cs.reverse.dropWhile isBlank).reverse

/-- The text without the blanks at its end. -/
def trimEnd (s : String) : String :=
  String.ofList (dropBlanksEnd s.toList)

/-- The text without the blanks at both ends. -/
def trim (s : String) : String :=
  String.ofList (dropBlanksEnd (dropBlanks s.toList))

/-! ## Words -/

/-- The words of the characters still to come, where `word` holds what the current word has so far,
last character first. -/
def wordsFrom (word : List Char) : List Char → List (List Char)
  | [] => if word.isEmpty then [] else [word.reverse]
  | c :: cs =>
    if isBlank c then
      if word.isEmpty then wordsFrom [] cs else word.reverse :: wordsFrom [] cs
    else wordsFrom (c :: word) cs

/-- The maximal runs of characters that are not blank, in order. -/
def words (s : String) : List String :=
  (wordsFrom [] s.toList).map String.ofList

/-! ## Lines -/

/-- A character that ends a line on its own. -/
def isLineEnd (c : Char) : Bool :=
  let n := c.toNat
  (0x0A ≤ n && n ≤ 0x0D) || (0x1C ≤ n && n ≤ 0x1E) || n == 0x85 || n == 0x2028 || n == 0x2029

/-- The lines of the characters still to come, where `line` holds what the current line has so far,
last character first. A carriage return and the line feed after it end one line together. -/
def linesFrom (line : List Char) : List Char → List (List Char)
  | [] => if line.isEmpty then [] else [line.reverse]
  | '\r' :: '\n' :: cs => line.reverse :: linesFrom [] cs
  | c :: cs => if isLineEnd c then line.reverse :: linesFrom [] cs else linesFrom (c :: line) cs

/-- The lines of a text without their ends; what follows the last end counts only if it is not
empty. -/
def lines (s : String) : List String :=
  (linesFrom [] s.toList).map String.ofList

/-! ## Searching and joining -/

/-- The first list begins the second. -/
def isStart (start whole : List Char) : Bool :=
  start.isPrefixOf whole

/-- The first list stands somewhere in the second. -/
def occursIn (part : List Char) : List Char → Bool
  | [] => part.isEmpty
  | c :: cs => isStart part (c :: cs) || occursIn part cs

/-- The text `part` stands somewhere in `whole`. -/
def contains (whole part : String) : Bool :=
  occursIn part.toList whole.toList

/-- The text begins with `start`. -/
def beginsWith (whole start : String) : Bool :=
  isStart start.toList whole.toList

/-- The text ends with `ending`. -/
def endsWith (whole ending : String) : Bool :=
  isStart ending.toList.reverse whole.toList.reverse

/-- The texts one after another with `gap` between neighbours. -/
def join (gap : String) : List String → String
  | [] => ""
  | [s] => s
  | s :: t :: rest => s ++ gap ++ join gap (t :: rest)

/-- The pieces between the characters `mark`; there is one more piece than there are marks. -/
def piecesFrom (mark : Char) (piece : List Char) : List Char → List (List Char)
  | [] => [piece.reverse]
  | c :: cs =>
    if c = mark then piece.reverse :: piecesFrom mark [] cs else piecesFrom mark (c :: piece) cs

/-- The pieces of a text between the characters `mark`. -/
def pieces (mark : Char) (s : String) : List String :=
  (piecesFrom mark [] s.toList).map String.ofList

end Tablekeep.Text
