import Tablekeep.Text.Digits

/-!
# Escaping

The text of a cell is written with a short list of characters as they are, five markup characters
and the backslash by name or number, and everything else as a character reference. Nine code points
are left out altogether. The result is ASCII and holds no markup but references.
-/

namespace Tablekeep.Backup

/-- Punctuation that is written as it is. -/
def plainPunctuation : List Char :=
  " !#$%()*+,-./:;=?[]^_\x7b\x7d|~".toList

/-- The character is written as it is. -/
def isPlain (c : Char) : Bool :=
  ('a' ≤ c && c ≤ 'z') || ('A' ≤ c && c ≤ 'Z') || Text.isDigit c || plainPunctuation.contains c

/-- References that do not follow from the number of the character. -/
def namedReference? (c : Char) : Option String :=
  if c = '<' then some "&lt;"
  else if c = '>' then some "&gt;"
  else if c = '&' then some "&amp;"
  else if c = '\'' then some "&apos;"
  else if c = '"' then some "&quot;"
  else none

/-- Code points that are left out. The list is fixed; it is no rule about what a document may
hold. -/
def droppedCodePoints : List Nat :=
  [0x01, 0x02, 0x0A, 0x0B, 0x0C, 0x1F, 0xDBC0, 0xDC79, 0xF0079]

/-- The character is left out. -/
def isDropped (c : Char) : Bool :=
  droppedCodePoints.contains c.toNat

/-- The reference to a character by its number. -/
def numberReference (c : Char) : List Char :=
  '&' :: '#' :: 'x' :: (Text.hexUpper c.toNat ++ [';'])

/-- What is written for a character. -/
def escapeChar (c : Char) : List Char :=
  if isPlain c then [c]
  else
    match namedReference? c with
    | some r => r.toList
    | none => if isDropped c then [] else numberReference c

/-- What is written for a text. -/
def escape (s : String) : String :=
  String.ofList (s.toList.flatMap escapeChar)

end Tablekeep.Backup
