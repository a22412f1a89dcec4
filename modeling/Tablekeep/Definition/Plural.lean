import Tablekeep.Text.Blank
import Tablekeep.Text.Case

/-!
# Plurals of table names

A backup puts the rows of a table into an element that bears the plural of the table's name, and the
reader finds the table again by forming the same plural. The rules are those of English nouns: a
few words have plurals of their own or none, the others take an ending.

Only the first letter of a word with a plural of its own keeps its case; endings are in lower case.
-/

namespace Tablekeep.Plural

/-- Nouns with a plural of their own. -/
def irregular : List (String × String) :=
  [("child", "children"), ("foot", "feet"), ("goose", "geese"), ("man", "men"), ("mouse", "mice"),
    ("ox", "oxen"), ("person", "people"), ("tooth", "teeth"), ("woman", "women")]

/-- Nouns whose plural is the word itself. -/
def invariant : List String :=
  ["data", "deer", "equipment", "fish", "information", "news", "series", "sheep", "species"]

/-- Endings after which the plural is formed with `es`. -/
def sibilants : List String :=
  ["s", "x", "z", "ch", "sh"]

/-- One of the five vowels, in lower case. -/
def isVowel (c : Char) : Bool :=
  ['a', 'e', 'i', 'o', 'u'].contains c

/-- The text with a capital in front, if `model` begins with one. -/
def withCaseOf (model text : String) : String :=
  match model.toList, text.toList with
  | m :: _, c :: cs => if m.isUpper then String.ofList (c.toUpper :: cs) else text
  | _, _ => text

/-- The text without its last character. -/
def dropLast (s : String) : String :=
  String.ofList s.toList.dropLast

/-- The word ends in a `y` with another letter than a vowel before it. -/
def endsInConsonantY (lowered : String) : Bool :=
  match lowered.toList.reverse with
  | 'y' :: c :: _ => !isVowel c
  | _ => false

/-- The plural of a table's name. -/
def ofName (name : String) : String :=
  let lowered := Text.lower name
  if name.isEmpty then name
  else if invariant.contains lowered then name
  else
    match irregular.lookup lowered with
    | some plural => withCaseOf name plural
    | none =>
      if sibilants.any (Text.endsWith lowered) then name ++ "es"
      else if endsInConsonantY lowered then dropLast name ++ "ies"
      else name ++ "s"

end Tablekeep.Plural
