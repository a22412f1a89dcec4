import Tablekeep.Markup.NameTable
import Tablekeep.Text.Case
import Tablekeep.Text.Digits

/-!
# The small parts of a document

Scanners for blanks, names, quoted strings, references, comments and instructions. Each takes the
characters still to come and gives what it read and the rest, or nothing where the document is
malformed.
-/

namespace Tablekeep.Markup

/-! ## Characters -/

/-- A character that a document may hold. -/
def isCharacter (c : Char) : Bool :=
  let n := c.toNat
  n == 0x09 || n == 0x0A || n == 0x0D || (0x20 ≤ n && n ≠ 0xFFFE && n ≠ 0xFFFF)

/-- Blanks between the parts of markup. -/
def isSpace (c : Char) : Bool :=
  c == ' ' || c == '\t' || c == '\n' || c == '\r'

/-- A character that may begin a name. -/
def isNameStart (c : Char) : Bool :=
  let n := c.toNat
  if n < 0x80 then ('a' ≤ c && c ≤ 'z') || ('A' ≤ c && c ≤ 'Z') || c == '_'
  else Text.inRuns nameStartRuns n

/-- A character that may stand inside a name. -/
def isNameChar (c : Char) : Bool :=
  isNameStart c || Text.isDigit c || c == '-' || c == '.' || Text.inRuns nameExtraRuns c.toNat

/-- Every end of a line as a single line feed. -/
def normalizeLines : List Char → List Char
  | [] => []
  | '\r' :: '\n' :: cs => '\n' :: normalizeLines cs
  | c :: cs => (if c = '\r' then '\n' else c) :: normalizeLines cs

/-! ## Words and blanks -/

/-- The characters after the blanks. -/
def skipSpace (cs : List Char) : List Char :=
  cs.dropWhile isSpace

/-- The characters after one blank or more. -/
def space? : List Char → Option (List Char)
  | [] => none
  | c :: cs => if isSpace c then some (skipSpace cs) else none

/-- The characters after those that have to come next. -/
def expect? : List Char → List Char → Option (List Char)
  | [], cs => some cs
  | _ :: _, [] => none
  | w :: ws, c :: cs => if w = c then expect? ws cs else none

/-- The characters after a word that has to come next. -/
def word? (word : String) (cs : List Char) : Option (List Char) :=
  expect? word.toList cs

/-- A name and the rest. -/
def name? : List Char → Option (List Char × List Char)
  | [] => none
  | c :: cs =>
    if isNameStart c then some (c :: cs.takeWhile isNameChar, cs.dropWhile isNameChar) else none

/-- A name that may have a qualifier before a colon. -/
structure QName where
  qualifier : Option (List Char)
  base : List Char
  deriving DecidableEq, Repr

/-- A name with or without a qualifier, and the rest. -/
def qname? (cs : List Char) : Option (QName × List Char) := do
  let (first, rest) ← name? cs
  match rest with
  | ':' :: rest =>
    let (second, rest) ← name? rest
    return (⟨some first, second⟩, rest)
  | rest => return (⟨none, first⟩, rest)

/-- A run of name characters, of any length but zero. -/
def nameToken? (cs : List Char) : Option (List Char × List Char) :=
  let isTokenChar := fun c => isNameChar c || c == ':'
  let token := cs.takeWhile isTokenChar
  if token.isEmpty then none else some (token, cs.dropWhile isTokenChar)

/-- The characters between two quotes of the same sort, and the rest. -/
def quoted? : List Char → Option (List Char × List Char)
  | [] => none
  | q :: cs =>
    if q = '"' ∨ q = '\'' then
      match cs.dropWhile (· ≠ q) with
      | [] => none
      | _ :: rest => some (cs.takeWhile (· ≠ q), rest)
    else none

/-- The characters before the next occurrence of a mark, and the rest after it. -/
def until? (mark : List Char) : List Char → Option (List Char × List Char)
  | [] => none
  | c :: cs =>
    match expect? mark (c :: cs) with
    | some rest => some ([], rest)
    | none => (until? mark cs).map fun (before, rest) => (c :: before, rest)

/-! ## References -/

/-- The character with a number, if a document may refer to it. -/
def character? (n : Nat) : Option Char :=
  if h : n.isValidChar then
    let c := Char.ofNatAux n h
    if isCharacter c then some c else none
  else none

/-- What a reference stands for. -/
inductive Reference where
  | character (c : Char)
  | entity (name : List Char)
  deriving DecidableEq, Repr

/-- The number before the semicolon, read by `value?`, and the rest. -/
def characterReference? (value? : List Char → Option Nat) (cs : List Char) :
    Option (Reference × List Char) := do
  match cs.dropWhile (· ≠ ';') with
  | [] => none
  | _ :: rest =>
    let n ← value? (cs.takeWhile (· ≠ ';'))
    let c ← character? n
    return (.character c, rest)

/-- The reference after an ampersand, and the rest. -/
def reference? (cs : List Char) : Option (Reference × List Char) :=
  match cs with
  | '#' :: 'x' :: cs => characterReference? Text.hex? cs
  | '#' :: cs => characterReference? Text.decimal? cs
  | cs => do
    let (name, rest) ← name? cs
    match rest with
    | ';' :: rest => return (.entity name, rest)
    | _ => none

/-- The five names that always stand for a character. -/
def predefined? (name : List Char) : Option Char :=
  if name = ['l', 't'] then some '<'
  else if name = ['g', 't'] then some '>'
  else if name = ['a', 'm', 'p'] then some '&'
  else if name = ['a', 'p', 'o', 's'] then some '\''
  else if name = ['q', 'u', 'o', 't'] then some '"'
  else none

/-! ## Comments and instructions -/

/-- The rest after a comment, whose opening has been read. Two hyphens may stand only at its end. -/
def comment? (cs : List Char) : Option (List Char) := do
  let (_, rest) ← until? ['-', '-'] cs
  word? ">" rest

/-- The rest after an instruction, whose opening has been read. The name of the declaration is
reserved. -/
def instruction? (cs : List Char) : Option (List Char) := do
  let (target, rest) ← name? cs
  if target.map Char.toLower = ['x', 'm', 'l'] then none
  match rest with
  | c :: rest =>
    if isSpace c then (until? ['?', '>'] rest).map (·.2) else word? "?>" (c :: rest)
  | [] => none

end Tablekeep.Markup
