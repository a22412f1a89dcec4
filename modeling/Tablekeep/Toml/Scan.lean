import Tablekeep.Number.Reading
import Tablekeep.Text.Utf8
import Tablekeep.Toml.Value

/-!
# The smallest parts of a configuration

Keys, texts, numbers, dates and times. Each reader takes the characters still to come and gives what
it read and the rest, or nothing where the characters are no such thing.
-/

namespace Tablekeep.Toml

/-! ## Blanks and comments -/

/-- A blank inside a line. -/
def isBlank (c : Char) : Bool :=
  c == ' ' || c == '\t'

/-- A control character that may stand nowhere. -/
def isControl (c : Char) : Bool :=
  (c.toNat < 0x20 && c != '\t') || c.toNat == 0x7F

/-- The characters without the blanks at the front. -/
def skipBlanks (cs : List Char) : List Char :=
  cs.dropWhile isBlank

/-- The rest of the line after a comment, if there is one; nothing where the comment holds a control
character. -/
def skipComment? (cs : List Char) : Option (List Char) :=
  match cs with
  | '#' :: rest =>
    if (rest.takeWhile (· ≠ '\n')).any isControl then none else some (rest.dropWhile (· ≠ '\n'))
  | cs => some cs

/-- The rest after blanks, line ends and comments, of which there are at most `fuel`. -/
def skipLines? : Nat → List Char → Option (List Char)
  | 0, cs => some cs
  | fuel + 1, cs =>
    match cs.dropWhile fun c => isBlank c || c == '\n' with
    | '#' :: rest => do skipLines? fuel (← skipComment? ('#' :: rest))
    | rest => some rest

/-! ## Texts -/

/-- The character with a code point in hexadecimal digits, and the rest. -/
def codePoint? (length : Nat) (cs : List Char) : Option (Char × List Char) := do
  let digits := cs.take length
  if digits.length < length then none
  let c ← Text.Utf8.scalar? 0 (← Text.hex? digits)
  return (c, cs.drop length)

/-- The character that is written as a backslash and a letter. -/
def escaped? (c : Char) : Option Char :=
  match c with
  | 'b' => some '\x08'
  | 't' => some '\t'
  | 'n' => some '\n'
  | 'f' => some '\x0c'
  | 'r' => some '\r'
  | '"' => some '"'
  | '\\' => some '\\'
  | _ => none

/-- The rest after a backslash that continues a text on the next line that is not empty; nothing
where the backslash does something else. -/
def continuation? (cs : List Char) : Option (List Char) :=
  let blank : Char → Bool := fun c => isBlank c || c == '\n'
  match cs with
  | '\n' :: rest => some (rest.dropWhile blank)
  | c :: rest =>
    if isBlank c then
      match skipBlanks rest with
      | [] => some []
      | '\n' :: rest => some (rest.dropWhile blank)
      | _ => none
    else none
  | [] => none

/-- What a backslash stands for, and the rest; a line that is continued stands for nothing. -/
def escape? (multiline : Bool) (cs : List Char) : Option (List Char × List Char) :=
  match cs with
  | 'u' :: rest => (codePoint? 4 rest).map fun (c, rest) => ([c], rest)
  | 'U' :: rest => (codePoint? 8 rest).map fun (c, rest) => ([c], rest)
  | c :: rest =>
    match escaped? c with
    | some c => some ([c], rest)
    | none => if multiline then (continuation? (c :: rest)).map ([], ·) else none
  | [] => none

/-- The rest after the quotes that end a text, if they come here. -/
def closed? (multiline : Bool) (cs : List Char) : Option (List Char) :=
  match multiline, cs with
  | false, '"' :: rest => some rest
  | true, '"' :: '"' :: '"' :: rest => some rest
  | _, _ => none

/-- The text up to its closing quotes, and the rest. Every step takes a character, of which there
are at most `fuel`. -/
def quotedFrom (multiline : Bool) : Nat → List Char → List Char → Option (List Char × List Char)
  | 0, _, _ => none
  | fuel + 1, done, cs =>
    match closed? multiline cs with
    | some rest => some (done.reverse, rest)
    | none =>
      match cs with
      | [] => none
      | '\\' :: rest => do
        let (image, rest) ← escape? multiline rest
        quotedFrom multiline fuel (image.reverse ++ done) rest
      | c :: rest =>
        if isControl c && !(multiline && c == '\n') then none
        else quotedFrom multiline fuel (c :: done) rest

/-- The text up to closing quotes, and the rest. -/
def quotedText? (multiline : Bool) (cs : List Char) : Option (List Char × List Char) :=
  quotedFrom multiline (cs.length + 1) [] cs

/-- The text up to closing apostrophes, in which a backslash is a backslash, and the rest. -/
def literalFrom (multiline : Bool) (done : List Char) : List Char → Option (List Char × List Char)
  | [] => none
  | '\'' :: rest =>
    if multiline then
      match rest with
      | '\'' :: '\'' :: rest => some (done.reverse, rest)
      | _ => literalFrom multiline ('\'' :: done) rest
    else some (done.reverse, rest)
  | c :: rest =>
    if isControl c && !(multiline && c == '\n') then none
    else literalFrom multiline (c :: done) rest

/-- A text over several lines with one or two of its quotes at its end. -/
def withFinalQuotes (quote : Char) (text : List Char) (cs : List Char) : List Char × List Char :=
  match cs with
  | a :: b :: rest =>
    if a = quote ∧ b = quote then (text ++ [quote, quote], rest)
    else if a = quote then (text ++ [quote], b :: rest)
    else (text, a :: b :: rest)
  | [a] => if a = quote then (text ++ [quote], []) else (text, [a])
  | [] => (text, [])

/-- The characters without a line end at the front. -/
def skipLineEnd : List Char → List Char
  | '\n' :: rest => rest
  | cs => cs

/-- A text in one of the four kinds of quotes, and the rest. -/
def text? (cs : List Char) : Option (List Char × List Char) :=
  match cs with
  | '"' :: '"' :: '"' :: rest =>
    (quotedText? true (skipLineEnd rest)).map fun (s, rest) => withFinalQuotes '"' s rest
  | '"' :: rest => quotedText? false rest
  | '\'' :: '\'' :: '\'' :: rest =>
    (literalFrom true [] (skipLineEnd rest)).map fun (s, rest) => withFinalQuotes '\'' s rest
  | '\'' :: rest => literalFrom false [] rest
  | _ => none

/-! ## Keys -/

/-- A character of a key without quotes. -/
def isKeyChar (c : Char) : Bool :=
  c.isAlphanum || c == '-' || c == '_'

/-- A part of a key, and the rest. -/
def keyPart? (cs : List Char) : Option (String × List Char) :=
  match cs with
  | '"' :: rest => (quotedText? false rest).map fun (s, rest) => (String.ofList s, rest)
  | '\'' :: rest => (literalFrom false [] rest).map fun (s, rest) => (String.ofList s, rest)
  | cs =>
    match cs.takeWhile isKeyChar with
    | [] => none
    | key => some (String.ofList key, cs.dropWhile isKeyChar)

/-- The parts of a key between dots, at most `fuel` of them, and the rest after blanks. -/
def keyFrom : Nat → List Char → Option (List String × List Char)
  | 0, _ => none
  | fuel + 1, cs => do
    let (part, cs) ← keyPart? cs
    match skipBlanks cs with
    | '.' :: rest =>
      let (parts, rest) ← keyFrom fuel (skipBlanks rest)
      return (part :: parts, rest)
    | rest => return ([part], rest)

/-- The parts of a key, and the rest after blanks. -/
def key? (cs : List Char) : Option (List String × List Char) :=
  keyFrom (cs.length + 1) cs

/-! ## Numbers -/

/-- Digits, among which single underscores may stand: the digits, and the rest. -/
def digitRun (isDigit : Char → Bool) : List Char → List Char × List Char
  | '_' :: c :: rest =>
    if isDigit c then
      let (ds, rest) := digitRun isDigit rest
      (c :: ds, rest)
    else ([], '_' :: c :: rest)
  | c :: rest =>
    if isDigit c then
      let (ds, rest) := digitRun isDigit rest
      (c :: ds, rest)
    else ([], c :: rest)
  | [] => ([], [])

/-- One digit or more, of which the first comes without an underscore. -/
def digits? (isDigit : Char → Bool) (cs : List Char) : Option (List Char × List Char) :=
  match cs with
  | c :: _ => if isDigit c then some (digitRun isDigit cs) else none
  | [] => none

/-- The number that digits denote in a base. -/
def ofBase (base : Nat) (ds : List Char) : Nat :=
  ds.foldl (fun n d => base * n + (Text.hexDigitValue? d).getD 0) 0

/-- A digit of a base. -/
def isDigitOf (base : Nat) (c : Char) : Bool :=
  match Text.hexDigitValue? c with
  | some n => n < base
  | none => false

/-- A number in base sixteen, eight or two, and the rest. -/
def based? (cs : List Char) : Option (Value × List Char) := do
  let (base, cs) ←
    match cs with
    | '0' :: 'x' :: rest => some (16, rest)
    | '0' :: 'o' :: rest => some (8, rest)
    | '0' :: 'b' :: rest => some (2, rest)
    | _ => none
  let (ds, rest) ← digits? (isDigitOf base) cs
  return (.int (ofBase base ds), rest)

/-- The sign of a number, and the rest. -/
def takeSign (cs : List Char) : Bool × List Char :=
  match cs with
  | '-' :: rest => (true, rest)
  | '+' :: rest => (false, rest)
  | cs => (false, cs)

/-- The digits before the point; a zero stands alone. -/
def whole? (cs : List Char) : Option (List Char × List Char) :=
  match cs with
  | '0' :: rest => some (['0'], rest)
  | cs => digits? Text.isDigit cs

/-- The digits after the point, if there is one with digits. -/
def takeFraction (cs : List Char) : Option (List Char) × List Char :=
  match cs with
  | '.' :: rest =>
    match digits? Text.isDigit rest with
    | some (ds, rest) => (some ds, rest)
    | none => (none, cs)
  | cs => (none, cs)

/-- The exponent, if there is one with digits. -/
def takeExponent (cs : List Char) : Option Int × List Char :=
  match cs with
  | e :: rest =>
    let (negative, signless) := takeSign rest
    match e == 'e' || e == 'E', digits? Text.isDigit signless with
    | true, some (ds, rest) =>
      (some (if negative then -(Text.ofDigits ds : Int) else Text.ofDigits ds), rest)
    | _, _ => (none, cs)
  | [] => (none, [])

/-- A decimal number, and the rest: a whole number unless it has a fraction or an exponent. -/
def decimal? (cs : List Char) : Option (Value × List Char) := do
  let (negative, cs) := takeSign cs
  let (whole, cs) ← whole? cs
  let (fraction, cs) := takeFraction cs
  let (exponent, cs) := takeExponent cs
  match fraction, exponent with
  | none, none =>
    let n := Text.ofDigits whole
    return (.int (if negative then -(n : Int) else n), cs)
  | _, _ =>
    let ds := fraction.getD []
    let x := Double.ofDecimal negative (Text.ofDigits (whole ++ ds))
      (exponent.getD 0 - (ds.length : Int))
    return (.float x, cs)

/-- One of the numbers that are written as words, and the rest. -/
def namedNumber? (cs : List Char) : Option (Value × List Char) :=
  let (negative, rest) := takeSign cs
  match rest with
  | 'i' :: 'n' :: 'f' :: rest => some (.float (.infinite negative), rest)
  | 'n' :: 'a' :: 'n' :: rest => some (.float .nan, rest)
  | _ => none

/-! ## Dates and times -/

/-- Two digits that denote at most `most`, and the rest. -/
def twoDigits? (most : Nat) (cs : List Char) : Option (Nat × List Char) :=
  match cs with
  | a :: b :: rest =>
    match Text.decimal? [a, b] with
    | some n => if n ≤ most then some (n, rest) else none
    | none => none
  | _ => none

/-- The rest after a character. -/
def after? (c : Char) (cs : List Char) : Option (List Char) :=
  match cs with
  | d :: rest => if c = d then some rest else none
  | [] => none

/-- The microseconds after the point, of which digits beyond the sixth are dropped. -/
def takeMicros (cs : List Char) : Nat × List Char :=
  match cs with
  | '.' :: rest =>
    match rest.takeWhile Text.isDigit with
    | [] => (0, cs)
    | ds => (Text.ofDigits ((ds ++ List.replicate 6 '0').take 6), rest.dropWhile Text.isDigit)
  | cs => (0, cs)

/-- A time, and the rest. -/
def time? (cs : List Char) : Option (Calendar.TimeOfDay × List Char) := do
  let (hour, cs) ← twoDigits? 23 cs
  let (minute, cs) ← twoDigits? 59 (← after? ':' cs)
  let (second, cs) ← twoDigits? 59 (← after? ':' cs)
  let (micro, cs) := takeMicros cs
  return (⟨hour, minute, second, micro⟩, cs)

/-- A day, and the rest. -/
def day? (cs : List Char) : Option (Calendar.Date × List Char) := do
  let (century, cs) ← twoDigits? 99 cs
  let (year, cs) ← twoDigits? 99 cs
  let (month, cs) ← twoDigits? 12 (← after? '-' cs)
  let (day, cs) ← twoDigits? 31 (← after? '-' cs)
  if month = 0 ∨ day = 0 then none
  return (⟨100 * century + year, month, day⟩, cs)

/-- The microseconds of an offset, if there is one, and the rest. -/
def takeOffset (cs : List Char) : Option Int × List Char :=
  let read (sign : Int) (rest : List Char) : Option Int × List Char :=
    let parts := do
      let (hour, rest) ← twoDigits? 23 rest
      let (minute, rest) ← twoDigits? 59 (← after? ':' rest)
      return (sign * ((60 * hour + minute) * 60 * 1000000 : Nat), rest)
    match parts with
    | some (offset, rest) => (some offset, rest)
    | none => (none, cs)
  match cs with
  | 'Z' :: rest => (some 0, rest)
  | 'z' :: rest => (some 0, rest)
  | '+' :: rest => read 1 rest
  | '-' :: rest => read (-1) rest
  | cs => (none, cs)

/-- A day with or without a time, and the rest. The outer option says whether there is one, the
inner one whether it is in the calendar. -/
def dated? (cs : List Char) : Option (Option Value × List Char) :=
  match day? cs with
  | none => none
  | some (day, rest) =>
    let clock :=
      match rest with
      | c :: rest => if c = 'T' ∨ c = 't' ∨ c = ' ' then time? rest else none
      | [] => none
    let (value, rest) :=
      match clock with
      | none => (Value.date day, rest)
      | some (time, rest) =>
        let (offset, rest) := takeOffset rest
        (Value.moment ⟨day, time, offset⟩, rest)
    some (if day.isValid then some value else none, rest)

/-! ## Values without parts -/

/-- A value that is no array and no table, and the rest. -/
def scalar? (cs : List Char) : Option (Value × List Char) :=
  match cs with
  | '"' :: _ => (text? cs).map fun (s, rest) => (.text (String.ofList s), rest)
  | '\'' :: _ => (text? cs).map fun (s, rest) => (.text (String.ofList s), rest)
  | 't' :: 'r' :: 'u' :: 'e' :: rest => some (.bool true, rest)
  | 'f' :: 'a' :: 'l' :: 's' :: 'e' :: rest => some (.bool false, rest)
  | cs =>
    match dated? cs, time? cs, based? cs, decimal? cs with
    | some (value, rest), _, _, _ => value.map (·, rest)
    | none, some (time, rest), _, _ => some (.time time, rest)
    | none, none, some number, _ => some number
    | none, none, none, some number => some number
    | none, none, none, none => namedNumber? cs

end Tablekeep.Toml
