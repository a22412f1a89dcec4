import Tablekeep.Text.Blank
import Tablekeep.Text.Digits
import Tablekeep.Text.Case
import Tablekeep.Text.PrintableTable

/-!
# Quoted texts

A message that shows a piece of a document quotes it, so that blanks and characters without a shape
can be seen. An apostrophe is the quote unless the text holds one and no quotation mark.
-/

namespace Tablekeep.Text

/-- The character has a shape of its own. -/
def isPrintable (c : Char) : Bool :=
  let n := c.toNat
  if n < 0x7F then 0x20 ≤ n else inRuns printableRuns n

/-- The quote that a text is put in. -/
def quoteFor (cs : List Char) : Char :=
  if cs.contains '\'' && !cs.contains '"' then '"' else '\''

/-- One character inside quotes: the quote and the backslash are escaped, and a character without a
shape is given by its number in two, four or eight hexadecimal digits. -/
def quotedChar (quote c : Char) : String :=
  if c = quote || c = '\\' then String.ofList ['\\', c]
  else if c = '\t' then "\\t"
  else if c = '\n' then "\\n"
  else if c = '\r' then "\\r"
  else if isPrintable c then String.ofList [c]
  else
    let n := c.toNat
    if n < 0x100 then "\\x" ++ hexLowerWide 2 n
    else if n < 0x10000 then "\\u" ++ hexLowerWide 4 n
    else "\\U" ++ hexLowerWide 8 n

/-- The text in quotes. -/
def quoted (s : String) : String :=
  let quote := quoteFor s.toList
  let mark := String.ofList [quote]
  mark ++ join "" (s.toList.map (quotedChar quote)) ++ mark

end Tablekeep.Text
