import Tablekeep.Number.Double
import Tablekeep.Number.Decimal

/-!
# Reading decimal numbers

One grammar serves doubles and decimals: a sign, digits with a point somewhere among them, and an
exponent; or a name for what is no number.
-/

namespace Tablekeep.Number

/-- The digits in front and the rest. -/
def spanDigits (cs : List Char) : List Char × List Char :=
  (cs.takeWhile Text.isDigit, cs.dropWhile Text.isDigit)

/-- A sign in front, if there is one. -/
def takeSign : List Char → Bool × List Char
  | '-' :: cs => (true, cs)
  | '+' :: cs => (false, cs)
  | cs => (false, cs)

/-- The exponent after the digits; none counts as zero. -/
def exponent? : List Char → Option Int
  | [] => some 0
  | c :: cs =>
    if c = 'e' ∨ c = 'E' then
      let (negative, cs) := takeSign cs
      (Text.decimal? cs).map fun n => if negative then -(n : Int) else n
    else none

/-- The coefficient and the exponent of an unsigned number. -/
def magnitude? (cs : List Char) : Option (Nat × Int) :=
  let (whole, rest) := spanDigits cs
  let (fraction, rest) := match rest with
    | '.' :: rest => spanDigits rest
    | rest => ([], rest)
  if whole.isEmpty && fraction.isEmpty then none
  else
    (exponent? rest).map fun e => (Text.ofDigits (whole ++ fraction), e - fraction.length)

/-- The text without regard to the case of its letters. -/
def folded (cs : List Char) : String :=
  String.ofList (cs.map Char.toLower)

/-- The double that a text denotes. -/
def double? (s : String) : Option Double :=
  let (negative, cs) := takeSign s.toList
  match folded cs with
  | "nan" => some .nan
  | "inf" | "infinity" => some (.infinite negative)
  | _ => (magnitude? cs).map fun (digits, power) => .ofDecimal negative digits power

/-- The decimal that a text denotes. -/
def decimal? (s : String) : Option Decimal :=
  let (negative, cs) := takeSign s.toList
  match folded cs with
  | "inf" | "infinity" => some (.infinite negative)
  | name =>
    match name.toList with
    | 'n' :: 'a' :: 'n' :: ds =>
      if ds.all Text.isDigit then some (.undefined negative false (Text.ofDigits ds)) else none
    | 's' :: 'n' :: 'a' :: 'n' :: ds =>
      if ds.all Text.isDigit then some (.undefined negative true (Text.ofDigits ds)) else none
    | _ => (magnitude? cs).map fun (digits, power) => .finite negative digits power

end Tablekeep.Number
