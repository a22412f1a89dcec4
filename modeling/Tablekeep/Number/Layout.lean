import Tablekeep.Text.Digits

/-!
# How a decimal number is laid out

A decimal number is a run of digits and the power of ten that its first digit counts. Where that
power is moderate the number is written with a point among its digits, and otherwise with one digit
before the point and an explicit power. What moderate means, and how the power is written, differs
between the kinds of numbers, so it is a value: a `Layout`.
-/

namespace Tablekeep.Number

/-- A way to write decimal numbers. -/
structure Layout where
  /-- The least power of the first digit that is written without an exponent. -/
  least : Int
  /-- The least power above it that is written with an exponent. -/
  limit : Int
  /-- What announces the exponent. -/
  mark : Char
  /-- How many digits the exponent has at least. -/
  exponentWidth : Nat
  /-- A whole number without an exponent ends in a point and a zero. -/
  marksWhole : Bool

namespace Layout

/-- The exponent with its sign. -/
def exponentText (l : Layout) (power : Int) : List Char :=
  l.mark :: (if power < 0 then '-' else '+')
    :: Text.zeroFill l.exponentWidth (Nat.toDigits 10 power.natAbs)

/-- The digits with a point where the power of the first digit puts it. -/
def positional (l : Layout) (digits : List Char) (power : Int) : List Char :=
  if power < 0 then
    '0' :: '.' :: List.replicate (power.natAbs - 1) '0' ++ digits
  else
    let whole := power.natAbs + 1
    if digits.length ≤ whole then
      digits ++ List.replicate (whole - digits.length) '0'
        ++ (if l.marksWhole then ['.', '0'] else [])
    else digits.take whole ++ '.' :: digits.drop whole

/-- The first digit, a point and the others, and the exponent. -/
def scientific (l : Layout) (digits : List Char) (power : Int) : List Char :=
  match digits with
  | [] => l.exponentText power
  | [d] => d :: l.exponentText power
  | d :: ds => d :: '.' :: ds ++ l.exponentText power

/-- The number whose digits are given and whose first digit counts the given power of ten. -/
def write (l : Layout) (digits : List Char) (power : Int) : List Char :=
  if l.least ≤ power ∧ power < l.limit then l.positional digits power
  else l.scientific digits power

end Layout

/-- The digits without zeros at the end; a lone zero stays. -/
def dropEndZeros (digits : List Char) : List Char :=
  match digits.reverse.dropWhile (· == '0') with
  | [] => ['0']
  | ds => ds.reverse

/-- The quotient of two numbers, rounded to the nearest whole number, halves to the even one. -/
def roundQuotient (num den : Nat) : Nat :=
  let q := num / den
  let twice := 2 * (num % den)
  if twice < den then q else if den < twice then q + 1 else if q % 2 = 0 then q else q + 1

/-- The power of ten that the first digit of a positive quotient counts. -/
def leadingPower (num den : Nat) : Int :=
  if den ≤ num then ((Nat.toDigits 10 (num / den)).length : Int) - 1
  else -((Nat.toDigits 10 ((den + num - 1) / num - 1)).length : Int)

/-- A quotient times a power of ten, as a quotient again. -/
def scaleByTen (num den : Nat) (power : Int) : Nat × Nat :=
  if power < 0 then (num, den * Nat.pow 10 power.natAbs)
  else (num * Nat.pow 10 power.natAbs, den)

/-! ## A rounded number of digits -/

/-- Six digits, with an exponent from a million up. -/
def sixDigits : Layout :=
  ⟨-4, 6, 'e', 2, false⟩

/-- A quotient to six significant digits, without zeros at the end of the fraction. -/
def toSixDigits (num den : Nat) : String :=
  if num = 0 then "0"
  else
    let power := leadingPower num den
    let (n, d) := scaleByTen num den (5 - power)
    let rounded := roundQuotient n d
    let (rounded, power) := if rounded = 1000000 then (100000, power + 1) else (rounded, power)
    String.ofList (sixDigits.write (dropEndZeros (Nat.toDigits 10 rounded)) power)

end Tablekeep.Number
