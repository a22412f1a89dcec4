/-!
# Numbers in positional notation

Decimal and hexadecimal texts of natural numbers and integers, with and without a fixed width, and
the readers that undo them.
-/

namespace Tablekeep.Text

/-! ## Writing -/

/-- The decimal digits of a number, without leading zeros. -/
def decimal (n : Nat) : String :=
  String.ofList (Nat.toDigits 10 n)

/-- The decimal text of an integer: a minus sign if it is negative, no plus sign. -/
def decimalInt (n : Int) : String :=
  if n < 0 then "-" ++ decimal n.natAbs else decimal n.natAbs

/-- The characters with zeros in front up to the given width. -/
def zeroFill (width : Nat) (cs : List Char) : List Char :=
  List.replicate (width - cs.length) '0' ++ cs

/-- The decimal text of a number with zeros in front up to the given width. -/
def decimalWide (width n : Nat) : String :=
  String.ofList (zeroFill width (Nat.toDigits 10 n))

/-- An upper-case hexadecimal digit, for a value below sixteen. -/
def hexUpperDigit (n : Nat) : Char :=
  if n < 10 then Char.ofNat (0x30 + n) else Char.ofNat (0x41 + (n - 10))

/-- The upper-case hexadecimal digits of a number, most significant first. -/
def hexUpper (n : Nat) : List Char :=
  if _h : n < 16 then [hexUpperDigit n] else hexUpper (n / 16) ++ [hexUpperDigit (n % 16)]
termination_by n
decreasing_by omega

/-- The lower-case hexadecimal digits of a number with zeros in front up to the given width. -/
def hexLowerWide (width n : Nat) : String :=
  String.ofList (zeroFill width (Nat.toDigits 16 n))

/-! ## Reading -/

/-- One of the ten digits. -/
def isDigit (c : Char) : Bool :=
  '0' ≤ c && c ≤ '9'

/-- The value of a decimal digit. -/
def digitValue (c : Char) : Nat :=
  c.toNat - 0x30

/-- The number that a run of decimal digits denotes. -/
def ofDigits (cs : List Char) : Nat :=
  cs.foldl (fun n c => 10 * n + digitValue c) 0

/-- The value of a hexadecimal digit in either case. -/
def hexDigitValue? (c : Char) : Option Nat :=
  let n := c.toNat
  if 0x30 ≤ n ∧ n ≤ 0x39 then some (n - 0x30)
  else if 0x41 ≤ n ∧ n ≤ 0x46 then some (n - 0x41 + 10)
  else if 0x61 ≤ n ∧ n ≤ 0x66 then some (n - 0x61 + 10)
  else none

/-- The number that a run of decimal digits denotes; nothing for an empty run or another
character. -/
def decimal? (cs : List Char) : Option Nat :=
  if cs.isEmpty then none else if cs.all isDigit then some (ofDigits cs) else none

/-- The number that a run of hexadecimal digits denotes; nothing for an empty run or another
character. -/
def hex? (cs : List Char) : Option Nat :=
  if cs.isEmpty then none
  else cs.foldlM (fun n c => (hexDigitValue? c).map (16 * n + ·)) 0

end Tablekeep.Text
