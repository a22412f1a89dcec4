import Tablekeep.Number.Layout

/-!
# Decimal numbers with their exponent

A `Decimal` keeps how it was written: `1.50` and `1.5` are different values with different texts.
Besides numbers there are infinities and the undefined values, which may carry a number.
-/

namespace Tablekeep

/-- A decimal number as it was written. -/
inductive Decimal where
  /-- The coefficient counts the given power of ten. -/
  | finite (negative : Bool) (coefficient : Nat) (exponent : Int)
  | infinite (negative : Bool)
  | undefined (negative signaling : Bool) (payload : Nat)
  deriving DecidableEq, Repr

namespace Decimal

/-- The sign in front of a text. -/
def sign (negative : Bool) : String :=
  if negative then "-" else ""

/-- The text of a decimal: without an exponent if the written exponent is not positive and at most
five zeros follow the point. -/
def toText : Decimal → String
  | finite negative coefficient exponent =>
    let digits := Nat.toDigits 10 coefficient
    let layout : Number.Layout := ⟨-6, digits.length, 'E', 1, false⟩
    sign negative ++ String.ofList (layout.write digits (exponent + (digits.length : Int) - 1))
  | infinite negative => sign negative ++ "Infinity"
  | undefined negative signaling payload =>
    sign negative ++ (if signaling then "sNaN" else "NaN")
      ++ (if payload = 0 then "" else Text.decimal payload)

end Decimal

end Tablekeep
