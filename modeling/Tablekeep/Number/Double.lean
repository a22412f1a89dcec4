import Tablekeep.Number.Layout

/-!
# Binary floating point numbers

A `Double` is one of the values of the 64-bit binary format. Its fields cannot be out of range, so
every value of the type is a value of the format. Reading a decimal rounds it to the nearest double,
halves to the one with an even last bit; writing a double gives the fewest digits that read back to
it, and of those the nearest.
-/

namespace Tablekeep

/-- The weight of the leading bit of a mantissa, which is not stored: fifty-two bits follow it. -/
abbrev Double.leadingBit : Nat := 4503599627370496

/-- A number of the 64-bit binary format. -/
inductive Double where
  | nan
  | infinite (negative : Bool)
  /-- With exponent zero the number is `fraction` times the least power of two; otherwise a leading
  one goes before the fraction. -/
  | finite (negative : Bool) (exponent : Fin 2047) (fraction : Fin Double.leadingBit)
  deriving DecidableEq, Repr

namespace Double

/-! ## The exact value -/

/-- The whole number that a power of two is multiplied by. -/
def mantissa (exponent : Fin 2047) (fraction : Fin leadingBit) : Nat :=
  if exponent.val = 0 then fraction.val else fraction.val + leadingBit

/-- The power of two that the mantissa counts. -/
def power (exponent : Fin 2047) : Int :=
  if exponent.val = 0 then -1074 else (exponent.val : Int) - 1075

/-! ## Rounding -/

/-- A whole number times a power of two, as a quotient. -/
def scaleByTwo (num den : Nat) (power : Int) : Nat × Nat :=
  if power < 0 then (num, den <<< power.natAbs) else (num <<< power.natAbs, den)

/-- The power of two at which a positive quotient has fifty-three bits before the point, but at
least the power of the smallest doubles. -/
def powerFor (num den : Nat) : Int :=
  let guess : Int := (num.log2 : Int) - (den.log2 : Int) - 52
  let (n, d) := scaleByTwo num den (-guess)
  max (-1074) (if n / d < leadingBit then guess - 1 else guess)

/-- The double nearest to a quotient with the given sign. -/
def ofQuotient (negative : Bool) (num den : Nat) : Double :=
  if num = 0 then finite negative 0 0
  else
    let q := powerFor num den
    let (n, d) := scaleByTwo num den (-q)
    let m := Number.roundQuotient n d
    let (m, q) := if m = 2 * leadingBit then (leadingBit, q + 1) else (m, q)
    if m < leadingBit then finite negative 0 (Fin.ofNat _ m)
    else if q + 1075 < 2047 then
      finite negative (Fin.ofNat _ (q + 1075).toNat) (Fin.ofNat _ (m - leadingBit))
    else infinite negative

/-- The double nearest to `digits` times a power of ten. Powers beyond all doubles are cut off
first, so that no large number is formed. -/
def ofDecimal (negative : Bool) (digits : Nat) (power : Int) : Double :=
  let size : Int := ((Nat.toDigits 10 digits).length : Int) + power
  if digits = 0 ∨ size < -330 then finite negative 0 0
  else if 320 < size then infinite negative
  else
    let (n, d) := Number.scaleByTen digits 1 power
    ofQuotient negative n d

/-! ## The shortest decimal -/

/-- The interval of numbers that round to a double, and the double itself, in quarters of its last
place. -/
structure Interval where
  low : Nat
  value : Nat
  high : Nat
  /-- The ends belong to the interval. -/
  closed : Bool

/-- The interval of a mantissa. Below a power of two the neighbours are half as far away. -/
def interval (exponent : Fin 2047) (fraction : Fin leadingBit) : Interval :=
  let m := mantissa exponent fraction
  let near := fraction.val = 0 ∧ 1 < exponent.val
  ⟨4 * m - (if near then 1 else 2), 4 * m, 4 * m + 2, m % 2 = 0⟩

/-- The whole number is inside the interval, all measured in the same unit after scaling. -/
def Interval.holds (i : Interval) (scale point : Nat) : Bool :=
  if i.closed then i.low * scale ≤ point && point ≤ i.high * scale
  else i.low * scale < point && point < i.high * scale

/-- A decimal with few digits inside the interval, `tried` digits at first and up to seventeen: of
the two neighbours of the value on each decimal grid the one that is inside, and the nearer one if
both are. Gives the digits as a number and the power of ten that the last of them counts. -/
def shortestFrom (i : Interval) (unit lead : Int) : Nat → Nat → Nat × Int
  | 0, tried => (0, lead - tried + 1)
  | left + 1, tried =>
    let k : Int := lead - tried + 1
    -- One quarter of a place and one grid step, brought to the same unit.
    let (quarter, one) := scaleByTwo 1 1 unit
    let (step, tenth) := Number.scaleByTen 1 1 k
    let scale := quarter * tenth
    let grid := step * one
    let low := i.value * scale / grid
    let lowIn := i.holds scale (low * grid)
    let highIn := i.holds scale ((low + 1) * grid)
    let below := i.value * scale - low * grid
    let above := (low + 1) * grid - i.value * scale
    let lowWins := below < above ∨ (below = above ∧ low % 2 = 0)
    if lowIn && (!highIn || lowWins) then (low, k)
    else if highIn then (low + 1, k)
    else if left = 0 then (if lowWins then low else low + 1, k)
    else shortestFrom i unit lead left (tried + 1)

/-- Up to four zeros after the point and up to sixteen digits before it are written out, and a whole
number shows that it is a floating point number. -/
def layout : Number.Layout :=
  ⟨-4, 16, 'e', 2, true⟩

/-- The text of a positive number. -/
def magnitudeText (exponent : Fin 2047) (fraction : Fin leadingBit) : List Char :=
  let unit := power exponent
  let (num, den) := scaleByTwo (mantissa exponent fraction) 1 unit
  let lead := Number.leadingPower num den
  let (digits, k) := shortestFrom (interval exponent fraction) (unit - 2) lead 17 1
  let shown := Nat.toDigits 10 digits
  layout.write (Number.dropEndZeros shown) (k + (shown.length : Int) - 1)

/-- The text of a double. -/
def toText : Double → String
  | nan => "nan"
  | infinite negative => if negative then "-inf" else "inf"
  | finite negative exponent fraction =>
    let magnitude :=
      if mantissa exponent fraction = 0 then ['0', '.', '0'] else magnitudeText exponent fraction
    String.ofList (if negative then '-' :: magnitude else magnitude)

end Double

end Tablekeep
