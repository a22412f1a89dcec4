/-!
# Text as bytes

The UTF-8 form of a text and its strict decoder. `Utf8.next?` reads one character and refuses
overlong forms, surrogates and values above `10FFFF`; the decoders are iterations of it.
-/

namespace Tablekeep.Text.Utf8

/-! ## Encoding -/

/-- The bytes of one character. -/
def ofChar (c : Char) : List UInt8 :=
  let n := c.toNat
  if n < 0x80 then [UInt8.ofNat n]
  else if n < 0x800 then [UInt8.ofNat (0xC0 + n / 64), UInt8.ofNat (0x80 + n % 64)]
  else if n < 0x10000 then
    [UInt8.ofNat (0xE0 + n / 4096), UInt8.ofNat (0x80 + n / 64 % 64), UInt8.ofNat (0x80 + n % 64)]
  else
    [UInt8.ofNat (0xF0 + n / 262144), UInt8.ofNat (0x80 + n / 4096 % 64),
      UInt8.ofNat (0x80 + n / 64 % 64), UInt8.ofNat (0x80 + n % 64)]

/-- The bytes of a text. -/
def encode (s : String) : List UInt8 :=
  s.toList.flatMap ofChar

/-! ## Decoding -/

/-- The six bits that a continuation byte carries. -/
def continuation? (b : UInt8) : Option Nat :=
  if 0x80 ≤ b ∧ b < 0xC0 then some (b.toNat - 0x80) else none

/-- The character with a code point, unless the code point lies below `least`, is a surrogate or is
too large. -/
def scalar? (least n : Nat) : Option Char :=
  if n < least then none else if h : n.isValidChar then some (Char.ofNatAux n h) else none

/-- The first character of the bytes and what follows it. -/
def next? : List UInt8 → Option (Char × List UInt8)
  | [] => none
  | a :: rest =>
    let n := a.toNat
    if n < 0x80 then (scalar? 0 n).map (·, rest)
    else if 0xC0 ≤ n ∧ n < 0xE0 then
      match rest with
      | b :: rest => do
        let y ← continuation? b
        let c ← scalar? 0x80 ((n - 0xC0) * 64 + y)
        return (c, rest)
      | [] => none
    else if 0xE0 ≤ n ∧ n < 0xF0 then
      match rest with
      | b :: c :: rest => do
        let y ← continuation? b
        let z ← continuation? c
        let d ← scalar? 0x800 ((n - 0xE0) * 4096 + y * 64 + z)
        return (d, rest)
      | _ => none
    else if 0xF0 ≤ n ∧ n < 0xF8 then
      match rest with
      | b :: c :: d :: rest => do
        let x ← continuation? b
        let y ← continuation? c
        let z ← continuation? d
        let e ← scalar? 0x10000 ((n - 0xF0) * 262144 + x * 4096 + y * 64 + z)
        return (e, rest)
      | _ => none
    else none

/-- Decodes up to the first fault, at most `fuel` characters; the flag says whether every byte was
used. -/
def decodeFrom : Nat → List UInt8 → List Char × Bool
  | 0, bytes => ([], bytes.isEmpty)
  | _ + 1, [] => ([], true)
  | fuel + 1, bytes =>
    match next? bytes with
    | none => ([], false)
    | some (c, rest) =>
      let (cs, whole) := decodeFrom fuel rest
      (c :: cs, whole)

/-- The characters before the first fault, and whether there is no fault. Every character takes a
byte, so the number of bytes bounds the number of steps. -/
def decodePart (bytes : List UInt8) : List Char × Bool :=
  decodeFrom bytes.length bytes

/-- The text that the bytes hold, if they are UTF-8. -/
def decode? (bytes : List UInt8) : Option String :=
  match decodePart bytes with
  | (cs, true) => some (String.ofList cs)
  | (_, false) => none

end Tablekeep.Text.Utf8
