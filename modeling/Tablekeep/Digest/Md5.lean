import Tablekeep.Text.Digits

/-!
# The MD5 digest

The message is padded to whole blocks of sixteen words and its length in bits is put at the end.
Each block is mixed into four words of state in sixty-four steps; the digest is the final state,
each word with its low byte first.
-/

namespace Tablekeep.Digest

/-! ## Blocks -/

/-- The low bytes of a number, lowest first. -/
def littleEndian : Nat → Nat → List UInt8
  | 0, _ => []
  | width + 1, n => UInt8.ofNat (n % 256) :: littleEndian width (n / 256)

/-- The message, a one bit, zeros up to eight bytes short of a block, and the length in bits. -/
def padded (message : List UInt8) : List UInt8 :=
  let zeros := (119 - message.length % 64) % 64
  message ++ 0x80 :: List.replicate zeros 0 ++ littleEndian 8 (8 * message.length)

/-- The words of the bytes, low byte first. -/
def toWords : List UInt8 → List UInt32
  | a :: b :: c :: d :: rest =>
    UInt32.ofNat (a.toNat + 256 * (b.toNat + 256 * (c.toNat + 256 * d.toNat))) :: toWords rest
  | _ => []

/-! ## Mixing -/

/-- The four words of state. -/
structure State where
  a : UInt32
  b : UInt32
  c : UInt32
  d : UInt32

/-- The state before the first block. -/
def State.initial : State :=
  ⟨0x67452301, 0xEFCDAB89, 0x98BADCFE, 0x10325476⟩

/-- The constants of the steps: the fractions of the sines of 1 to 64. -/
def sines : Array UInt32 :=
  #[0xD76AA478, 0xE8C7B756, 0x242070DB, 0xC1BDCEEE, 0xF57C0FAF, 0x4787C62A, 0xA8304613, 0xFD469501,
    0x698098D8, 0x8B44F7AF, 0xFFFF5BB1, 0x895CD7BE, 0x6B901122, 0xFD987193, 0xA679438E, 0x49B40821,
    0xF61E2562, 0xC040B340, 0x265E5A51, 0xE9B6C7AA, 0xD62F105D, 0x02441453, 0xD8A1E681, 0xE7D3FBC8,
    0x21E1CDE6, 0xC33707D6, 0xF4D50D87, 0x455A14ED, 0xA9E3E905, 0xFCEFA3F8, 0x676F02D9, 0x8D2A4C8A,
    0xFFFA3942, 0x8771F681, 0x6D9D6122, 0xFDE5380C, 0xA4BEEA44, 0x4BDECFA9, 0xF6BB4B60, 0xBEBFBC70,
    0x289B7EC6, 0xEAA127FA, 0xD4EF3085, 0x04881D05, 0xD9D4D039, 0xE6DB99E5, 0x1FA27CF8, 0xC4AC5665,
    0xF4292244, 0x432AFF97, 0xAB9423A7, 0xFC93A039, 0x655B59C3, 0x8F0CCC92, 0xFFEFF47D, 0x85845DD1,
    0x6FA87E4F, 0xFE2CE6E0, 0xA3014314, 0x4E0811A1, 0xF7537E82, 0xBD3AF235, 0x2AD7D2BB, 0xEB86D391]

/-- How far the word is rotated in a step. -/
def rotation (step : Nat) : UInt32 :=
  let row : List UInt32 :=
    if step < 16 then [7, 12, 17, 22]
    else if step < 32 then [5, 9, 14, 20]
    else if step < 48 then [4, 11, 16, 23]
    else [6, 10, 15, 21]
  row.getD (step % 4) 0

/-- The bits moved to the left, those that leave coming back on the right. -/
def rotate (x count : UInt32) : UInt32 :=
  (x <<< count) ||| (x >>> (32 - count))

/-- The mixture of three words of state, and the word of the block that a step takes. -/
def mixture (s : State) (step : Nat) : UInt32 × Nat :=
  if step < 16 then ((s.b &&& s.c) ||| (~~~s.b &&& s.d), step)
  else if step < 32 then ((s.d &&& s.b) ||| (~~~s.d &&& s.c), (5 * step + 1) % 16)
  else if step < 48 then (s.b ^^^ s.c ^^^ s.d, (3 * step + 5) % 16)
  else (s.c ^^^ (s.b ||| ~~~s.d), 7 * step % 16)

/-- The state after one step. -/
def State.step (block : Array UInt32) (s : State) (step : Nat) : State :=
  let (mixed, index) := mixture s step
  let sum := mixed + s.a + sines.getD step 0 + block.getD index 0
  ⟨s.d, s.b + rotate sum (rotation step), s.b, s.c⟩

/-- The state after one block. -/
def State.absorb (s : State) (block : List UInt32) : State :=
  let t := (List.range 64).foldl (State.step block.toArray) s
  ⟨s.a + t.a, s.b + t.b, s.c + t.c, s.d + t.d⟩

/-- The state after the words, a block at a time; `left` bounds the number of blocks. -/
def State.absorbAll : Nat → State → List UInt32 → State
  | 0, s, _ => s
  | left + 1, s, words =>
    if words.isEmpty then s else absorbAll left (s.absorb (words.take 16)) (words.drop 16)

/-- The sixteen bytes of the digest. -/
def md5 (message : List UInt8) : List UInt8 :=
  let words := toWords (padded message)
  let s := State.initial.absorbAll words.length words
  [s.a, s.b, s.c, s.d].flatMap fun w => littleEndian 4 w.toNat

/-- The two upper-case hexadecimal digits of a byte. -/
def hexByte (b : UInt8) : List Char :=
  [Text.hexUpperDigit (b.toNat / 16), Text.hexUpperDigit (b.toNat % 16)]

/-- The digest in upper-case hexadecimal digits. -/
def md5Hex (message : List UInt8) : String :=
  String.ofList ((md5 message).flatMap hexByte)

end Tablekeep.Digest
