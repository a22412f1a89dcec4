import Tablekeep.Text.Malformed

/-!
# Percent coding

In an address a character that has a meaning of its own is written by its bytes, each as a percent
sign and two hexadecimal digits. Which characters may stand as they are depends on the part of the
address; the reader takes them all, and leaves a percent sign without digits alone.
-/

namespace Tablekeep.Text.Percent

/-- A character that has no meaning of its own anywhere in an address. -/
def isUnreserved (c : Char) : Bool :=
  ('a' ≤ c && c ≤ 'z') || ('A' ≤ c && c ≤ 'Z') || isDigit c || ['_', '.', '-', '~'].contains c

/-- A byte as a percent sign and two digits. -/
def encodeByte (b : UInt8) : List Char :=
  ['%', hexUpperDigit (b.toNat / 16), hexUpperDigit (b.toNat % 16)]

/-- What is written for a character, where the characters in `safe` may stand as they are. -/
def encodeChar (safe : List Char) (c : Char) : List Char :=
  if isUnreserved c || safe.contains c then [c] else (Utf8.ofChar c).flatMap encodeByte

/-- The text in percent coding, where the characters in `safe` may stand as they are. -/
def encode (safe : List Char) (s : String) : String :=
  String.ofList (s.toList.flatMap (encodeChar safe))

/-- The text in percent coding with plus signs for spaces. -/
def encodePlus (s : String) : String :=
  String.ofList ((s.toList.flatMap (encodeChar [' '])).map fun c => if c = ' ' then '+' else c)

/-- The bytes that a text in percent coding stands for. -/
def toBytes : List Char → List UInt8
  | [] => []
  | '%' :: a :: b :: rest =>
    match hexDigitValue? a, hexDigitValue? b with
    | some x, some y => UInt8.ofNat (16 * x + y) :: toBytes rest
    | _, _ => 0x25 :: toBytes (a :: b :: rest)
  | c :: rest => Utf8.ofChar c ++ toBytes rest
termination_by cs => cs.length

/-- The text that a text in percent coding stands for. -/
def decode (s : String) : String :=
  Utf8.decodeLossy (toBytes s.toList)

/-- The text that a text in percent coding with plus signs for spaces stands for. -/
def decodePlus (s : String) : String :=
  decode (String.ofList (s.toList.map fun c => if c = '+' then ' ' else c))

end Tablekeep.Text.Percent
