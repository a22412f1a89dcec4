import Tablekeep.Text.Utf8
import Tablekeep.Text.Digits

/-!
# Bytes that are no text

Where decoding stops, the report names the bytes that cannot be part of a character: a byte that
starts none, the start of a character that is not continued, or the start of one at the end.
-/

namespace Tablekeep.Text.Utf8

/-- What is wrong with bytes that are no text. -/
inductive FaultKind where
  | badStart
  | badContinuation
  | cutOff
  deriving DecidableEq, Repr

/-- Bytes that are no text. -/
structure Fault where
  kind : FaultKind
  /-- The position of the first of the bytes. -/
  position : Nat
  /-- The bytes that are to blame. -/
  bytes : List UInt8
  deriving DecidableEq, Repr

/-- The second byte of a character of three or four bytes can follow the first: it continues it, and
the two do not begin an overlong form, a surrogate or a value too large. -/
def canFollow (first second : UInt8) : Bool :=
  0x80 ≤ second && second < 0xC0
    && !(first == 0xE0 && second < 0xA0) && !(first == 0xED && 0xA0 ≤ second)
    && !(first == 0xF0 && second < 0x90) && !(first == 0xF4 && 0x90 ≤ second)

/-- How many bytes a character takes that starts with a byte; none if it starts no character. -/
def lengthFrom (first : UInt8) : Nat :=
  let n := first.toNat
  if n < 0x80 then 1
  else if 0xC2 ≤ n ∧ n < 0xE0 then 2
  else if 0xE0 ≤ n ∧ n < 0xF0 then 3
  else if 0xF0 ≤ n ∧ n < 0xF5 then 4
  else 0

/-- How many of the bytes belong together: the first, and those that can follow it. -/
def soundLength (bytes : List UInt8) : Nat :=
  match bytes with
  | [] => 0
  | [_] => 1
  | first :: second :: rest =>
    if canFollow first second then
      2 + (rest.takeWhile fun b => 0x80 ≤ b && b < 0xC0).length
    else 1

/-- The fault of bytes that begin with no character, at a position. -/
def faultAt (position : Nat) (bytes : List UInt8) : Fault :=
  let wanted := lengthFrom (bytes.headD 0)
  let sound := min (soundLength bytes) (max wanted 1)
  if wanted = 0 then ⟨.badStart, position, bytes.take 1⟩
  else if sound = bytes.length then ⟨.cutOff, position, bytes⟩
  else ⟨.badContinuation, position, bytes.take sound⟩

/-- The first fault of the bytes, looked for at most `fuel` characters on. -/
def faultFrom : Nat → Nat → List UInt8 → Option Fault
  | 0, _, _ => none
  | _ + 1, _, [] => none
  | fuel + 1, position, bytes =>
    match next? bytes with
    | none => some (faultAt position bytes)
    | some (_, rest) => faultFrom fuel (position + (bytes.length - rest.length)) rest

/-- The first fault of the bytes. -/
def fault? (bytes : List UInt8) : Option Fault :=
  faultFrom bytes.length 0 bytes

/-- The text of bytes, or their first fault. -/
def decode (bytes : List UInt8) : Except Fault String :=
  match decode? bytes with
  | some s => .ok s
  | none => .error ((fault? bytes).getD ⟨.cutOff, 0, bytes⟩)

/-- The characters of bytes, where a replacement character stands for the bytes of every fault; at
most `fuel` characters. -/
def decodeLossyFrom : Nat → List UInt8 → List Char
  | 0, _ => []
  | _ + 1, [] => []
  | fuel + 1, bytes =>
    match next? bytes with
    | some (c, rest) => c :: decodeLossyFrom fuel rest
    | none =>
      '\uFFFD' :: decodeLossyFrom fuel (bytes.drop (max 1 (faultAt 0 bytes).bytes.length))

/-- The text of bytes, where a replacement character stands for the bytes of every fault. -/
def decodeLossy (bytes : List UInt8) : String :=
  String.ofList (decodeLossyFrom bytes.length bytes)

/-- The wording of a kind of fault. -/
def FaultKind.wording : FaultKind → String
  | badStart => "invalid start byte"
  | badContinuation => "invalid continuation byte"
  | cutOff => "unexpected end of data"

/-- The wording of a fault. -/
def Fault.message (f : Fault) : String :=
  let place :=
    match f.bytes with
    | [b] => "byte 0x" ++ hexLowerWide 2 b.toNat ++ " in position " ++ decimal f.position
    | bs =>
      "bytes in position " ++ decimal f.position ++ "-" ++ decimal (f.position + bs.length - 1)
  "'utf-8' codec can't decode " ++ place ++ ": " ++ f.kind.wording

end Tablekeep.Text.Utf8
