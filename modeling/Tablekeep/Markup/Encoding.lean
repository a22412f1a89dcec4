import Tablekeep.Markup.Declaration
import Tablekeep.Text.Utf8

/-!
# From bytes to characters

The encoding of a document follows from its first bytes, and where these leave a choice from the
declaration. Decoding stops at the first fault, which may be a byte that is no character or a
character that no document may hold; what comes before is read all the same, so the result is the
characters up to there and whether that was all.
-/

namespace Tablekeep.Markup

/-- How characters are written as bytes. -/
inductive Encoding where
  | utf8
  | ascii
  | latin1
  | windows1252
  | utf16 (bigEndian : Bool)
  deriving DecidableEq, Repr

namespace Encoding

/-! ## Names -/

/-- The name without regard to case, and with hyphens for underscores. -/
def folded (name : List Char) : String :=
  String.ofList (name.map fun c => if c = '_' then '-' else c.toLower)

/-- What a declared name means for a document whose characters take a byte at least. -/
inductive Choice where
  | use (e : Encoding)
  /-- The encoding takes two bytes a character, so the declaration could not have been read. -/
  | conflict
  | unknown

/-- The encoding with a declared name. -/
def ofName (name : List Char) : Choice :=
  match folded name with
  | "utf-8" => if name.contains '_' then .use ascii else .use utf8
  | "us-ascii" | "ascii" | "646" | "utf8" | "u8" | "utf" | "utf-8-sig" => .use ascii
  | "iso-8859-1" | "iso8859-1" | "8859" | "latin-1" | "latin1" | "latin" | "l1" | "cp819" =>
    .use latin1
  | "windows-1252" | "cp1252" | "1252" => .use windows1252
  | "utf-16" | "utf-16be" | "utf-16le" => .conflict
  | _ => .unknown

/-! ## Bytes with a character each -/

/-- The characters of the bytes `80` to `9F`; five bytes have none. -/
def windowsExtras : List Nat :=
  [0x20AC, 0, 0x201A, 0x0192, 0x201E, 0x2026, 0x2020, 0x2021, 0x02C6, 0x2030, 0x0160, 0x2039,
    0x0152, 0, 0x017D, 0, 0, 0x2018, 0x2019, 0x201C, 0x201D, 0x2022, 0x2013, 0x2014, 0x02DC,
    0x2122, 0x0161, 0x203A, 0x0153, 0, 0x017E, 0x0178]

/-- The character of a byte; nothing where the encoding has none or takes several bytes. -/
def byte? (e : Encoding) (b : UInt8) : Option Char :=
  let n := b.toNat
  if n < 0x80 then some (Char.ofNat n)
  else
    match e with
    | latin1 => some (Char.ofNat n)
    | windows1252 =>
      if 0xA0 ≤ n then some (Char.ofNat n)
      else
        let m := windowsExtras.getD (n - 0x80) 0
        if m = 0 then none else some (Char.ofNat m)
    | _ => none

/-- The characters of the bytes up to the first that has none, and whether there is no such byte. -/
def decodeBytes (e : Encoding) : List UInt8 → List Char × Bool
  | [] => ([], true)
  | b :: bs =>
    match e.byte? b with
    | none => ([], false)
    | some c =>
      let (cs, whole) := decodeBytes e bs
      (c :: cs, whole)

/-! ## Pairs of bytes -/

/-- The number of a pair of bytes. -/
def pair (bigEndian : Bool) (a b : UInt8) : Nat :=
  if bigEndian then a.toNat * 256 + b.toNat else b.toNat * 256 + a.toNat

/-- The characters of the pairs up to the first fault. Two pairs that are surrogates make one
character. -/
def decodePairs (bigEndian : Bool) : List UInt8 → List Char × Bool
  | [] => ([], true)
  | [_] => ([], false)
  | a :: b :: rest =>
    let n := pair bigEndian a b
    if 0xD800 ≤ n ∧ n < 0xDC00 then
      match rest with
      | c :: d :: rest =>
        let m := pair bigEndian c d
        if 0xDC00 ≤ m ∧ m < 0xE000 then
          let (cs, whole) := decodePairs bigEndian rest
          (Char.ofNat (0x10000 + (n - 0xD800) * 1024 + (m - 0xDC00)) :: cs, whole)
        else ([], false)
      | _ => ([], false)
    else if 0xDC00 ≤ n ∧ n < 0xE000 then ([], false)
    else
      let (cs, whole) := decodePairs bigEndian rest
      (Char.ofNat n :: cs, whole)

/-- The characters up to the first fault. -/
def decode : Encoding → List UInt8 → List Char × Bool
  | utf8, bytes => Text.Utf8.decodePart bytes
  | utf16 bigEndian, bytes => decodePairs bigEndian bytes
  | e, bytes => decodeBytes e bytes

end Encoding

/-! ## Documents as bytes -/

/-- The characters of a document. -/
structure Decoded where
  declaration : Declaration
  /-- What follows the declaration, up to the first fault, with line ends normalised. -/
  chars : List Char
  /-- There is no fault. -/
  whole : Bool

/-- Why there are no characters. -/
inductive DecodeError where
  | malformed
  | unknownEncoding (name : String)
  deriving DecidableEq, Repr

/-- The characters that a document may hold, up to the first that it may not, after the
declaration. -/
def Decoded.ofChars (chars : List Char) (whole : Bool) : Except DecodeError Decoded :=
  let allowed := chars.takeWhile isCharacter
  match Declaration.take? (normalizeLines allowed) with
  | none => .error .malformed
  | some (declaration, rest) =>
    .ok ⟨declaration, rest, whole && allowed.length == chars.length⟩

/-- The encoding that the first bytes show and the bytes after the mark, if there is one. -/
def detect : List UInt8 → Encoding × List UInt8
  | 0xFE :: 0xFF :: rest => (.utf16 true, rest)
  | 0xFF :: 0xFE :: rest => (.utf16 false, rest)
  | 0xEF :: 0xBB :: 0xBF :: rest => (.utf8, rest)
  | 0 :: b :: rest => (.utf16 true, 0 :: b :: rest)
  | b :: 0 :: rest => (.utf16 false, b :: 0 :: rest)
  | bytes => (.utf8, bytes)

/-- The declared name of a document in pairs of bytes has to be the right one. -/
def pairsAgree (bigEndian : Bool) (name : List Char) : Bool :=
  match Encoding.folded name with
  | "utf-16" => true
  | "utf-16be" => bigEndian
  | "utf-16le" => !bigEndian
  | _ => false

/-- The characters of a document. The declaration is ASCII in all encodings with a byte for each
ASCII character, so it can be read before the encoding is known. -/
def Decoded.ofBytes (bytes : List UInt8) : Except DecodeError Decoded :=
  match detect bytes with
  | (.utf16 bigEndian, bytes) => do
    let (chars, whole) := Encoding.decodePairs bigEndian bytes
    let d ← ofChars chars whole
    match d.declaration.encoding with
    | none => return d
    | some name => if pairsAgree bigEndian name then return d else throw .malformed
  | (_, bytes) => do
    let (chars, whole) := Encoding.utf8.decode bytes
    match Declaration.take? ((Encoding.latin1.decodeBytes bytes).1) with
    | none => throw .malformed
    | some (⟨none, _⟩, _) => ofChars chars whole
    | some (⟨some name, _⟩, _) =>
      match Encoding.ofName name with
      | .use .utf8 => ofChars chars whole
      | .use e =>
        let (chars, whole) := e.decode bytes
        ofChars chars whole
      | .conflict => throw .malformed
      | .unknown => throw (.unknownEncoding (String.ofList name))

end Tablekeep.Markup
