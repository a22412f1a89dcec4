import Tablekeep.Markup.Scan

/-!
# The declaration of a document

A document may begin with a declaration of its version, of its encoding and of whether it stands
alone, in this order; only the version is required. Any version is accepted.
-/

namespace Tablekeep.Markup

/-- What the declaration says. -/
structure Declaration where
  encoding : Option (List Char)
  standalone : Bool
  deriving DecidableEq, Repr

namespace Declaration

/-- The declaration that is not there. -/
def absent : Declaration := ⟨none, false⟩

/-- Opens every declaration. -/
def opening : List Char := "<?xml".toList

/-- A character of a value inside the declaration. -/
def isValueChar (c : Char) : Bool :=
  ('a' ≤ c && c ≤ 'z') || ('A' ≤ c && c ≤ 'Z') || Text.isDigit c || c == '.' || c == '-' || c == '_'

/-- The next name and value, or nothing more; the first result is absent where the text is
malformed. -/
def item? (cs : List Char) : Option (Option (List Char × List Char × List Char)) :=
  match cs with
  | [] => some none
  | c :: _ =>
    if !isSpace c then none
    else
      match skipSpace cs with
      | [] => some none
      | cs => do
        let stops := fun c => c == '=' || isSpace c
        let name := cs.takeWhile fun c => !stops c
        let rest ← word? "=" (skipSpace (cs.dropWhile fun c => !stops c))
        let (value, rest) ← quoted? (skipSpace rest)
        if name.isEmpty || !value.all isValueChar then none
        else return some (name, value, rest)

/-- What the last item says, if it is the right one and nothing follows. -/
def standalone? (encoding : Option (List Char)) (name value rest : List Char) :
    Option Declaration :=
  if name ≠ "standalone".toList ∨ !(skipSpace rest).isEmpty then none
  else if value = "yes".toList then some ⟨encoding, true⟩
  else if value = "no".toList then some ⟨encoding, false⟩
  else none

/-- What the characters between the opening and the end of a declaration say. -/
def ofBody? (cs : List Char) : Option Declaration := do
  let (name, _, rest) ← (← item? cs)
  if name ≠ "version".toList then none
  match ← item? rest with
  | none => return ⟨none, false⟩
  | some (name, value, rest) =>
    if name = "encoding".toList then
      let startsWithLetter := (value.head?.map fun c => c.isAlpha).getD false
      if !startsWithLetter then none
      match ← item? rest with
      | none => return ⟨some value, false⟩
      | some (name, value', rest) => standalone? (some value) name value' rest
    else standalone? none name value rest

/-- The declaration at the start of a document and the rest after it; a document without one is as
it was. -/
def take? (cs : List Char) : Option (Declaration × List Char) :=
  match expect? opening cs with
  | some (c :: rest) =>
    if isNameChar c || c == ':' then some (absent, cs)
    else do
      let (body, rest) ← until? ['?', '>'] (c :: rest)
      let declaration ← ofBody? body
      return (declaration, rest)
  | some [] => none
  | none => some (absent, cs)

end Declaration

end Tablekeep.Markup
