import Tablekeep.Markup.Scan

/-!
# Entities and the values of attributes

An entity is a name for a text. Where a reference to it stands, its text is read instead, which may
hold references in turn but none to an entity that is being read already. How much may be read in
this way is bounded, so that a short document cannot stand for an endless one.
-/

namespace Tablekeep.Markup

/-- What a name stands for. -/
inductive Entity where
  | internal (text : List Char)
  /-- The text is kept elsewhere and never fetched. -/
  | external
  /-- What is kept elsewhere is no text. -/
  | unparsed
  deriving DecidableEq, Repr

/-- What the internal part of a document type declares. -/
structure Doctype where
  /-- The entities by name; the first declaration of a name counts. -/
  entities : List (List Char × Entity)
  /-- Values of attributes that an element has unless it says otherwise: the names of the element
  and the attribute, and the value. -/
  defaults : List (List Char × List Char × List Char)
  /-- There are declarations that were not read, so that an unknown name may be known there. -/
  lenient : Bool
  deriving Repr

/-- The document type that declares nothing. -/
def Doctype.empty : Doctype := ⟨[], [], false⟩

/-- How many characters the entities of a document may stand for. -/
def expansionLimit : Nat := 8388608

/-- A text that is being read, and the entity that it is the text of. -/
structure Layer where
  rest : List Char
  entity : List Char
  deriving Repr

/-- The value of an attribute whose characters are still to come, innermost entity first, after
those in `done`, which are last first. Blanks become spaces; a character reference gives its
character as it is. -/
def valueFrom (doctype : Doctype) :
    Nat → List Layer → List Char → Option (List Char)
  | 0, _, _ => none
  | _ + 1, [], done => some done.reverse
  | fuel + 1, ⟨[], _⟩ :: outer, done => valueFrom doctype fuel outer done
  | fuel + 1, ⟨c :: cs, entity⟩ :: outer, done =>
    if c = '<' then none
    else if c = '&' then
      match reference? cs with
      | none => none
      | some (.character d, cs) => valueFrom doctype fuel (⟨cs, entity⟩ :: outer) (d :: done)
      | some (.entity name, cs) =>
        let here := ⟨cs, entity⟩ :: outer
        match predefined? name, doctype.entities.lookup name with
        | some d, _ => valueFrom doctype fuel here (d :: done)
        | none, none => if doctype.lenient then valueFrom doctype fuel here done else none
        | none, some (.internal text) =>
          if here.any fun l => l.entity = name then none
          else valueFrom doctype fuel (⟨text, name⟩ :: here) done
        | none, some _ => none
    else valueFrom doctype fuel (⟨cs, entity⟩ :: outer) ((if isSpace c then ' ' else c) :: done)

/-- The value that the characters between quotes stand for. -/
def value? (doctype : Doctype) (raw : List Char) : Option (List Char) :=
  valueFrom doctype (2 * (expansionLimit + raw.length) + 2) [⟨raw, []⟩] []

end Tablekeep.Markup
