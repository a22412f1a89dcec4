import Tablekeep.Markup.Value

/-!
# The document type

The internal part of a document type is read for its entities and for the default values of
attributes. Everything else is only checked for its form. What is kept elsewhere is never fetched;
after a reference to declarations kept elsewhere, further declarations do not count unless the
document stands alone.
-/

namespace Tablekeep.Markup

namespace QName

/-- The name as it is written. -/
def written (q : QName) : List Char :=
  match q.qualifier with
  | none => q.base
  | some qualifier => qualifier ++ ':' :: q.base

end QName

namespace Doctype

/-! ## Content models -/

/-- The rest after a mark of repetition, if there is one. -/
def skipRepetition : List Char → List Char
  | '?' :: cs => cs
  | '*' :: cs => cs
  | '+' :: cs => cs
  | cs => cs

/-- The rest after the items of a group whose opening has been read; `separator` is the one between
its items, once it is known. Groups nest, and `depth` tells how many are still open. -/
def group? : Nat → List (Option Char) → List Char → Option (List Char)
  | 0, _, _ => none
  | _ + 1, [], cs => some cs
  | fuel + 1, separator :: outer, cs =>
    match skipSpace cs with
    | '(' :: cs => group? fuel (none :: separator :: outer) cs
    | cs => do
      let (_, cs) ← qname? cs
      close fuel (separator :: outer) (skipRepetition cs)
where
  /-- Goes on after an item: a separator and the next item, or the end of the group. -/
  close : Nat → List (Option Char) → List Char → Option (List Char)
    | 0, _, _ => none
    | _ + 1, [], cs => some cs
    | fuel + 1, separator :: outer, cs =>
      match skipSpace cs with
      | ')' :: cs => close fuel outer (skipRepetition cs)
      | c :: cs =>
        if (c = '|' || c = ',') && (separator.isNone || separator = some c) then
          group? fuel (some c :: outer) cs
        else none
      | [] => none

/-- The rest after the alternatives of a mixed model. -/
def mixed? : Nat → Bool → List Char → Option (List Char)
  | 0, _, _ => none
  | fuel + 1, named, cs =>
    match skipSpace cs with
    | ')' :: '*' :: cs => some cs
    | ')' :: cs => if named then none else some cs
    | '|' :: cs => do
      let (_, cs) ← qname? (skipSpace cs)
      mixed? fuel true cs
    | _ => none

/-- The rest after a content model. -/
def model? (cs : List Char) : Option (List Char) :=
  match word? "EMPTY" cs, word? "ANY" cs, cs with
  | some rest, _, _ => some rest
  | _, some rest, _ => some rest
  | _, _, '(' :: rest =>
    match word? "#PCDATA" (skipSpace rest) with
    | some rest => mixed? (rest.length + 1) false rest
    | none => group? (2 * rest.length + 2) [none] rest
  | _, _, _ => none

/-- The rest after the end of a declaration. -/
def ending? (cs : List Char) : Option (List Char) :=
  word? ">" (skipSpace cs)

/-- The rest after the declaration of an element, whose opening has been read. -/
def element? (cs : List Char) : Option (List Char) := do
  let (_, cs) ← qname? (← space? cs)
  ending? (← model? (← space? cs))

/-! ## Things kept elsewhere -/

/-- A character of a public name. -/
def isPublicChar (c : Char) : Bool :=
  c == ' ' || c == '\n' || c.isAlphanum || "-'()+,./:=?;!*#@$_%".toList.contains c

/-- The rest after the name of something kept elsewhere. Where `optional` is set a public name may
stand alone. -/
def externalName? (optional : Bool) (cs : List Char) : Option (List Char) :=
  match word? "SYSTEM" cs with
  | some cs => do
    let (_, cs) ← quoted? (← space? cs)
    return cs
  | none => do
    let (name, cs) ← quoted? (← space? (← word? "PUBLIC" cs))
    if !name.all isPublicChar then none
    match (space? cs).bind quoted? with
    | some (_, cs) => return cs
    | none => if optional then return cs else none

/-- The rest after the declaration of a notation, whose opening has been read. -/
def notationRest? (cs : List Char) : Option (List Char) := do
  let (_, cs) ← name? (← space? cs)
  ending? (← externalName? true (← space? cs))

/-! ## Entities -/

/-- The text of an entity: character references are replaced, others stay. -/
def entityText? : Nat → List Char → Option (List Char)
  | _, [] => some []
  | 0, _ => none
  | fuel + 1, c :: cs =>
    if c = '%' then none
    else if c = '&' then
      match reference? cs with
      | none => none
      | some (.character d, cs) => (entityText? fuel cs).map (d :: ·)
      | some (.entity name, cs) =>
        (entityText? fuel cs).map fun rest => '&' :: name ++ ';' :: rest
    else (entityText? fuel cs).map (c :: ·)

/-- What an entity is declared to be, and the rest. -/
def definition? (cs : List Char) : Option (Entity × List Char) :=
  match quoted? cs with
  | some (raw, cs) => (entityText? raw.length raw).map fun text => (.internal text, cs)
  | none => do
    let cs ← externalName? false cs
    match (space? cs).bind (word? "NDATA") with
    | some cs =>
      let (_, cs) ← name? (← space? cs)
      return (.unparsed, cs)
    | none => return (.external, cs)

/-- A declared entity and the rest; no entity if the name is one for declarations only. -/
def entity? (cs : List Char) : Option (Option (List Char × Entity) × List Char) := do
  let cs ← space? cs
  match cs with
  | '%' :: cs =>
    let (_, cs) ← name? (← space? cs)
    let (entity, cs) ← definition? (← space? cs)
    if entity = .unparsed then none
    return (none, ← ending? cs)
  | cs =>
    let (name, cs) ← name? cs
    let (entity, cs) ← definition? (← space? cs)
    return (some (name, entity), ← ending? cs)

/-! ## Attributes -/

/-- The rest after the tokens of an enumeration, whose opening has been read. -/
def enumeration? : Nat → List Char → Option (List Char)
  | 0, _ => none
  | fuel + 1, cs => do
    let (_, cs) ← nameToken? (skipSpace cs)
    match skipSpace cs with
    | ')' :: cs => some cs
    | '|' :: cs => enumeration? fuel cs
    | _ => none

/-- The names of the types of attributes, longer ones before those that begin them. -/
def attributeTypes : List String :=
  ["CDATA", "IDREFS", "IDREF", "ID", "ENTITIES", "ENTITY", "NMTOKENS", "NMTOKEN"]

/-- The rest after the type of an attribute. -/
def attributeType? (cs : List Char) : Option (List Char) :=
  match cs with
  | '(' :: rest => enumeration? rest.length rest
  | cs =>
    match word? "NOTATION" cs with
    | some cs => do
      let cs ← word? "(" (← space? cs)
      enumeration? cs.length cs
    | none => attributeTypes.findSome? fun word => word? word cs

/-- The default value of an attribute, not yet expanded, and the rest. -/
def attributeDefault? (cs : List Char) : Option (Option (List Char) × List Char) :=
  match word? "#REQUIRED" cs, word? "#IMPLIED" cs, word? "#FIXED" cs with
  | some cs, _, _ => some (none, cs)
  | _, some cs, _ => some (none, cs)
  | _, _, some cs => do
    let (raw, cs) ← quoted? (← space? cs)
    return (some raw, cs)
  | _, _, _ => do
    let (raw, cs) ← quoted? cs
    return (some raw, cs)

/-- The defaults of the attributes still to come, and the rest. -/
def attributeList? : Nat → List Char → Option (List (List Char × List Char) × List Char)
  | 0, _ => none
  | fuel + 1, cs =>
    match ending? cs with
    | some rest => some ([], rest)
    | none => do
      let (name, cs) ← qname? (← space? cs)
      let cs ← attributeType? (← space? cs)
      let (default, cs) ← attributeDefault? (← space? cs)
      let (others, cs) ← attributeList? fuel cs
      return ((default.toList.map fun raw => (name.written, raw)) ++ others, cs)

/-- The defaults for an element, and the rest. -/
def attributes? (cs : List Char) :
    Option (List Char × List (List Char × List Char) × List Char) := do
  let (element, cs) ← qname? (← space? cs)
  let (defaults, cs) ← attributeList? cs.length cs
  return (element.written, defaults, cs)

/-! ## The whole -/

/-- The document type after one more entity. -/
def addEntity (d : Doctype) (name : List Char) (e : Entity) : Doctype :=
  if (d.entities.lookup name).isSome then d else { d with entities := d.entities ++ [(name, e)] }

/-- The document type after the defaults of an element, the first for each attribute. -/
def addDefaults (d : Doctype) (element : List Char) :
    List (List Char × List Char) → Option Doctype
  | [] => some d
  | (name, raw) :: rest => do
    let value ← value? d raw
    let known := d.defaults.any fun (e, n, _) => e = element ∧ n = name
    let d := if known then d else { d with defaults := d.defaults ++ [(element, name, value)] }
    d.addDefaults element rest

/-- The document type after the declarations still to come, and the rest after them. `counts` says
whether declarations count. -/
def subset? (standalone : Bool) : Nat → Bool → Doctype → List Char →
    Option (Doctype × List Char)
  | 0, _, _, _ => none
  | fuel + 1, counts, d, cs =>
    match skipSpace cs with
    | ']' :: cs => some (d, cs)
    | '%' :: cs => do
      let (_, cs) ← name? cs
      subset? standalone fuel standalone { d with lenient := !standalone } (← word? ";" cs)
    | '<' :: '?' :: cs => do subset? standalone fuel counts d (← instruction? cs)
    | '<' :: '!' :: '-' :: '-' :: cs => do subset? standalone fuel counts d (← comment? cs)
    | '<' :: '!' :: cs =>
      match word? "ELEMENT" cs, word? "ATTLIST" cs, word? "ENTITY" cs, word? "NOTATION" cs with
      | some cs, _, _, _ => do subset? standalone fuel counts d (← element? cs)
      | _, some cs, _, _ => do
        let (element, defaults, cs) ← attributes? cs
        let d ← if counts then d.addDefaults element defaults else some d
        subset? standalone fuel counts d cs
      | _, _, some cs, _ => do
        let (declared, cs) ← entity? cs
        let d := match declared with
          | some (name, e) => if counts then d.addEntity name e else d
          | none => d
        subset? standalone fuel counts d cs
      | _, _, _, some cs => do subset? standalone fuel counts d (← notationRest? cs)
      | _, _, _, _ => none
    | _ => none

/-- The document type whose opening has been read, and the rest after it. -/
def take? (standalone : Bool) (cs : List Char) : Option (Doctype × List Char) := do
  let (_, cs) ← qname? (← space? cs)
  let elsewhere := (space? cs).bind (externalName? false)
  let d : Doctype := { empty with lenient := elsewhere.isSome && !standalone }
  match skipSpace (elsewhere.getD cs) with
  | '[' :: cs =>
    let (d, cs) ← subset? standalone (cs.length + 1) true d cs
    return (d, ← ending? cs)
  | '>' :: cs => return (d, cs)
  | _ => none

end Doctype

end Tablekeep.Markup
