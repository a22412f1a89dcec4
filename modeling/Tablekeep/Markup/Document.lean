import Tablekeep.Markup.Encoding
import Tablekeep.Markup.Namespace

/-!
# The events of a document

A document is read as a sequence of events: an element starts, characters come, an element ends.
Comments and instructions leave no trace, and the text around them joins. Reading a malformed
document gives the events before the fault, so that what was sound can be used and the fault is
found in its place.
-/

namespace Tablekeep.Markup

/-- What is met while a document is read. -/
inductive Event where
  | start (tag : String)
  | text (s : String)
  | finish
  deriving DecidableEq, Repr

/-- The events of a document, up to its end or to the first fault. -/
structure Reading where
  events : List Event
  /-- There is no fault. -/
  wellFormed : Bool
  deriving DecidableEq, Repr

/-! ## Tags -/

/-- The attributes still to come in a tag, not yet expanded; whether the element is empty; and the
rest. -/
def tagAttributes? : Nat → List Char → Option (List (QName × List Char) × Bool × List Char)
  | 0, _ => none
  | fuel + 1, cs =>
    match skipSpace cs with
    | '>' :: rest => some ([], false, rest)
    | '/' :: '>' :: rest => some ([], true, rest)
    | _ => do
      let (name, cs) ← qname? (← space? cs)
      let (raw, cs) ← quoted? (skipSpace (← word? "=" (skipSpace cs)))
      let (others, isEmpty, cs) ← tagAttributes? fuel cs
      return ((name, raw) :: others, isEmpty, cs)

/-- The attributes with their values, the defaults of the element among them. -/
def attributes? (doctype : Doctype) (element : QName) (raw : List (QName × List Char)) :
    Option (List Attribute) := do
  if !allDistinct (raw.map fun (name, _) => name.written) then none
  let given ← raw.mapM fun (name, raw) => (value? doctype raw).map (Attribute.mk name)
  let defaults := doctype.defaults.filterMap fun (e, name, value) =>
    if e = element.written ∧ !given.any (fun a => a.name.written = name) then
      (qname? name).map fun (q, _) => (⟨q, value⟩ : Attribute)
    else none
  return given ++ defaults

/-- An element that has started. -/
structure OpenElement where
  /-- The name as it is written, which the end has to repeat. -/
  written : List Char
  /-- The bindings outside the element. -/
  outside : Scope

/-- A tag that starts an element. -/
structure StartTag where
  written : List Char
  tag : String
  isEmpty : Bool
  inside : Scope

/-- The tag whose opening bracket has been read, and the rest. -/
def startTag? (doctype : Doctype) (scope : Scope) (cs : List Char) :
    Option (StartTag × List Char) := do
  let (name, cs) ← qname? cs
  let (raw, isEmpty, cs) ← tagAttributes? (cs.length + 1) cs
  let attributes ← attributes? doctype name raw
  let inside ← scope.inside attributes
  let names ← inside.attributeNames? attributes
  if !allDistinct names then none
  let tag ← inside.tag? name
  return (⟨name.written, tag, isEmpty, inside⟩, cs)

/-- The name in a tag that ends an element, and the rest. -/
def endTag? (cs : List Char) : Option (List Char × List Char) := do
  let isTagChar := fun c => isNameChar c || c == ':'
  let rest ← word? ">" (skipSpace (cs.dropWhile isTagChar))
  return (cs.takeWhile isTagChar, rest)

/-! ## Content -/

/-- A text that waits while an entity in it is read. -/
structure Suspended where
  rest : List Char
  entity : List Char
  /-- How many elements were open when the entity began. -/
  depth : Nat

/-- Where the reading of content stands. -/
structure Position where
  /-- The characters of the current text still to come. -/
  rest : List Char
  /-- The texts around the current one, innermost first. -/
  outer : List Suspended
  /-- The elements that are open, innermost first. -/
  opened : List OpenElement
  scope : Scope

/-- What one step in content comes to. -/
inductive Step where
  | fault
  /-- Goes on; some events were met. -/
  | next (events : List Event) (p : Position)
  /-- The outermost element has ended. -/
  | done (events : List Event) (rest : List Char)

namespace Position

/-- The step at the end of the current text. An entity has to end the elements that it starts. -/
def leave (p : Position) : Step :=
  match p.outer with
  | [] => .fault
  | s :: outer =>
    if p.opened.length = s.depth then .next [] { p with rest := s.rest, outer := outer } else .fault

/-- The step over a tag that ends an element, whose opening has been read. -/
def stepEnd (p : Position) (cs : List Char) : Step :=
  match endTag? cs, p.opened with
  | some (name, rest), e :: opened =>
    let inEntity := (p.outer.head?.map fun s => decide (p.opened.length ≤ s.depth)).getD false
    if name ≠ e.written ∨ inEntity then .fault
    else if opened.isEmpty then .done [.finish] rest
    else .next [.finish] { p with rest := rest, opened := opened, scope := e.outside }
  | _, _ => .fault

/-- The step over a tag that starts an element, whose opening has been read. -/
def stepStart (doctype : Doctype) (p : Position) (cs : List Char) : Step :=
  match startTag? doctype p.scope cs with
  | none => .fault
  | some (t, rest) =>
    if t.isEmpty then
      if p.opened.isEmpty then .done [.start t.tag, .finish] rest
      else .next [.start t.tag, .finish] { p with rest := rest }
    else
      .next [.start t.tag]
        { p with
          rest := rest
          opened := ⟨t.written, p.scope⟩ :: p.opened
          scope := t.inside }

/-- The step over a reference, whose ampersand has been read. -/
def stepReference (doctype : Doctype) (p : Position) (cs : List Char) : Step :=
  match reference? cs with
  | none => .fault
  | some (.character c, rest) => .next [.text (String.ofList [c])] { p with rest := rest }
  | some (.entity name, rest) =>
    match predefined? name, doctype.entities.lookup name with
    | some c, _ => .next [.text (String.ofList [c])] { p with rest := rest }
    | none, some (.internal text) =>
      if p.outer.any fun s => s.entity = name then .fault
      else .next [] { p with rest := text, outer := ⟨rest, name, p.opened.length⟩ :: p.outer }
    | none, _ => .fault

/-- The step over characters up to the next markup. -/
def stepText (p : Position) : Step :=
  let isText := fun c => c != '<' && c != '&'
  let text := p.rest.takeWhile isText
  if (until? [']', ']', '>'] text).isSome then .fault
  else .next [.text (String.ofList text)] { p with rest := p.rest.dropWhile isText }

/-- One step in content. -/
def step (doctype : Doctype) (p : Position) : Step :=
  match p.rest with
  | [] => p.leave
  | '<' :: '/' :: cs => p.stepEnd cs
  | '<' :: '!' :: cs =>
    match word? "--" cs, word? "[CDATA[" cs with
    | some cs, _ =>
      match comment? cs with
      | none => .fault
      | some rest => .next [] { p with rest := rest }
    | none, some cs =>
      match until? [']', ']', '>'] cs with
      | none => .fault
      | some (text, rest) => .next [.text (String.ofList text)] { p with rest := rest }
    | none, none => .fault
  | '<' :: '?' :: cs =>
    match instruction? cs with
    | none => .fault
    | some rest => .next [] { p with rest := rest }
  | '<' :: cs => p.stepStart doctype cs
  | '&' :: cs => p.stepReference doctype cs
  | _ :: _ => p.stepText

end Position

/-- Reads content until the outermost element has ended. Gives the events, last first, before those
in `done`, and the rest after the element unless there is a fault. -/
def contentFrom (doctype : Doctype) :
    Nat → Position → List Event → List Event × Option (List Char)
  | 0, _, done => (done, none)
  | fuel + 1, p, done =>
    match p.step doctype with
    | .fault => (done, none)
    | .next events p => contentFrom doctype fuel p (events.reverse ++ done)
    | .done events rest => (events.reverse ++ done, some rest)

/-! ## The document -/

/-- The rest after blanks, comments and instructions, of which there may be any number; nothing
where one of them is malformed. -/
def skipMisc : Nat → List Char → Option (List Char)
  | 0, cs => some cs
  | fuel + 1, cs =>
    match skipSpace cs with
    | '<' :: '!' :: '-' :: '-' :: cs => do skipMisc fuel (← comment? cs)
    | '<' :: '?' :: cs => do skipMisc fuel (← instruction? cs)
    | cs => some cs

/-- What comes before the outermost element: the document type, and the rest. -/
def prolog? (standalone : Bool) (cs : List Char) : Option (Doctype × List Char) := do
  let cs ← skipMisc cs.length cs
  match word? "<!DOCTYPE" cs with
  | none => return (.empty, cs)
  | some cs =>
    let (doctype, cs) ← Doctype.take? standalone cs
    return (doctype, ← skipMisc cs.length cs)

/-- The reading of the characters of a document after its declaration. -/
def readChars (standalone : Bool) (cs : List Char) : Reading :=
  match prolog? standalone cs with
  | none => ⟨[], false⟩
  | some (doctype, cs) =>
    match cs with
    | '<' :: cs =>
      match Position.stepStart doctype ⟨[], [], [], .initial⟩ cs with
      | .fault => ⟨[], false⟩
      | .done events rest => ⟨events, skipMisc rest.length rest == some []⟩
      | .next events p =>
        let fuel := 2 * (expansionLimit + cs.length) + 2
        match contentFrom doctype fuel p events.reverse with
        | (events, none) => ⟨events.reverse, false⟩
        | (events, some rest) => ⟨events.reverse, skipMisc rest.length rest == some []⟩
    | _ => ⟨[], false⟩

/-- The reading of a document. -/
def read (bytes : List UInt8) : Except String Reading :=
  match Decoded.ofBytes bytes with
  | .error .malformed => .ok ⟨[], false⟩
  | .error (.unknownEncoding name) => .error name
  | .ok d =>
    let r := readChars d.declaration.standalone d.chars
    .ok { r with wellFormed := r.wellFormed && d.whole }

end Tablekeep.Markup
