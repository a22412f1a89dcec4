import Tablekeep.Markup.Doctype

/-!
# Qualified names

A qualifier stands for a resource name that an attribute of this element or of one around it binds
to it. The full name of an element is its own name, with the resource name in braces before it if
there is one.
-/

namespace Tablekeep.Markup

/-- The bindings in force, innermost first: the qualifier, or `none` for names without one, and the
resource name. An empty resource name takes back the binding of names without a qualifier. -/
abbrev Scope := List (Option (List Char) × List Char)

/-- An attribute and its value. -/
structure Attribute where
  name : QName
  value : List Char
  deriving DecidableEq, Repr

namespace Scope

/-- The resource name of the reserved qualifier `xml`. -/
def xmlResource : List Char := "http://www.w3.org/XML/1998/namespace".toList

/-- The resource name of the reserved qualifier `xmlns`. -/
def xmlnsResource : List Char := "http://www.w3.org/2000/xmlns/".toList

/-- The bindings in force outside all elements. -/
def initial : Scope := [(some ['x', 'm', 'l'], xmlResource)]

/-- The qualifier that an attribute binds, if it binds one. -/
def bound? (a : Attribute) : Option (Option (List Char)) :=
  let mark := ['x', 'm', 'l', 'n', 's']
  match a.name.qualifier with
  | none => if a.name.base = mark then some none else none
  | some q => if q = mark then some (some a.name.base) else none

/-- A qualifier may be bound to a resource name. The reserved ones stay with each other. -/
def allows (qualifier : Option (List Char)) (resource : List Char) : Bool :=
  let isXml := qualifier = some ['x', 'm', 'l']
  !(qualifier.isSome && resource.isEmpty)
    && qualifier ≠ some ['x', 'm', 'l', 'n', 's']
    && !resource.contains '\x7d'
    && isXml == (resource == xmlResource)
    && resource ≠ xmlnsResource

/-- The bindings inside an element with the given attributes. -/
def inside (s : Scope) : List Attribute → Option Scope
  | [] => some s
  | a :: rest =>
    match bound? a with
    | none => inside s rest
    | some qualifier =>
      if allows qualifier a.value then inside ((qualifier, a.value) :: s) rest else none

/-- The resource name of a qualifier; names without one may have none. -/
def resource? (s : Scope) (qualifier : Option (List Char)) : Option (List Char) :=
  match qualifier with
  | none => some ((s.lookup none).getD [])
  | some q => s.lookup (some q)

/-- The full names of the attributes that have a qualifier; nothing if one is not bound. -/
def attributeNames? (s : Scope) : List Attribute → Option (List (List Char × List Char))
  | [] => some []
  | a :: rest =>
    match a.name.qualifier, bound? a with
    | some q, none => do
      let resource ← s.lookup (some q)
      let others ← s.attributeNames? rest
      return (resource, a.name.base) :: others
    | _, _ => s.attributeNames? rest

/-- The full name of an element. -/
def tag? (s : Scope) (name : QName) : Option String :=
  (s.resource? name.qualifier).map fun resource =>
    String.ofList
      (if resource.isEmpty then name.base else '\x7b' :: resource ++ '\x7d' :: name.base)

end Scope

/-- No entry occurs twice. -/
def allDistinct {α : Type} [BEq α] : List α → Bool
  | [] => true
  | a :: rest => !rest.contains a && allDistinct rest

end Tablekeep.Markup
