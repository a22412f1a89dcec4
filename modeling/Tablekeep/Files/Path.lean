import Tablekeep.Text.Blank

/-!
# Paths

A path is where it starts and the names on the way. Empty names and single dots are dropped when a
path is read, so that two spellings of one path are one value; a double dot is a name like others,
because what it means depends on the files.
-/

namespace Tablekeep.Files

/-- Where a path starts. -/
inductive Anchor where
  /-- Where the work is done. -/
  | here
  | root
  /-- Two slashes are kept as they are. -/
  | doubleRoot
  deriving DecidableEq, Repr

/-- A path in its normal form. -/
structure Path where
  anchor : Anchor
  names : List String
  deriving DecidableEq, Repr

namespace Path

/-! ## Text -/

/-- The start of the path that a text spells. -/
def anchorOf : List Char → Anchor
  | '/' :: '/' :: '/' :: _ => .root
  | '/' :: '/' :: _ => .doubleRoot
  | '/' :: _ => .root
  | _ => .here

/-- The path that a text spells. -/
def ofText (s : String) : Path :=
  ⟨anchorOf s.toList, (Text.pieces '/' s).filter fun name => name != "" && name != "."⟩

/-- The text of the start of a path. -/
def anchorText : Anchor → String
  | .here => ""
  | .root => "/"
  | .doubleRoot => "//"

/-- The text of a path; the path to where the work is done is a dot. -/
def toText (p : Path) : String :=
  if p.anchor = .here ∧ p.names.isEmpty then "." else anchorText p.anchor ++ Text.join "/" p.names

/-! ## Parts -/

/-- The path does not depend on where the work is done. -/
def isAbsolute (p : Path) : Bool :=
  p.anchor != .here

/-- The last name, or nothing. -/
def name (p : Path) : String :=
  p.names.getLast?.getD ""

/-- The path without its last name. -/
def parent (p : Path) : Path :=
  { p with names := p.names.dropLast }

/-- The path `q` seen from `p`. -/
def append (p q : Path) : Path :=
  if q.isAbsolute then q else { p with names := p.names ++ q.names }

/-- The path that the text spells, seen from `p`. -/
def child (p : Path) (s : String) : Path :=
  p.append (ofText s)

/-- The path with another last name. -/
def withName (p : Path) (name : String) : Path :=
  { p with names := p.names.dropLast ++ [name] }

/-! ## Suffixes -/

/-- The characters of a name before its suffix, and the suffix with its dot. A dot at either end of
a name starts no suffix. -/
def splitSuffix (name : List Char) : List Char × List Char :=
  let ending := (name.reverse.takeWhile (· ≠ '.')).reverse
  let stem := name.take (name.length - ending.length - 1)
  if ending.isEmpty || stem.isEmpty then (name, []) else (stem, '.' :: ending)

/-- The suffix of the last name. -/
def suffix (p : Path) : String :=
  String.ofList (splitSuffix p.name.toList).2

/-- The path with another suffix; a path without a name has none. -/
def withSuffix? (p : Path) (suffix : String) : Option Path :=
  if p.name.isEmpty then none
  else some (p.withName (String.ofList (splitSuffix p.name.toList).1 ++ suffix))

/-! ## Double dots -/

/-- The names without double dots, each of which takes back the name before it. -/
def collapseFrom (anchored : Bool) (done : List String) : List String → List String
  | [] => done.reverse
  | name :: rest =>
    if name = ".." then
      match done with
      | [] => collapseFrom anchored (if anchored then [] else [name]) rest
      | last :: before =>
        if last = ".." then collapseFrom anchored (name :: done) rest
        else collapseFrom anchored before rest
    else collapseFrom anchored (name :: done) rest

/-- The path in which double dots stand at the front only. The files are not looked at. -/
def collapse (p : Path) : Path :=
  { p with names := collapseFrom p.isAbsolute [] p.names }

end Path

end Tablekeep.Files
