import Tablekeep.Toml.Scan

/-!
# Configurations

A configuration is read line by line. A line gives a key its value in the table that is open, or
opens a table by its key, or opens a new table at the end of an array. No key is given twice, and no
table is opened twice; a value that is written out in one place, with braces or in square brackets,
is not changed from another.
-/

namespace Tablekeep.Toml

/-! ## Tables -/

/-- The table with another value under a key that it has. -/
def replaced (key : String) (value : Value) (t : Table) : Table :=
  t.map fun (k, v) => if k = key then (key, value) else (k, v)

/-- Changes the table at a key, whose missing parts are made. With `throughArrays`, the last item
stands for an array on the way. -/
def changeAt (throughArrays : Bool) (f : Table → Option Table) : List String → Table → Option Table
  | [], t => f t
  | key :: rest, t =>
    match t.lookup key with
    | none => (changeAt throughArrays f rest []).map fun sub => t ++ [(key, .table sub)]
    | some (.table sub) =>
      (changeAt throughArrays f rest sub).map fun sub => replaced key (.table sub) t
    | some (.array items) =>
      match throughArrays, items.getLast? with
      | true, some (.table sub) =>
        (changeAt throughArrays f rest sub).map fun sub =>
          replaced key (.array (items.dropLast ++ [.table sub])) t
      | _, _ => none
    | some _ => none

/-- The table with a new entry. -/
def insert? (key : String) (value : Value) (t : Table) : Option Table :=
  if (t.lookup key).isSome then none else some (t ++ [(key, value)])

/-- Gives a key its value. -/
def put? (throughArrays : Bool) (key : List String) (value : Value) (t : Table) : Option Table :=
  changeAt throughArrays (insert? (key.getLastD "") value) key.dropLast t

/-- Opens a new table at the end of the array at a key. -/
def push? (key : List String) (t : Table) : Option Table :=
  let last := key.getLastD ""
  changeAt true
    (fun t =>
      match t.lookup last with
      | none => some (t ++ [(last, .array [.table []])])
      | some (.array items) => some (replaced last (.array (items ++ [.table []])) t)
      | some _ => none)
    key.dropLast t

/-- The value has parts. -/
def Value.isCompound : Value → Bool
  | .array _ => true
  | .table _ => true
  | _ => false

/-- A key in `frozen` leads to the key. -/
def isFrozen (frozen : List (List String)) (key : List String) : Bool :=
  frozen.any fun k => k.isPrefixOf key

/-! ## Values -/

mutual

/-- A value, and the rest. Every step into a value takes one of `fuel`. -/
def valueFrom : Nat → List Char → Option (Value × List Char)
  | 0, _ => none
  | fuel + 1, cs =>
    match cs with
    | '[' :: rest => do
      match ← skipLines? rest.length rest with
      | ']' :: rest => return (.array [], rest)
      | rest =>
        let (items, rest) ← itemsFrom fuel rest
        return (.array items, rest)
    | '\x7b' :: rest =>
      match skipBlanks rest with
      | '\x7d' :: rest => some (.table [], rest)
      | rest => do
        let (entries, rest) ← entriesFrom fuel [] [] rest
        return (.table entries, rest)
    | cs => scalar? cs

/-- The items of an array up to its bracket, and the rest. -/
def itemsFrom : Nat → List Char → Option (List Value × List Char)
  | 0, _ => none
  | fuel + 1, cs => do
    let (item, rest) ← valueFrom fuel cs
    match ← skipLines? rest.length rest with
    | ']' :: rest => return ([item], rest)
    | ',' :: rest =>
      match ← skipLines? rest.length rest with
      | ']' :: rest => return ([item], rest)
      | rest =>
        let (items, rest) ← itemsFrom fuel rest
        return (item :: items, rest)
    | _ => none

/-- The entries of a table in braces after those in `done`, and the rest. -/
def entriesFrom : Nat → List (List String) → Table → List Char → Option (Table × List Char)
  | 0, _, _, _ => none
  | fuel + 1, frozen, done, cs => do
    let (key, cs) ← key? cs
    let (value, rest) ← valueFrom fuel (skipBlanks (← after? '=' cs))
    if isFrozen frozen key then none
    let done ← put? false key value done
    match skipBlanks rest with
    | '\x7d' :: rest => return (done, rest)
    | ',' :: rest =>
      let frozen := if value.isCompound then key :: frozen else frozen
      entriesFrom fuel frozen done (skipBlanks rest)
    | _ => none

end

/-- A value, and the rest. -/
def value? (cs : List Char) : Option (Value × List Char) :=
  valueFrom (cs.length + 1) cs

/-! ## Lines -/

/-- What has been read. -/
structure Progress where
  table : Table
  /-- The key of the table that is open. -/
  header : List String
  /-- The keys of tables that cannot be opened any more. -/
  closed : List (List String)
  /-- The keys of tables that cannot be opened once another table is. -/
  pending : List (List String)
  /-- The keys of values that are written out in one place. -/
  frozen : List (List String)

namespace Progress

/-- Nothing has been read. -/
def initial : Progress := ⟨[], [], [], [], []⟩

/-- Another table is going to be opened. -/
def settled (p : Progress) : Progress :=
  { p with closed := p.closed ++ p.pending, pending := [] }

/-- Opens the table at a key. -/
def openTable (p : Progress) (key : List String) : Option Progress := do
  if p.closed.contains key || isFrozen p.frozen key then none
  let table ← changeAt true some key p.table
  return { p with table := table, header := key, closed := key :: p.closed }

/-- Opens a new table at the end of the array at a key. What was closed inside its other tables is
open again. -/
def openItem (p : Progress) (key : List String) : Option Progress := do
  if isFrozen p.frozen key then none
  let table ← push? key p.table
  let outside : List String → Bool := fun k => !key.isPrefixOf k
  return { p with
    table := table
    header := key
    closed := key :: p.closed.filter outside
    frozen := p.frozen.filter outside }

/-- The keys on the way to a key in the open table, except the last. -/
def way (p : Progress) (key : List String) : List (List String) :=
  (List.range (key.length - 1)).map fun i => p.header ++ key.take (i + 1)

/-- Gives a key its value in the open table. -/
def enter (p : Progress) (key : List String) (value : Value) : Option Progress := do
  if (p.way key).any p.closed.contains || isFrozen p.frozen (p.header ++ key.dropLast) then none
  let table ← put? true (p.header ++ key) value p.table
  return { p with
    table := table
    pending := p.pending ++ p.way key
    frozen := if value.isCompound then (p.header ++ key) :: p.frozen else p.frozen }

/-- Reads the statement in a line, and gives the rest after it. -/
def statement (p : Progress) (cs : List Char) : Option (Progress × List Char) :=
  match cs with
  | '[' :: '[' :: rest => do
    let (key, rest) ← key? (skipBlanks rest)
    return (← p.settled.openItem key, ← after? ']' (← after? ']' rest))
  | '[' :: rest => do
    let (key, rest) ← key? (skipBlanks rest)
    return (← p.settled.openTable key, ← after? ']' rest)
  | cs => do
    let (key, rest) ← key? cs
    let (value, rest) ← value? (skipBlanks (← after? '=' rest))
    return (← p.enter key value, rest)

/-- Reads lines, of which there are at most `fuel`. -/
def lines : Nat → Progress → List Char → Option Progress
  | 0, p, cs => if cs.isEmpty then some p else none
  | fuel + 1, p, cs =>
    match skipBlanks cs with
    | [] => some p
    | '\n' :: rest => p.lines fuel rest
    | cs => do
      let (p, rest) ← if cs.head? = some '#' then some (p, cs) else p.statement cs
      match ← skipComment? (skipBlanks rest) with
      | [] => some p
      | '\n' :: rest => p.lines fuel rest
      | _ => none

end Progress

/-- The characters with a line feed for every carriage return and line feed together. -/
def joinLineEnds : List Char → List Char
  | '\r' :: '\n' :: cs => '\n' :: joinLineEnds cs
  | c :: cs => c :: joinLineEnds cs
  | [] => []

/-- The table that a configuration spells; nothing where it is malformed. -/
def read? (s : String) : Option Table :=
  let cs := joinLineEnds s.toList
  (Progress.initial.lines (cs.length + 1) cs).map (·.table)

end Tablekeep.Toml
