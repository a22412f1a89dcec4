import Tablekeep.Proofs.Definition.Grammar

/-!
# A definition in separate fields

A `Draft` holds how far a definition has been read as one value, so it cannot hold columns without
a table or a table without a database, and a statement that is refused gives no new value to hold.
Nothing of this is built into a `Parser`. It has a field for the phase, for the name of the
database, for the closed tables, for the name of the open one and for its columns; each of them is
set on its own, a name may be missing wherever one is kept, and a handler that fails leaves
whatever it had set until then.

Parser and draft nevertheless do the same. From the parser that shows a draft, a call leads to the
parser that shows the next draft, with the same answer (`feed_ofDraft`, `finish_ofDraft`), and so
does any number of calls (`foldl_after_fresh`). What is proved of all parsers that calls lead to is
therefore proved of the drafts that are used to read definitions.
-/

namespace Tablekeep

/-- A table that may lack a name. -/
structure LooseTable where
  name : Option String
  columns : List Column
  deriving DecidableEq, Repr

/-- A table with a name. -/
def LooseTable.ofTable (t : Table) : LooseTable :=
  ⟨some t.name, t.columns⟩

/-- A database that may lack a name, as may its tables. -/
structure LooseDatabase where
  name : Option String
  tables : List LooseTable
  deriving DecidableEq, Repr

/-- A database in which all names are there. -/
def LooseDatabase.ofDatabase (d : Database) : LooseDatabase :=
  ⟨some d.name, d.tables.map .ofTable⟩

/-- What a statement may be, if it is not refused. -/
inductive Phase where
  | database
  | tableOrEnd
  | inTable
  deriving DecidableEq, Repr

/-- A definition of which some lines have been read, field by field. -/
structure Parser where
  /-- What the definition is called in reports. -/
  source : String
  phase : Phase
  database : Option String
  /-- The tables that have been closed. -/
  tables : List LooseTable
  /-- The name of the table that is open. -/
  table : Option String
  /-- The columns of the open table. -/
  columns : List Column
  /-- The line of the last statement; zero before the first. -/
  line : Int
  /-- The last statement, without blanks around it; empty before the first. -/
  statement : String
  deriving DecidableEq, Repr

namespace Parser

/-- Why a call fails. -/
inductive Stop where
  | refused (report : DefinitionError)
  /-- A name is compared with the name of a table that has none. -/
  | nameless
  deriving DecidableEq, Repr

/-- What sets fields one after another. Where it fails, the fields stay as they are by then. -/
abbrev Handler (α : Type) := EStateM Stop Parser α

/-- Nothing has been read. -/
def fresh (source : String) : Parser where
  source := source
  phase := .database
  database := none
  tables := []
  table := none
  columns := []
  line := 0
  statement := ""

/-- A name as it is shown in a report, which is there even if the name is not. -/
def shown (name : Option String) : String :=
  name.getD "None"

/-- The report of a fault at the last statement. -/
def report (p : Parser) (fault : DefinitionFault) : DefinitionError :=
  ⟨fault, p.source, if p.line = 0 then none else some p.line,
    if p.statement.isEmpty then none else some p.statement⟩

/-! ## Handlers -/

def fail {α : Type} (fault : DefinitionFault) : Handler α := do
  throw (.refused ((← get).report fault))

def failIf (b : Bool) (fault : DefinitionFault) : Handler Unit :=
  if b then fail fault else pure ()

/-- What the modifiers of a column have said so far. -/
structure Flags where
  isIdentity : Bool
  isNullable : Bool
  isIndex : Bool
  foreignKey : Option String

/-- The flags after the words of some modifiers, which are taken one after another. -/
def readFlags (f : Flags) : List String → Handler Flags
  | [] => return f
  | w :: ws =>
    match Text.upper w with
    | "IDENTITY" => readFlags { f with isIdentity := true, isNullable := false } ws
    | "INDEX" => readFlags { f with isIndex := true } ws
    | "NULL" => readFlags { f with isNullable := true } ws
    | "NOT" =>
      match ws with
      | [] => fail .notWithoutNull
      | v :: vs =>
        if Text.upper v = "NULL" then readFlags { f with isNullable := false } vs
        else fail .notWithoutNull
    | "FKEY" =>
      match ws with
      | [] => fail .foreignKeyMissing
      | v :: vs => readFlags { f with foreignKey := some v } vs
    | _ => fail (.unknownModifier w)

/-- The column that flags come to, if they go together. -/
def checkedColumn (name declared : String) (f : Flags) : Handler Column := do
  failIf (f.isIdentity && f.isIndex) .identityIndex
  failIf (f.isIdentity && f.isNullable) .identityNullable
  failIf (f.isIdentity && f.foreignKey.isSome) .identityForeignKey
  failIf (ValueKind.ofType declared == .binary
    && (f.isIdentity || f.isIndex || f.foreignKey.isSome)) (.blobKey name)
  return ⟨name, declared, .ofType declared, f.isIdentity, f.isNullable, f.isIndex, f.foreignKey⟩

/-- The column that a name, a type and the words after them declare. -/
def parseColumn (name declared : String) (rest : List String) : Handler Column := do
  let f ← readFlags ⟨false, true, false, none⟩ rest
  checkedColumn name declared f

/-- Some table has the name, in any letter case. -/
def hasTable (name : String) : List LooseTable → Handler Bool
  | [] => return false
  | t :: ts =>
    -- only what comes before the table that has it is looked at
    match t.name with
    | none => throw .nameless
    | some n => if Text.sameName n name then return true else hasTable name ts

/-- The statement that names the database. -/
def parseDatabase (w : String) (ws : List String) : Handler Unit := do
  failIf (Text.upper w != "DATABASE") .databaseExpected
  match ws with
  | [name] =>
    modify fun p => { p with database := some name }
    modify fun p => { p with phase := .tableOrEnd }
  | _ => fail .databaseWords

/-- A statement that opens a table. -/
def parseTable (w : String) (ws : List String) : Handler Unit := do
  failIf (Text.upper w != "TABLE") .tableExpected
  match ws with
  | [name] =>
    let taken ← hasTable name (← get).tables
    failIf taken (.duplicateTable name)
    modify fun p => { p with table := some name }
    modify fun p => { p with columns := [] }
    modify fun p => { p with phase := .inTable }
  | _ => fail .tableWords

/-- The open table has all its columns. -/
def closeTable : Handler Unit := do
  let p ← get
  failIf p.columns.isEmpty (.noColumns (shown p.table))
  modify fun p => { p with tables := p.tables ++ [⟨p.table, p.columns⟩] }
  modify fun p => { p with table := none }
  modify fun p => { p with columns := [] }
  modify fun p => { p with phase := .tableOrEnd }

/-- A column joins the open table. -/
def addColumn (c : Column) : Handler Unit := do
  let p ← get
  failIf (Progress.hasColumn p.columns c.name) (.duplicateColumn (shown p.table) c.name)
  failIf (c.isIdentity && p.columns.any (·.isIdentity)) (.secondIdentity (shown p.table))
  modify fun p => { p with columns := p.columns ++ [c] }

/-- A statement inside a table. -/
def parseTableBody (w : String) (ws : List String) : Handler Unit := do
  match ws with
  | [] =>
    failIf (Text.upper w != "END") .loneWord
    closeTable
  | declared :: rest =>
    let c ← parseColumn w declared rest
    addColumn c

/-- A statement is taken for what it may be. -/
def parseStatement : Phase → String → List String → Handler Unit
  | .database => parseDatabase
  | .tableOrEnd => parseTable
  | .inTable => parseTableBody

/-- One more line. -/
def feed (text : String) (line : Int) : Handler Unit :=
  match Text.words text with
  | [] => return ()
  | w :: ws => do
    modify fun p => { p with line := line }
    modify fun p => { p with statement := Text.trim text }
    parseStatement (← get).phase w ws

/-- The database that has been read, with whatever names it has by now. -/
def finish : Handler LooseDatabase := do
  let p ← get
  failIf (p.phase == .database) .noDatabase
  failIf (p.phase == .inTable) (.noEnd (shown p.table))
  return ⟨p.database, p.tables⟩

end Parser

/-! ## What a progress shows -/

namespace Progress

def phase : Progress → Phase
  | start => .database
  | between _ _ => .tableOrEnd
  | inside _ _ _ _ => .inTable

/-- The name of the database. -/
def database? : Progress → Option String
  | start => none
  | between database _ => some database
  | inside database _ _ _ => some database

/-- The tables that have been read to their end. -/
def closed : Progress → List Table
  | start => []
  | between _ tables => tables
  | inside _ tables _ _ => tables

/-- The name of the table that is being read. -/
def opened? : Progress → Option String
  | inside _ _ table _ => some table
  | _ => none

/-- The columns of that table so far. -/
def pending : Progress → List Column
  | inside _ _ _ columns => columns
  | _ => []

end Progress

namespace Parser

/-- The parser that shows a draft. -/
def ofDraft (d : Draft) : Parser where
  source := d.source
  phase := d.progress.phase
  database := d.progress.database?
  tables := d.progress.closed.map .ofTable
  table := d.progress.opened?
  columns := d.progress.pending
  line := d.line
  statement := d.statement

/-! ## Checks of a draft as handlers -/

section Checks

/-- The value, or the refusal. -/
def ofExcept {α : Type} : Except DefinitionFault α → Handler α
  | .ok a => pure a
  | .error fault => fail fault

/-- The flags of a column. -/
def Flags.ofColumn (c : Column) : Flags :=
  ⟨c.isIdentity, c.isNullable, c.isIndex, c.foreignKey⟩

theorem map_flags_cons (c : Column) (m : Modifier)
    (x : Except DefinitionFault (List Modifier)) :
    ((x.map (m :: ·)).map fun ms => Flags.ofColumn (ms.foldl Modifier.apply c))
      = x.map fun ms => .ofColumn (ms.foldl Modifier.apply (m.apply c)) := by
  cases x <;> rfl

/-- Flags that are set while the words are read are the ones that the modifiers set. -/
theorem readFlags_ofColumn (c : Column) (ws : List String) :
    readFlags (.ofColumn c) ws
      = ofExcept ((Modifier.ofWords ws).map fun ms => .ofColumn (ms.foldl Modifier.apply c)) := by
  fun_induction Modifier.ofWords ws generalizing c with
  | case1 => rfl
  | case2 w ws hw ih | case3 w ws hw ih | case4 w ws hw ih =>
      -- one word is one modifier
      rw [readFlags.eq_def, map_flags_cons, ← ih]
      simp only [hw]
      rfl
  | case6 w hw v vs hv ih =>
      rw [readFlags.eq_def, map_flags_cons, ← ih]
      simp only [hw, hv, if_true]
      rfl
  | case9 w hw v vs ih =>
      rw [readFlags.eq_def, map_flags_cons, ← ih]
      simp only [hw]
      rfl
  | case5 w hw | case8 w hw =>
      -- the second word is missing
      rw [readFlags.eq_def]
      simp only [hw]
      rfl
  | case7 w hw v vs hv =>
      rw [readFlags.eq_def]
      simp only [hw, hv, if_false]
      rfl
  | case10 w ws hidentity hindex hnull hnot hkey =>
      rw [readFlags.eq_def]
      simp only
      rfl

/-- The checks of a column are made in the same order. -/
theorem checkedColumn_ofColumn {c : Column} {name declared : String} (hname : c.name = name)
    (hdeclared : c.declared = declared) (hkind : c.kind = .ofType c.declared) :
    checkedColumn name declared (.ofColumn c)
      = ofExcept (match c.fault? with
        | some fault => .error fault
        | none => .ok c) := by
  subst hname hdeclared
  obtain ⟨name, declared, kind, isIdentity, isNullable, isIndex, foreignKey⟩ := c
  obtain rfl : kind = .ofType declared := hkind
  unfold Column.fault? Column.isBlob checkedColumn
  dsimp only [Flags.ofColumn]
  cases hblob : ValueKind.ofType declared == .binary <;> cases isIdentity <;> cases isNullable <;>
    cases isIndex <;> cases foreignKey <;> rfl

theorem parseColumn_eq (name declared : String) (rest : List String) :
    parseColumn name declared rest = ofExcept (Column.ofWords name declared rest) := by
  have hplain : (⟨false, true, false, none⟩ : Flags) = .ofColumn (.plain name declared) := rfl
  rw [parseColumn, Column.ofWords, hplain, readFlags_ofColumn]
  cases Modifier.ofWords rest with
  | error fault => rfl
  | ok modifiers =>
      -- the modifiers leave the name and the type alone
      have hfold := Modifier.foldl_apply modifiers (Column.plain name declared)
      exact checkedColumn_ofColumn (by rw [hfold]; rfl) (by rw [hfold]; rfl) (by rw [hfold]; rfl)

/-- Among tables with names a name is looked for without failing. -/
theorem hasTable_ofTable (name : String) (tables : List Table) :
    hasTable name (tables.map .ofTable) = pure (Progress.hasTable tables name) := by
  induction tables with
  | nil => rfl
  | cons t ts ih =>
      rw [List.map_cons, hasTable, ih]
      unfold Progress.hasTable
      rw [List.any_cons]
      dsimp only [LooseTable.ofTable]
      cases Text.sameName t.name name <;> rfl

end Checks

/-! ## One statement -/

section Statements

variable {d : Draft} {w : String} {ws : List String}

/-- What a statement comes to that leads a draft to the progress, or is refused. -/
def reached (d : Draft) : Except DefinitionFault Progress → EStateM.Result Stop Parser Unit
  | .ok progress => .ok () (ofDraft { d with progress := progress })
  | .error fault => .error (.refused (d.report fault)) (ofDraft d)

theorem parseDatabase_ofDraft (h : d.progress = .start) :
    (parseDatabase w ws).run (ofDraft d) = reached d (d.progress.step (w :: ws)) := by
  obtain ⟨source, progress, line, statement⟩ := d
  obtain rfl : progress = .start := h
  dsimp only [parseDatabase, Progress.step]
  by_cases hw : Text.upper w = "DATABASE"
  · rw [if_pos hw, show (Text.upper w != "DATABASE") = false by rw [hw]; rfl]
    match ws with
    | [] => rfl
    | [name] => rfl
    | _ :: _ :: _ => rfl
  · rw [if_neg hw, show (Text.upper w != "DATABASE") = true from bne_iff_ne.mpr hw]
    rfl

theorem parseTable_ofDraft {database : String} {tables : List Table}
    (h : d.progress = .between database tables) :
    (parseTable w ws).run (ofDraft d) = reached d (d.progress.step (w :: ws)) := by
  obtain ⟨source, progress, line, statement⟩ := d
  obtain rfl : progress = .between database tables := h
  dsimp only [parseTable, Progress.step]
  by_cases hw : Text.upper w = "TABLE"
  · rw [if_pos hw, show (Text.upper w != "TABLE") = false by rw [hw]; rfl]
    match ws with
    | [] => rfl
    | [name] =>
        change ((do
          let taken ← hasTable name (tables.map .ofTable)
          failIf taken (.duplicateTable name)
          modify fun p => { p with table := some name }
          modify fun p => { p with columns := [] }
          modify fun p => { p with phase := .inTable } : Handler Unit)).run _ = _
        rw [hasTable_ofTable]
        dsimp only
        cases Progress.hasTable tables name <;> rfl
    | _ :: _ :: _ => rfl
  · rw [if_neg hw, show (Text.upper w != "TABLE") = true from bne_iff_ne.mpr hw]
    rfl

theorem closeTable_run (p : Parser) :
    closeTable.run p
      = if p.columns.isEmpty then .error (.refused (p.report (.noColumns (shown p.table)))) p
        else .ok () { p with
          tables := p.tables ++ [⟨p.table, p.columns⟩]
          table := none
          columns := []
          phase := .tableOrEnd } := by
  obtain ⟨_, _, _, _, _, columns, _, _⟩ := p
  cases columns <;> rfl

theorem addColumn_run (c : Column) (p : Parser) :
    (addColumn c).run p
      = if Progress.hasColumn p.columns c.name then
          .error (.refused (p.report (.duplicateColumn (shown p.table) c.name))) p
        else if c.isIdentity && p.columns.any (·.isIdentity) then
          .error (.refused (p.report (.secondIdentity (shown p.table)))) p
        else .ok () { p with columns := p.columns ++ [c] } := by
  change ((do
    failIf (Progress.hasColumn p.columns c.name) (.duplicateColumn (shown p.table) c.name)
    failIf (c.isIdentity && p.columns.any (·.isIdentity)) (.secondIdentity (shown p.table))
    modify fun p => { p with columns := p.columns ++ [c] } : Handler Unit)).run p = _
  cases Progress.hasColumn p.columns c.name with
  | true => rfl
  | false => cases c.isIdentity && p.columns.any (·.isIdentity) <;> rfl

theorem parseTableBody_ofDraft {database table : String} {tables : List Table}
    {columns : List Column} (h : d.progress = .inside database tables table columns) :
    (parseTableBody w ws).run (ofDraft d) = reached d (d.progress.step (w :: ws)) := by
  obtain ⟨source, progress, line, statement⟩ := d
  obtain rfl : progress = .inside database tables table columns := h
  match ws with
  | [] =>
      dsimp only [parseTableBody, Progress.step]
      by_cases hw : Text.upper w = "END"
      · rw [if_pos hw, show (Text.upper w != "END") = false by rw [hw]; rfl]
        refine (closeTable_run _).trans ?_
        cases columns with
        | nil => rfl
        | cons c cs =>
            -- the table that was open is now the last of the closed ones
            have hclosed : (tables ++ [(⟨table, c :: cs⟩ : Table)]).map LooseTable.ofTable
                = tables.map .ofTable ++ [⟨some table, c :: cs⟩] := List.map_append
            exact congrArg (fun closed => EStateM.Result.ok ()
              (⟨source, .tableOrEnd, some database, closed, none, [], line, statement⟩ : Parser))
              hclosed.symm
      · rw [if_neg hw, show (Text.upper w != "END") = true from bne_iff_ne.mpr hw]
        rfl
  | declared :: rest =>
      dsimp only [parseTableBody, Progress.step]
      rw [parseColumn_eq]
      cases Column.ofWords w declared rest with
      | error fault => rfl
      | ok c =>
          refine (addColumn_run c _).trans ?_
          change _ = reached _ ((Progress.addColumn table columns c).map
            fun columns => .inside database tables table columns)
          rw [Progress.addColumn]
          by_cases hname : Progress.hasColumn columns c.name
          · rw [if_pos hname]
            exact if_pos hname
          · rw [if_neg hname]
            refine (if_neg hname).trans ?_
            by_cases hidentity : c.isIdentity && columns.any (·.isIdentity)
            · rw [if_pos hidentity]
              exact if_pos hidentity
            · rw [if_neg hidentity]
              exact if_neg hidentity

theorem parseStatement_ofDraft (d : Draft) (w : String) (ws : List String) :
    (parseStatement d.progress.phase w ws).run (ofDraft d)
      = reached d (d.progress.step (w :: ws)) := by
  obtain ⟨source, progress, line, statement⟩ := d
  cases progress with
  | start => exact parseDatabase_ofDraft rfl
  | between database tables => exact parseTable_ofDraft rfl
  | inside database tables table columns => exact parseTableBody_ofDraft rfl

end Statements

/-! ## One call -/

/-- **A line does to a parser what it does to the draft.** -/
theorem feed_ofDraft (d : Draft) (text : String) (line : Int) :
    (feed text line).run (ofDraft d)
      = match d.feed text line with
        | (d', none) => .ok () (ofDraft d')
        | (d', some e) => .error (.refused e) (ofDraft d') := by
  rw [feed, Draft.feed]
  cases Text.words text with
  | nil => rfl
  | cons w ws =>
      have hstatement := parseStatement_ofDraft
        { d with line := line, statement := Text.trim text } w ws
      refine hstatement.trans ?_
      dsimp only
      cases d.progress.step (w :: ws) <;> rfl

/-- **So does asking for the end.** -/
theorem finish_ofDraft (d : Draft) :
    finish.run (ofDraft d)
      = match d.finish with
        | .ok db => .ok (.ofDatabase db) (ofDraft d)
        | .error e => .error (.refused e) (ofDraft d) := by
  obtain ⟨source, progress, line, statement⟩ := d
  cases progress <;> rfl

end Parser

/-! ## Calls -/

/-- What a draft or a parser can be asked. -/
inductive DraftCall where
  | feed (text : String) (line : Int)
  | finish
  deriving DecidableEq, Repr

/-- A call with what it came to: a database if the end was asked for, and nothing for a line. -/
structure Answered (ε α : Type) where
  call : DraftCall
  answer : Except ε (Option α)

/-- The call fed a line, and the line was refused. -/
def Answered.isRefusedLine {ε α : Type} : Answered ε α → Bool
  | ⟨.feed _ _, .error _⟩ => true
  | _ => false

namespace Draft

/-- The draft after a call. Asking for the end leaves it as it is. -/
def after (d : Draft) : DraftCall → Draft
  | .feed text line => (d.feed text line).1
  | .finish => d

/-- What a call comes to. -/
def answer (d : Draft) : DraftCall → Except DefinitionError (Option Database)
  | .feed text line =>
    match (d.feed text line).2 with
    | none => .ok none
    | some e => .error e
  | .finish => d.finish.map some

/-- The calls with what they come to, one after another. -/
def answers (d : Draft) : List DraftCall → List (Answered DefinitionError Database)
  | [] => []
  | call :: calls => ⟨call, d.answer call⟩ :: (d.after call).answers calls

end Draft

namespace Parser

/-- A call as a handler. -/
def call : DraftCall → Handler (Option LooseDatabase)
  | .feed text line => do
    feed text line
    return none
  | .finish => return some (← finish)

/-- The parser that a handler leaves, whether it fails or not. -/
def left {α : Type} : EStateM.Result Stop Parser α → Parser
  | .ok _ p => p
  | .error _ p => p

/-- What a handler comes to. -/
def outcome {α : Type} : EStateM.Result Stop Parser α → Except Stop α
  | .ok a _ => .ok a
  | .error e _ => .error e

/-- The parser after a call. -/
def after (p : Parser) (c : DraftCall) : Parser :=
  left ((call c).run p)

/-- What a call comes to. -/
def answer (p : Parser) (c : DraftCall) : Except Stop (Option LooseDatabase) :=
  outcome ((call c).run p)

/-- The calls with what they come to, one after another. -/
def answers (p : Parser) : List DraftCall → List (Answered Stop LooseDatabase)
  | [] => []
  | c :: cs => ⟨c, p.answer c⟩ :: (p.after c).answers cs

theorem run_bind {α β : Type} (x : Handler α) (k : α → Handler β) (p : Parser) :
    (x >>= k).run p
      = match x.run p with
        | .ok a p' => (k a).run p'
        | .error e p' => .error e p' := by
  change EStateM.bind x k p = _
  rw [EStateM.bind, EStateM.run]
  cases x p <;> rfl

theorem run_call_ofDraft (d : Draft) (c : DraftCall) :
    (call c).run (ofDraft d)
      = match d.answer c with
        | .ok db => .ok (db.map .ofDatabase) (ofDraft (d.after c))
        | .error e => .error (.refused e) (ofDraft (d.after c)) := by
  cases c with
  | feed text line =>
      rw [call, run_bind, feed_ofDraft, Draft.answer, Draft.after]
      cases d.feed text line with
      | mk d' report => cases report <;> rfl
  | finish =>
      rw [call, run_bind, finish_ofDraft, Draft.answer, Draft.after]
      cases d.finish <;> rfl

theorem after_ofDraft (d : Draft) (c : DraftCall) :
    (ofDraft d).after c = ofDraft (d.after c) := by
  rw [after, run_call_ofDraft]
  cases d.answer c <;> rfl

theorem answer_ofDraft (d : Draft) (c : DraftCall) :
    (ofDraft d).answer c = ((d.answer c).map (·.map .ofDatabase)).mapError .refused := by
  rw [answer, run_call_ofDraft]
  cases d.answer c <;> rfl

/-- **After any calls a parser shows the draft that the same calls lead to.** -/
theorem foldl_after_fresh (source : String) (calls : List DraftCall) :
    calls.foldl after (.fresh source) = ofDraft (calls.foldl Draft.after (.empty source)) := by
  have hstart : fresh source = ofDraft (.empty source) := rfl
  rw [hstart]
  exact List.foldl_hom ofDraft after_ofDraft

end Parser

end Tablekeep
