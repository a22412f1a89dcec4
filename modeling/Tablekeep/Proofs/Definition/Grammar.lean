import Tablekeep.Definition.Draft
import Tablekeep.Proofs.Definition.Validity
import Tablekeep.Proofs.Outcome
import Tablekeep.Proofs.Text.Blank
import Mathlib.Data.List.Forall2

/-!
# The grammar of definitions

A definition is read by a machine that looks at one line at a time. This file says what
the machine accepts without speaking of a machine: the words of the lines that are not
blank spell a `Definition`, which is a name and a list of table blocks, each of them a
name and a list of column lines between `TABLE` and `END`.

* `Definition.Spelled` is the grammar: which words spell which definition. It says
  nothing about repeated names or keys that do not go together.
* `Definition.database` is the meaning: what each column line declares, said of its
  list of modifiers as a whole and not of one modifier after another.
* `Database.Valid` is what is asked of the meaning beyond the grammar.

The main result is that a text is read as a database exactly when its words spell a
definition whose meaning is that database, and the database is valid. Reading it from
left to right, every check of the machine is one of these three; from right to left, the
machine checks nothing else.
-/

namespace Tablekeep

/-! ## Modifiers -/

namespace Modifier

/-- The words spell the modifiers. `NOT NULL` takes two words, and so does a reference,
whose second word may be any. -/
inductive Spelled : List Modifier → List String → Prop where
  | nil : Spelled [] []
  | identity {w : String} {ms : List Modifier} {ws : List String} :
      Text.upper w = "IDENTITY" → Spelled ms ws → Spelled (.identity :: ms) (w :: ws)
  | index {w : String} {ms : List Modifier} {ws : List String} :
      Text.upper w = "INDEX" → Spelled ms ws → Spelled (.index :: ms) (w :: ws)
  | null {w : String} {ms : List Modifier} {ws : List String} :
      Text.upper w = "NULL" → Spelled ms ws → Spelled (.null :: ms) (w :: ws)
  | notNull {w v : String} {ms : List Modifier} {ws : List String} :
      Text.upper w = "NOT" → Text.upper v = "NULL" → Spelled ms ws →
      Spelled (.notNull :: ms) (w :: v :: ws)
  | foreignKey {w : String} (target : String) {ms : List Modifier} {ws : List String} :
      Text.upper w = "FKEY" → Spelled ms ws →
      Spelled (.foreignKey target :: ms) (w :: target :: ws)

theorem spelled_of_ofWords {ws : List String} {ms : List Modifier} (h : ofWords ws = .ok ms) :
    Spelled ms ws := by
  fun_induction ofWords ws generalizing ms with
  | case1 => cases h; exact .nil
  | case2 w ws hw ih =>
      obtain ⟨ms', h', rfl⟩ := Outcome.map_eq_ok_iff.mp h
      exact .identity hw (ih h')
  | case3 w ws hw ih =>
      obtain ⟨ms', h', rfl⟩ := Outcome.map_eq_ok_iff.mp h
      exact .index hw (ih h')
  | case4 w ws hw ih =>
      obtain ⟨ms', h', rfl⟩ := Outcome.map_eq_ok_iff.mp h
      exact .null hw (ih h')
  | case5 w hw => cases h
  | case6 w hw v vs hv ih =>
      obtain ⟨ms', h', rfl⟩ := Outcome.map_eq_ok_iff.mp h
      exact .notNull hw hv (ih h')
  | case7 w hw v vs hv => cases h
  | case8 w hw => cases h
  | case9 w hw v vs ih =>
      obtain ⟨ms', h', rfl⟩ := Outcome.map_eq_ok_iff.mp h
      exact .foreignKey v hw (ih h')
  | case10 => cases h

theorem Spelled.ofWords {ws : List String} {ms : List Modifier} (h : Spelled ms ws) :
    ofWords ws = .ok ms := by
  induction h with
  | nil => rfl
  | identity hw _ ih =>
      rw [Modifier.ofWords.eq_def]
      simp only [hw, ih, Except.map]
  | index hw _ ih =>
      rw [Modifier.ofWords.eq_def]
      simp only [hw, ih, Except.map]
  | null hw _ ih =>
      rw [Modifier.ofWords.eq_def]
      simp only [hw, ih, Except.map]
  | notNull hw hv _ ih =>
      rw [Modifier.ofWords.eq_def]
      simp only [hw, hv, ih, Except.map, ↓reduceIte]
  | foreignKey target hw _ ih =>
      rw [Modifier.ofWords.eq_def]
      simp only [hw, ih, Except.map]

/-- What a modifier says of null, if it says anything. -/
def nullability? : Modifier → Option Bool
  | identity => some false
  | null => some true
  | notNull => some false
  | index => none
  | foreignKey _ => none

/-- What a modifier refers to, if it is a reference. -/
def target? : Modifier → Option String
  | foreignKey target => some target
  | _ => none

end Modifier

/-! ## Column lines -/

/-- A line that declares a column. -/
structure ColumnLine where
  name : String
  declared : String
  modifiers : List Modifier

namespace ColumnLine

/-- The words spell the line. -/
def Spelled (l : ColumnLine) (words : List String) : Prop :=
  ∃ rest, words = l.name :: l.declared :: rest ∧ Modifier.Spelled l.modifiers rest

/-- The column that the line declares. The last modifier that says something of null counts, and so
does the last reference. -/
def column (l : ColumnLine) : Column where
  name := l.name
  declared := l.declared
  kind := .ofType l.declared
  isIdentity := decide (.identity ∈ l.modifiers)
  isNullable := (l.modifiers.filterMap Modifier.nullability?).getLast?.getD true
  isIndex := decide (.index ∈ l.modifiers)
  foreignKey := (l.modifiers.filterMap Modifier.target?).getLast?

end ColumnLine

/-- Modifiers that are applied one after another come to what they say together. -/
theorem Modifier.foldl_apply (ms : List Modifier) (c : Column) :
    ms.foldl Modifier.apply c =
      { c with
        isIdentity := c.isIdentity || decide (.identity ∈ ms)
        isNullable := (ms.filterMap nullability?).getLast?.getD c.isNullable
        isIndex := c.isIndex || decide (.index ∈ ms)
        foreignKey := (ms.filterMap target?).getLast?.or c.foreignKey } := by
  induction ms generalizing c with
  | nil => simp
  | cons m ms ih =>
      rw [List.foldl_cons, ih]
      cases m <;> simp [Modifier.apply, nullability?, target?, List.getLast?_cons]

/-- A column has no fault exactly when it is valid. -/
theorem Column.fault?_eq_none_iff {c : Column} (hk : c.kind = .ofType c.declared) :
    c.fault? = none ↔ c.Valid := by
  have hvalid : c.Valid ↔ (c.isIdentity = true →
        c.isNullable = false ∧ c.isIndex = false ∧ c.foreignKey = none ∧ c.isBlob = false)
      ∧ (c.isBlob = true → c.isIndex = false ∧ c.foreignKey = none) :=
    ⟨fun h => ⟨h.identity, h.blob⟩, fun h => ⟨hk, h.1, h.2⟩⟩
  rw [hvalid]
  unfold Column.fault?
  cases c.isIdentity <;> cases c.isIndex <;> cases c.isNullable <;> cases c.isBlob <;>
    cases c.foreignKey <;> simp

theorem Column.ofWords_eq_ok_iff {name declared : String} {rest : List String} {c : Column} :
    Column.ofWords name declared rest = .ok c ↔
      ∃ ms, Modifier.Spelled ms rest ∧ c = (⟨name, declared, ms⟩ : ColumnLine).column
        ∧ c.Valid := by
  have hmeaning : ∀ ms, ms.foldl Modifier.apply (Column.plain name declared)
      = (⟨name, declared, ms⟩ : ColumnLine).column := by
    intro ms
    rw [Modifier.foldl_apply]
    simp [Column.plain, ColumnLine.column]
  constructor
  · intro h
    obtain ⟨ms, hms, h⟩ := Outcome.bind_eq_ok_iff.mp h
    dsimp only at h
    rw [hmeaning] at h
    split at h
    · cases h
    · rename_i hfault
      cases h
      exact ⟨ms, Modifier.spelled_of_ofWords hms, rfl,
        (Column.fault?_eq_none_iff rfl).mp hfault⟩
  · rintro ⟨ms, hms, rfl, hvalid⟩
    refine Outcome.bind_eq_ok_iff.mpr ⟨ms, hms.ofWords, ?_⟩
    dsimp only
    rw [hmeaning, (Column.fault?_eq_none_iff rfl).mpr hvalid]

/-! ## Definitions -/

/-- The lines from `TABLE` to `END`. -/
structure TableBlock where
  name : String
  columns : List ColumnLine

namespace TableBlock

/-- The words of the lines spell the block. A line inside it has two words at least, so that `END`
can also be the name of a column. -/
inductive Spelled (b : TableBlock) : List (List String) → Prop where
  | lines {opening ending : String} {body : List (List String)} :
      Text.upper opening = "TABLE" → Text.upper ending = "END" → b.columns ≠ [] →
      List.Forall₂ ColumnLine.Spelled b.columns body →
      Spelled b ([opening, b.name] :: (body ++ [[ending]]))

/-- The table that the block declares. -/
def table (b : TableBlock) : Table :=
  ⟨b.name, b.columns.map (·.column)⟩

end TableBlock

/-- A whole definition. -/
structure Definition where
  name : String
  blocks : List TableBlock

namespace Definition

/-- The words of the lines spell the definition. -/
inductive Spelled (d : Definition) : List (List String) → Prop where
  | lines {opening : String} {blocks : List (List (List String))} :
      Text.upper opening = "DATABASE" →
      List.Forall₂ TableBlock.Spelled d.blocks blocks →
      Spelled d ([opening, d.name] :: blocks.flatten)

/-- The database that the definition declares, with tables and columns in the order of the lines. -/
def database (d : Definition) : Database :=
  ⟨d.name, d.blocks.map (·.table)⟩

end Definition

/-! ## Reading statements -/

/-- The words of the lines that are not blank. -/
def wordLines (text : String) : List (List String) :=
  ((Text.lines text).filter fun line => !decide (Text.Blank line)).map Text.words

namespace Progress

/-- The database that further statements lead to. -/
def readOn (p : Progress) : List (List String) → Except DefinitionFault Database
  | [] => p.close
  | ws :: rest =>
    match p.step ws with
    | .ok q => q.readOn rest
    | .error fault => .error fault

theorem readOn_cons {p q : Progress} {ws : List String} {rest : List (List String)}
    (h : p.step ws = .ok q) : p.readOn (ws :: rest) = q.readOn rest := by
  rw [readOn, h]

theorem readOn_cons_eq_ok {p : Progress} {ws : List String} {rest : List (List String)}
    {db : Database} (h : p.readOn (ws :: rest) = .ok db) :
    ∃ q, p.step ws = .ok q ∧ q.readOn rest = .ok db := by
  rw [readOn] at h
  split at h
  · rename_i q hq
    exact ⟨q, hq, h⟩
  · cases h

/-! ### One statement -/

theorem step_start_eq_ok {words : List String} {p : Progress} (hne : words ≠ [])
    (h : start.step words = .ok p) :
    ∃ opening name, words = [opening, name] ∧ Text.upper opening = "DATABASE"
      ∧ p = between name [] := by
  cases words with
  | nil => exact absurd rfl hne
  | cons w ws =>
    simp only [step] at h
    split at h
    · rename_i hw
      split at h
      · rename_i name
        cases h
        exact ⟨w, name, rfl, hw, rfl⟩
      · cases h
    · cases h

theorem step_between_eq_ok {database : String} {tables : List Table} {words : List String}
    {p : Progress} (hne : words ≠ []) (h : (between database tables).step words = .ok p) :
    ∃ opening name, words = [opening, name] ∧ Text.upper opening = "TABLE"
      ∧ hasTable tables name = false ∧ p = inside database tables name [] := by
  cases words with
  | nil => exact absurd rfl hne
  | cons w ws =>
    simp only [step] at h
    split at h
    · rename_i hw
      split at h
      · rename_i name
        split at h
        · cases h
        · rename_i hnew
          cases h
          exact ⟨w, name, rfl, hw, by simpa using hnew, rfl⟩
      · cases h
    · cases h

/-- A column joins those before it exactly when all of them are compatible. -/
theorem addColumn_eq_ok_iff {table : String} {columns columns' : List Column} {c : Column}
    (hcs : Column.Compatible columns) (hc : c.Valid) :
    addColumn table columns c = .ok columns' ↔
      columns' = columns ++ [c] ∧ Column.Compatible (columns ++ [c]) := by
  have hiff : Column.Compatible (columns ++ [c]) ↔ hasColumn columns c.name = false
      ∧ (c.isIdentity && columns.any (·.isIdentity)) = false := by
    rw [Column.Compatible.append_singleton_iff]
    simp only [hcs, hc, true_and, hasColumn, List.any_eq_false, Bool.not_eq_true,
      Bool.and_eq_false_iff, not_and]
    refine and_congr_right fun _ => ?_
    constructor
    · intro h
      cases hci : c.isIdentity with
      | false => exact .inl rfl
      | true => exact .inr fun a ha => by simpa [hci] using h a ha
    · rintro (h | h) a ha
      · simp [h]
      · simp [h a ha]
  rw [hiff]
  unfold addColumn
  split
  · rename_i hn
    simp [hn]
  · rename_i hn
    split
    · rename_i hi
      simp [hi]
    · rename_i hi
      simp only [Bool.not_eq_true] at hn hi
      simp only [hn, hi, and_self, and_true, Except.ok.injEq]
      exact eq_comm

/-- A statement inside a table closes it or declares a column of it. -/
theorem step_inside_eq_ok {database table : String} {tables : List Table}
    {columns : List Column} {words : List String} {p : Progress} (hne : words ≠ [])
    (hcs : Column.Compatible columns)
    (h : (inside database tables table columns).step words = .ok p) :
    (∃ ending, words = [ending] ∧ Text.upper ending = "END" ∧ columns ≠ []
        ∧ p = between database (tables ++ [⟨table, columns⟩]))
      ∨ ∃ l : ColumnLine, l.Spelled words ∧ Column.Compatible (columns ++ [l.column])
        ∧ p = inside database tables table (columns ++ [l.column]) := by
  -- a word alone can only be the end; of two or more the first may be any, `END` included
  match words, hne with
  | [w], _ =>
    simp only [step] at h
    split at h
    · rename_i hw
      split at h
      · cases h
      · rename_i hcols
        cases h
        exact .inl ⟨w, rfl, hw, by simpa using hcols, rfl⟩
    · cases h
  | name :: declared :: rest, _ =>
    simp only [step] at h
    obtain ⟨c, hc, h⟩ := Outcome.bind_eq_ok_iff.mp h
    obtain ⟨columns', hadd, h⟩ := Outcome.bind_eq_ok_iff.mp h
    obtain ⟨ms, hms, rfl, hvalid⟩ := Column.ofWords_eq_ok_iff.mp hc
    obtain ⟨rfl, hall⟩ := (addColumn_eq_ok_iff hcs hvalid).mp hadd
    cases h
    exact .inr ⟨⟨name, declared, ms⟩, ⟨rest, rfl, hms⟩, hall, rfl⟩

theorem step_column {database table : String} {tables : List Table} {columns : List Column}
    {words : List String} {l : ColumnLine} (hl : l.Spelled words)
    (hall : Column.Compatible (columns ++ [l.column])) :
    (inside database tables table columns).step words
      = .ok (inside database tables table (columns ++ [l.column])) := by
  obtain ⟨rest, rfl, hms⟩ := hl
  have hvalid : l.column.Valid := hall.valid _ (by simp)
  simp only [step]
  refine Outcome.bind_eq_ok_iff.mpr ⟨l.column, ?_, ?_⟩
  · exact Column.ofWords_eq_ok_iff.mpr ⟨l.modifiers, hms, rfl, hvalid⟩
  · exact Outcome.bind_eq_ok_iff.mpr
      ⟨_, (addColumn_eq_ok_iff hall.left hvalid).mpr ⟨rfl, hall⟩, rfl⟩

/-! ### What is accepted is spelled -/

/-- Whatever leads to a database from between two tables is a list of blocks, and whatever leads to
one from inside a table is the rest of its block and a list of blocks. Both at once, because each
state is left for the other; the induction is on the statements. -/
theorem readOn_sound {db : Database} {lines : List (List String)} (hne : ∀ ws ∈ lines, ws ≠ []) :
    (∀ {name : String} {ts : List Table}, (⟨name, ts⟩ : Database).Valid →
      (between name ts).readOn lines = .ok db →
      ∃ bs blocks, lines = blocks.flatten ∧ List.Forall₂ TableBlock.Spelled bs blocks
        ∧ db = ⟨name, ts ++ bs.map (·.table)⟩ ∧ db.Valid)
    ∧ ∀ {name t : String} {ts : List Table} {cs : List Column},
      (⟨name, ts⟩ : Database).Valid → hasTable ts t = false → Column.Compatible cs →
      (inside name ts t cs).readOn lines = .ok db →
      ∃ ls body ending bs blocks, lines = body ++ [ending] :: blocks.flatten
        ∧ List.Forall₂ ColumnLine.Spelled ls body ∧ Text.upper ending = "END"
        ∧ cs ++ ls.map (·.column) ≠ [] ∧ List.Forall₂ TableBlock.Spelled bs blocks
        ∧ db = ⟨name, ts ++ ⟨t, cs ++ ls.map (·.column)⟩ :: bs.map (·.table)⟩ ∧ db.Valid := by
  induction lines with
  | nil =>
      refine ⟨?_, ?_⟩
      · intro name ts hv h
        cases h
        exact ⟨[], [], rfl, .nil, by simp, hv⟩
      · intro name t ts cs _ _ _ h
        cases h
  | cons ws rest ih =>
      obtain ⟨ihBetween, ihInside⟩ := ih fun w hw => hne w (List.mem_cons_of_mem _ hw)
      have hws : ws ≠ [] := hne ws (List.mem_cons_self ..)
      refine ⟨?_, ?_⟩
      · intro name ts hv h
        obtain ⟨q, hstep, hq⟩ := readOn_cons_eq_ok h
        obtain ⟨opening, t, rfl, hopen, hnew, rfl⟩ := step_between_eq_ok hws hstep
        -- the line opens a block, which goes on as far as the other half says
        obtain ⟨ls, body, ending, bs, blocks, rfl, hls, hend, hcols, hbs, hdb, hvalid⟩ :=
          ihInside hv hnew .nil hq
        refine ⟨⟨t, ls⟩ :: bs, ([opening, t] :: (body ++ [[ending]])) :: blocks, by simp, ?_, ?_,
          hvalid⟩
        · refine .cons (.lines hopen hend ?_ hls) hbs
          intro hnil
          simp only at hnil
          exact hcols (by simp [hnil])
        · simpa [TableBlock.table] using hdb
      · intro name t ts cs hv hnew hcs h
        obtain ⟨q, hstep, hq⟩ := readOn_cons_eq_ok h
        rcases step_inside_eq_ok hws hcs hstep with
          ⟨ending, rfl, hend, hcols, rfl⟩ | ⟨l, hl, hall, rfl⟩
        · -- the table is complete and joins the others, which its name has been compared with
          have hv' : (⟨name, ts ++ [⟨t, cs⟩]⟩ : Database).Valid := by
            refine Database.valid_append_singleton_iff.mpr ⟨hv, ⟨hcs, hcols⟩, ?_⟩
            simpa [hasTable] using hnew
          obtain ⟨bs, blocks, rfl, hbs, hdb, hvalid⟩ := ihBetween hv' hq
          exact ⟨[], [], ending, bs, blocks, rfl, .nil, hend, by simpa using hcols, hbs,
            by simpa using hdb, hvalid⟩
        · obtain ⟨ls, body, ending, bs, blocks, rfl, hls, hend, hcols, hbs, hdb, hvalid⟩ :=
            ihInside hv hnew hall hq
          exact ⟨l :: ls, ws :: body, ending, bs, blocks, rfl, .cons hl hls, hend, by simp, hbs,
            by simpa using hdb, hvalid⟩

/-! ### What is spelled is accepted -/

theorem readOn_body {name t : String} {ts : List Table} {ls : List ColumnLine}
    {body rest : List (List String)} (hls : List.Forall₂ ColumnLine.Spelled ls body) :
    ∀ {cs : List Column}, Column.Compatible (cs ++ ls.map (·.column)) →
      (inside name ts t cs).readOn (body ++ rest)
        = (inside name ts t (cs ++ ls.map (·.column))).readOn rest := by
  induction hls with
  | nil => intro cs _; simp
  | @cons l ws ls body hl _ ih =>
      intro cs hall
      have hsplit : cs ++ (l :: ls).map (·.column)
          = (cs ++ [l.column]) ++ ls.map (·.column) := by simp
      rw [hsplit] at hall ⊢
      rw [List.cons_append, readOn_cons (step_column hl hall.left), ih hall]

theorem readOn_block {name : String} {ts : List Table} {b : TableBlock}
    {block rest : List (List String)} (hb : b.Spelled block)
    (hv : (⟨name, ts ++ [b.table]⟩ : Database).Valid) :
    (between name ts).readOn (block ++ rest) = (between name (ts ++ [b.table])).readOn rest := by
  obtain ⟨-, hvb, hnew⟩ := Database.valid_append_singleton_iff.mp hv
  cases hb with
  | @lines opening ending body hopen hend hcols hbody =>
    have hstep : (between name ts).step [opening, b.name] = .ok (inside name ts b.name []) := by
      simp only [step, hopen, ↓reduceIte]
      rw [if_neg]
      simpa [hasTable, TableBlock.table] using hnew
    have hclose : (inside name ts b.name ([] ++ b.columns.map (·.column))).step [ending]
        = .ok (between name (ts ++ [b.table])) := by
      simp [step, hend, hcols, TableBlock.table]
    have hall : Column.Compatible ([] ++ b.columns.map (·.column)) := hvb.columns
    rw [List.cons_append, readOn_cons hstep, List.append_assoc, readOn_body hbody hall,
      List.singleton_append, readOn_cons hclose]

theorem readOn_blocks {name : String} {bs : List TableBlock} {blocks : List (List (List String))}
    (hbs : List.Forall₂ TableBlock.Spelled bs blocks) :
    ∀ {ts : List Table}, (⟨name, ts ++ bs.map (·.table)⟩ : Database).Valid →
      (between name ts).readOn blocks.flatten = .ok ⟨name, ts ++ bs.map (·.table)⟩ := by
  induction hbs with
  | nil => intro ts _; simp [readOn, close]
  | @cons b block bs blocks hb _ ih =>
      intro ts hv
      have hsplit : ts ++ (b :: bs).map (·.table) = (ts ++ [b.table]) ++ bs.map (·.table) := by
        simp
      rw [hsplit] at hv ⊢
      rw [List.flatten_cons, readOn_block hb hv.left, ih hv]

/-- From the start, exactly the spelled definitions with a valid meaning lead to a database. -/
theorem readOn_start_iff {lines : List (List String)} (hne : ∀ ws ∈ lines, ws ≠ [])
    {db : Database} :
    start.readOn lines = .ok db ↔
      ∃ d : Definition, d.Spelled lines ∧ d.database = db ∧ db.Valid := by
  constructor
  · intro h
    cases lines with
    | nil => cases h
    | cons ws rest =>
      obtain ⟨q, hstep, hq⟩ := readOn_cons_eq_ok h
      obtain ⟨opening, name, rfl, hopen, rfl⟩ :=
        step_start_eq_ok (hne ws (List.mem_cons_self ..)) hstep
      obtain ⟨bs, blocks, rfl, hbs, hdb, hvalid⟩ :=
        (readOn_sound fun w hw => hne w (List.mem_cons_of_mem _ hw)).1 (.empty name) hq
      exact ⟨⟨name, bs⟩, .lines hopen hbs, hdb.symm, hvalid⟩
  · rintro ⟨d, hd, rfl, hvalid⟩
    cases hd with
    | @lines opening blocks hopen hbs =>
      have hstep : start.step [opening, d.name] = .ok (between d.name []) := by
        simp only [step, hopen, ↓reduceIte]
      have hv : (⟨d.name, [] ++ d.blocks.map (·.table)⟩ : Database).Valid := hvalid
      rw [readOn_cons hstep]
      exact readOn_blocks hbs hv

end Progress

/-! ## Texts -/

/-- A line that is not blank has words, and no other has. -/
theorem wordLines_eq (text : String) :
    wordLines text = ((Text.lines text).map Text.words).filter (· ≠ []) := by
  rw [wordLines, List.filter_map]
  congr 1
  refine List.filter_congr fun line _ => ?_
  simp [Text.words_eq_nil_iff]

/-- The numbers of the lines, and what is remembered for reports, have no part in what is read. -/
theorem Draft.feedLines_eq_ok_iff (lines : List String) (d : Draft) (line : Int)
    (db : Database) :
    (d.feedLines line lines >>= finish) = .ok db ↔
      d.progress.readOn ((lines.map Text.words).filter (· ≠ [])) = .ok db := by
  induction lines generalizing d line with
  | nil =>
      simp only [feedLines, List.map_nil, List.filter_nil, Progress.readOn, finish, bind,
        Except.bind]
      cases d.progress.close <;> simp
  | cons text rest ih =>
      rw [feedLines, feed]
      split
      · rename_i d' hfeed
        split at hfeed
        · -- a blank line counts for the number of the next one and for nothing else
          rename_i hwords
          cases hfeed
          rw [ih, List.map_cons, hwords]
          simp
        · rename_i w ws hwords
          split at hfeed
          · rename_i progress hstep
            cases hfeed
            rw [ih, List.map_cons, hwords, List.filter_cons_of_pos (by simp),
              Progress.readOn_cons hstep]
          · cases hfeed
      · rename_i d' e hfeed
        split at hfeed
        · cases hfeed
        · rename_i w ws hwords
          split at hfeed
          · cases hfeed
          · rename_i fault hstep
            rw [List.map_cons, hwords, List.filter_cons_of_pos (by simp), Progress.readOn, hstep]
            simp [bind, Except.bind]

/--
**What a text defines.**

A text is read as a database exactly when the words of its lines that are not blank
spell a definition that declares this database, and the database is valid: no name is
used twice, and no keys that exclude each other meet in a column or a table. What the
text is called in reports makes no difference.
-/
theorem Database.ofText_eq_ok_iff (source text : String) (db : Database) :
    Database.ofText source text = .ok db ↔
      ∃ d : Definition, d.Spelled (wordLines text) ∧ d.database = db ∧ db.Valid := by
  have hne : ∀ ws ∈ wordLines text, ws ≠ [] := by
    intro ws hws
    rw [wordLines_eq] at hws
    simpa using (List.mem_filter.mp hws).2
  rw [← Progress.readOn_start_iff hne, wordLines_eq]
  exact Draft.feedLines_eq_ok_iff (Text.lines text) (.empty source) 1 db

end Tablekeep
