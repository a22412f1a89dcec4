import Tablekeep.Backup.Reader
import Tablekeep.Backup.Writer
import Tablekeep.Proofs.Definition.Respelled
import Tablekeep.Proofs.Outcome

/-!
# Backups under respelled definitions

A document is read in the same way under two databases that are respelled: the same elements are
open, and they stand for tables and columns in the same places. So it is accepted under both or
under neither, and the same rows are told, with the same literals, each under the names that its
own database has for tables and columns.

The relation between the two readings is carried from event to event, and nothing has to be known of
the document.
-/

namespace Tablekeep

open Outcome

/-! ## Spellings -/

/-- The name of a column as the table spells it. -/
def Table.spelling (u : Table) (name : String) : String :=
  ((u.column? name).map (·.name)).getD name

/-- The name of a table as the database spells it. -/
def Database.spelling (b : Database) (name : String) : String :=
  ((b.table? name).map (·.name)).getD name

theorem Table.TwinColumns.spelling {t u : Table} (hu : u.Valid) {c d : Column}
    (h : t.TwinColumns u c d) : u.spelling c.name = d.name := by
  have hfound : u.column? c.name = some d :=
    hu.column?_eq_some_iff.mpr ⟨h.right, Text.sameName_symm h.rel.name⟩
  rw [Table.spelling, hfound]
  rfl

theorem Database.TwinTables.table? {a b : Database} (hb : b.Valid) {t u : Table}
    (h : a.TwinTables b t u) : b.table? t.name = some u :=
  hb.table?_eq_some_iff.mpr ⟨h.right, Text.sameName_symm h.rel.name⟩

namespace Backup

/-- The row under the names that the database has for its table and its columns. -/
def RowInsert.under (b : Database) (r : RowInsert) : RowInsert :=
  match b.table? r.table with
  | none => r
  | some u => ⟨u.name, r.pairs.map fun p => (u.spelling p.1, p.2), r.hasIdentity⟩

/-- What is told under the names that the database has. -/
def ReadItem.under (b : Database) : ReadItem → ReadItem
  | .table name => .table (b.spelling name)
  | .row r => .row (r.under b)

/-! ## Rows -/

/-- The literal of a text does not depend on how the column is spelled. -/
theorem literal_respelled {c d : Column} (h : c.Respelled d) (zone : Option Int)
    (raw : Option String) : Alike (· = ·) (literal zone c raw) (literal zone d raw) := by
  unfold literal
  rw [h.isBlob, h.isNullable, h.kind]
  dsimp only
  by_cases hblob : d.isBlob = true
  · rw [if_pos hblob, if_pos hblob]
    exact .error _ _
  · rw [if_neg hblob, if_neg hblob]
    exact .refl _

section Rows

variable {t u : Table} {cells cells' : List (String × String)} (zone : Option Int)

/-- The same text under a name and its respelling. -/
structure TwinCells (t u : Table) (x y : String × String) : Prop where
  names : ∃ c d, t.TwinColumns u c d ∧ x.1 = c.name ∧ y.1 = d.name
  text : x.2 = y.2

theorem lookup_respelled (ht : t.Valid) (hu : u.Valid)
    (hcells : List.Forall₂ (TwinCells t u) cells cells') {c d : Column}
    (h : t.TwinColumns u c d) : cells.lookup c.name = cells'.lookup d.name := by
  induction hcells with
  | nil => rfl
  | @cons x y cells cells' hxy _ ih =>
      obtain ⟨name, text⟩ := x
      obtain ⟨name', text'⟩ := y
      obtain ⟨⟨c', d', h', rfl, rfl⟩, rfl⟩ := hxy
      have hsame : (c.name == c'.name) = (d.name == d'.name) := by
        rw [Bool.eq_iff_iff, beq_iff_eq, beq_iff_eq]
        exact h.name_eq_iff ht hu h'
      rw [List.lookup_cons, List.lookup_cons, hsame, ih]

theorem rowPairs_respelled (ht : t.Valid) (hu : u.Valid)
    (hcells : List.Forall₂ (TwinCells t u) cells cells') {cs ds : List Column}
    (h : List.Forall₂ (t.TwinColumns u) cs ds) :
    Alike (fun ps qs => qs = ps.map fun p => (u.spelling p.1, p.2)) (rowPairs zone t cells cs)
      (rowPairs zone u cells' ds) := by
  induction h with
  | nil => exact .ok rfl
  | @cons c d cs ds hcd _ ih =>
      rw [rowPairs, rowPairs, lookup_respelled ht hu hcells hcd]
      cases cells'.lookup d.name with
      | none =>
          dsimp only
          rw [hcd.rel.isNullable]
          split
          · exact ih
          · exact .error _ _
      | some text =>
          dsimp only
          have hliteral := literal_respelled hcd.rel zone (some text)
          generalize literal zone c (some text) = x, literal zone d (some text) = y at hliteral ⊢
          cases hliteral with
          | error e e' => exact .error _ _
          | ok hl =>
              subst hl
              refine ih.map fun ps qs hqs => ?_
              rw [List.map_cons, hcd.spelling hu, hqs]

/-- The rows of twin tables are told alike. -/
theorem rowInsert_respelled {a b : Database} (ha : a.Valid) (hb : b.Valid) (h : a.TwinTables b t u)
    (hcells : List.Forall₂ (TwinCells t u) cells cells') :
    Alike (fun r r' => r' = r.under b) (rowInsert zone t cells) (rowInsert zone u cells') := by
  have ht := ha.tables t h.left
  have hu := hb.tables u h.right
  have hselected := h.rel.selected
  have hunder (pairs : List (String × String)) :
      RowInsert.under b ⟨t.name, pairs, t.hasIdentity⟩
        = ⟨u.name, pairs.map fun p => (u.spelling p.1, p.2), u.hasIdentity⟩ := by
    rw [RowInsert.under, h.table? hb, h.rel.hasIdentity]
  have hpairs := rowPairs_respelled zone ht hu hcells hselected
  unfold rowInsert
  generalize rowPairs zone t cells t.selected = x, rowPairs zone u cells' u.selected = y at hpairs ⊢
  cases hpairs with
  | error e e' => exact .error _ _
  | @ok ps qs hqs =>
      subst hqs
      cases ps with
      | cons p ps => exact .ok (hunder (p :: ps)).symm
      | nil =>
          -- nothing is given, so every column is null, if there is one
          have hnull : (t.selected.map fun c => (c.name, "null")).map
                (fun p => (u.spelling p.1, p.2))
              = u.selected.map fun d => (d.name, "null") := by
            generalize t.selected = cs, u.selected = ds at hselected
            induction hselected with
            | nil => rfl
            | cons hcd _ ih => rw [List.map_cons, List.map_cons, List.map_cons, hcd.spelling hu, ih]
          have hnone : t.selected.isEmpty = u.selected.isEmpty := by
            rw [Bool.eq_iff_iff, List.isEmpty_iff_length_eq_zero, List.isEmpty_iff_length_eq_zero,
              hselected.length_eq]
          dsimp only [List.map_nil]
          rw [hnone]
          split
          · exact .error _ _
          · refine .ok ?_
            rw [hunder, hnull]

end Rows

/-! ## Open elements -/

/-- The elements stand for tables and columns in the same places. -/
inductive Role.Respelled (a b : Database) : Role → Role → Prop
  | database : Role.Respelled a b .database .database
  | wrapper {t u : Table} : a.TwinTables b t u → Role.Respelled a b (.wrapper t) (.wrapper u)
  | row {t u : Table} {cells cells' : List (String × String)} : a.TwinTables b t u →
      List.Forall₂ (TwinCells t u) cells cells' →
      Role.Respelled a b (.row t cells) (.row u cells')
  | cell {t u : Table} {c d : Column} : a.TwinTables b t u → t.TwinColumns u c d →
      Role.Respelled a b (.cell t c) (.cell u d)

/-- The elements have the same tag and the same text. -/
structure Frame.Respelled (a b : Database) (f g : Frame) : Prop where
  tag : f.tag = g.tag
  role : f.role.Respelled a b g.role
  text : f.text = g.text

/-- A cell is right in a row of its table. -/
def Frame.Seated (f : Frame) (outer : List Frame) : Prop :=
  ∀ t c, f.role = .cell t c → ∃ tag cells text rest, outer = ⟨tag, .row t cells, text⟩ :: rest

/-- The same elements are open, and cells are in rows of their tables. -/
inductive FramesRespelled (a b : Database) : List Frame → List Frame → Prop
  | nil : FramesRespelled a b [] []
  | cons {f g : Frame} {outer outer' : List Frame} : f.Respelled a b g → f.Seated outer →
      FramesRespelled a b outer outer' → FramesRespelled a b (f :: outer) (g :: outer')

/-- The readings are at the same place. -/
structure ReadState.Respelled (a b : Database) (s s' : ReadState) : Prop where
  frames : FramesRespelled a b s.frames s'.frames
  started : s.started = s'.started

theorem Frame.Respelled.checkText {a b : Database} {f g : Frame} (h : f.Respelled a b g) :
    f.checkText = g.checkText := by
  rw [Frame.checkText, Frame.checkText, h.tag, h.text]

namespace Reader

variable {a b : Database} (zone : Option Int)

/-- The reader of backups of a database, with the plurals that are used if no others are given. -/
def under (db : Database) (zone : Option Int) : Reader := ⟨db, Plural.ofName, zone⟩

/-! ### Roles -/

theorem topRole_respelled (h : a.Respelled b)
    (hascii : ∀ t ∈ a.tables ++ b.tables, Text.Ascii t.name) (tag : String) :
    Alike (Role.Respelled a b) ((under a zone).topRole tag) ((under b zone).topRole tag) := by
  have hplural := h.plural? hascii tag
  have htable := h.table? tag
  unfold topRole under
  dsimp only
  generalize a.tables.find? _ = x, b.tables.find? _ = y at hplural ⊢
  cases hplural with
  | some htu => exact .ok (.wrapper htu)
  | none =>
      dsimp only
      generalize a.table? tag = x, b.table? tag = y at htable ⊢
      cases htable with
      | some htu => exact .ok (.row htu .nil)
      | none => exact .error _ _

theorem cellRole_respelled (ha : a.Valid) (hb : b.Valid) {t u : Table} (h : a.TwinTables b t u)
    {cells cells' : List (String × String)} (hcells : List.Forall₂ (TwinCells t u) cells cells')
    (tag : String) :
    Alike (Role.Respelled a b) (cellRole t cells tag) (cellRole u cells' tag) := by
  have hcolumn := h.rel.column? tag
  unfold cellRole
  generalize t.column? tag = x, u.column? tag = y at hcolumn ⊢
  cases hcolumn with
  | none => exact .error _ _
  | @some c d hcd =>
      dsimp only
      rw [hcd.rel.isBlob, lookup_respelled (ha.tables t h.left) (hb.tables u h.right) hcells hcd]
      split
      · exact .error _ _
      split
      · exact .error _ _
      · exact .ok (.cell h hcd)

theorem roleIn_respelled (ha : a.Valid) (hb : b.Valid) (h : a.Respelled b)
    (hascii : ∀ t ∈ a.tables ++ b.tables, Text.Ascii t.name) {f g : Frame}
    (hfg : f.Respelled a b g) (tag : String) :
    Alike (Role.Respelled a b) ((under a zone).roleIn f tag) ((under b zone).roleIn g tag) := by
  obtain ⟨ftag, role, text⟩ := f
  obtain ⟨gtag, role', text'⟩ := g
  obtain ⟨rfl, hrole, rfl⟩ := hfg
  cases hrole with
  | database => exact (topRole_respelled zone h hascii tag).mapError _ _
  | @wrapper t u htu =>
      unfold roleIn
      dsimp only
      rw [Text.sameName_congr_right htu.rel.name]
      split
      · exact .ok (.row htu .nil)
      · exact .error _ _
  | row htu hcells => exact cellRole_respelled ha hb htu hcells tag
  | cell => exact .error _ _

/-- Only an element in a row becomes a cell, and of the table of the row. -/
theorem roleIn_seated {r : Reader} {f : Frame} {tag : String} {role : Role}
    (h : r.roleIn f tag = .ok role) (text above : String) (outer : List Frame) :
    Frame.Seated ⟨tag, role, text⟩ ({ f with text := above } :: outer) := by
  rintro t c rfl
  obtain ⟨ftag, frole, ftext⟩ := f
  cases frole with
  | row t' cells =>
      have hrow : cellRole t' cells tag = .ok (.cell t c) := h
      unfold cellRole at hrow
      split at hrow
      · cases hrow
      split at hrow
      · cases hrow
      split at hrow
      · cases hrow
      · cases hrow
        exact ⟨_, _, _, _, rfl⟩
  | database =>
      have htop : r.topRole tag = .ok (.cell t c) := mapError_eq_ok_iff.mp h
      unfold topRole at htop
      split at htop
      · cases htop
      split at htop
      · cases htop
      · cases htop
  | wrapper t' =>
      unfold roleIn at h
      dsimp only at h
      split at h
      · cases h
      · cases h
  | cell => cases h

theorem announced_respelled (hb : b.Valid) {role role' : Role} (h : role.Respelled a b role') :
    announced role' = (announced role).map (·.under b) := by
  cases h with
  | wrapper htu =>
      change _ = some (ReadItem.table (b.spelling _))
      rw [Database.spelling, htu.table? hb]
      rfl
  | database | row | cell => rfl

/-! ### Events -/

/-- After an event the same elements are open, and the same has been told. -/
def SameTold (a b : Database) (x y : ReadState × Option ReadItem) : Prop :=
  x.1.Respelled a b y.1 ∧ y.2 = x.2.map (·.under b)

section Events

variable (ha : a.Valid) (hb : b.Valid) (h : a.Respelled b)
  (hascii : ∀ t ∈ a.tables ++ b.tables, Text.Ascii t.name)

include ha hb h hascii in
theorem start_respelled {s s' : ReadState} (hs : s.Respelled a b s') (tag : String) :
    Alike (SameTold a b) ((under a zone).start s tag) ((under b zone).start s' tag) := by
  obtain ⟨frames, started⟩ := s
  obtain ⟨frames', started'⟩ := s'
  obtain ⟨hframes, rfl⟩ := hs
  cases hframes with
  | nil =>
      unfold start rootRole under
      dsimp only
      rw [Text.sameName_congr_right h.name]
      split
      · exact .error _ _
      by_cases hname : Text.sameName tag b.name = true
      · rw [if_pos hname, if_pos hname]
        exact .ok ⟨⟨.cons ⟨rfl, .database, rfl⟩ (fun _ _ hcell => nomatch hcell) .nil, rfl⟩, rfl⟩
      · rw [if_neg hname, if_neg hname]
        exact .error _ _
  | @cons f g outer outer' hfg hseated houter =>
      have hrole := roleIn_respelled zone ha hb h hascii hfg tag
      have hnew : ∀ role, (under a zone).roleIn f tag = .ok role →
          Frame.Seated ⟨tag, role, ""⟩ ({ f with text := "" } :: outer) :=
        fun role hrole => roleIn_seated hrole "" "" outer
      have hparent : Frame.Respelled a b { f with text := "" } { g with text := "" } :=
        ⟨hfg.tag, hfg.role, rfl⟩
      unfold start
      dsimp only
      rw [hfg.checkText]
      cases g.checkText with
      | error => exact .error _ _
      | ok =>
          dsimp only
          generalize (under a zone).roleIn f tag = x, (under b zone).roleIn g tag = y
            at hrole hnew ⊢
          cases hrole with
          | error => exact .error _ _
          | ok hrole =>
              exact .ok ⟨⟨.cons ⟨rfl, hrole, rfl⟩ (hnew _ rfl) (.cons hparent hseated houter), rfl⟩,
                announced_respelled hb hrole⟩

theorem characters_respelled {s s' : ReadState} (hs : s.Respelled a b s') (text : String) :
    (characters s text).Respelled a b (characters s' text) := by
  obtain ⟨frames, started⟩ := s
  obtain ⟨frames', started'⟩ := s'
  obtain ⟨hframes, rfl⟩ := hs
  cases hframes with
  | nil => exact ⟨.nil, rfl⟩
  | cons hfg hseated houter =>
      exact ⟨.cons ⟨hfg.tag, hfg.role, congrArg (· ++ text) hfg.text⟩ hseated houter, rfl⟩

include ha hb in
theorem finish_respelled {s s' : ReadState} (hs : s.Respelled a b s') :
    Alike (SameTold a b) ((under a zone).finish s) ((under b zone).finish s') := by
  obtain ⟨frames, started⟩ := s
  obtain ⟨frames', started'⟩ := s'
  obtain ⟨hframes, rfl⟩ := hs
  cases hframes with
  | nil => exact .error _ _
  | @cons f g outer outer' hfg hseated houter =>
      obtain ⟨tag, role, text⟩ := f
      obtain ⟨tag', role', text'⟩ := g
      have hcheck := hfg.checkText
      obtain ⟨rfl, hrole, rfl⟩ := hfg
      have hended : SameTold a b (⟨outer, started⟩, none) (⟨outer', started⟩, none) :=
        ⟨⟨houter, rfl⟩, rfl⟩
      unfold finish
      cases hrole with
      | database =>
          dsimp only
          cases Frame.checkText ⟨tag, .database, text⟩ with
          | error => exact .error _ _
          | ok => exact .ok hended
      | @wrapper t u htu =>
          dsimp only
          rw [hcheck]
          cases Frame.checkText ⟨tag, .wrapper u, text⟩ with
          | error => exact .error _ _
          | ok => exact .ok hended
      | @row t u cells cells' htu hcells =>
          have hrow := rowInsert_respelled zone ha hb htu hcells
          dsimp only
          rw [hcheck]
          cases Frame.checkText ⟨tag, .row u cells', text⟩ with
          | error => exact .error _ _
          | ok =>
              refine hrow.map fun r r' hr => ⟨⟨houter, rfl⟩, ?_⟩
              rw [hr]
              rfl
      | @cell t u c d htu hcd =>
          -- the text goes to the row around the cell, which is of the same table on both sides
          obtain ⟨rowTag, cells, above, rest, rfl⟩ := hseated t c rfl
          cases houter with
          | @cons _ g _ rest' hfg hseated houter =>
              obtain ⟨rowTag', role', above'⟩ := g
              obtain ⟨rfl, hrole, rfl⟩ := hfg
              cases hrole with
              | @row _ u' _ cells' htu' hcells =>
                  obtain rfl : u = u' :=
                    Option.some.inj ((htu.table? hb).symm.trans (htu'.table? hb))
                  have hcell : TwinCells t u (c.name, text) (d.name, text) :=
                    ⟨⟨c, d, hcd, rfl, rfl⟩, rfl⟩
                  refine .ok ⟨⟨.cons ⟨rfl, .row htu (.cons hcell hcells), rfl⟩ ?_ houter, rfl⟩, rfl⟩
                  exact fun _ _ h => nomatch h

include ha hb h hascii in
/-- **An event is taken alike.** -/
theorem step_respelled {s s' : ReadState} (hs : s.Respelled a b s') (e : Markup.Event) :
    Alike (SameTold a b) ((under a zone).step s e) ((under b zone).step s' e) := by
  cases e with
  | start tag =>
      rw [step, step]
      exact start_respelled zone ha hb h hascii hs tag
  | text text =>
      rw [step, step]
      exact .ok ⟨characters_respelled hs text, rfl⟩
  | finish =>
      rw [step, step]
      exact finish_respelled zone ha hb hs

include ha hb h hascii in
/-- So are all events, and what was told before an error is no exception. -/
theorem steps_respelled {s s' : ReadState} (hs : s.Respelled a b s') (es : List Markup.Event) :
    ((under b zone).steps s' es).1 = ((under a zone).steps s es).1.map (·.under b)
      ∧ Alike (ReadState.Respelled a b) ((under a zone).steps s es).2
        ((under b zone).steps s' es).2 := by
  induction es generalizing s s' with
  | nil => exact ⟨rfl, .ok hs⟩
  | cons e es ih =>
      have hstep := step_respelled zone ha hb h hascii hs e
      unfold steps
      generalize (under a zone).step s e = x, (under b zone).step s' e = y at hstep ⊢
      cases hstep with
      | error => exact ⟨rfl, .error _ _⟩
      | @ok p p' hp =>
          obtain ⟨s₁, item⟩ := p
          obtain ⟨s₁', item'⟩ := p'
          obtain ⟨hs₁, rfl⟩ := hp
          obtain ⟨hitems, hresult⟩ := ih hs₁
          refine ⟨?_, hresult⟩
          dsimp only
          rw [hitems, List.map_append]
          cases item <;> rfl

end Events

/-! ## Documents -/

/-- **A backup is read alike under a respelled definition.** It is accepted under both databases or
under neither, and what is told is the same, with the same literals, under the names that each
has. -/
theorem read_respelled {a b : Database} (ha : a.Valid) (hb : b.Valid) (h : a.Respelled b)
    (hascii : ∀ t ∈ a.tables ++ b.tables, Text.Ascii t.name) (zone : Option Int)
    (bytes : List UInt8) :
    (((under b zone).read bytes).failure = none ↔ ((under a zone).read bytes).failure = none)
      ∧ ((under b zone).read bytes).items = ((under a zone).read bytes).items.map (·.under b)
      ∧ ((under b zone).read bytes).rows = ((under a zone).read bytes).rows.map (·.under b) := by
  have hread : (((under b zone).read bytes).failure = none
        ↔ ((under a zone).read bytes).failure = none)
      ∧ ((under b zone).read bytes).items
        = ((under a zone).read bytes).items.map (·.under b) := by
    unfold read
    cases Markup.read bytes with
    | error name => exact ⟨Iff.rfl, rfl⟩
    | ok reading =>
        have hinitial : ReadState.Respelled a b .initial .initial := ⟨.nil, rfl⟩
        have hsteps := steps_respelled zone ha hb h hascii hinitial reading.events
        dsimp only
        unfold readEvents
        generalize (under a zone).steps .initial reading.events = x,
          (under b zone).steps .initial reading.events = y at hsteps ⊢
        obtain ⟨items, result⟩ := x
        obtain ⟨items', result'⟩ := y
        obtain ⟨htold, hresult⟩ := hsteps
        cases hresult with
        | error e e' => exact ⟨⟨nofun, nofun⟩, htold⟩
        | @ok s s' hs =>
            dsimp only
            rw [hs.started]
            split
            · exact ⟨⟨nofun, nofun⟩, htold⟩
            split
            · exact ⟨Iff.rfl, htold⟩
            · exact ⟨Iff.rfl, htold⟩
  refine ⟨hread.1, hread.2, ?_⟩
  rw [ReadResult.rows, hread.2, ReadResult.rows, List.filterMap_map, List.map_filterMap]
  refine List.filterMap_congr fun item _ => ?_
  cases item <;> rfl

/-- A database with a table whose plural takes more than a letter. -/
def catalog : Database :=
  ⟨"shop", [⟨"category", [⟨"id", "INT", .integer, true, false, false, none⟩,
    ⟨"label", "VARCHAR(20)", .text, false, true, false, none⟩]⟩]⟩

/-- The same database in other letters. -/
def loudCatalog : Database :=
  ⟨"SHOP", [⟨"CATEGORY", [⟨"Id", "INT", .integer, true, false, false, none⟩,
    ⟨"Label", "VARCHAR(20)", .text, false, true, false, none⟩]⟩]⟩

/-- What is backed up under the one database is restored under the other. -/
theorem read_respelled_catalog :
    let source : Source Id String := fun _ => .ok [[⟨"id", .int 7⟩, ⟨"label", .text "it's"⟩]]
    let lines := (documentLines source Plural.ofName none catalog).lines
    let bytes := Text.Utf8.encode (documentText lines)
    catalog.Respelled loudCatalog
      ∧ lines.take 4 = ["<?xml version=\"1.0\"?>", "<shop>", "  <categories>",
        "    <category><id>7</id><label>it&apos;s</label></category>"]
      ∧ ((under loudCatalog none).read bytes).failure = none
      ∧ ((under loudCatalog none).read bytes).rows
        = [⟨"CATEGORY", [("Id", "7"), ("Label", "'it''s'")], true⟩] := by
  intro source lines bytes
  have hvalid : catalog.Valid ∧ loudCatalog.Valid := by decide +kernel
  have hascii : ∀ t ∈ catalog.tables ++ loudCatalog.tables, Text.Ascii t.name := by decide +kernel
  have hspelled : catalog.Respelled loudCatalog :=
    ⟨by decide +kernel, .cons ⟨by decide +kernel,
      .cons ⟨by decide +kernel, rfl⟩ (.cons ⟨by decide +kernel, rfl⟩ .nil)⟩ .nil⟩
  have hread : (under catalog none).read bytes
      = ⟨[.table "category",
        .row ⟨"category", [("id", "7"), ("label", "'it''s'")], true⟩], none⟩ := by
    decide +kernel
  obtain ⟨hfailure, -, hrows⟩ := read_respelled hvalid.1 hvalid.2 hspelled hascii none bytes
  rw [hread] at hfailure hrows
  refine ⟨hspelled, by decide +kernel, hfailure.mpr rfl, ?_⟩
  rw [hrows]
  decide +kernel

end Reader

end Backup

end Tablekeep
