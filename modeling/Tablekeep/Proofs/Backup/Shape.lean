import Tablekeep.Proofs.Backup.Cells
import Tablekeep.Definition.Plural

/-!
# The shape of a backup

Which documents the reader accepts, said of the document alone. The definitions follow the
nesting: a row, a wrapper, what stands right under the database, and the whole. Of the text
outside cells it is asked that it is blank wherever it stands, so the definitions speak of
`Content.ownText`, which is all of it at once.

The main result holds for every tree, and for every document in bytes, because a document that
is well formed is a tree.
-/

namespace Tablekeep.Backup

open Markup

/-! ## The literals that there are -/

/-- The text of a timestamp denotes a moment that the clock of the restoration can show. -/
def ShownOn (zone : Option Int) (text : String) : Prop :=
  ∃ m w, timestamp text = .ok m ∧ m.toZone zone = .ok w

/-- Only timestamps have texts without a literal, and where the column can be null the empty text is
not one of them. -/
theorem exists_literal_iff {zone : Option Int} {c : Column} {text : String}
    (hblob : c.isBlob = false) :
    (∃ l, literal zone c (some text) = .ok l) ↔
      (c.kind = .timestamp → text ≠ "" ∨ c.isNullable = false → ShownOn zone text) := by
  unfold literal
  simp only [Option.getD_some, hblob, Bool.false_eq_true, ↓reduceIte]
  split
  · -- the empty text of a column that can be null is null, whatever the kind
    rename_i hnull
    simp only [Bool.and_eq_true, String.isEmpty_iff] at hnull
    simp [hnull]
  · rename_i hnull
    have hdue : text ≠ "" ∨ c.isNullable = false := by
      by_contra hcon
      simp only [not_or, not_not, Bool.not_eq_false] at hcon
      simp [hcon] at hnull
    split
    · rename_i hkind
      simp [hkind]
    · rename_i hkind
      simp only [hkind, hdue, forall_const, ShownOn]
      cases timestamp text with
      | error fault => simp
      | ok m => cases hw : m.toZone zone <;> simp [hw]
    · rename_i hkind
      simp [hkind]
    · rename_i hkind _
      refine iff_of_true ⟨text, rfl⟩ fun hstamp => ?_
      exact absurd hstamp hkind

theorem exists_pairsOf_iff {zone : Option Int} {text? : Column → Option String}
    {cs : List Column} :
    (∃ pairs, Reader.pairsOf zone text? cs = some pairs) ↔
      ∀ c ∈ cs, (text? c = none → c.isNullable = true)
        ∧ ∀ text, text? c = some text → ∃ l, literal zone c (some text) = .ok l := by
  induction cs with
  | nil => simp [Reader.pairsOf]
  | cons c cs ih =>
      rw [Reader.pairsOf, List.forall_mem_cons, ← ih]
      cases text? c with
      | none => by_cases hn : c.isNullable = true <;> simp [hn]
      | some text =>
          cases hl : literal zone c (some text) with
          | error fault => simp [hl]
          | ok l =>
              simp only [hl, reduceCtorEq, false_implies, Option.some.injEq, forall_eq', true_and,
                Except.ok.injEq, exists_eq', Option.map_eq_some_iff]
              constructor
              · rintro ⟨-, a, h, -⟩
                exact ⟨a, h⟩
              · rintro ⟨a, h⟩
                exact ⟨_, a, h, rfl⟩

/-- An element that names a column is the one whose text counts, as no other names it. -/
theorem cellText?_eq_some_iff {row : Content} (honce : NamesOnce row) {c : Column}
    {text : String} :
    cellText? row c = some text ↔
      ∃ cell ∈ row.children, Text.sameName cell.1 c.name = true ∧ cell.2.ownText = text := by
  unfold cellText? NamesOnce at *
  generalize row.children = cells at *
  induction cells with
  | nil => simp
  | cons cell cells ih =>
      obtain ⟨hother, honce⟩ := List.pairwise_cons.mp honce
      rw [List.find?_cons]
      by_cases hname : Text.sameName cell.1 c.name = true
      · -- the first element is found, and no other may name the column too
        have hno : ∀ other ∈ cells, Text.sameName other.1 c.name = false := by
          intro other hmem
          rw [← Bool.not_eq_true]
          intro hsame
          have := Text.sameName_trans hname (Text.sameName_symm hsame)
          rw [hother other hmem] at this
          cases this
        simp only [hname, Option.map_some, Option.some.injEq, List.mem_cons, exists_eq_or_imp,
          true_and]
        refine ⟨.inl, ?_⟩
        rintro (h | ⟨other, hmem, hsame, -⟩)
        · exact h
        · rw [hno other hmem] at hsame
          cases hsame
      · simp only [hname, List.mem_cons, exists_eq_or_imp, Bool.false_eq_true, false_and, false_or]
        exact ih honce

theorem cellText?_eq_none_iff {row : Content} {c : Column} :
    cellText? row c = none ↔
      ∀ cell ∈ row.children, Text.sameName cell.1 c.name = false := by
  simp [cellText?]

namespace Reader

/-! ## The shapes -/

variable (r : Reader)

/-- An element that is a row of the table. -/
structure RowShape (t : Table) (row : Content) : Prop where
  /-- Text stands in the cells only. -/
  text : Text.Blank row.ownText
  /-- Every element names a column that is no large object, and holds no elements. -/
  cells : NamesColumns t row
  /-- No column is named twice. -/
  once : NamesOnce row
  /-- There is a cell for each column that cannot be null. -/
  required : ∀ c ∈ t.selected, c.isNullable = false →
    ∃ cell ∈ row.children, Text.sameName cell.1 c.name = true
  /-- The table has something to restore. -/
  restorable : t.selected ≠ []
  /-- A timestamp can be shown, unless it is empty and may be null. -/
  timestamps : ∀ cell ∈ row.children, ∀ c ∈ t.selected, Text.sameName cell.1 c.name = true →
    c.kind = .timestamp → cell.2.ownText ≠ "" ∨ c.isNullable = false →
    ShownOn r.zone cell.2.ownText

/-- An element that holds rows of the table. -/
structure WrapperShape (t : Table) (wrapper : Content) : Prop where
  text : Text.Blank wrapper.ownText
  rows : ∀ row ∈ wrapper.children,
    Text.sameName row.1 t.name = true ∧ r.RowShape t row.2

/-- An element right under the database. It is the wrapper of the first table with the plural that
it bears, and only where there is no such table it is a row of the table whose name it bears. -/
inductive TopShape : String × Content → Prop where
  | wrapper {tag : String} {content : Content} {t : Table} :
      (r.database.tables.find? fun t => Text.sameName (r.plural t.name) tag) = some t →
      r.WrapperShape t content → TopShape (tag, content)
  | row {tag : String} {content : Content} {t : Table} :
      (∀ u ∈ r.database.tables, Text.sameName (r.plural u.name) tag = false) →
      t ∈ r.database.tables → Text.sameName t.name tag = true →
      r.RowShape t content → TopShape (tag, content)

/-- A document that is a backup of the database. -/
structure BackupShape (root : Element) : Prop where
  name : Text.sameName root.tag r.database.name = true
  text : Text.Blank root.content.ownText
  children : ∀ child ∈ root.content.children, r.TopShape child

/-! ## What is accepted -/

variable {r}

theorem exists_rowIn_iff {t : Table} (ht : t.Valid) (row : Content) :
    (∃ ins, r.rowIn t [] row = some ins) ↔ r.RowShape t row := by
  have hinsert : ∀ pairs, (∃ ins, insertOf t pairs = some ins) ↔ t.selected ≠ [] := by
    intro pairs
    unfold insertOf
    by_cases hnil : t.selected = []
    · simp [hnil]
    · by_cases hp : pairs = [] <;> simp [hnil, hp]
  have hsplit : (∃ ins, r.rowIn t [] row = some ins) ↔
      (Text.Blank row.ownText ∧ NamesColumns t row ∧ NamesOnce row)
        ∧ (∃ pairs, pairsOf r.zone (cellText? row) t.selected = some pairs)
        ∧ t.selected ≠ [] := by
    simp only [rowIn_eq_some_iff r ht]
    constructor
    · rintro ⟨ins, hcells, pairs, hpairs, hins⟩
      exact ⟨hcells, ⟨pairs, hpairs⟩, (hinsert pairs).mp ⟨ins, hins⟩⟩
    · rintro ⟨hcells, ⟨pairs, hpairs⟩, hne⟩
      obtain ⟨ins, hins⟩ := (hinsert pairs).mpr hne
      exact ⟨ins, hcells, pairs, hpairs, hins⟩
  rw [hsplit, exists_pairsOf_iff]
  constructor
  · rintro ⟨⟨htext, hcells, honce⟩, hall, hne⟩
    refine ⟨htext, hcells, honce, ?_, hne, ?_⟩
    · -- a column without a cell was gone over only because it can be null
      intro c hc hn
      by_contra hnone
      have : cellText? row c = none := cellText?_eq_none_iff.mpr fun cell hcell => by
        rw [← Bool.not_eq_true]
        exact fun hname => hnone ⟨cell, hcell, hname⟩
      rw [(hall c hc).1 this] at hn
      cases hn
    · intro cell hcell c hc hname
      have htext? := (cellText?_eq_some_iff honce).mpr ⟨cell, hcell, hname, rfl⟩
      exact (exists_literal_iff (Table.mem_selected.mp hc).2).mp ((hall c hc).2 _ htext?)
  · intro h
    refine ⟨⟨h.text, h.cells, h.once⟩, fun c hc => ⟨fun hnone => ?_, fun text htext? => ?_⟩,
      h.restorable⟩
    · by_contra hn
      obtain ⟨cell, hcell, hname⟩ := h.required c hc (by simpa using hn)
      rw [cellText?_eq_none_iff.mp hnone cell hcell] at hname
      cases hname
    · obtain ⟨cell, hcell, hname, rfl⟩ := (cellText?_eq_some_iff h.once).mp htext?
      exact (exists_literal_iff (Table.mem_selected.mp hc).2).mpr
        (h.timestamps cell hcell c hc hname)

theorem exists_rowsIn_iff {t : Table} (ht : t.Valid) (wrapper : Content) :
    (∃ items, r.rowsIn t wrapper = some items) ↔ r.WrapperShape t wrapper := by
  have hshape : ∀ w, r.WrapperShape t w ↔ Text.Blank w.ownText
      ∧ ∀ row ∈ w.children, Text.sameName row.1 t.name = true ∧ r.RowShape t row.2 :=
    fun w => ⟨fun h => ⟨h.text, h.rows⟩, fun h => ⟨h.1, h.2⟩⟩
  refine Iff.trans ?_ (hshape wrapper).symm
  induction wrapper with
  | empty => simp [rowsIn, Content.ownText, Content.children]
  | text s rest ih =>
      rw [rowsIn, Content.ownText, Content.children, Text.blank_append]
      by_cases hs : Text.Blank s
      · simpa [hs] using ih
      · simp [hs]
  | element tag inner rest _ ih =>
      rw [rowsIn, Content.ownText, Content.children, List.forall_mem_cons]
      rw [and_left_comm, ← ih]
      by_cases hname : Text.sameName tag t.name = true
      · simp only [hname, ↓reduceIte, true_and, ← exists_rowIn_iff ht]
        cases r.rowIn t [] inner with
        | none => simp
        | some ins => cases r.rowsIn t rest <;> simp
      · simp [hname]

/-- What an element right under the database is read as. -/
theorem topShape_iff (h : r.database.Valid) {tag : String} {content : Content} :
    r.TopShape (tag, content) ↔
      (∃ t, r.topRole tag = .ok (.wrapper t) ∧ t ∈ r.database.tables ∧ r.WrapperShape t content)
        ∨ ∃ t, r.topRole tag = .ok (.row t []) ∧ t ∈ r.database.tables ∧ r.RowShape t content := by
  constructor
  · intro hshape
    cases hshape with
    | wrapper hfind hcontent =>
        exact .inl ⟨_, r.topRole_eq_wrapper_iff.mpr hfind, List.mem_of_find?_eq_some hfind,
          hcontent⟩
    | row hno ht hname hcontent =>
        have hfind : (r.database.tables.find? fun t => Text.sameName (r.plural t.name) tag)
            = none := by
          simpa using hno
        have htable := h.table?_eq_some_iff.mpr ⟨ht, hname⟩
        exact .inr ⟨_, r.topRole_eq_row_iff.mpr ⟨hfind, htable⟩, ht, hcontent⟩
  · rintro (⟨t, htop, ht, hcontent⟩ | ⟨t, htop, ht, hcontent⟩)
    · exact .wrapper (r.topRole_eq_wrapper_iff.mp htop) hcontent
    · -- a name that is a plural as well would have made a wrapper
      obtain ⟨hfind, htable⟩ := r.topRole_eq_row_iff.mp htop
      exact .row (by simpa using hfind) ht (h.table?_eq_some_iff.mp htable).2 hcontent

theorem exists_itemsIn_iff (h : r.database.Valid) (content : Content) :
    (∃ items, r.itemsIn content = some items) ↔
      Text.Blank content.ownText ∧ ∀ child ∈ content.children, r.TopShape child := by
  induction content with
  | empty => simp [itemsIn, Content.ownText, Content.children]
  | text s rest ih =>
      rw [itemsIn, Content.ownText, Content.children, Text.blank_append]
      by_cases hs : Text.Blank s
      · simpa [hs] using ih
      · simp [hs]
  | element tag inner rest _ ih =>
      rw [itemsIn, Content.ownText, Content.children, List.forall_mem_cons, topShape_iff h,
        and_left_comm, ← ih]
      cases htop : r.topRole tag with
      | error e => simp
      | ok role =>
          rcases topRole_mem r htop with ⟨t, rfl, ht⟩ | ⟨t, rfl, ht⟩
          · simp only [Except.ok.injEq, Role.wrapper.injEq, exists_eq_left', ht, true_and,
              reduceCtorEq, false_and, exists_false, or_false,
              ← exists_rowsIn_iff (h.tables t ht)]
            cases r.rowsIn t inner <;> cases r.itemsIn rest <;> simp
          · simp only [Except.ok.injEq, Role.row.injEq, and_true, exists_eq_left', ht, true_and,
              reduceCtorEq, false_and, exists_false, false_or,
              ← exists_rowIn_iff (h.tables t ht)]
            cases r.rowIn t [] inner <;> cases r.itemsIn rest <;> simp

/-- **A document is read without an error when it has the shape of a backup, and only then**:
for every well-formed tree, and for every document in bytes that is well formed, which is such a
tree. -/
theorem failure_eq_none_iff (r : Reader) (h : r.database.Valid) :
    (∀ root : Element,
      (r.readEvents ⟨root.events, true⟩).failure = none ↔ r.BackupShape root)
    ∧ ∀ bytes reading, Markup.read bytes = .ok reading → reading.wellFormed = true →
      ∃ root : Element, reading.events = root.events
        ∧ ((r.read bytes).failure = none ↔ r.BackupShape root) := by
  have htree : ∀ root : Element,
      (r.readEvents ⟨root.events, true⟩).failure = none ↔ r.BackupShape root := by
    intro root
    have hitems : (r.readEvents ⟨root.events, true⟩).failure = none ↔
        ∃ items, r.itemsOf root = some items := by
      simp only [← readEvents_element_iff]
      constructor
      · intro hnone
        exact ⟨(r.readEvents ⟨root.events, true⟩).items, by rw [← hnone]⟩
      · rintro ⟨items, hread⟩
        rw [hread]
    rw [hitems, itemsOf]
    constructor
    · intro hread
      split at hread
      · rename_i hname
        obtain ⟨htext, hchildren⟩ := (exists_itemsIn_iff h root.content).mp hread
        exact ⟨hname, htext, hchildren⟩
      · simp at hread
    · rintro ⟨hname, htext, hchildren⟩
      simpa [hname] using (exists_itemsIn_iff h root.content).mpr ⟨htext, hchildren⟩
  refine ⟨htree, fun bytes reading hread hwell => ?_⟩
  obtain ⟨root, hroot⟩ := exists_element_of_wellFormed hread hwell
  refine ⟨root, hroot, ?_⟩
  have hreading : reading = ⟨root.events, true⟩ := by rw [← hroot, ← hwell]
  rw [Reader.read, hread, hreading]
  exact htree root

/-- Of items on a shelf without a name the reader accepts none. -/
theorem failure_eq_none_iff_shelf :
    let r : Reader := ⟨.shelf, Plural.ofName, some 0⟩
    let bytes := Text.Utf8.encode "<shop>\n<items><item><id>7</id></item></items></shop>"
    let nameless : Content := .element "item" (.element "id" (.text "7" .empty) .empty) .empty
    (¬ r.BackupShape ⟨"shop", .text "\n" (.element "items" nameless .empty)⟩)
      ∧ ∃ root : Element, (r.read bytes).failure = none ↔ r.BackupShape root := by
  intro r bytes nameless
  have hboth := failure_eq_none_iff r (by decide)
  refine ⟨fun hshape => ?_, ?_⟩
  · have hnone := (hboth.1 _).mpr hshape
    revert hnone
    decide +kernel
  · obtain ⟨root, -, hroot⟩ := hboth.2 bytes
      ⟨[.start "shop", .text "\n", .start "items", .start "item", .start "id", .text "7", .finish,
        .finish, .finish, .finish], true⟩ (by decide +kernel) rfl
    exact ⟨root, hroot⟩

end Reader

end Tablekeep.Backup
