import Tablekeep.Definition.Plural
import Tablekeep.Proofs.Backup.Elements
import Tablekeep.Proofs.Script.Clauses

/-!
# Restored rows fit the created tables

Rows are told while a document is read, so they are acted on even when the document turns
out to be no backup. Each of them has to fit the table as the script creates it, whatever
the document is. `RowInsert.Fits` is that property of a row.

It follows from how a row comes to be: its columns are gone through in the order of the
definition, and one without a cell is skipped only if it can be null. Nothing has to be
known of the cells. What has to be known is that the row is one of a table of the
database, and that is known of every row that comes from an element.
-/

namespace Tablekeep.Backup

variable {t : Table} {cells : List (String × String)} {zone : Option Int} {ins : RowInsert}

/-! ## Announcing identities -/

/-- The statement between the two that switch explicit identities on and off. -/
def RowInsert.announced (ins : RowInsert) : String :=
  "SET IDENTITY_INSERT " ++ ins.table ++ " ON; " ++ ins.statement ++ " SET IDENTITY_INSERT "
    ++ ins.table ++ " OFF;"

theorem RowInsert.announced_ne_statement (ins : RowInsert) : ins.announced ≠ ins.statement := by
  -- for any texts, so that nothing tries to compute with these
  have hlonger : ∀ a t b s c d : String, 0 < b.length →
      a ++ t ++ b ++ s ++ c ++ t ++ d ≠ s := by
    intro a t b s c d hb h
    have hlen := congrArg String.length h
    simp only [String.length_append] at hlen
    omega
  exact hlonger _ _ _ _ _ _ (by decide)

theorem RowInsert.batch_azure (ins : RowInsert) :
    ins.batch .azure = if ins.hasIdentity then ins.announced else ins.statement := by
  unfold batch announced
  rw [Dialect.needsIdentityInsert, Bool.true_and]

/-! ## Rows that fit -/

/-- The row gives values to the columns `cols` of the table, and it fits the table that the scripts
create. -/
structure RowInsert.Fits (t : Table) (cols : List Column) (ins : RowInsert) : Prop where
  table : ins.table = t.name
  /-- In both dialects the table can be created, and has the selected columns. -/
  created : ∀ d, ∃ s, TableScript.ofTable d t = .ok s ∧ s.table = t.name
    ∧ s.create = TableScript.opening d t
        ++ Text.join ",\n" (t.selected.map (TableScript.columnClause d) ++ TableScript.keys d t)
        ++ TableScript.closing d
  /-- The row has some of these columns, in the order in which they are created. -/
  ordered : cols.Sublist t.selected
  named : ins.pairs.map (·.1) = cols.map (·.name)
  nonempty : ins.pairs ≠ []
  /-- No column occurs twice, in any spelling. -/
  distinct : ins.pairs.Pairwise fun p q => Text.sameName p.1 q.1 = false
  /-- A column that the row leaves out is created as one that can be null. -/
  omitted : ∀ c ∈ t.selected, c ∉ cols → ∀ d,
    TableScript.columnClause d c = c.name ++ " " ++ c.declared ++ " NULL"
  /-- Identities are announced exactly if a column is created as the identity. -/
  announced : ins.batch .azure = ins.announced ↔
    ∃ c ∈ t.selected, Text.endsWith (TableScript.columnClause .azure c) " IDENTITY(1,1)" = true
  unannounced : ins.batch .azure = ins.statement ↔
    ∀ c ∈ t.selected, Text.endsWith (TableScript.columnClause .azure c) " IDENTITY(1,1)" = false
  /-- And then the row has a value for it. -/
  identity : ∀ c ∈ t.selected,
    Text.endsWith (TableScript.columnClause .azure c) " IDENTITY(1,1)" = true → c ∈ cols

/-! ## How a row comes to be -/

/-- The pairs are those of some columns, in their order, and the others can be null. -/
theorem rowPairs_columns {cs : List Column} {pairs : List (String × String)}
    (h : rowPairs zone t cells cs = .ok pairs) :
    ∃ cols : List Column, cols.Sublist cs ∧ pairs.map (·.1) = cols.map (·.name)
      ∧ ∀ c ∈ cs, c ∉ cols → c.isNullable = true := by
  induction cs generalizing pairs with
  | nil =>
      rw [rowPairs, Except.ok.injEq] at h
      subst h
      exact ⟨[], .slnil, rfl, by simp⟩
  | cons c cs ih =>
      rw [rowPairs] at h
      split at h
      · split at h
        · -- no cell: the column is left out, which only one that can be null is
          rename_i hnull
          obtain ⟨cols, hsub, hnames, hleft⟩ := ih h
          refine ⟨cols, hsub.cons c, hnames, ?_⟩
          exact List.forall_mem_cons.mpr ⟨fun _ => hnull, hleft⟩
        · cases h
      · split at h
        · cases h
        · obtain ⟨rest, hrest, rfl⟩ := Outcome.map_eq_ok_iff.mp h
          obtain ⟨cols, hsub, hnames, hleft⟩ := ih hrest
          refine ⟨c :: cols, hsub.cons_cons c, by simp [hnames], ?_⟩
          refine List.forall_mem_cons.mpr ⟨fun hnot => absurd (List.mem_cons_self ..) hnot, ?_⟩
          exact fun d hd hnot => hleft d hd fun hmem => hnot (List.mem_cons_of_mem _ hmem)

/-- The row of a table without a single cell has all columns, as there is nothing to leave out. -/
theorem rowInsert_columns (h : rowInsert zone t cells = .ok ins) :
    ins.table = t.name ∧ ins.hasIdentity = t.hasIdentity ∧ ins.pairs ≠ []
      ∧ ∃ cols : List Column, cols.Sublist t.selected ∧ ins.pairs.map (·.1) = cols.map (·.name)
        ∧ ∀ c ∈ t.selected, c ∉ cols → c.isNullable = true := by
  unfold rowInsert at h
  split at h
  · cases h
  · split at h
    · cases h
    · -- no pair at all: the row is null in every column, so none is left out
      rename_i hsome
      cases h
      refine ⟨rfl, rfl, ?_, t.selected, List.Sublist.refl _, by simp, fun c hc hnot => ?_⟩
      · simpa using hsome
      · exact absurd hc hnot
  · rename_i p ps hpairs
    cases h
    exact ⟨rfl, rfl, by simp, rowPairs_columns hpairs⟩

theorem hasIdentity_iff (ht : t.Valid) :
    t.hasIdentity = true ↔ ∃ c ∈ t.selected, c.isIdentity = true := by
  simp only [Table.hasIdentity, List.any_eq_true]
  constructor
  · rintro ⟨c, hc, hid⟩
    exact ⟨c, Table.mem_selected.mpr ⟨hc, ((ht.columns.valid c hc).identity hid).2.2.2⟩, hid⟩
  · rintro ⟨c, hc, hid⟩
    exact ⟨c, (Table.mem_selected.mp hc).1, hid⟩

theorem rowInsert_fits (ht : t.Valid) (h : rowInsert zone t cells = .ok ins) :
    ∃ cols, ins.Fits t cols := by
  obtain ⟨htable, hflag, hne, cols, hsub, hnames, hleft⟩ := rowInsert_columns h
  have hvalid : ∀ c ∈ t.selected, c.Valid := fun c hc =>
    ht.columns.valid c (Table.mem_selected.mp hc).1
  have hselected : t.selected ≠ [] := by
    intro hnil
    rw [hnil, List.sublist_nil] at hsub
    rw [hsub, List.map_nil, List.map_eq_nil_iff] at hnames
    exact hne hnames
  have hany : ins.hasIdentity = true ↔ ∃ c ∈ t.selected,
      Text.endsWith (TableScript.columnClause .azure c) " IDENTITY(1,1)" = true := by
    simp only [hflag, hasIdentity_iff ht, TableScript.endsWith_identity_iff]
  refine ⟨cols, ?_⟩
  exact {
    table := htable
    created := fun d => TableScript.exists_create d hselected
    ordered := hsub
    named := hnames
    nonempty := hne
    distinct := by
      have hcols := (ht.selected_names.sublist hsub)
      rw [← @List.pairwise_map _ _ Column.name (fun a b => Text.sameName a b = false) cols,
        ← hnames, List.pairwise_map] at hcols
      exact hcols
    omitted := fun c hc hnot d =>
      TableScript.columnClause_of_nullable d (hvalid c hc) (hleft c hc hnot)
    announced := by
      rw [RowInsert.batch_azure, ← hany]
      have := ins.announced_ne_statement.symm
      by_cases hid : ins.hasIdentity = true <;> simp [hid, this]
    unannounced := by
      have hnone : (∀ c ∈ t.selected, Text.endsWith (TableScript.columnClause .azure c)
          " IDENTITY(1,1)" = false) ↔ ¬ ins.hasIdentity = true := by
        rw [hany]
        simp
      rw [RowInsert.batch_azure, hnone]
      have := ins.announced_ne_statement
      by_cases hid : ins.hasIdentity = true <;> simp [hid, this]
    identity := by
      intro c hc hclause
      -- a column that is left out can be null, and an identity cannot
      by_contra hnot
      have hid := TableScript.endsWith_identity_iff.mp hclause
      have hnull := hleft c hc hnot
      rw [((hvalid c hc).identity hid).1] at hnull
      cases hnull }

namespace Reader

/-- **Every row that is told fits the table that the scripts create**, whatever the bytes are and
whether or not they can be read to the end. -/
theorem read_rows_fit (r : Reader) (h : r.database.Valid) (bytes : List UInt8) :
    ∀ ins ∈ (r.read bytes).rows, ∃ t ∈ r.database.tables, ∃ cols, ins.Fits t cols := by
  intro ins hmem
  unfold read at hmem
  split at hmem
  · simp [ReadResult.rows] at hmem
  · obtain ⟨t, ht, cells, hins⟩ := readEvents_restores ins hmem
    obtain ⟨cols, hfits⟩ := rowInsert_fits (h.tables t ht) hins
    exact ⟨t, ht, cols, hfits⟩

/-- An item on a shelf is told although its wrapper does not end. -/
theorem read_rows_fit_shelf :
    let r : Reader := ⟨.shelf, Plural.ofName, none⟩
    let bytes := Text.Utf8.encode "<shop><items><item><id>7</id><name>pen</name></item><oops"
    let ins : RowInsert := ⟨"item", [("id", "7"), ("name", "'pen'")], true⟩
    (r.read bytes).failure = some (.shape .malformed)
      ∧ ∃ t ∈ r.database.tables, ∃ cols, ins.Fits t cols := by
  intro r bytes ins
  refine ⟨by decide +kernel, ?_⟩
  exact read_rows_fit r (by decide) bytes ins (by decide +kernel)

end Reader

end Tablekeep.Backup
