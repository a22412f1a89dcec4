import Tablekeep.Proofs.Definition.Worded
import Tablekeep.Proofs.Script.Clauses
import Mathlib.Data.List.Find

/-!
# The parts of a script told apart

A script is put together from words that may be anything: a table can have a column named
`CONSTRAINT` with the type `PRIMARY`, and a reference may hold commas and brackets. What keeps the
parts apart is that a word has no blank in it. So a part can be taken off the front of a text, the
rest of which is then compared in the same way. This is what the lemmas with `_inj` say of a column,
a foreign key and an index.

Keys come after columns in one list. A column is no key, as its third word says something of null
(`columnClause_ne_key`).
-/

namespace Tablekeep

open Text

/-! ## What is in a table -/

/-- What the clause of a column says. -/
structure ColumnHeading where
  name : String
  declared : String
  isNullable : Bool
  isIdentity : Bool
  deriving DecidableEq

/-- The heading of a column. -/
def Column.heading (c : Column) : ColumnHeading :=
  ⟨c.name, c.declared, c.isNullable, c.isIdentity⟩

/-- The column with the heading, where these columns refer to something and those have an index. -/
def ColumnHeading.column (h : ColumnHeading) (references : List (String × String))
    (indexed : List String) : Column where
  name := h.name
  declared := h.declared
  kind := .ofType h.declared
  isIdentity := h.isIdentity
  isNullable := h.isNullable
  isIndex := indexed.contains h.name
  foreignKey := references.lookup h.name

namespace Table

variable {t : Table}

/-- The columns that refer to something, and what to. -/
def references (t : Table) : List (String × String) :=
  t.selected.filterMap fun c => c.foreignKey.map fun target => (c.name, target)

/-- The columns with an index. -/
def indexed (t : Table) : List String :=
  t.selected.filterMap fun c => if c.isIndex then some c.name else none

theorem Worded.selected (h : t.Worded) {c : Column} (hc : c ∈ t.selected) : c.Worded :=
  h.columns c (mem_selected.mp hc).1

theorem Worded.reference (h : t.Worded) {p : String × String} (hp : p ∈ t.references) :
    IsWord p.1 ∧ IsWord p.2 := by
  obtain ⟨c, hc, htarget⟩ := List.mem_filterMap.mp hp
  obtain ⟨target, hkey, rfl⟩ := Option.map_eq_some_iff.mp htarget
  exact ⟨(h.selected hc).name, (h.selected hc).foreignKey target hkey⟩

theorem Worded.indexed (h : t.Worded) {name : String} (hn : name ∈ t.indexed) : IsWord name := by
  obtain ⟨c, hc, hname⟩ := List.mem_filterMap.mp hn
  split at hname
  · obtain rfl := Option.some.inj hname
    exact (h.selected hc).name
  · cases hname

/-- **Headings, references and indexes are all that there is to the columns of a valid table.** -/
theorem Valid.selected_eq (h : t.Valid) :
    (t.selected.map Column.heading).map (·.column t.references t.indexed) = t.selected := by
  rw [List.map_map]
  refine map_eq_self fun c hc => ?_
  have hkind : c.kind = .ofType c.declared :=
    (h.columns.valid c (mem_selected.mp hc).1).kind
  have hkey : t.references.lookup c.name = c.foreignKey := by
    rw [references, Column.lookup_filterMap h.selected_names hc, Option.map_id']
  have hindex : t.indexed.contains c.name = c.isIndex := by
    rw [Bool.eq_iff_iff, List.contains_iff_mem, Table.indexed, List.mem_filterMap]
    constructor
    · rintro ⟨d, hd, hname⟩
      split at hname
      · rename_i hindex
        -- no other column has the name
        have hsame : sameName c.name d.name = true := by
          rw [Option.some.inj hname, sameName_self]
        rw [h.eq_of_named hc hd (sameName_self _) hsame]
        exact hindex
      · cases hname
    · intro hindex
      exact ⟨c, hc, if_pos hindex⟩
  obtain ⟨name, declared, kind, isIdentity, isNullable, isIndex, foreignKey⟩ := c
  simp only at hkind hkey hindex
  simp only [Function.comp_apply, Column.heading, ColumnHeading.column, hkey, hindex, hkind]

/-- The identity is among the columns that are created. -/
theorem Valid.identity?_eq (h : t.Valid) : t.identity? = t.selected.find? (·.isIdentity) := by
  rw [identity?, selected, List.find?_filter]
  refine List.find?_congr fun c hc => ?_
  cases hid : c.isIdentity with
  | false => simp
  | true => simp [((h.columns.valid c hc).identity hid).2.2.2]

end Table

namespace TableScript

variable {d : Dialect} {t t' : Table} {c c' : Column} {x y : String}

/-! ## Columns -/

/-- What a clause says of null. -/
def nullWords (isNullable : Bool) : String :=
  if isNullable then " NULL" else " NOT NULL"

/-- What a clause says of the identity. -/
def identityWords (d : Dialect) (isIdentity : Bool) : String :=
  if isIdentity then
    match d with
    | .mysql => " AUTO_INCREMENT"
    | .azure => " IDENTITY(1,1)"
  else ""

theorem columnClause_append (d : Dialect) (c : Column) (x : String) :
    columnClause d c ++ x = c.name ++ (" " ++ (c.declared
      ++ (nullWords c.isNullable ++ (identityWords d c.isIdentity ++ x)))) := by
  cases d <;> simp only [columnClause, nullWords, identityWords, String.append_assoc]

theorem beginsBlank_nullWords (n : Bool) (x : String) : BeginsBlank (nullWords n ++ x) := by
  apply BeginsBlank.append
  cases n <;> decide

theorem nullWords_inj {n n' : Bool} (h : nullWords n ++ x = nullWords n' ++ y) :
    n = n' ∧ x = y := by
  rw [← String.toList_inj] at h ⊢
  cases n <;> cases n' <;> simp [nullWords] at h
  · exact ⟨rfl, h⟩
  · exact ⟨rfl, h⟩

/-- A text that cannot be taken for more of a clause. -/
def Bounds (s : String) : Prop := s.toList.head? ≠ some ' '

theorem identityWords_inj {i i' : Bool} (hx : Bounds x) (hy : Bounds y)
    (h : identityWords d i ++ x = identityWords d i' ++ y) : i = i' ∧ x = y := by
  have hfalse (z : String) : identityWords d false ++ z = z := by simp [identityWords]
  have htrue (z : String) : (identityWords d true ++ z).toList.head? = some ' ' := by
    cases d <;> simp [identityWords]
  cases i <;> cases i'
  · rw [hfalse, hfalse] at h
    exact ⟨rfl, h⟩
  · -- what comes after one clause would begin with the space inside the other
    rw [hfalse] at h
    exact absurd (h ▸ htrue y) hx
  · rw [hfalse] at h
    exact absurd (h ▸ htrue x) hy
  · exact ⟨rfl, (String.append_right_inj _).mp h⟩

theorem columnClause_inj (hc : c.Worded) (hc' : c'.Worded) (hx : Bounds x) (hy : Bounds y)
    (h : columnClause d c ++ x = columnClause d c' ++ y) : c.heading = c'.heading ∧ x = y := by
  rw [columnClause_append, columnClause_append] at h
  obtain ⟨hname, h⟩ := hc.name.solid.append_inj hc'.name.solid
    (BeginsBlank.append (by decide) _) (BeginsBlank.append (by decide) _) h
  obtain ⟨hdeclared, h⟩ := hc.declared.solid.append_inj hc'.declared.solid
    (beginsBlank_nullWords ..) (beginsBlank_nullWords ..) ((String.append_right_inj _).mp h)
  obtain ⟨hnull, h⟩ := nullWords_inj h
  obtain ⟨hidentity, h⟩ := identityWords_inj hx hy h
  refine ⟨?_, h⟩
  rw [Column.heading, Column.heading, hname, hdeclared, hnull, hidentity]

/-! ## Keys -/

/-- A key is named, and then says which key it is. -/
structure IsKey (s : String) : Prop where
  named : ∃ name kind rest, Solid name ∧ (kind = " PRIMARY" ∨ kind = " FOREIGN")
    ∧ s = "CONSTRAINT " ++ (name ++ (kind ++ rest))

theorem isKey_of_mem_keys (h : t.Worded) {k : String} (hk : k ∈ keys d t) : IsKey k := by
  have hname := h.name.solid
  cases d with
  | mysql =>
      rcases List.mem_append.mp hk with hk | hk
      · obtain ⟨c, -, rfl⟩ := List.mem_map.mp hk
        have hfirst : "CONSTRAINT PK_" = "CONSTRAINT " ++ "PK_" := rfl
        have hthird : " PRIMARY KEY (" = " PRIMARY" ++ " KEY (" := rfl
        refine ⟨"PK_" ++ t.name, " PRIMARY", " KEY (" ++ c.name ++ ")",
          .append (by decide) hname, .inl rfl, ?_⟩
        simp only [hfirst, hthird, String.append_assoc]
      · obtain ⟨c, hc, hk⟩ := List.mem_filterMap.mp hk
        obtain ⟨target, -, rfl⟩ := Option.map_eq_some_iff.mp hk
        have hfirst : "CONSTRAINT FK_" = "CONSTRAINT " ++ "FK_" := rfl
        have hthird : " FOREIGN KEY (" = " FOREIGN" ++ " KEY (" := rfl
        refine ⟨"FK_" ++ t.name ++ "_" ++ c.name, " FOREIGN",
          " KEY (" ++ c.name ++ ") REFERENCES " ++ target,
          .append (.append (.append (by decide) hname) (by decide)) (h.selected hc).name.solid,
          .inr rfl, ?_⟩
        simp only [hfirst, hthird, String.append_assoc]
  | azure =>
      obtain ⟨c, -, rfl⟩ := List.mem_map.mp hk
      have hfirst : "CONSTRAINT [PK_" = "CONSTRAINT " ++ "[PK_" := rfl
      have hthird : "] PRIMARY KEY CLUSTERED ( [" = "]" ++ (" PRIMARY" ++ " KEY CLUSTERED ( [") :=
        rfl
      refine ⟨"[PK_" ++ t.name ++ "]", " PRIMARY",
        " KEY CLUSTERED ( [" ++ c.name ++ "] ASC )\n" ++ azureKeyOptions,
        .append (.append (by decide) hname) (by decide), .inl rfl, ?_⟩
      simp only [hfirst, hthird, String.append_assoc]

theorem columnClause_ne_key (hc : c.Worded) {k : String} (hk : IsKey k) :
    columnClause d c ++ x ≠ k ++ y := by
  obtain ⟨name, kind, rest, hname, hkind, rfl⟩ := hk
  intro h
  have hfirst : "CONSTRAINT " = "CONSTRAINT" ++ " " := rfl
  have hblank : BeginsBlank kind := by rcases hkind with rfl | rfl <;> decide
  simp only [columnClause_append, hfirst, String.append_assoc] at h
  obtain ⟨-, h⟩ := hc.name.solid.append_inj (by decide)
    (BeginsBlank.append (by decide) _) (BeginsBlank.append (by decide) _) h
  obtain ⟨-, h⟩ := hc.declared.solid.append_inj hname
    (beginsBlank_nullWords ..) (hblank.append _) ((String.append_right_inj _).mp h)
  -- name and type may be those of the key, but the third word is not
  rw [← String.toList_inj] at h
  rcases hkind with rfl | rfl <;> cases hn : c.isNullable <;> simp [nullWords, hn] at h

/-! ## Columns and keys in a list -/

/-- The lines with what is before each, up to the end of the statement. -/
def listed (d : Dialect) (lines : List String) : String :=
  String.join (lines.map (",\n" ++ ·)) ++ closing d

theorem listed_cons (line : String) (lines : List String) :
    listed d (line :: lines) = ",\n" ++ (line ++ listed d lines) := by
  rw [listed, List.map_cons, String.join_cons, listed, String.append_assoc, String.append_assoc]

theorem bounds_listed (lines : List String) : Bounds (listed d lines) := by
  unfold Bounds
  cases lines with
  | nil => cases d <;> simp [listed, closing]
  | cons line lines => simp [listed_cons]

/-- Columns are not taken for keys. -/
theorem listed_columns_ne (hc : c.Worded) {ks : List String} (hks : ∀ k ∈ ks, IsKey k)
    (lines : List String) : listed d (columnClause d c :: lines) ≠ listed d ks := by
  intro h
  rw [listed_cons] at h
  cases ks with
  | nil =>
      rw [← String.toList_inj] at h
      cases d <;> simp [listed, closing] at h
  | cons k ks =>
      rw [listed_cons] at h
      exact columnClause_ne_key hc (hks k List.mem_cons_self) ((String.append_right_inj _).mp h)

/-- **A list of columns and keys says which columns there are, and what comes after them.** -/
theorem listed_inj {cs cs' : List Column} {ks ks' : List String} (hcs : ∀ c ∈ cs, c.Worded)
    (hcs' : ∀ c ∈ cs', c.Worded) (hks : ∀ k ∈ ks, IsKey k) (hks' : ∀ k ∈ ks', IsKey k)
    (h : listed d (cs.map (columnClause d) ++ ks) = listed d (cs'.map (columnClause d) ++ ks')) :
    cs.map Column.heading = cs'.map Column.heading ∧ listed d ks = listed d ks' := by
  induction cs generalizing cs' with
  | nil =>
      cases cs' with
      | nil => exact ⟨rfl, h⟩
      | cons c' cs' =>
          exact absurd h.symm (listed_columns_ne (hcs' c' List.mem_cons_self) hks _)
  | cons c cs ih =>
      obtain ⟨hc, hcs⟩ := List.forall_mem_cons.mp hcs
      cases cs' with
      | nil => exact absurd h (listed_columns_ne hc hks' _)
      | cons c' cs' =>
          obtain ⟨hc', hcs'⟩ := List.forall_mem_cons.mp hcs'
          simp only [List.map_cons, List.cons_append, listed_cons] at h
          obtain ⟨hheading, h⟩ := columnClause_inj hc hc' (bounds_listed _) (bounds_listed _)
            ((String.append_right_inj _).mp h)
          obtain ⟨hheadings, hrest⟩ := ih hcs hcs' h
          exact ⟨congrArg₂ List.cons hheading hheadings, hrest⟩

/-- The end of a line can be told, whether others come after it or not. -/
theorem listed_line_inj {k k' : String} {ks ks' : List String} (hk : '\n' ∉ k.toList)
    (hk' : '\n' ∉ k'.toList) (h : k ++ listed .mysql ks = k' ++ listed .mysql ks') :
    k = k' ∧ listed .mysql ks = listed .mysql ks' := by
  have hnil : listed .mysql [] = ");" := rfl
  have hmem (k : String) (l : String) (ls : List String) :
      '\n' ∈ (k ++ listed .mysql (l :: ls)).toList := by
    simp [listed_cons]
  have hlast {k : String} (hk : '\n' ∉ k.toList) : '\n' ∉ (k ++ listed .mysql []).toList := by
    simpa [hnil] using hk
  have hcut (k : String) (l : String) (ls : List String) :
      k ++ listed .mysql (l :: ls) = k ++ "," ++ ("\n" ++ (l ++ listed .mysql ls)) := by
    rw [listed_cons, ← String.toList_inj]
    simp
  have hfree {k : String} (hk : '\n' ∉ k.toList) :
      ∀ c ∈ (k ++ ",").toList, (c == '\n') = false := by
    intro c hc
    rw [beq_eq_false_iff_ne]
    rintro rfl
    simp [hk] at hc
  cases ks with
  | nil =>
      cases ks' with
      | nil => exact ⟨(String.append_left_inj _).mp h, rfl⟩
      | cons l' ls' => exact absurd (h ▸ hmem k' l' ls') (hlast hk)
  | cons l ls =>
      cases ks' with
      | nil => exact absurd (h ▸ hmem k l ls) (hlast hk')
      | cons l' ls' =>
          -- cut at the line feed, both lines keep their commas
          rw [hcut, hcut] at h
          obtain ⟨hline, -⟩ := append_inj_of_stop (hfree hk) (hfree hk') (by simp) (by simp) h
          obtain rfl := (String.append_left_inj _).mp hline
          rw [← hcut, ← hcut] at h
          exact ⟨rfl, (String.append_right_inj _).mp h⟩

/-- Keys of one line each are all told by the list. -/
theorem listed_lines_inj {ks ks' : List String} (hks : ∀ k ∈ ks, '\n' ∉ k.toList)
    (hks' : ∀ k ∈ ks', '\n' ∉ k.toList) (h : listed .mysql ks = listed .mysql ks') : ks = ks' := by
  have hne (k : String) (ks : List String) : listed .mysql (k :: ks) ≠ listed .mysql [] := by
    rw [listed_cons, ← String.toList_inj.ne]
    simp [listed, closing]
  induction ks generalizing ks' with
  | nil =>
      cases ks' with
      | nil => rfl
      | cons k' ks' => exact absurd h.symm (hne k' ks')
  | cons k ks ih =>
      obtain ⟨hk, hks⟩ := List.forall_mem_cons.mp hks
      cases ks' with
      | nil => exact absurd h (hne k ks)
      | cons k' ks' =>
          obtain ⟨hk', hrest'⟩ := List.forall_mem_cons.mp hks'
          rw [listed_cons, listed_cons] at h
          obtain ⟨hline, h⟩ := listed_line_inj hk hk' ((String.append_right_inj _).mp h)
          rw [hline, ih hks hrest' h]

/-- Each key of the first dialect is one line. -/
theorem not_mem_keys (h : t.Worded) {k : String} (hk : k ∈ keys .mysql t) : '\n' ∉ k.toList := by
  have hword {w : String} (hw : IsWord w) : '\n' ∉ w.toList := hw.solid.not_mem (by decide)
  rcases List.mem_append.mp hk with hk | hk
  · obtain ⟨c, hc, rfl⟩ := List.mem_map.mp hk
    have hcolumn := h.columns c (List.mem_of_find?_eq_some (Option.mem_toList.mp hc))
    simp [hword h.name, hword hcolumn.name]
  · obtain ⟨c, hc, hk⟩ := List.mem_filterMap.mp hk
    obtain ⟨target, htarget, rfl⟩ := Option.map_eq_some_iff.mp hk
    have hcolumn := h.selected hc
    simp [hword h.name, hword hcolumn.name, hword (hcolumn.foreignKey target htarget)]

/-! ## Openings -/

theorem opening_inj (h : t.Worded) (h' : t'.Worded)
    (heq : opening d t ++ x = opening d t' ++ y) : t.name = t'.name ∧ x = y := by
  have hn := h.name.solid
  have hn' := h'.name.solid
  cases d with
  | mysql =>
      have hcut (t : Table) (z : String) :
          opening .mysql t ++ z = "CREATE TABLE " ++ (t.name ++ (" (\n" ++ z)) := by
        unfold opening
        rw [String.append_assoc, String.append_assoc]
      rw [hcut, hcut, String.append_right_inj] at heq
      obtain ⟨hname, hrest⟩ := hn.append_inj hn' (BeginsBlank.append (by decide) _)
        (BeginsBlank.append (by decide) _) heq
      exact ⟨hname, (String.append_right_inj _).mp hrest⟩
  | azure =>
      have hcut (t : Table) (z : String) :
          opening .azure t ++ z = "CREATE TABLE [dbo].[" ++ (t.name ++ "](" ++ ("\n" ++ z)) := by
        have hline : "](\n" = "](" ++ "\n" := rfl
        unfold opening
        simp only [hline, String.append_assoc]
      rw [hcut, hcut, String.append_right_inj] at heq
      obtain ⟨hname, hrest⟩ := (hn.append (by decide)).append_inj (hn'.append (by decide))
        (BeginsBlank.append (by decide) _) (BeginsBlank.append (by decide) _) heq
      exact ⟨(String.append_left_inj _).mp hname, (String.append_right_inj _).mp hrest⟩

/-! ## References and indexes -/

/-- The foreign key of a column. -/
def foreignKey : Dialect → Table → Column → List String
  | .mysql, t, c => (mysqlForeignKey t c).toList
  | .azure, t, c => azureForeignKey t c

/-- The index of a column. -/
def index : Dialect → Table → Column → List String
  | .mysql, t, c => (mysqlIndex t c).toList
  | .azure, t, c => (azureIndex t c).toList

/-- A column of which only the reference is known. -/
def referring (p : String × String) : Column :=
  { (default : Column) with name := p.1, foreignKey := some p.2 }

/-- A column of which only the index is known. -/
def indexing (name : String) : Column :=
  { (default : Column) with name := name, isIndex := true }

theorem flatMap_foreignKey (d : Dialect) (t : Table) :
    t.selected.flatMap (foreignKey d t)
      = t.references.flatMap fun p => foreignKey d t (referring p) := by
  rw [Table.references, List.filterMap_eq_flatMap_toList, List.flatMap_assoc]
  refine List.flatMap_congr fun c _ => ?_
  cases hc : c.foreignKey <;> cases d <;>
    simp [foreignKey, mysqlForeignKey, azureForeignKey, referring, hc]

theorem flatMap_index (d : Dialect) (t : Table) :
    t.selected.flatMap (index d t) = t.indexed.flatMap fun n => index d t (indexing n) := by
  rw [Table.indexed, List.filterMap_eq_flatMap_toList, List.flatMap_assoc]
  refine List.flatMap_congr fun c _ => ?_
  cases hc : c.isIndex <;> cases d <;> simp [index, mysqlIndex, azureIndex, indexing, hc]

theorem foreignKey_inj {p q : String × String} (hp : IsWord p.1) (hq : IsWord q.1)
    {r s : List String}
    (h : foreignKey d t (referring p) ++ r = foreignKey d t (referring q) ++ s) :
    p = q ∧ r = s := by
  obtain ⟨n, target⟩ := p
  obtain ⟨m, other⟩ := q
  cases d with
  | mysql =>
      have hcut (n target : String) (r : List String) :
          foreignKey .mysql t (referring (n, target)) ++ r
            = ("CONSTRAINT FK_" ++ t.name ++ "_"
                ++ (n ++ (" FOREIGN KEY (" ++ (n ++ ") REFERENCES " ++ target)))) :: r := by
        simp only [foreignKey, mysqlForeignKey, referring, Option.map_some, Option.toList_some,
          List.singleton_append, String.append_assoc]
      rw [hcut, hcut, List.cons.injEq, String.append_right_inj] at h
      obtain ⟨rfl, hrest⟩ := hp.solid.append_inj hq.solid (BeginsBlank.append (by decide) _)
        (BeginsBlank.append (by decide) _) h.1
      rw [String.append_right_inj, String.append_right_inj] at hrest
      exact ⟨congrArg (n, ·) hrest, h.2⟩
  | azure =>
      have hcut (n target : String) (r : List String) :
          ∃ switch, foreignKey .azure t (referring (n, target)) ++ r
            = ("ALTER TABLE [dbo].[" ++ t.name ++ "] WITH CHECK\nADD CONSTRAINT [" ++ "FK_"
                ++ t.name ++ "_" ++ (n ++ "]"
                  ++ ("\nFOREIGN KEY ([" ++ (n ++ ("]) REFERENCES " ++ target ++ ";")))))
              :: switch :: r := by
        have hline : "]\nFOREIGN KEY ([" = "]" ++ "\nFOREIGN KEY ([" := rfl
        refine ⟨"ALTER TABLE [dbo].[" ++ t.name ++ "] CHECK\nCONSTRAINT ["
          ++ ("FK_" ++ t.name ++ "_" ++ n) ++ "];", ?_⟩
        simp only [foreignKey, azureForeignKey, referring, hline, List.cons_append,
          List.nil_append, String.append_assoc]
      obtain ⟨u, hu⟩ := hcut n target r
      obtain ⟨v, hv⟩ := hcut m other s
      rw [hu, hv, List.cons.injEq, List.cons.injEq, String.append_right_inj] at h
      obtain ⟨hname, hrest⟩ := (hp.solid.append (by decide)).append_inj
        (hq.solid.append (by decide)) (BeginsBlank.append (by decide) _)
        (BeginsBlank.append (by decide) _) h.1
      obtain rfl := (String.append_left_inj _).mp hname
      rw [String.append_right_inj, String.append_right_inj, String.append_left_inj,
        String.append_right_inj] at hrest
      exact ⟨congrArg (n, ·) hrest, h.2.2⟩

theorem index_inj {n m : String} (hn : IsWord n) (hm : IsWord m) {r s : List String}
    (h : index d t (indexing n) ++ r = index d t (indexing m) ++ s) : n = m ∧ r = s := by
  cases d with
  | mysql =>
      have hcut (n : String) (r : List String) :
          index .mysql t (indexing n) ++ r
            = ("CREATE INDEX IX_" ++ t.name ++ "_"
                ++ (n ++ (" ON " ++ (t.name ++ "(" ++ n ++ ");")))) :: r := by
        simp only [index, mysqlIndex, indexing, ↓reduceIte, Option.toList_some,
          List.singleton_append, String.append_assoc]
      rw [hcut, hcut, List.cons.injEq, String.append_right_inj] at h
      exact ⟨(hn.solid.append_inj hm.solid (BeginsBlank.append (by decide) _)
        (BeginsBlank.append (by decide) _) h.1).1, h.2⟩
  | azure =>
      have hcut (n : String) (r : List String) :
          index .azure t (indexing n) ++ r
            = ("CREATE NONCLUSTERED INDEX [IX_" ++ t.name ++ "_"
                ++ (n ++ "]" ++ ("\n       ON [dbo].[" ++ (t.name ++ "](" ++ n ++ " ASC)\n"
                  ++ azureIndexOptions ++ ";")))) :: r := by
        have hline : "]\n       ON [dbo].[" = "]" ++ "\n       ON [dbo].[" := rfl
        simp only [index, azureIndex, indexing, hline, ↓reduceIte, Option.toList_some,
          List.singleton_append, String.append_assoc]
      rw [hcut, hcut, List.cons.injEq, String.append_right_inj] at h
      have hname := ((hn.solid.append (by decide)).append_inj (hm.solid.append (by decide))
        (BeginsBlank.append (by decide) _) (BeginsBlank.append (by decide) _) h.1).1
      exact ⟨(String.append_left_inj _).mp hname, h.2⟩

/-- No foreign key of the second dialect is taken for an index. -/
theorem foreignKey_ne_index (p : String × String) (n : String) (r s : List String) :
    foreignKey .azure t (referring p) ++ r ≠ index .azure t' (indexing n) ++ s := by
  intro h
  have hne (x y : String) : "ALTER TABLE [dbo].[" ++ x ≠ "CREATE NONCLUSTERED INDEX [IX_" ++ y := by
    rw [ne_eq, ← String.toList_inj]
    simp
  simp only [foreignKey, azureForeignKey, referring, index, azureIndex, indexing, ↓reduceIte,
    Option.toList_some, List.cons_append, List.cons.injEq, String.append_assoc] at h
  exact hne _ _ h.1

/-! ## Lists of parts -/

/-- Parts that can be taken off the front can be taken off one after another, where what comes last
begins with none of them. -/
theorem flatMap_append_inj {α β : Type} {f : α → List β} {as bs : List α} {xs ys : List β}
    (hinj : ∀ a ∈ as, ∀ b ∈ bs, ∀ r s, f a ++ r = f b ++ s → a = b ∧ r = s)
    (hxs : ∀ b ∈ bs, ∀ r, f b ++ r ≠ xs) (hys : ∀ a ∈ as, ∀ r, f a ++ r ≠ ys)
    (h : as.flatMap f ++ xs = bs.flatMap f ++ ys) : as = bs ∧ xs = ys := by
  induction as generalizing bs with
  | nil =>
      cases bs with
      | nil => exact ⟨rfl, h⟩
      | cons b bs =>
          rw [List.flatMap_cons, List.append_assoc] at h
          exact absurd h.symm (hxs b List.mem_cons_self _)
  | cons a as ih =>
      cases bs with
      | nil =>
          rw [List.flatMap_cons, List.append_assoc] at h
          exact absurd h (hys a List.mem_cons_self _)
      | cons b bs =>
          rw [List.flatMap_cons, List.flatMap_cons, List.append_assoc, List.append_assoc] at h
          obtain ⟨hab, h⟩ := hinj a List.mem_cons_self b List.mem_cons_self _ _ h
          obtain ⟨hrest, hends⟩ := ih
            (fun a ha b hb => hinj a (List.mem_cons_of_mem _ ha) b (List.mem_cons_of_mem _ hb))
            (fun b hb => hxs b (List.mem_cons_of_mem _ hb))
            (fun a ha => hys a (List.mem_cons_of_mem _ ha)) h
          exact ⟨congrArg₂ List.cons hab hrest, hends⟩

end TableScript

end Tablekeep
