import Tablekeep.Proofs.Script.Parts
import Mathlib.Data.List.TFAE
import Mathlib.Tactic.TFAE

/-!
# What the statements of a table say

The statements that create a table are all that a server ever learns of it. They leave the large
objects out, and nothing else: from the statements of either dialect one can get back the name of
the table and the columns that are not large objects, with everything that is declared of them.

In both dialects the creating statement gives the headings of the columns, and the indexes come as
statements of their own. The two differ in where the references are: in lines of the creating
statement, after the primary key, or in pairs of statements before the indexes. They are got back
from there, and with headings, references and indexes there is nothing more to a column
(`Table.Valid.selected_eq`).
-/

namespace Tablekeep.TableScript

open Text

variable {d : Dialect} {t t' : Table}

/-! ## Statements as parts -/

/-- The statement that creates the table. -/
def creation (d : Dialect) (t : Table) : String :=
  opening d t ++ Text.join ",\n" (t.selected.map (columnClause d) ++ keys d t) ++ closing d

theorem statements_mysql (t : Table) :
    (mysql t).statements = ("DROP TABLE IF EXISTS " ++ t.name ++ ";") :: creation .mysql t
      :: t.indexed.flatMap fun n => index .mysql t (indexing n) := by
  have hcreate : (mysql t).create = creation .mysql t := by
    dsimp only [mysql, creation, keys, opening, closing]
    rw [List.append_assoc]
  have hindexes : (mysql t).indexes = t.selected.flatMap (index .mysql t) :=
    List.filterMap_eq_flatMap_toList ..
  rw [← flatMap_index, ← hcreate, ← hindexes]
  rfl

theorem statements_azure (t : Table) :
    (azure t).statements = creation .azure t
      :: ((t.references.flatMap fun p => foreignKey .azure t (referring p))
        ++ t.indexed.flatMap fun n => index .azure t (indexing n)) := by
  have hindexes : (azure t).indexes = t.selected.flatMap (index .azure t) :=
    List.filterMap_eq_flatMap_toList ..
  rw [← flatMap_index, ← flatMap_foreignKey, ← hindexes]
  rfl

/-- Nothing but its name is used of the table when a part is put together. -/
theorem foreignKey_congr (h : t.name = t'.name) (d : Dialect) :
    foreignKey d t = foreignKey d t' := by
  funext c
  cases d <;> simp [foreignKey, mysqlForeignKey, azureForeignKey, h]

theorem index_congr (h : t.name = t'.name) (d : Dialect) : index d t = index d t' := by
  funext c
  cases d <;> simp [index, mysqlIndex, azureIndex, h]

/-- The primary key depends on the name of the table and the headings of its columns. -/
theorem mysqlKey_eq (h : t.Valid) :
    mysqlKey t = ((t.selected.map Column.heading).find? (·.isIdentity)).toList.map fun heading =>
      "CONSTRAINT PK_" ++ t.name ++ " PRIMARY KEY (" ++ heading.name ++ ")" := by
  rw [mysqlKey, h.identity?_eq, List.find?_map, Option.toList_map, List.map_map]
  rfl

/-! ## What is got back -/

/-- **The creating statement gives the name and the headings, and leaves the keys.** -/
theorem creation_inj (w : t.Worded) (w' : t'.Worded) (n : t.selected ≠ []) (n' : t'.selected ≠ [])
    (h : creation d t = creation d t') :
    t.name = t'.name ∧ t.selected.map Column.heading = t'.selected.map Column.heading
      ∧ listed d (keys d t) = listed d (keys d t') := by
  have hlisted {t : Table} (n : t.selected ≠ []) :
      ",\n" ++ (Text.join ",\n" (t.selected.map (columnClause d) ++ keys d t) ++ closing d)
        = listed d (t.selected.map (columnClause d) ++ keys d t) := by
    obtain ⟨c, cs, hcs⟩ := List.exists_cons_of_ne_nil n
    rw [hcs, List.map_cons, List.cons_append, Text.join_cons, listed_cons, listed,
      String.append_assoc]
  rw [creation, creation, String.append_assoc, String.append_assoc] at h
  obtain ⟨hname, h⟩ := opening_inj w w' h
  -- with a separator put before it, the first column is like the others
  rw [← String.append_right_inj ",\n", hlisted n, hlisted n'] at h
  exact ⟨hname, listed_inj (fun _ => w.selected) (fun _ => w'.selected)
    (fun _ => isKey_of_mem_keys w) (fun _ => isKey_of_mem_keys w') h⟩

/-- What is got back is all that there is. -/
theorem selected_eq (v : t.Valid) (v' : t'.Valid)
    (hheadings : t.selected.map Column.heading = t'.selected.map Column.heading)
    (hreferences : t.references = t'.references) (hindexed : t.indexed = t'.indexed) :
    t.selected = t'.selected := by
  rw [← v.selected_eq, hheadings, hreferences, hindexed, v'.selected_eq]

/-- The columns with an index are got back from the statements that come last. -/
theorem indexed_eq (w : t.Worded) (w' : t'.Worded) (hname : t.name = t'.name)
    (h : (t.indexed.flatMap fun n => index d t (indexing n))
      = t'.indexed.flatMap fun n => index d t' (indexing n)) : t.indexed = t'.indexed := by
  rw [index_congr hname d] at h
  have hne (n : String) (r : List String) : index d t' (indexing n) ++ r ≠ [] := by
    cases d <;> simp [index, mysqlIndex, azureIndex, indexing]
  refine (flatMap_append_inj (fun n hn m hm r s => index_inj (w.indexed hn) (w'.indexed hm))
    (fun n _ => hne n) (fun n _ => hne n) (congrArg (· ++ []) h)).1

/-- With the keys inside the table, the references are got back from the lines after the primary
key. -/
theorem references_eq_of_keys (v : t.Valid) (v' : t'.Valid) (w : t.Worded) (w' : t'.Worded)
    (hname : t.name = t'.name)
    (hheadings : t.selected.map Column.heading = t'.selected.map Column.heading)
    (h : keys .mysql t = keys .mysql t') : t.references = t'.references := by
  have hkeys (t : Table) : keys .mysql t
      = mysqlKey t ++ t.references.flatMap fun p => foreignKey .mysql t (referring p) := by
    rw [← flatMap_foreignKey, keys, List.filterMap_eq_flatMap_toList]
    rfl
  have hne (p : String × String) (r : List String) :
      foreignKey .mysql t' (referring p) ++ r ≠ [] := by
    simp [foreignKey, mysqlForeignKey, referring]
  rw [hkeys, hkeys, mysqlKey_eq v, mysqlKey_eq v', hheadings, hname, List.append_right_inj,
    foreignKey_congr hname] at h
  exact (flatMap_append_inj
    (fun p hp q hq r s => foreignKey_inj (w.reference hp).1 (w'.reference hq).1)
    (fun p _ => hne p) (fun p _ => hne p) (congrArg (· ++ []) h)).1

theorem determined_mysql (v : t.Valid) (v' : t'.Valid) (w : t.Worded) (w' : t'.Worded)
    (n : t.selected ≠ []) (n' : t'.selected ≠ [])
    (h : (mysql t).statements = (mysql t').statements) :
    t.name = t'.name ∧ t.selected = t'.selected := by
  rw [statements_mysql, statements_mysql, List.cons.injEq, List.cons.injEq] at h
  obtain ⟨-, hcreation, hindexes⟩ := h
  obtain ⟨hname, hheadings, hlisted⟩ := creation_inj w w' n n' hcreation
  have hkeys : keys .mysql t = keys .mysql t' :=
    listed_lines_inj (fun _ => not_mem_keys w) (fun _ => not_mem_keys w') hlisted
  exact ⟨hname, selected_eq v v' hheadings
    (references_eq_of_keys v v' w w' hname hheadings hkeys) (indexed_eq w w' hname hindexes)⟩

theorem determined_azure (v : t.Valid) (v' : t'.Valid) (w : t.Worded) (w' : t'.Worded)
    (n : t.selected ≠ []) (n' : t'.selected ≠ [])
    (h : (azure t).statements = (azure t').statements) :
    t.name = t'.name ∧ t.selected = t'.selected := by
  rw [statements_azure, statements_azure, List.cons.injEq] at h
  obtain ⟨hcreation, hrest⟩ := h
  obtain ⟨hname, hheadings, -⟩ := creation_inj w w' n n' hcreation
  -- the first statement that adds no foreign key is an index
  have hne (t t' : Table) (p : String × String) (r : List String) :
      foreignKey .azure t (referring p) ++ r
        ≠ t'.indexed.flatMap fun n => index .azure t' (indexing n) := by
    cases t'.indexed with
    | nil => simp [foreignKey, azureForeignKey, referring]
    | cons n ns => exact foreignKey_ne_index p n r _
  rw [foreignKey_congr hname] at hrest
  obtain ⟨hreferences, hindexes⟩ := flatMap_append_inj
    (fun p hp q hq r s => foreignKey_inj (w.reference hp).1 (w'.reference hq).1)
    (fun p _ => hne t' t p) (fun p _ => hne t' t' p) hrest
  exact ⟨hname, selected_eq v v' hheadings hreferences (indexed_eq w w' hname hindexes)⟩

/-! ## The statements of two tables -/

/-- Nothing else of a table is used. -/
theorem statements_congr (v : t.Valid) (v' : t'.Valid) (hname : t.name = t'.name)
    (h : t.selected = t'.selected) :
    (mysql t).statements = (mysql t').statements
      ∧ (azure t).statements = (azure t').statements := by
  have hidentity : t.identity? = t'.identity? := by rw [v.identity?_eq, h, v'.identity?_eq]
  have hreferences : t.references = t'.references := by rw [Table.references, h, Table.references]
  have hindexed : t.indexed = t'.indexed := by rw [Table.indexed, h, Table.indexed]
  have hcreation (d : Dialect) : creation d t = creation d t' := by
    have hopening : opening d t = opening d t' := by
      unfold opening
      cases d <;> simp only [hname]
    have hforeign : mysqlForeignKey t = mysqlForeignKey t' := by
      funext c
      rw [mysqlForeignKey, hname, mysqlForeignKey]
    have hkeys : keys d t = keys d t' := by
      cases d with
      | mysql => simp only [keys, mysqlKey, hname, hidentity, h, hforeign]
      | azure => simp only [keys, azureKey, hname, hidentity]
    rw [creation, hopening, h, hkeys, creation]
  constructor
  · rw [statements_mysql, statements_mysql, hname, hcreation, hindexed, index_congr hname]
  · rw [statements_azure, statements_azure, hcreation, hindexed, hreferences,
      index_congr hname, foreignKey_congr hname]

/--
**Both dialects say the same of a table: all but its large objects.**

Two tables with something to create have the same statements in the one dialect if and only if they
have them in the other, and if and only if they have one name and the same columns, large objects
left aside. The tables are ones that can be read, which means that their names, types and references
are words; what the words are is of no matter.
-/
theorem statements_tfae (v : t.Valid) (v' : t'.Valid) (w : t.Worded) (w' : t'.Worded)
    (n : t.selected ≠ []) (n' : t'.selected ≠ []) :
    ∃ m m' a a', ofTable .mysql t = .ok m ∧ ofTable .mysql t' = .ok m'
      ∧ ofTable .azure t = .ok a ∧ ofTable .azure t' = .ok a'
      ∧ [m.statements = m'.statements, a.statements = a'.statements,
          t.name = t'.name ∧ t.selected = t'.selected].TFAE := by
  have hmysql {t : Table} (n : t.selected ≠ []) : ofTable .mysql t = .ok (mysql t) := by
    simp [ofTable, n]
  have hazure {t : Table} (n : t.selected ≠ []) : ofTable .azure t = .ok (azure t) := by
    simp [ofTable, n]
  refine ⟨_, _, _, _, hmysql n, hmysql n', hazure n, hazure n', ?_⟩
  tfae_have 1 → 3 := determined_mysql v v' w w' n n'
  tfae_have 2 → 3 := determined_azure v v' w w' n n'
  tfae_have 3 → 1 := fun h => (statements_congr v v' h.1 h.2).1
  tfae_have 3 → 2 := fun h => (statements_congr v v' h.1 h.2).2
  tfae_finish

/-- A column more that is a large object makes no difference, and one that is none makes one. -/
theorem statements_tfae_books :
    let id : Column := ⟨"Id", "INT", .integer, true, false, false, none⟩
    let shelf : Column := ⟨"Shelf", "INT", .integer, false, false, true, some "Shelf(Id)"⟩
    let cover : Column := ⟨"Cover", "BLOB", .binary, false, true, false, none⟩
    let title : Column := ⟨"Title", "TEXT", .text, false, true, false, none⟩
    (∃ m m', ofTable .mysql ⟨"Book", [id, cover, shelf]⟩ = .ok m
        ∧ ofTable .mysql ⟨"Book", [id, shelf]⟩ = .ok m' ∧ m.statements = m'.statements)
      ∧ ∃ a a', ofTable .azure ⟨"Book", [id, shelf, title]⟩ = .ok a
        ∧ ofTable .azure ⟨"Book", [id, shelf]⟩ = .ok a' ∧ a.statements ≠ a'.statements := by
  intro id shelf cover title
  constructor
  · obtain ⟨m, m', _, _, hm, hm', -, -, h⟩ := @statements_tfae ⟨"Book", [id, cover, shelf]⟩
      ⟨"Book", [id, shelf]⟩ (by decide) (by decide) (by decide) (by decide) (by decide) (by decide)
    exact ⟨m, m', hm, hm', (h.out 0 2).mpr (by decide)⟩
  · obtain ⟨_, _, a, a', -, -, ha, ha', h⟩ := @statements_tfae ⟨"Book", [id, shelf, title]⟩
      ⟨"Book", [id, shelf]⟩ (by decide) (by decide) (by decide) (by decide) (by decide) (by decide)
    exact ⟨a, a', ha, ha', mt (h.out 1 2).mp (by decide)⟩

end Tablekeep.TableScript
