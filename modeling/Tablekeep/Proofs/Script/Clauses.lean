import Tablekeep.Proofs.Definition.Validity
import Tablekeep.Script.Basic

/-!
# What the creating statement declares

The statement that creates a table is one text, but it is put together from clauses, and
what other parts of the library need to know of a script is said of those. In both
dialects there is one clause for each selected column, in the order of the definition,
and keys come after all of them.

A clause ends with the word that says whether the column can be null, unless the column
is the identity: then it ends with the words of the dialect for that. The declared type
stands before them and is free text, so it can look like either; the end of the clause
cannot be forged.
-/

namespace Tablekeep.TableScript

variable {d : Dialect} {t : Table} {c : Column}

/-! ## The parts of the statement -/

/-- What the statement begins with. -/
def opening : Dialect → Table → String
  | .mysql, t => "CREATE TABLE " ++ t.name ++ " (\n"
  | .azure, t => "CREATE TABLE [dbo].[" ++ t.name ++ "](\n"

/-- The clauses that are no columns. -/
def keys : Dialect → Table → List String
  | .mysql, t => mysqlKey t ++ t.selected.filterMap (mysqlForeignKey t)
  | .azure, t => azureKey t

/-- What the statement ends with. -/
def closing : Dialect → String
  | .mysql => ");"
  | .azure => "\n) ON [PRIMARY];"

/-- There is a script if there is a column to create. The columns of its table are the selected
ones. -/
theorem exists_create (d : Dialect) (h : t.selected ≠ []) :
    ∃ s, ofTable d t = .ok s ∧ s.table = t.name
      ∧ s.create = opening d t ++ Text.join ",\n" (t.selected.map (columnClause d) ++ keys d t)
          ++ closing d := by
  have hsome : t.selected.isEmpty = false := by simpa using h
  cases d with
  | mysql =>
      refine ⟨mysql t, ?_, ?_, ?_⟩
      · simp [ofTable, hsome]
      · rfl
      · dsimp only [mysql, keys, opening, closing]
        rw [List.append_assoc]
  | azure =>
      refine ⟨azure t, ?_, ?_, ?_⟩
      · simp [ofTable, hsome]
      · rfl
      · dsimp only [azure, keys, opening, closing]

/-! ## The end of a clause -/

/-- Nothing follows the word for a column that can be null. -/
theorem columnClause_of_nullable (d : Dialect) (h : c.Valid) (hn : c.isNullable = true) :
    columnClause d c = c.name ++ " " ++ c.declared ++ " NULL" := by
  have hid : c.isIdentity = false := by
    by_contra hcon
    have := (h.identity (by simpa using hcon)).1
    rw [hn] at this
    cases this
  simp [columnClause, hn, hid]

/-- Whatever the declared type, the identity is the column whose clause ends with the words for
it. -/
theorem endsWith_identity_iff :
    Text.endsWith (columnClause .azure c) " IDENTITY(1,1)" = true ↔ c.isIdentity = true := by
  unfold columnClause Text.endsWith
  constructor
  · intro h
    by_contra hid
    -- read from its end, a clause differs from the words at the first character
    rw [if_neg hid, String.append_empty, String.toList_append, List.reverse_append] at h
    split at h
    · cases h
    · cases h
  · intro hid
    rw [if_pos hid, String.toList_append, List.reverse_append, Text.isStart,
      List.isPrefixOf_iff_prefix]
    exact List.prefix_append _ _

end Tablekeep.TableScript
