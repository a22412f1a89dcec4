import Mathlib.Data.List.Forall2
import Tablekeep.Proofs.Definition.Plural
import Tablekeep.Proofs.Definition.Validity

/-!
# Respelled definitions

Two databases are respelled if they differ in the letter case of names only. What is found by a
name in the one is found in the other, in the same place: `Twins` are things that stand in the
same place. So it is with the plurals of tables, if the names are in ASCII.
-/

namespace Tablekeep

/-! ## Things in the same place -/

/-- Things of two lists that are related, as those in the same places are. -/
structure Twins {α : Type} (R : α → α → Prop) (as bs : List α) (a b : α) : Prop where
  left : a ∈ as
  right : b ∈ bs
  rel : R a b

section Twins

variable {α : Type} {R : α → α → Prop} {as bs : List α}

theorem forall₂_twins (h : List.Forall₂ R as bs) : List.Forall₂ (Twins R as bs) as bs := by
  obtain ⟨hlength, hrel⟩ := List.forall₂_iff_zip.mp h
  refine List.forall₂_iff_zip.mpr ⟨hlength, fun hmem => ?_⟩
  obtain ⟨hleft, hright⟩ := List.of_mem_zip hmem
  exact ⟨hleft, hright, hrel hmem⟩

/-- What is looked for with the same answers is found in the same place. -/
theorem rel_find? {p q : α → Bool} (h : List.Forall₂ R as bs) (hpq : ∀ a b, R a b → p a = q b) :
    Option.Rel R (as.find? p) (bs.find? q) := by
  induction h with
  | nil => exact .none
  | @cons a b as bs hab _ ih =>
      rw [List.find?_cons, List.find?_cons, hpq a b hab]
      cases q b with
      | true => exact .some hab
      | false => exact ih

end Twins

/-! ## Respelling -/

/-- The columns differ in the letter case of the name. What they refer to is written with names,
too, and may be anything. -/
structure Column.Respelled (c d : Column) : Prop where
  name : Text.sameName c.name d.name = true
  others : d = { c with name := d.name, foreignKey := d.foreignKey }

/-- The tables differ in the letter case of names. -/
structure Table.Respelled (t u : Table) : Prop where
  name : Text.sameName t.name u.name = true
  columns : List.Forall₂ Column.Respelled t.columns u.columns

/-- The databases differ in the letter case of names. -/
structure Database.Respelled (a b : Database) : Prop where
  name : Text.sameName a.name b.name = true
  tables : List.Forall₂ Table.Respelled a.tables b.tables

/-! ### Columns -/

namespace Column.Respelled

variable {c d : Column} (h : c.Respelled d)

include h

theorem kind : c.kind = d.kind := by rw [h.others]

theorem isNullable : c.isNullable = d.isNullable := by rw [h.others]

theorem isIdentity : c.isIdentity = d.isIdentity := by rw [h.others]

theorem isBlob : c.isBlob = d.isBlob := by rw [Column.isBlob, Column.isBlob, h.kind]

end Column.Respelled

namespace Table

variable {t u : Table}

/-- Columns of the two tables that are spellings of each other. -/
abbrev TwinColumns (t u : Table) : Column → Column → Prop :=
  Twins Column.Respelled t.columns u.columns

/-- Names that are equal stay equal when they are respelled, as there they name one column. -/
theorem TwinColumns.name_eq_iff (ht : t.Valid) (hu : u.Valid) {c d c' d' : Column}
    (h : TwinColumns t u c d) (h' : TwinColumns t u c' d') :
    c.name = c'.name ↔ d.name = d'.name := by
  constructor
  · intro hname
    have hsame : Text.sameName d.name d'.name = true := by
      refine Text.sameName_trans (Text.sameName_symm h.rel.name) ?_
      rw [hname]
      exact h'.rel.name
    rw [hu.columns.eq_of_sameName h.right h'.right hsame]
  · intro hname
    have hsame : Text.sameName c.name c'.name = true := by
      refine Text.sameName_trans h.rel.name ?_
      rw [hname]
      exact Text.sameName_symm h'.rel.name
    rw [ht.columns.eq_of_sameName h.left h'.left hsame]

namespace Respelled

variable (h : t.Respelled u)

include h

theorem column? (name : String) :
    Option.Rel (TwinColumns t u) (t.column? name) (u.column? name) :=
  rel_find? (forall₂_twins h.columns) fun _ _ hcd => Text.sameName_congr hcd.rel.name name

theorem selected : List.Forall₂ (TwinColumns t u) t.selected u.selected := by
  refine List.rel_filter (fun c d hcd => ?_) (forall₂_twins h.columns)
  change (!c.isBlob) = true ↔ (!d.isBlob) = true
  rw [hcd.rel.isBlob]

theorem hasIdentity : t.hasIdentity = u.hasIdentity := by
  have hcolumns := h.columns
  unfold Table.hasIdentity
  generalize t.columns = cs, u.columns = ds at hcolumns ⊢
  induction hcolumns with
  | nil => rfl
  | cons hcd _ ih => rw [List.any_cons, List.any_cons, hcd.isIdentity, ih]

end Respelled

/-! ### Tables -/

/-- The plurals of names in ASCII are respelled with them. -/
theorem Respelled.plural (h : t.Respelled u) (ht : Text.Ascii t.name) (hu : Text.Ascii u.name) :
    Text.sameName (Plural.ofName t.name) (Plural.ofName u.name) = true := by
  rw [Text.sameName_iff, Plural.lower_ofName ht, Plural.lower_ofName hu,
    Text.sameName_iff.mp h.name]

end Table

namespace Database

variable {a b : Database}

/-- Tables of the two databases that are spellings of each other. -/
abbrev TwinTables (a b : Database) : Table → Table → Prop :=
  Twins Table.Respelled a.tables b.tables

namespace Respelled

variable (h : a.Respelled b)

include h

theorem table? (name : String) : Option.Rel (TwinTables a b) (a.table? name) (b.table? name) :=
  rel_find? (forall₂_twins h.tables) fun _ _ htu => Text.sameName_congr htu.rel.name name

theorem plural? (hascii : ∀ t ∈ a.tables ++ b.tables, Text.Ascii t.name) (name : String) :
    Option.Rel (TwinTables a b)
      (a.tables.find? fun t => Text.sameName (Plural.ofName t.name) name)
      (b.tables.find? fun t => Text.sameName (Plural.ofName t.name) name) := by
  refine rel_find? (forall₂_twins h.tables) fun t u htu => Text.sameName_congr ?_ name
  have ht := hascii t (List.mem_append_left _ htu.left)
  have hu := hascii u (List.mem_append_right _ htu.right)
  exact htu.rel.plural ht hu

end Respelled

end Database

end Tablekeep
