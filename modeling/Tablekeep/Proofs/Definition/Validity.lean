import Tablekeep.Definition.Basic
import Mathlib.Data.List.Pairwise

/-!
# What holds of every definition that is read

A definition can be written down that no text declares: two tables of one name, an
identity that may be null. `Database.Valid` is what reading a text guarantees. It is
stated for a database on its own, so that whatever is later done with a database (a
script, a backup, a restoration) can rest on it without knowing where the database
came from.

* A **column** has the kind of its declared type. An identity is neither nullable nor
  indexed nor a reference, and a large object is no key of any sort.
* A **table** has a column, no two columns of one name, and at most one identity.
* A **database** has no two tables of one name.

Names are the same when they differ in letter case at most, so "one name" is
`Text.sameName` throughout.
-/

namespace Tablekeep

/-! ## Names -/

namespace Text

theorem sameName_iff {a b : String} : sameName a b = true ↔ lower a = lower b := by
  simp [sameName]

@[simp] theorem sameName_self (a : String) : sameName a a = true := by simp [sameName]

theorem sameName_comm (a b : String) : sameName a b = sameName b a := by
  rw [Bool.eq_iff_iff, sameName_iff, sameName_iff]
  exact eq_comm

theorem sameName_symm {a b : String} (h : sameName a b = true) : sameName b a = true := by
  rw [sameName_comm]
  exact h

theorem sameName_trans {a b c : String} (hab : sameName a b = true)
    (hbc : sameName b c = true) : sameName a c = true := by
  rw [sameName_iff] at *
  exact hab.trans hbc

/-- Spellings of one name are the same as the same names. -/
theorem sameName_congr {a b : String} (h : sameName a b = true) (c : String) :
    sameName a c = sameName b c := by
  rw [Bool.eq_iff_iff, sameName_iff, sameName_iff, sameName_iff.mp h]

theorem sameName_congr_right {a b : String} (h : sameName a b = true) (c : String) :
    sameName c a = sameName c b := by
  rw [sameName_comm, sameName_congr h, sameName_comm]

/-! ### Lists without repeated names -/

section Distinct

variable {α : Type} {name : α → String} {l : List α}

/-- Things that are the same by name are the same, where no name occurs twice. -/
theorem eq_of_sameName (h : l.Pairwise fun a b => sameName (name a) (name b) = false) {a b : α}
    (ha : a ∈ l) (hb : b ∈ l) (hab : sameName (name a) (name b) = true) : a = b := by
  by_contra hne
  have : Std.Symm fun x y : α => sameName (name x) (name y) = false :=
    ⟨fun x y hxy => by rw [sameName_comm]; exact hxy⟩
  rw [h.forall ha hb hne] at hab
  exact Bool.noConfusion hab

/-- There the first thing with a name is the only one. -/
theorem find?_sameName_eq_some_iff
    (h : l.Pairwise fun a b => sameName (name a) (name b) = false) {a : α} {n : String} :
    (l.find? fun x => sameName (name x) n) = some a ↔ a ∈ l ∧ sameName (name a) n = true := by
  constructor
  · intro ha
    exact ⟨List.mem_of_find?_eq_some ha, by simpa using List.find?_some ha⟩
  · rintro ⟨ha, hn⟩
    cases hf : l.find? fun x => sameName (name x) n with
    | none => exact absurd hn (List.find?_eq_none.mp hf a ha)
    | some b =>
        have hb : b ∈ l := List.mem_of_find?_eq_some hf
        have hbn : sameName (name b) n = true := by simpa using List.find?_some hf
        have hba : sameName (name b) (name a) = true := sameName_trans hbn (sameName_symm hn)
        rw [eq_of_sameName h hb ha hba]

end Distinct

end Text

/-! ## Columns -/

/-- The properties of a column go together. -/
structure Column.Valid (c : Column) : Prop where
  kind : c.kind = .ofType c.declared
  identity : c.isIdentity = true →
    c.isNullable = false ∧ c.isIndex = false ∧ c.foreignKey = none ∧ c.isBlob = false
  blob : c.isBlob = true → c.isIndex = false ∧ c.foreignKey = none

instance (c : Column) : Decidable c.Valid :=
  decidable_of_iff (c.kind = .ofType c.declared
      ∧ (c.isIdentity = true →
          c.isNullable = false ∧ c.isIndex = false ∧ c.foreignKey = none ∧ c.isBlob = false)
      ∧ (c.isBlob = true → c.isIndex = false ∧ c.foreignKey = none))
    ⟨fun h => ⟨h.1, h.2.1, h.2.2⟩, fun h => ⟨h.1, h.2, h.3⟩⟩

/-! ## Tables -/

/-- Columns that may stand in one table: valid ones, no two of one name, and one identity at
most. -/
structure Column.Compatible (cs : List Column) : Prop where
  valid : ∀ c ∈ cs, c.Valid
  names : cs.Pairwise fun a b => Text.sameName a.name b.name = false
  identity : cs.Pairwise fun a b => ¬ (a.isIdentity = true ∧ b.isIdentity = true)

theorem Column.compatible_iff (cs : List Column) :
    Column.Compatible cs ↔ (∀ c ∈ cs, c.Valid)
      ∧ (cs.Pairwise fun a b => Text.sameName a.name b.name = false)
      ∧ cs.Pairwise fun a b => ¬ (a.isIdentity = true ∧ b.isIdentity = true) :=
  ⟨fun h => ⟨h.valid, h.names, h.identity⟩, fun h => ⟨h.1, h.2.1, h.2.2⟩⟩

instance (cs : List Column) : Decidable (Column.Compatible cs) :=
  decidable_of_iff _ (Column.compatible_iff cs).symm

/-- A table has columns, and they may stand together. -/
structure Table.Valid (t : Table) : Prop where
  columns : Column.Compatible t.columns
  nonempty : t.columns ≠ []

instance (t : Table) : Decidable t.Valid :=
  decidable_of_iff (Column.Compatible t.columns ∧ t.columns ≠ [])
    ⟨fun h => ⟨h.1, h.2⟩, fun h => ⟨h.1, h.2⟩⟩

namespace Column.Compatible

variable {cs : List Column}

theorem nil : Compatible [] := ⟨by simp, .nil, .nil⟩

/-- One more column may join when it is valid itself and clashes with none that is there. -/
theorem append_singleton_iff {c : Column} :
    Compatible (cs ++ [c]) ↔ Compatible cs ∧ c.Valid
      ∧ (∀ a ∈ cs, Text.sameName a.name c.name = false)
      ∧ ∀ a ∈ cs, ¬ (a.isIdentity = true ∧ c.isIdentity = true) := by
  constructor
  · rintro ⟨hv, hn, hi⟩
    rw [List.pairwise_append] at hn hi
    exact ⟨⟨fun a ha => hv a (by simp [ha]), hn.1, hi.1⟩, hv c (by simp),
      fun a ha => hn.2.2 a ha c (by simp), fun a ha => hi.2.2 a ha c (by simp)⟩
  · rintro ⟨⟨hv, hn, hi⟩, hc, hn', hi'⟩
    refine ⟨?_, ?_, ?_⟩
    · intro a ha
      rcases List.mem_append.mp ha with h | h
      · exact hv a h
      · exact (List.mem_singleton.mp h) ▸ hc
    · rw [List.pairwise_append]
      exact ⟨hn, List.pairwise_singleton .., fun a ha b hb => List.mem_singleton.mp hb ▸ hn' a ha⟩
    · rw [List.pairwise_append]
      exact ⟨hi, List.pairwise_singleton .., fun a ha b hb => List.mem_singleton.mp hb ▸ hi' a ha⟩

/-- What may stand with more columns may stand with fewer. -/
theorem left {ds : List Column} (h : Compatible (cs ++ ds)) : Compatible cs :=
  ⟨fun c hc => h.valid c (List.mem_append_left _ hc), (List.pairwise_append.mp h.names).1,
    (List.pairwise_append.mp h.identity).1⟩

/-- Columns that are the same by name are the same. -/
theorem eq_of_sameName (h : Compatible cs) {a b : Column} (ha : a ∈ cs) (hb : b ∈ cs)
    (hab : Text.sameName a.name b.name = true) : a = b :=
  Text.eq_of_sameName h.names ha hb hab

end Column.Compatible

/-- What is listed under the names of columns is found by a name, where no name occurs twice. -/
theorem Column.lookup_filterMap {α β : Type} {f : Column → Option α} {g : Column → α → β}
    {cs : List Column} (hnames : cs.Pairwise fun a b => Text.sameName a.name b.name = false)
    {c : Column} (hc : c ∈ cs) :
    (cs.filterMap fun c => (f c).map fun a => (c.name, g c a)).lookup c.name = (f c).map (g c) := by
  induction cs with
  | nil => cases hc
  | cons d cs ih =>
      obtain ⟨hother, hnames⟩ := List.pairwise_cons.mp hnames
      have hlater : ∀ e ∈ cs, e.name ≠ d.name := by
        intro e he heq
        have hdiff := hother e he
        rw [heq, Text.sameName_self] at hdiff
        cases hdiff
      rcases List.mem_cons.mp hc with rfl | hc
      · cases hf : f c with
        | none =>
            rw [List.filterMap_cons_none (by rw [hf]; rfl), Option.map_none,
              List.lookup_eq_none_iff]
            intro p hp
            obtain ⟨e, he, hep⟩ := List.mem_filterMap.mp hp
            obtain ⟨a, -, rfl⟩ := Option.map_eq_some_iff.mp hep
            exact bne_iff_ne.mpr (hlater e he).symm
        | some a =>
            rw [List.filterMap_cons_some (by rw [hf]; rfl)]
            simp
      · have hskip : ∀ (ps : List (String × β)) (b : β),
            ((d.name, b) :: ps).lookup c.name = ps.lookup c.name := by
          intro ps b
          rw [List.lookup_cons, beq_eq_false_iff_ne.mpr (hlater c hc)]
        rw [List.filterMap_cons]
        cases hf : f d with
        | none => exact ih hnames hc
        | some a =>
            rw [Option.map_some]
            exact (hskip _ _).trans (ih hnames hc)

namespace Table

variable {t : Table}

theorem mem_selected {c : Column} : c ∈ t.selected ↔ c ∈ t.columns ∧ c.isBlob = false := by
  simp [selected]

/-- A column is found by any spelling of its name. -/
theorem Valid.column?_eq_some_iff (h : t.Valid) {c : Column} {name : String} :
    t.column? name = some c ↔ c ∈ t.columns ∧ Text.sameName c.name name = true :=
  Text.find?_sameName_eq_some_iff h.columns.names

/-- So is a selected column, which can be told by what was found. -/
theorem Valid.column?_selected_iff (h : t.Valid) {c : Column} {name : String} :
    t.column? name = some c ∧ c.isBlob = false ↔
      c ∈ t.selected ∧ Text.sameName name c.name = true := by
  rw [h.column?_eq_some_iff, mem_selected, Text.sameName_comm]
  exact and_right_comm

/-- A name names one column. -/
theorem Valid.eq_of_named (h : t.Valid) {c d : Column} {name : String} (hc : c ∈ t.selected)
    (hd : d ∈ t.selected) (hcn : Text.sameName name c.name = true)
    (hdn : Text.sameName name d.name = true) : c = d :=
  h.columns.eq_of_sameName (mem_selected.mp hc).1 (mem_selected.mp hd).1
    (Text.sameName_trans (Text.sameName_symm hcn) hdn)

/-- The names of the selected columns are all different, whatever their letter case. -/
theorem Valid.selected_names (h : t.Valid) :
    t.selected.Pairwise fun a b => Text.sameName a.name b.name = false :=
  h.columns.names.sublist List.filter_sublist

end Table

/-! ## Databases -/

/-- The tables are valid, and no two have one name. -/
structure Database.Valid (d : Database) : Prop where
  tables : ∀ t ∈ d.tables, t.Valid
  names : d.tables.Pairwise fun t u => Text.sameName t.name u.name = false

theorem Database.valid_iff (d : Database) :
    d.Valid ↔ (∀ t ∈ d.tables, t.Valid)
      ∧ d.tables.Pairwise fun t u => Text.sameName t.name u.name = false :=
  ⟨fun h => ⟨h.tables, h.names⟩, fun h => ⟨h.1, h.2⟩⟩

instance (d : Database) : Decidable d.Valid :=
  decidable_of_iff _ d.valid_iff.symm

namespace Database

/-- A table is found by any spelling of its name. -/
theorem Valid.table?_eq_some_iff {d : Database} (h : d.Valid) {t : Table} {name : String} :
    d.table? name = some t ↔ t ∈ d.tables ∧ Text.sameName t.name name = true :=
  Text.find?_sameName_eq_some_iff h.names

theorem Valid.empty (name : String) : (⟨name, []⟩ : Database).Valid := ⟨by simp, .nil⟩

theorem valid_append_singleton_iff {name : String} {ts : List Table} {t : Table} :
    (⟨name, ts ++ [t]⟩ : Database).Valid ↔ (⟨name, ts⟩ : Database).Valid ∧ t.Valid
      ∧ ∀ u ∈ ts, Text.sameName u.name t.name = false := by
  constructor
  · rintro ⟨hv, hn⟩
    rw [List.pairwise_append] at hn
    exact ⟨⟨fun u hu => hv u (List.mem_append_left _ hu), hn.1⟩, hv t (by simp),
      fun u hu => hn.2.2 u hu t (by simp)⟩
  · rintro ⟨⟨hv, hn⟩, ht, hnt⟩
    refine ⟨?_, ?_⟩
    · intro u hu
      rcases List.mem_append.mp hu with h | h
      · exact hv u h
      · exact (List.mem_singleton.mp h) ▸ ht
    · rw [List.pairwise_append]
      exact ⟨hn, List.pairwise_singleton .., fun u hu v hv => List.mem_singleton.mp hv ▸ hnt u hu⟩

/-- Fewer tables are as valid as more. -/
theorem Valid.left {name : String} {ts us : List Table}
    (h : (⟨name, ts ++ us⟩ : Database).Valid) : (⟨name, ts⟩ : Database).Valid :=
  ⟨fun t ht => h.tables t (List.mem_append_left _ ht), (List.pairwise_append.mp h.names).1⟩

/-- A small database: items with a number, a name and perhaps a date. -/
def shelf : Database :=
  ⟨"shop", [⟨"item", [⟨"id", "INT", .integer, true, false, false, none⟩,
    ⟨"name", "NVARCHAR(20)", .text, false, false, true, none⟩,
    ⟨"came", "DATETIME", .timestamp, false, true, false, none⟩]⟩]⟩

example : shelf.Valid := by decide

end Database

end Tablekeep
