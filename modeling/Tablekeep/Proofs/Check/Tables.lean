import Tablekeep.Check.Tables
import Tablekeep.Proofs.Definition.Validity

/-!
# When live tables are those of a definition

The comparison takes one spelling of each name and sorts what it finds. Neither matters to whether
it finds anything: the names are those of the definition if and only if both are the same names when
they are in lower case.
-/

namespace Tablekeep.Check

/-- Both have the same names, if they are in lower case. -/
def SameNames (names others : List String) : Prop :=
  ∀ key, (∃ name ∈ names, Text.lower name = key) ↔ ∃ other ∈ others, Text.lower other = key

theorem spellings_subset (names : List String) : spellings names ⊆ names := by
  induction names with
  | nil => exact List.Subset.refl []
  | cons name rest ih =>
      unfold spellings
      split
      · exact List.subset_cons_of_subset name ih
      · exact List.cons_subset_cons name ih

/-- Every name has its spelling. -/
theorem exists_spelling {names : List String} {name : String} (h : name ∈ names) :
    ∃ spelling ∈ spellings names, Text.lower spelling = Text.lower name := by
  induction names generalizing name with
  | nil => cases h
  | cons first rest ih =>
      unfold spellings
      by_cases hagain : rest.any (Text.sameName first) = true
      · rw [if_pos hagain]
        rcases List.mem_cons.mp h with rfl | hmem
        · -- the name comes again, and a later spelling stands for it
          obtain ⟨other, hother, hsame⟩ := List.any_eq_true.mp hagain
          obtain ⟨spelling, hspelling, hlower⟩ := ih hother
          exact ⟨spelling, hspelling, hlower.trans (Text.sameName_iff.mp hsame).symm⟩
        · exact ih hmem
      · rw [if_neg hagain]
        rcases List.mem_cons.mp h with rfl | hmem
        · exact ⟨name, List.mem_cons_self .., rfl⟩
        · obtain ⟨spelling, hspelling, hlower⟩ := ih hmem
          exact ⟨spelling, List.mem_cons_of_mem first hspelling, hlower⟩

theorem without_eq_nil_iff {names others : List String} :
    without names others = []
      ↔ ∀ name ∈ names, ∃ other ∈ others, Text.lower other = Text.lower name := by
  have hnil : without names others = []
      ↔ ∀ name ∈ spellings names, others.any (Text.sameName name) = true := by
    unfold without
    rw [← List.length_eq_zero_iff, List.length_mergeSort, List.length_eq_zero_iff,
      List.filter_eq_nil_iff]
    simp
  rw [hnil]
  constructor
  · intro h name hname
    obtain ⟨spelling, hspelling, hlower⟩ := exists_spelling hname
    obtain ⟨other, hother, hsame⟩ := List.any_eq_true.mp (h spelling hspelling)
    exact ⟨other, hother, (Text.sameName_iff.mp hsame).symm.trans hlower⟩
  · intro h spelling hspelling
    obtain ⟨other, hother, hlower⟩ := h spelling (spellings_subset names hspelling)
    exact List.any_eq_true.mpr ⟨other, hother, Text.sameName_iff.mpr hlower.symm⟩

/-- **Live tables pass if and only if their names are those of the definition**, letter case
apart. -/
theorem tables_isValid_iff (live : List String) (db : Database) :
    (tables live db).isValid = true ↔ SameNames live (db.tables.map (·.name)) := by
  unfold tables TableDiff.isValid
  rw [Bool.and_eq_true, List.isEmpty_iff, List.isEmpty_iff, without_eq_nil_iff, without_eq_nil_iff]
  constructor
  · rintro ⟨hmissing, hextra⟩ key
    constructor
    · rintro ⟨name, hname, rfl⟩
      exact hextra name hname
    · rintro ⟨name, hname, rfl⟩
      exact hmissing name hname
  · intro h
    constructor
    · intro name hname
      exact (h _).mpr ⟨name, hname, rfl⟩
    · intro name hname
      exact (h _).mp ⟨name, hname, rfl⟩

end Tablekeep.Check
