import Mathlib.Data.Finset.Card
import Mathlib.Data.Finset.SymmDiff
import Tablekeep.Proofs.Check.Tables

/-!
# What differs between live tables and a definition

Names are compared in lower case, so a list of names is as good as the set of its keys, and the
comparison is one of two sets. What is missing and what is too much are the two halves of their
symmetric difference, each sorted. The names of a definition are what is missing themselves; of live
names that have one key one spelling is taken, and which of them it is depends on the order in which
they were listed. Nothing else does.
-/

namespace Tablekeep.Check

/-- The names in lower case. -/
def keys (names : List String) : Finset String :=
  (names.map Text.lower).toFinset

theorem mem_keys {names : List String} {key : String} :
    key ∈ keys names ↔ ∃ name ∈ names, Text.lower name = key := by
  simp [keys]

theorem lower_mem_keys {names : List String} {name : String} (h : name ∈ names) :
    Text.lower name ∈ keys names :=
  mem_keys.mpr ⟨name, h, rfl⟩

theorem sameNames_iff {names others : List String} :
    SameNames names others ↔ keys names = keys others := by
  simp only [SameNames, Finset.ext_iff, mem_keys]

/-- Repetitions and order are no matter. -/
theorem keys_congr {names others : List String} (h : ∀ name, name ∈ names ↔ name ∈ others) :
    keys names = keys others := by
  simp only [Finset.ext_iff, mem_keys, h, implies_true]

/-! ## Spellings -/

/-- No two of the spellings that are taken are of one key. -/
theorem spellings_pairwise (names : List String) :
    (spellings names).Pairwise fun a b => Text.lower a ≠ Text.lower b := by
  induction names with
  | nil => exact .nil
  | cons name rest ih =>
      unfold spellings
      split
      · exact ih
      · rename_i hlast
        refine .cons (fun other hother heq => hlast ?_) ih
        exact List.any_eq_true.mpr ⟨other, spellings_subset rest hother, Text.sameName_iff.mpr heq⟩

/-- Where no key is repeated there is nothing to choose. -/
theorem spellings_eq_self {names : List String}
    (h : names.Pairwise fun a b => Text.sameName a b = false) : spellings names = names := by
  induction h with
  | nil => rfl
  | @cons name rest hname _ ih =>
      have hlast : ¬ rest.any (Text.sameName name) = true := by
        rw [List.any_eq_true]
        rintro ⟨other, hother, hsame⟩
        cases (hname other hother).symm.trans hsame
      rw [spellings, if_neg hlast, ih]

/-! ## One half of the difference -/

variable {names others : List String} {name : String}

theorem any_sameName_iff :
    others.any (Text.sameName name) = true ↔ Text.lower name ∈ keys others := by
  simp only [List.any_eq_true, Text.sameName_iff, mem_keys, eq_comm (a := Text.lower name)]

theorem mem_without_iff :
    name ∈ without names others ↔ name ∈ spellings names ∧ Text.lower name ∉ keys others := by
  rw [without, List.mem_mergeSort, List.mem_filter, ← any_sameName_iff, Bool.not_eq_true',
    Bool.not_eq_true]

theorem without_subset (names others : List String) : without names others ⊆ names :=
  fun _ hname => spellings_subset names (mem_without_iff.mp hname).1

/-- It is no matter how the others are spelled. -/
theorem without_congr {others' : List String} (h : keys others = keys others') :
    without names others = without names others' := by
  have hany (name : String) :
      others.any (Text.sameName name) = others'.any (Text.sameName name) := by
    rw [Bool.eq_iff_iff, any_sameName_iff, any_sameName_iff, h]
  simp only [without, hany]

theorem without_lower_pairwise (names others : List String) :
    (without names others).Pairwise fun a b => Text.lower a ≠ Text.lower b := by
  have hperm := List.mergeSort_perm
    ((spellings names).filter fun name => !others.any (Text.sameName name))
    fun a b => decide (a ≤ b)
  exact hperm.symm.pairwise ((spellings_pairwise names).filter _) fun hne => Ne.symm hne

/-- The half is sorted by code points, and has no name twice. -/
theorem without_sorted (names others : List String) :
    (without names others).Pairwise (· < ·) := by
  have hle : (without names others).Pairwise (· ≤ ·) := by
    refine (List.pairwise_mergeSort (fun a b c => ?_) (fun a b => ?_) _).imp of_decide_eq_true
    · simp only [decide_eq_true_eq]
      exact String.le_trans
    · simp only [Bool.or_eq_true, decide_eq_true_eq]
      exact String.le_total a b
  exact hle.imp₂ (fun _ _ hab hne => Std.lt_of_le_of_ne hab (mt (congrArg Text.lower) hne))
    (without_lower_pairwise names others)

/-- **The half has one spelling for each key of the difference.** -/
theorem map_without (names others : List String) :
    ((without names others).map Text.lower).Nodup
      ∧ ((without names others).map Text.lower).toFinset = keys names \ keys others := by
  refine ⟨List.pairwise_map.mpr (without_lower_pairwise names others), ?_⟩
  ext key
  simp only [List.mem_toFinset, List.mem_map, mem_without_iff, Finset.mem_sdiff]
  constructor
  · rintro ⟨name, ⟨hname, hother⟩, rfl⟩
    exact ⟨lower_mem_keys (spellings_subset names hname), hother⟩
  · rintro ⟨hkey, hother⟩
    obtain ⟨name, hname, rfl⟩ := mem_keys.mp hkey
    obtain ⟨spelling, hspelling, hlower⟩ := exists_spelling hname
    exact ⟨spelling, ⟨hspelling, hlower ▸ hother⟩, hlower⟩

theorem length_without (names others : List String) :
    (without names others).length = (keys names \ keys others).card := by
  obtain ⟨hnodup, hkeys⟩ := map_without names others
  rw [← hkeys, List.toFinset_card_of_nodup hnodup, List.length_map]

/-- A key of the difference has one spelling, and it is one of the names. -/
theorem existsUnique_without {key : String} (h : key ∈ keys names \ keys others) :
    ∃! name, name ∈ without names others ∧ Text.lower name = key := by
  obtain ⟨hnodup, hkeys⟩ := map_without names others
  rw [← hkeys, List.mem_toFinset, List.mem_map] at h
  obtain ⟨name, hname, hlower⟩ := h
  refine ⟨name, ⟨hname, hlower⟩, fun other ⟨hother, hlower'⟩ => ?_⟩
  exact List.inj_on_of_nodup_map hnodup hother hname (hlower'.trans hlower.symm)

/-- A name of which there is no other spelling stands for itself. -/
theorem mem_without_of_single (h : ∀ other ∈ names, Text.lower other = Text.lower name →
    other = name) : name ∈ without names others ↔ name ∈ names ∧ Text.lower name ∉ keys others := by
  rw [mem_without_iff]
  refine and_congr_left fun _ => ⟨fun hname => spellings_subset names hname, fun hname => ?_⟩
  obtain ⟨spelling, hspelling, hlower⟩ := exists_spelling hname
  rwa [← h spelling (spellings_subset names hspelling) hlower]

/-- Sorted lists with the same names are the same. -/
theorem eq_of_sorted {l l' : List String} (hl : l.Pairwise (· < ·)) (hl' : l'.Pairwise (· < ·))
    (h : ∀ name, name ∈ l ↔ name ∈ l') : l = l' := by
  have hperm : l.Perm l' :=
    (List.perm_ext_iff_of_nodup (hl.imp fun hlt => Std.ne_of_lt hlt)
      (hl'.imp fun hlt => Std.ne_of_lt hlt)).mpr h
  exact hperm.eq_of_pairwise (fun a b _ _ hab hba => absurd hba (Std.not_gt_of_lt hab)) hl hl'

/-! ## Both halves -/

/-- The comparison is one of the sets of keys. -/
structure Compares (live declared : List String) (diff : TableDiff) : Prop where
  valid_iff : diff.isValid = true ↔ keys live = keys declared
  valid_iff_count : diff.isValid = true ↔ diff.errorCount = 0
  /-- What is missing are names of the definition, sorted and without repetitions. -/
  missing_sorted : diff.missing.Pairwise (· < ·)
  mem_missing : ∀ name, name ∈ diff.missing ↔ name ∈ declared ∧ Text.lower name ∉ keys live
  /-- What is too much are live names, sorted and without repetitions, one for each key. -/
  extra_sorted : diff.extra.Pairwise (· < ·)
  of_mem_extra : ∀ name ∈ diff.extra, name ∈ live ∧ Text.lower name ∉ keys declared
  unique_extra : ∀ key ∈ keys live \ keys declared,
    ∃! name, name ∈ diff.extra ∧ Text.lower name = key
  count : diff.errorCount = (symmDiff (keys live) (keys declared)).card

/-- Two comparisons of the same live names give the same, but for the spellings of names of which
several are live. -/
structure Agree (live : List String) (diff diff' : TableDiff) : Prop where
  valid : diff'.isValid = diff.isValid
  count : diff'.errorCount = diff.errorCount
  missing : diff'.missing = diff.missing
  extra : (diff'.extra.map Text.lower).Perm (diff.extra.map Text.lower)
  /-- A name of which no other spelling is live stays. -/
  spelling : ∀ name, (∀ other ∈ live, Text.lower other = Text.lower name → other = name) →
    (name ∈ diff'.extra ↔ name ∈ diff.extra)

theorem TableDiff.isValid_iff_errorCount (diff : TableDiff) :
    diff.isValid = true ↔ diff.errorCount = 0 := by
  rw [isValid, errorCount, Bool.and_eq_true, List.isEmpty_iff, List.isEmpty_iff,
    Nat.add_eq_zero_iff, List.length_eq_zero_iff, List.length_eq_zero_iff]

/-- As many names differ as there are keys in the symmetric difference. -/
theorem errorCount_tables (live : List String) (db : Database) :
    (tables live db).errorCount
      = (symmDiff (keys live) (keys (db.tables.map (·.name)))).card := by
  rw [TableDiff.errorCount, tables, length_without, length_without, symmDiff_def,
    Finset.sup_eq_union, Finset.card_union_of_disjoint disjoint_sdiff_sdiff, Nat.add_comm]

theorem tables_compares (live : List String) {db : Database}
    (h : db.tables.Pairwise fun a b => Text.sameName a.name b.name = false) :
    Compares live (db.tables.map (·.name)) (tables live db) where
  valid_iff := (tables_isValid_iff live db).trans sameNames_iff
  valid_iff_count := TableDiff.isValid_iff_errorCount _
  missing_sorted := without_sorted _ _
  mem_missing name := by
    rw [tables, mem_without_iff, spellings_eq_self (List.pairwise_map.mpr h)]
  extra_sorted := without_sorted _ _
  of_mem_extra _ hname := ⟨without_subset _ _ hname, (mem_without_iff.mp hname).2⟩
  unique_extra _ hkey := existsUnique_without hkey
  count := errorCount_tables live db

variable {live live' : List String} (db : Database)

theorem tables_agree (h : ∀ name, name ∈ live' ↔ name ∈ live) :
    Agree live (tables live db) (tables live' db) := by
  have hkeys : keys live' = keys live := keys_congr h
  have hcount : (tables live' db).errorCount = (tables live db).errorCount := by
    rw [errorCount_tables, errorCount_tables, hkeys]
  refine ⟨?_, hcount, without_congr hkeys, ?_, fun name hsingle => ?_⟩
  · rw [Bool.eq_iff_iff, TableDiff.isValid_iff_errorCount, TableDiff.isValid_iff_errorCount, hcount]
  · obtain ⟨hnodup, hset⟩ := map_without live (db.tables.map (·.name))
    obtain ⟨hnodup', hset'⟩ := map_without live' (db.tables.map (·.name))
    rw [← hkeys] at hset
    exact List.perm_of_nodup_nodup_toFinset_eq hnodup' hnodup (hset'.trans hset.symm)
  · have hsingle' : ∀ other ∈ live', Text.lower other = Text.lower name → other = name :=
      fun other hother => hsingle other ((h other).mp hother)
    rw [tables, tables, mem_without_of_single hsingle', mem_without_of_single hsingle, h]

/-- Where no two live names are of one key there is nothing to choose. -/
theorem tables_eq_of_distinct (h : ∀ name, name ∈ live' ↔ name ∈ live)
    (hdistinct : ∀ a ∈ live, ∀ b ∈ live, Text.lower a = Text.lower b → a = b) :
    tables live' db = tables live db := by
  have hagree := tables_agree db h
  have hextra : (tables live' db).extra = (tables live db).extra := by
    refine eq_of_sorted (without_sorted _ _) (without_sorted _ _) fun name => ?_
    by_cases hlive : name ∈ live
    · exact hagree.spelling name fun other hother hlower => hdistinct other hother name hlive hlower
    · exact iff_of_false (fun hname => hlive ((h name).mp (without_subset _ _ hname)))
        fun hname => hlive (without_subset _ _ hname)
  exact congrArg₂ TableDiff.mk hagree.missing hextra

/-- **Live tables are compared with a definition as a set of names**, letter case apart. They are
valid if the sets of keys are one, and otherwise the two halves of the difference are told, of which
the names that are missing are those of the definition. The order in which live tables are listed,
and how often, only matters to which spelling stands for names of one key. -/
theorem tables_difference (live : List String) {db : Database}
    (h : db.tables.Pairwise fun a b => Text.sameName a.name b.name = false) :
    Compares live (db.tables.map (·.name)) (tables live db)
      ∧ ∀ live' : List String, (∀ name, name ∈ live' ↔ name ∈ live) →
        Agree live (tables live db) (tables live' db)
          ∧ ((∀ a ∈ live, ∀ b ∈ live, Text.lower a = Text.lower b → a = b) →
            tables live' db = tables live db) :=
  ⟨tables_compares live h, fun _ hsame =>
    ⟨tables_agree db hsame, tables_eq_of_distinct db hsame⟩⟩

/-- Of two live spellings of one name the one that is listed last stands for both. -/
theorem tables_difference_shop :
    let db : Database := ⟨"shop", [⟨"Item", []⟩, ⟨"note", []⟩, ⟨"Bill", []⟩]⟩
    let live := ["audit", "ITEM", "AUDIT", "item", "Zone"]
    (db.tables.Pairwise fun a b => Text.sameName a.name b.name = false)
      ∧ (∀ name, name ∈ live.reverse ↔ name ∈ live)
      ∧ spellings live = ["AUDIT", "item", "Zone"]
      ∧ spellings live.reverse = ["Zone", "ITEM", "audit"]
      ∧ Compares live ["Item", "note", "Bill"] (tables live db)
      ∧ Agree live (tables live db) (tables live.reverse db) := by
  intro db live
  have hdistinct : db.tables.Pairwise fun a b => Text.sameName a.name b.name = false := by
    decide +kernel
  have hsame : ∀ name, name ∈ live.reverse ↔ name ∈ live := fun _ => List.mem_reverse
  obtain ⟨hcompares, hagree⟩ := tables_difference live hdistinct
  exact ⟨hdistinct, hsame, by decide +kernel, by decide +kernel, hcompares,
    (hagree live.reverse hsame).1⟩

end Tablekeep.Check
