import Tablekeep.Check.Columns
import Tablekeep.Proofs.Definition.Validity
import Tablekeep.Proofs.Server.Survey

/-!
# What the check of a sample finds

A cell belongs to the column that it names, in whatever letter case. What the check should find in a
sample is said of cells and columns in these words alone (`Finds`): cells without a column, columns
without a cell, and values whose type is neither that of the column nor exempt. The check itself
looks each cell up, takes the first column that fits, and keeps the names of the columns that it has
met. Where no two columns have one name this comes to the same.

A database is checked by one sample of each table, and a table without one is skipped. The verdict
is that nothing was found in any of the samples.
-/

namespace Tablekeep.Check

/-! ## What there is to find -/

/-- No two columns of the table have one name. -/
def DistinctColumns (t : Table) : Prop :=
  t.columns.Pairwise fun a b => Text.sameName a.name b.name = false

/-- The cell names the column. -/
def IsOf (c : Column) (cell : Cell) : Prop :=
  Text.sameName c.name cell.name = true

/-- The observed types that pass for a kind without being it. -/
def exempt : List (ValueKind × String) :=
  [(.boolean, "UINT64"), (.single, "DOUBLE")]

/-- The value is of another type than the column. -/
def IsMismatch (c : Column) (cell : Cell) : Prop :=
  cell.value ≠ .null ∧ cell.value.observedType ≠ c.kind.name
    ∧ (c.kind, cell.value.observedType) ∉ exempt

/-- No column is named. -/
def IsExtra (t : Table) (cell : Cell) : Prop :=
  ∀ c ∈ t.columns, ¬ IsOf c cell

/-- The column is no large object, and no cell names it. -/
def IsMissing (sample : Row) (c : Column) : Prop :=
  c.kind ≠ .binary ∧ ∀ cell ∈ sample, ¬ IsOf c cell

/-- The cell is in a column of another type. -/
def IsMistyped (t : Table) (cell : Cell) : Prop :=
  ∃ c ∈ t.columns, IsOf c cell ∧ IsMismatch c cell

instance (t : Table) : Decidable (DistinctColumns t) :=
  inferInstanceAs (Decidable (List.Pairwise _ _))

instance (c : Column) (cell : Cell) : Decidable (IsOf c cell) :=
  inferInstanceAs (Decidable (_ = true))

instance (c : Column) (cell : Cell) : Decidable (IsMismatch c cell) :=
  inferInstanceAs (Decidable (_ ∧ _ ∧ _))

instance (t : Table) (cell : Cell) : Decidable (IsExtra t cell) :=
  inferInstanceAs (Decidable (∀ c ∈ t.columns, ¬ IsOf c cell))

instance (sample : Row) (c : Column) : Decidable (IsMissing sample c) :=
  inferInstanceAs (Decidable (_ ∧ ∀ cell ∈ sample, ¬ IsOf c cell))

instance (t : Table) (cell : Cell) : Decidable (IsMistyped t cell) :=
  inferInstanceAs (Decidable (∃ c ∈ t.columns, IsOf c cell ∧ IsMismatch c cell))

/-- The mismatch tells of the cell, and of a column that it names. -/
def Tells (t : Table) (cell : Cell) (m : Mismatch) : Prop :=
  ∃ c ∈ t.columns, IsOf c cell ∧ m = ⟨cell.name, cell.value.observedType, c.declared⟩

/-- What is found in a sample is what there is to find: in the order of the sample, and the missing
columns in the order of the definition. -/
structure Finds (t : Table) (sample : Row) (check : TableCheck) : Prop where
  extra : check.extra = (sample.filter fun cell => IsExtra t cell).map (·.name)
  missing : check.missing = (t.columns.filter fun c => IsMissing sample c).map (·.name)
  mismatches : List.Forall₂ (Tells t) (sample.filter fun cell => IsMistyped t cell) check.mismatches

/-- There is something to find in the sample. -/
def Differs (t : Table) (sample : Row) : Prop :=
  (∃ cell ∈ sample, IsExtra t cell) ∨ (∃ c ∈ t.columns, IsMissing sample c)
    ∨ ∃ cell ∈ sample, IsMistyped t cell

variable {t : Table} {sample : Row} {cell : Cell} {c : Column}

/-! ## Cells and their columns -/

theorem column?_eq_none_iff : t.column? cell.name = none ↔ IsExtra t cell := by
  simp [Table.column?, IsExtra, IsOf]

theorem DistinctColumns.column?_eq_some_iff (h : DistinctColumns t) :
    t.column? cell.name = some c ↔ c ∈ t.columns ∧ IsOf c cell :=
  Text.find?_sameName_eq_some_iff h

theorem isExempt_iff {kind : ValueKind} {observed : String} :
    isExempt kind observed = true ↔ (kind, observed) ∈ exempt := by
  simp [isExempt, exempt]

theorem mismatch?_eq (c : Column) (cell : Cell) :
    mismatch? c cell = if IsMismatch c cell then
      some ⟨cell.name, cell.value.observedType, c.declared⟩ else none := by
  have hpasses : (cell.isNull || cell.value.observedType == c.kind.name
      || isExempt c.kind cell.value.observedType) = true ↔ ¬ IsMismatch c cell := by
    rw [Bool.or_eq_true, Bool.or_eq_true, isExempt_iff, beq_iff_eq, Cell.isNull, beq_iff_eq,
      IsMismatch]
    tauto
  unfold mismatch?
  by_cases h : IsMismatch c cell
  · rw [if_pos h]
    exact if_neg fun hpass => hpasses.mp hpass h
  · rw [if_neg h]
    exact if_pos (hpasses.mpr h)

/-- There is one column to look at, so the cell is mistyped if it is no match of that. -/
theorem DistinctColumns.isMistyped_iff (h : DistinctColumns t)
    (hc : t.column? cell.name = some c) : IsMistyped t cell ↔ IsMismatch c cell := by
  obtain ⟨hmem, hof⟩ := h.column?_eq_some_iff.mp hc
  constructor
  · rintro ⟨d, hd, hdof, hmismatch⟩
    have hsame := hc.symm.trans (h.column?_eq_some_iff.mpr ⟨hd, hdof⟩)
    obtain rfl := Option.some.inj hsame
    exact hmismatch
  · exact fun hmismatch => ⟨c, hmem, hof, hmismatch⟩

/-- A name has been met if some cell names its column. -/
theorem DistinctColumns.mem_seen_iff (h : DistinctColumns t) (hc : c ∈ t.columns) :
    c.name ∈ seen t sample ↔ ∃ cell ∈ sample, IsOf c cell := by
  simp only [seen, List.mem_filterMap, Option.map_eq_some_iff, h.column?_eq_some_iff]
  constructor
  · rintro ⟨cell, hcell, d, ⟨hd, hof⟩, hname⟩
    have hsame : Text.sameName d.name c.name = true := by
      rw [hname]
      exact Text.sameName_self _
    obtain rfl := Text.eq_of_sameName h hd hc hsame
    exact ⟨cell, hcell, hof⟩
  · rintro ⟨cell, hcell, hof⟩
    exact ⟨cell, hcell, c, ⟨hc, hof⟩, rfl⟩

/-! ## The check of a sample -/

theorem table_of_ne_nil (h : sample ≠ []) :
    table t (some sample) = ⟨t.name, false,
      (sample.filter fun c => !isDeclared t c).map (·.name),
      sample.filterMap fun c => (t.column? c.name).bind (mismatch? · c),
      (t.selected.map (·.name)).filter fun name => !(seen t sample).contains name⟩ := by
  cases sample with
  | nil => exact absurd rfl h
  | cons cell cells => rfl

theorem extra_eq (t : Table) (sample : Row) :
    (sample.filter fun cell => !isDeclared t cell) = sample.filter fun cell => IsExtra t cell := by
  refine List.filter_congr fun cell _ => ?_
  rw [Bool.eq_iff_iff, decide_eq_true_iff, ← column?_eq_none_iff, isDeclared, Bool.not_eq_true',
    Option.isSome_eq_false_iff, Option.isNone_iff_eq_none]

theorem missing_eq (h : DistinctColumns t) :
    (t.selected.map (·.name)).filter (fun name => !(seen t sample).contains name)
      = (t.columns.filter fun c => IsMissing sample c).map (·.name) := by
  rw [Table.selected, List.filter_map, List.filter_filter]
  refine congrArg _ (List.filter_congr fun c hc => ?_)
  have hseen : c.name ∈ seen t sample ↔ ∃ cell ∈ sample, IsOf c cell := h.mem_seen_iff hc
  rw [Bool.eq_iff_iff, decide_eq_true_iff, IsMissing, Bool.and_eq_true, Function.comp,
    Bool.not_eq_true', Bool.not_eq_true', List.contains_eq_mem, decide_eq_false_iff_not, hseen,
    Column.isBlob, beq_eq_false_iff_ne]
  constructor
  · rintro ⟨hnone, hkind⟩
    exact ⟨hkind, fun cell hcell hof => hnone ⟨cell, hcell, hof⟩⟩
  · rintro ⟨hkind, hnone⟩
    refine ⟨?_, hkind⟩
    rintro ⟨cell, hcell, hof⟩
    exact hnone cell hcell hof

theorem mismatches_tell (h : DistinctColumns t) (sample : Row) :
    List.Forall₂ (Tells t) (sample.filter fun cell => IsMistyped t cell)
      (sample.filterMap fun cell => (t.column? cell.name).bind (mismatch? · cell)) := by
  induction sample with
  | nil => exact .nil
  | cons cell sample ih =>
      cases hc : t.column? cell.name with
      | none =>
          have hextra := column?_eq_none_iff.mp hc
          have hno : ¬ IsMistyped t cell := by
            rintro ⟨c, hmem, hof, -⟩
            exact hextra c hmem hof
          rw [List.filter_cons_of_neg (by simpa using hno),
            List.filterMap_cons_none (by rw [hc]; rfl)]
          exact ih
      | some c =>
          have hmistyped := h.isMistyped_iff hc
          by_cases hmismatch : IsMismatch c cell
          · obtain ⟨hmem, hof⟩ := h.column?_eq_some_iff.mp hc
            rw [List.filter_cons_of_pos (by simpa using hmistyped.mpr hmismatch),
              List.filterMap_cons_some (b := ⟨cell.name, cell.value.observedType, c.declared⟩)
                (by rw [hc, Option.bind_some, mismatch?_eq, if_pos hmismatch])]
            exact .cons ⟨c, hmem, hof, rfl⟩ ih
          · rw [List.filter_cons_of_neg (by simpa using mt hmistyped.mp hmismatch),
              List.filterMap_cons_none
                (by rw [hc, Option.bind_some, mismatch?_eq, if_neg hmismatch])]
            exact ih

theorem table_finds (h : DistinctColumns t) (hne : sample ≠ []) :
    Finds t sample (table t (some sample)) := by
  rw [table_of_ne_nil hne]
  exact ⟨congrArg _ (extra_eq t sample), missing_eq h, mismatches_tell h sample⟩

/-- The order of a sample is that of what is extra and of what is mistyped, and means nothing
else. -/
theorem table_perm {other : Row} (hne : sample ≠ []) (h : sample.Perm other) :
    (table t (some other)).extra.Perm (table t (some sample)).extra
      ∧ (table t (some other)).mismatches.Perm (table t (some sample)).mismatches
      ∧ (table t (some other)).missing = (table t (some sample)).missing := by
  have hother : other ≠ [] := fun hnil => hne (hnil ▸ h).eq_nil
  rw [table_of_ne_nil hne, table_of_ne_nil hother]
  refine ⟨(h.symm.filter _).map _, h.symm.filterMap _, ?_⟩
  have hseen : (seen t other).Perm (seen t sample) := h.symm.filterMap _
  refine List.filter_congr fun name _ => ?_
  rw [List.contains_eq_mem, List.contains_eq_mem, decide_eq_decide.mpr hseen.mem_iff]

/-! ## Verdicts -/

theorem TableCheck.hasWarnings_eq_false_iff (check : TableCheck) :
    check.hasWarnings = false
      ↔ check.extra = [] ∧ check.missing = [] ∧ check.mismatches = [] := by
  simp [hasWarnings, and_assoc]

/-- A check has warnings if and only if there is something to warn of. -/
theorem TableCheck.warnings_eq_nil_iff (check : TableCheck) :
    check.warnings = [] ↔ check.hasWarnings = false := by
  rw [hasWarnings_eq_false_iff]
  simp only [warnings, List.append_eq_nil_iff, List.map_eq_nil_iff]
  tauto

theorem Finds.hasWarnings_iff {check : TableCheck} (h : Finds t sample check) :
    check.hasWarnings = true ↔ Differs t sample := by
  have hmistyped : check.mismatches = [] ↔ ∀ cell ∈ sample, ¬ IsMistyped t cell := by
    rw [← List.length_eq_zero_iff, ← h.mismatches.length_eq, List.length_eq_zero_iff,
      List.filter_eq_nil_iff]
    simp only [decide_eq_true_eq]
  rw [← Bool.not_eq_false, check.hasWarnings_eq_false_iff, h.extra, h.missing, hmistyped,
    List.map_eq_nil_iff, List.map_eq_nil_iff, List.filter_eq_nil_iff, List.filter_eq_nil_iff,
    Differs]
  simp only [decide_eq_true_eq, not_and_or, not_forall, not_not, exists_prop]

/-- There is no row, or one without cells. -/
def NoSample (sample : Option Row) : Prop :=
  ∀ row, sample = some row → row = []

instance (sample : Option Row) : Decidable (NoSample sample) :=
  match sample with
  | none => .isTrue fun _ h => by cases h
  | some [] => .isTrue fun _ h => (Option.some.inj h).symm
  | some (_ :: _) => .isFalse fun h => by cases h _ rfl

/-- The table is skipped for want of a sample, or the check looks at the sample and, if no two
columns have one name, finds what there is in it. -/
inductive Examined (t : Table) (sample : Option Row) (check : TableCheck) : Prop
  | skipped : NoSample sample → check = .clean t.name true → Examined t sample check
  | looked {row : Row} : sample = some row → row ≠ [] → check.table = t.name →
      check.skipped = false → (DistinctColumns t → Finds t row check) → Examined t sample check

theorem table_examined (t : Table) (sample : Option Row) : Examined t sample (table t sample) := by
  match sample with
  | none => exact .skipped (fun _ h => by cases h) rfl
  | some [] => exact .skipped (fun _ h => (Option.some.inj h).symm) rfl
  | some (cell :: cells) =>
      exact .looked rfl (by simp) rfl rfl fun h => table_finds h (by simp)

theorem Examined.skipped_iff {sample : Option Row} {check : TableCheck}
    (h : Examined t sample check) : check.skipped = true ↔ NoSample sample := by
  cases h with
  | skipped hnone hcheck => exact iff_of_true (by rw [hcheck, TableCheck.clean]) hnone
  | looked hrow hne _ hlooked _ =>
      exact iff_of_false (by simp [hlooked]) fun hnone => hne (hnone _ hrow)

theorem Examined.name_eq {sample : Option Row} {check : TableCheck}
    (h : Examined t sample check) : check.table = t.name := by
  cases h with
  | skipped _ hcheck => rw [hcheck, TableCheck.clean]
  | looked _ _ hname => exact hname

theorem Examined.hasWarnings_iff {sample : Option Row} {check : TableCheck}
    (h : Examined t sample check) (hdistinct : DistinctColumns t) :
    check.hasWarnings = true ↔ ∃ row, sample = some row ∧ row ≠ [] ∧ Differs t row := by
  cases h with
  | skipped hnone hcheck =>
      rw [hcheck]
      refine iff_of_false (by simp [TableCheck.clean, TableCheck.hasWarnings]) ?_
      rintro ⟨row, hrow, hne, -⟩
      exact hne (hnone row hrow)
  | looked hrow hne _ _ hfinds =>
      rw [(hfinds hdistinct).hasWarnings_iff]
      constructor
      · exact fun hdiffers => ⟨_, hrow, hne, hdiffers⟩
      · rintro ⟨row, hrow', -, hdiffers⟩
        obtain rfl := Option.some.inj (hrow.symm.trans hrow')
        exact hdiffers

/-! ## Databases -/

/-- A database is checked by the last of the rows that are given for a request of one row. -/
def survey (ε : Type) : Survey ε Empty ε TableCheck where
  request t := ⟨t.name, none, some 1⟩
  make t rows := .ok (table t rows.getLast?)
  refused := id
  unfit := nofun

theorem tablesOf_ends {τ ε : Type} (source : Source (StateM τ) ε) (ts : List Table) (s : τ) :
    (survey ε).Ends source s ts ((tablesOf source ts).run s).1 ((tablesOf source ts).run s).2 := by
  induction ts generalizing s with
  | nil => exact .done (.nil s)
  | cons t ts ih =>
      cases hanswer : (source ⟨t.name, none, some 1⟩).run s with
      | mk answer s₁ =>
          rw [tablesOf, run_bind_of_eq hanswer]
          cases answer with
          | error e => exact .refused_first ts hanswer
          | ok rows => exact .cons hanswer rfl (ih s₁)

/-- What the check of a database comes to, for the rows that were given for each table. -/
structure Judged (given : List (Table × List Row)) (check : DatabaseCheck) : Prop where
  /-- Each table is examined, in order. -/
  tables : List.Forall₂ (fun p c => Examined p.1 p.2.getLast? c) given check.tables
  /-- The notices are of the tables without a sample, and of no others. -/
  notices : check.notices = (given.filter fun p => NoSample p.2.getLast?).map fun p =>
    "Cannot check table " ++ p.1.name ++ " because it is empty."
  valid_iff_warnings : check.isValid = true ↔ check.warnings = []
  valid_iff_same : (∀ p ∈ given, DistinctColumns p.1) → (check.isValid = true ↔
    ∀ p ∈ given, ∀ row, p.2.getLast? = some row → row ≠ [] → ¬ Differs p.1 row)

/-- Related things pass together, and so do all of them. -/
theorem forall_mem_iff_of_forall₂ {α β : Type} {R : α → β → Prop} {P : α → Prop} {Q : β → Prop}
    {as : List α} {bs : List β} (h : List.Forall₂ R as bs)
    (hPQ : ∀ a ∈ as, ∀ b, R a b → (P a ↔ Q b)) : (∀ a ∈ as, P a) ↔ ∀ b ∈ bs, Q b := by
  induction h with
  | nil => simp
  | cons hab _ ih =>
      obtain ⟨hPQ, hrest⟩ := List.forall_mem_cons.mp hPQ
      rw [List.forall_mem_cons, List.forall_mem_cons, hPQ _ hab, ih hrest]

theorem judged_of_examined {given : List (Table × List Row)} {check : DatabaseCheck}
    (h : List.Forall₂ (fun p c => Examined p.1 p.2.getLast? c) given check.tables) :
    Judged given check := by
  obtain ⟨name, checks⟩ := check
  have hvalid : (⟨name, checks⟩ : DatabaseCheck).isValid = true
      ↔ ∀ c ∈ checks, c.hasWarnings = false := by
    simp [DatabaseCheck.isValid]
  refine ⟨h, ?_, ?_, ?_⟩
  · change List.map _ _ = _
    dsimp only at h ⊢
    clear hvalid
    induction h with
    | nil => rfl
    | @cons p c given checks hexamined _ ih =>
        by_cases hnone : NoSample p.2.getLast?
        · rw [List.filter_cons_of_pos (hexamined.skipped_iff.mpr hnone),
            List.filter_cons_of_pos (by simpa using hnone), List.map_cons, List.map_cons, ih,
            hexamined.name_eq]
        · rw [List.filter_cons_of_neg (mt hexamined.skipped_iff.mp hnone),
            List.filter_cons_of_neg (by simpa using hnone), ih]
  · rw [hvalid, DatabaseCheck.warnings, List.flatMap_eq_nil_iff]
    simp only [TableCheck.warnings_eq_nil_iff]
  · intro hdistinct
    rw [hvalid]
    refine (forall_mem_iff_of_forall₂ h fun p hp c hexamined => ?_).symm
    rw [← Bool.not_eq_true, hexamined.hasWarnings_iff (hdistinct p hp)]
    simp only [not_exists, not_and]

theorem examined_of_makes {τ ε : Type} {source : Source (StateM τ) ε} {s s' : τ}
    {given : List (Table × List Row)} {checks : List TableCheck}
    (h : (survey ε).Makes source s given checks s') :
    List.Forall₂ (fun p c => Examined p.1 p.2.getLast? c) given checks := by
  refine h.forall₂.imp fun p check hmade => ?_
  obtain rfl := Except.ok.inj hmade
  exact table_examined p.1 _

/-- **The check finds what there is to find, and nothing else.** In a sample of a table without two
columns of one name it finds the cells without a column, the columns without a cell and the values
of other types, in order; another order of the sample is another order of the first and the last,
and the same is missing. A database is valid exactly if there are no warnings, which is if and only
if no sample differs from its table; and each table has a notice or was looked at. -/
theorem check_exact :
    (∀ (t : Table) (sample : Row), DistinctColumns t → sample ≠ [] →
      Finds t sample (table t (some sample))
        ∧ ∀ other : Row, sample.Perm other →
          (table t (some other)).extra.Perm (table t (some sample)).extra
            ∧ (table t (some other)).mismatches.Perm (table t (some sample)).mismatches
            ∧ (table t (some other)).missing = (table t (some sample)).missing)
      ∧ ∀ {τ ε : Type} (source : Source (StateM τ) ε) (db : Database) (s : τ),
        ∃ outcome s', (survey ε).Ends source s db.tables outcome s'
          ∧ (database source db).run s = (outcome.map (⟨db.name, ·⟩), s')
          ∧ ∀ checks, outcome = .ok checks →
            ∃ given : List (Table × List Row), given.map (·.1) = db.tables
              ∧ (survey ε).Makes source s given checks s' ∧ Judged given ⟨db.name, checks⟩ := by
  refine ⟨fun t sample h hne => ⟨table_finds h hne, fun other hperm => table_perm hne hperm⟩, ?_⟩
  intro τ ε source db s
  have hends := tablesOf_ends source db.tables s
  refine ⟨_, _, hends, rfl, fun checks hchecks => ?_⟩
  rw [hchecks] at hends
  obtain ⟨given, hgiven, hmakes⟩ := hends.makes
  exact ⟨given, hgiven, hmakes, judged_of_examined (examined_of_makes hmakes)⟩

theorem check_exact_item :
    let t : Table := ⟨"item", [⟨"id", "INT", .integer, true, false, false, none⟩,
      ⟨"Name", "VARCHAR(9)", .text, false, true, false, none⟩,
      ⟨"done", "BIT", .boolean, false, true, false, none⟩,
      ⟨"photo", "BLOB", .binary, false, true, false, none⟩]⟩
    let sample : Row := [⟨"size", .int 3⟩, ⟨"ID", .text "x"⟩, ⟨"done", .bytes [1]⟩, ⟨"old", .null⟩]
    let u : Table := ⟨"empty", []⟩
    let source : Source (StateM Unit) Unit := fun request =>
      pure (.ok (if request.table = "item" then [sample] else []))
    (DistinctColumns t ∧ sample ≠ [] ∧ sample.Perm sample.reverse
      ∧ table t (some sample) = ⟨"item", false, ["size", "old"], [⟨"ID", "TEXT", "INT"⟩], ["Name"]⟩)
      ∧ Finds t sample (table t (some sample))
      ∧ (table t (some sample.reverse)).missing = (table t (some sample)).missing
      ∧ ∃ given checks s', given.map (·.1) = [t, u] ∧ (survey Unit).Makes source () given checks s'
        ∧ Judged given ⟨"shop", checks⟩ := by
  intro t sample u source
  have hdistinct : DistinctColumns t := by decide +kernel
  have hne : sample ≠ [] := by decide
  have hperm : sample.Perm sample.reverse := (List.reverse_perm sample).symm
  obtain ⟨hfinds, horder⟩ := check_exact.1 t sample hdistinct hne
  obtain ⟨outcome, s', -, hrun, hjudged⟩ := check_exact.2 source ⟨"shop", [t, u]⟩ ()
  refine ⟨⟨hdistinct, hne, hperm, by decide +kernel⟩, hfinds, (horder _ hperm).2.2, ?_⟩
  cases outcome with
  | ok checks =>
      obtain ⟨given, htables, hmakes, hgiven⟩ := hjudged checks rfl
      exact ⟨given, checks, s', htables, hmakes, hgiven⟩
  | error e => exact absurd (congrArg Prod.fst hrun) (by rintro ⟨⟩)

end Tablekeep.Check
