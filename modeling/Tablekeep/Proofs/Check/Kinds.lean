import Tablekeep.Proofs.Check.Columns

/-!
# Samples of the declared kinds

A sample that is as it should be gives no warnings, or so one would think: every column that is
created has a cell, and every value is one that drivers give for the kind of its column. The check
guesses the type of a value from the value alone, and the guess has to be the name of the kind, or
exempt. For every kind it is one or the other, however large the value, with one exception: bytes of
a large object that are few enough for a field of bits are taken for such a field, and this pair is
not exempt. So there is a warning for each of these cells, and no other (`table_alarms`).
-/

namespace Tablekeep

/-! ## Bytes -/

namespace Value

/-- The bytes of a value, whatever holds them. -/
def bytes? : Value → Option (List UInt8)
  | bytes bs => some bs
  | buffer bs => some bs
  | window bs => some bs
  | _ => none

/-- The value is of bytes that are few enough for a field of bits. -/
def isPacked (v : Value) : Bool :=
  v.bytes?.any fun bs => bs.length ≤ 8

theorem isPacked_iff {v : Value} :
    v.isPacked = true ↔ ∃ bs, v.bytes? = some bs ∧ bs.length ≤ 8 := by
  simp [isPacked, Option.any_eq_true]

theorem observedType_of_bytes? {v : Value} {bs : List UInt8} (h : v.bytes? = some bs) :
    v.observedType = if bs.length ≤ 8 then "UINT64" else "BINARY" := by
  cases v with
  | bytes _ | buffer _ | window _ =>
      obtain rfl := Option.some.inj h
      rfl
  | null | bool _ | int _ | float _ | decimal _ | date _ | moment _ | time _ | span _ | text _ =>
      cases h

theorem observedType_of_isPacked {v : Value} (h : v.isPacked = true) :
    v.observedType = "UINT64" := by
  obtain ⟨bs, hbs, hfew⟩ := isPacked_iff.mp h
  rw [observedType_of_bytes? hbs, if_pos hfew]

end Value

namespace Check

/-! ## Values and kinds -/

/-- The values that drivers give for the columns of a kind. -/
inductive OfKind : ValueKind → Value → Prop
  | integer (n : Int) : OfKind .integer (.int n)
  | truth (b : Bool) : OfKind .boolean (.bool b)
  | bits {v : Value} : v.isPacked = true → OfKind .boolean v
  | binary {v : Value} {bs : List UInt8} : v.bytes? = some bs → OfKind .binary v
  | date (d : Calendar.Date) : OfKind .timestamp (.date d)
  | moment (m : Calendar.Moment) : OfKind .timestamp (.moment m)
  | single (x : Double) : OfKind .single (.float x)
  | decimal (x : Decimal) : OfKind .decimal (.decimal x)
  | text (s : String) : OfKind .text (.text s)

/-- The type that a value is taken for is neither the kind nor exempt. -/
def IsMisjudged (kind : ValueKind) (v : Value) : Prop :=
  v.observedType ≠ kind.name ∧ (kind, v.observedType) ∉ exempt

/-- **The guess is right for every kind**, whatever the size of the value, but for a large object of
few bytes. -/
theorem OfKind.isMisjudged_iff {kind : ValueKind} {v : Value} (h : OfKind kind v) :
    IsMisjudged kind v ↔ kind = .binary ∧ v.isPacked = true := by
  have hright {kind : ValueKind} {v : Value} (hkind : kind ≠ .binary)
      (hname : v.observedType = kind.name ∨ (kind, v.observedType) ∈ exempt) :
      IsMisjudged kind v ↔ kind = .binary ∧ v.isPacked = true := by
    refine iff_of_false (fun hmisjudged => ?_) fun hbinary => hkind hbinary.1
    rcases hname with hname | hexempt
    · exact hmisjudged.1 hname
    · exact hmisjudged.2 hexempt
  cases h with
  | integer n => exact hright (by decide) (.inl rfl)
  | truth b => exact hright (by decide) (.inl rfl)
  | bits hpacked =>
      refine hright (by decide) (.inr ?_)
      rw [Value.observedType_of_isPacked hpacked]
      decide
  | date d => exact hright (by decide) (.inl rfl)
  | moment m => exact hright (by decide) (.inl rfl)
  | single x =>
      have hexempt : (ValueKind.single, "DOUBLE") ∈ exempt := by decide
      exact hright (by decide) (.inr hexempt)
  | decimal x => exact hright (by decide) (.inl rfl)
  | text s => exact hright (by decide) (.inl rfl)
  | @binary _ bs hbs =>
      -- here the length decides, and only one of the two types is the kind
      by_cases hfew : bs.length ≤ 8
      · have hpacked : v.isPacked = true := Value.isPacked_iff.mpr ⟨bs, hbs, hfew⟩
        refine iff_of_true ?_ ⟨rfl, hpacked⟩
        rw [IsMisjudged, Value.observedType_of_isPacked hpacked]
        decide
      · refine iff_of_false (fun hmisjudged => hmisjudged.1 ?_) fun hbinary => hfew ?_
        · rw [Value.observedType_of_bytes? hbs, if_neg hfew]
          rfl
        · obtain ⟨other, hother, hless⟩ := Value.isPacked_iff.mp hbinary.2
          obtain rfl := Option.some.inj (hbs.symm.trans hother)
          exact hless

/-! ## Samples -/

/-- The sample is as it should be: each column that is created has a cell, which may hold null, and
all other values are of the kinds of their columns. -/
structure Fitting (t : Table) (sample : Row) : Prop where
  complete : ∀ c ∈ t.columns, c.kind ≠ .binary → ∃ cell ∈ sample, IsOf c cell
  typed : ∀ cell ∈ sample, ∃ c ∈ t.columns, IsOf c cell
    ∧ (cell.value = .null ∨ OfKind c.kind cell.value)

/-- The cell is of a large object of few bytes. -/
def IsSmallBlob (t : Table) (cell : Cell) : Prop :=
  ∃ c ∈ t.columns, IsOf c cell ∧ c.kind = .binary ∧ cell.value.isPacked = true

instance (t : Table) (cell : Cell) : Decidable (IsSmallBlob t cell) :=
  inferInstanceAs (Decidable (∃ c ∈ t.columns, IsOf c cell ∧ _ = _ ∧ _ = true))

/-- The mismatch tells of a cell that it is taken for a field of bits. -/
def TellsBits (t : Table) (cell : Cell) (m : Mismatch) : Prop :=
  ∃ c ∈ t.columns, IsOf c cell ∧ c.kind = .binary ∧ m = ⟨cell.name, "UINT64", c.declared⟩

variable {t : Table} {sample : Row} {cell : Cell} {c : Column}

theorem DistinctColumns.eq_of_isOf (h : DistinctColumns t) {d : Column} (hc : c ∈ t.columns)
    (hof : IsOf c cell) (hd : d ∈ t.columns) (hdof : IsOf d cell) : c = d :=
  Option.some.inj ((h.column?_eq_some_iff.mpr ⟨hc, hof⟩).symm.trans
    (h.column?_eq_some_iff.mpr ⟨hd, hdof⟩))

/-- In a sample that is as it should be, just the large objects of few bytes are mistyped. -/
theorem Fitting.isMistyped_iff (hfits : Fitting t sample) (h : DistinctColumns t)
    (hcell : cell ∈ sample) : IsMistyped t cell ↔ IsSmallBlob t cell := by
  obtain ⟨c, hc, hof, hvalue⟩ := hfits.typed cell hcell
  constructor
  · rintro ⟨d, hd, hdof, hnull, hmisjudged⟩
    obtain rfl := h.eq_of_isOf hd hdof hc hof
    rcases hvalue with hnull' | hkind
    · exact absurd hnull' hnull
    · exact ⟨d, hd, hdof, hkind.isMisjudged_iff.mp hmisjudged⟩
  · rintro ⟨d, hd, hdof, hbinary⟩
    obtain rfl := h.eq_of_isOf hd hdof hc hof
    rcases hvalue with hnull | hkind
    · rw [hnull] at hbinary
      exact absurd hbinary.2 (by decide)
    · refine ⟨d, hd, hdof, fun hnull => ?_, hkind.isMisjudged_iff.mpr hbinary⟩
      rw [hnull] at hbinary
      exact absurd hbinary.2 (by decide)

/-- The mismatch of such a cell tells of a field of bits. -/
theorem tellsBits_of_tells (h : DistinctColumns t) {m : Mismatch} (hsmall : IsSmallBlob t cell)
    (htells : Tells t cell m) : TellsBits t cell m := by
  obtain ⟨c, hc, hof, hkind, hpacked⟩ := hsmall
  obtain ⟨d, hd, hdof, rfl⟩ := htells
  obtain rfl := h.eq_of_isOf hc hof hd hdof
  refine ⟨c, hc, hof, hkind, ?_⟩
  rw [Value.observedType_of_isPacked hpacked]

theorem Fitting.not_isExtra (hfits : Fitting t sample) (hcell : cell ∈ sample) :
    ¬ IsExtra t cell := by
  obtain ⟨c, hc, hof, -⟩ := hfits.typed cell hcell
  exact fun hextra => hextra c hc hof

theorem Fitting.not_isMissing (hfits : Fitting t sample) (hc : c ∈ t.columns) :
    ¬ IsMissing sample c := by
  rintro ⟨hkind, hnone⟩
  obtain ⟨cell, hcell, hof⟩ := hfits.complete c hc hkind
  exact hnone cell hcell hof

/-- **A sample that is as it should be gives a warning for each large object of few bytes, and no
other.** Nothing is extra or missing, and in the order of the sample every cell of a large object
that is short enough for a field of bits is told to be one. -/
theorem table_alarms (h : DistinctColumns t) (hfits : Fitting t sample) :
    (table t (some sample)).extra = [] ∧ (table t (some sample)).missing = []
      ∧ List.Forall₂ (TellsBits t) (sample.filter fun cell => IsSmallBlob t cell)
        (table t (some sample)).mismatches
      ∧ ((table t (some sample)).warnings = [] ↔ ∀ cell ∈ sample, ¬ IsSmallBlob t cell) := by
  by_cases hne : sample = []
  · -- a row without cells is not looked at
    subst hne
    exact ⟨rfl, rfl, .nil, iff_of_true rfl (List.forall_mem_nil _)⟩
  have hfinds := table_finds h hne
  have hextra : (table t (some sample)).extra = [] := by
    rw [hfinds.extra, List.map_eq_nil_iff, List.filter_eq_nil_iff]
    intro cell hcell hdecide
    exact hfits.not_isExtra hcell (of_decide_eq_true hdecide)
  have hmissing : (table t (some sample)).missing = [] := by
    rw [hfinds.missing, List.map_eq_nil_iff, List.filter_eq_nil_iff]
    intro c hc hdecide
    exact hfits.not_isMissing hc (of_decide_eq_true hdecide)
  have hsmall : (sample.filter fun cell => IsMistyped t cell)
      = sample.filter fun cell => IsSmallBlob t cell :=
    List.filter_congr fun cell hcell => decide_eq_decide.mpr (hfits.isMistyped_iff h hcell)
  have htells : List.Forall₂ (TellsBits t) (sample.filter fun cell => IsSmallBlob t cell)
      (table t (some sample)).mismatches := by
    have hmismatches := hfinds.mismatches
    rw [hsmall] at hmismatches
    refine ((List.forall₂_and_left _ _).mpr ⟨fun cell hcell => ?_, hmismatches⟩).imp
      fun cell m hboth => tellsBits_of_tells h hboth.1 hboth.2
    exact of_decide_eq_true (List.mem_filter.mp hcell).2
  refine ⟨hextra, hmissing, htells, ?_⟩
  rw [TableCheck.warnings_eq_nil_iff, TableCheck.hasWarnings_eq_false_iff, ← List.length_eq_zero_iff
    (l := TableCheck.mismatches _), ← htells.length_eq, List.length_eq_zero_iff,
    List.filter_eq_nil_iff]
  simp only [hextra, hmissing, decide_eq_true_eq, true_and]

/-! ### Albums -/

/-- A table of albums, whose covers are large objects. -/
def albums : Table :=
  ⟨"album", [⟨"id", "INT", .integer, true, false, false, none⟩,
    ⟨"rare", "BIT", .boolean, false, true, false, none⟩,
    ⟨"Cover", "BLOB", .binary, false, true, false, none⟩]⟩

/-- An album with a cover of three bytes. -/
def albumRow : Row :=
  [⟨"cover", .bytes [0x47, 0x49, 0x46]⟩, ⟨"RARE", .bytes [1]⟩, ⟨"id", .int 7⟩]

theorem albumRow_fitting : Fitting albums albumRow where
  complete := by decide +kernel
  typed := by
    have hcover : ∃ c ∈ albums.columns, IsOf c ⟨"cover", .bytes [0x47, 0x49, 0x46]⟩
        ∧ c.kind = .binary := by decide +kernel
    have hrare : ∃ c ∈ albums.columns, IsOf c ⟨"RARE", .bytes [1]⟩ ∧ c.kind = .boolean := by
      decide +kernel
    have hid : ∃ c ∈ albums.columns, IsOf c ⟨"id", .int 7⟩ ∧ c.kind = .integer := by
      decide +kernel
    obtain ⟨cover, hcover, hcoverOf, hcoverKind⟩ := hcover
    obtain ⟨rare, hrare, hrareOf, hrareKind⟩ := hrare
    obtain ⟨id, hid, hidOf, hidKind⟩ := hid
    refine List.forall_mem_cons.mpr ⟨⟨cover, hcover, hcoverOf, .inr ?_⟩, List.forall_mem_cons.mpr
      ⟨⟨rare, hrare, hrareOf, .inr ?_⟩, List.forall_mem_singleton.mpr
        ⟨id, hid, hidOf, .inr ?_⟩⟩⟩
    · exact hcoverKind ▸ .binary rfl
    · exact hrareKind ▸ .bits (by decide)
    · exact hidKind ▸ .integer 7

theorem table_alarms_albums :
    DistinctColumns albums ∧ Fitting albums albumRow
      ∧ List.Forall₂ (TellsBits albums) (albumRow.filter fun cell => IsSmallBlob albums cell)
        (table albums (some albumRow)).mismatches
      ∧ ((table albums (some albumRow)).warnings = []
        ↔ ∀ cell ∈ albumRow, ¬ IsSmallBlob albums cell) := by
  have hdistinct : DistinctColumns albums := by decide +kernel
  exact ⟨hdistinct, albumRow_fitting, (table_alarms hdistinct albumRow_fitting).2.2⟩

/-- There is a false alarm: every column has its one cell, the values are of the kinds of their
columns, and the cover is told to be a field of bits. -/
theorem table_alarms_false :
    DistinctColumns albums ∧ Fitting albums albumRow
      ∧ (albumRow.Pairwise fun a b => Text.sameName a.name b.name = false)
      ∧ (table albums (some albumRow)).warnings
        = ["Table: album, Column: cover, Database Type: UINT64, Definition: BLOB"] := by
  exact ⟨by decide +kernel, albumRow_fitting, by decide +kernel, by decide +kernel⟩

end Check

end Tablekeep
