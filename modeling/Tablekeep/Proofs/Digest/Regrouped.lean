import Tablekeep.Digest.Report
import Tablekeep.Proofs.Backup.Decoded
import Tablekeep.Proofs.Definition.Plural

/-!
# Which contents are hashed alike

A digest is taken of the canonical texts of a table, one after another, and nothing says where
one of them ends. So texts are hashed alike exactly if one comes of the other by letters that go
from a cell to its neighbour, in the row or over the end of it, and by cells without letters that
come and go, as null does. `Regrouped` is this relation, and it has a normal form: all letters in
one cell of the first row.

What cannot happen unseen is a change that leaves the ends of the cells where they are, and a
change of one cell only.
-/

namespace Tablekeep.Digest

open Backup

/-! ## Texts by row and column -/

/-- The canonical text of a cell that is not null, and the column that it is in. -/
structure CellText where
  column : String
  text : String
  deriving DecidableEq, Repr

/-- The text of a cell, if it is not null. -/
def cellText? (t : Table) (cell : Cell) : Option CellText :=
  if cell.isNull then none
  else (t.column? cell.name).map fun c => ⟨c.name, canonicalText c.kind cell.value⟩

/-- The texts of the cells, row by row. -/
def texts (t : Table) (rows : List Row) : List (List CellText) :=
  rows.map fun row => row.filterMap (cellText? t)

/-- Every value is in a column of the table. There is no digest of other rows. -/
def Placed (t : Table) (rows : List Row) : Prop :=
  ∀ row ∈ rows, ∀ cell ∈ row, cell.isNull = false → (t.column? cell.name).isSome = true

instance (t : Table) (rows : List Row) : Decidable (Placed t rows) :=
  inferInstanceAs (Decidable (∀ row ∈ rows, ∀ cell ∈ row, _ → _))

/-- The letters of a row, one text after another. -/
def rowLetters (row : List CellText) : List Char :=
  row.flatMap fun cell => cell.text.toList

/-- The letters of all rows. -/
def letters (rows : List (List CellText)) : List Char :=
  rows.flatMap rowLetters

/-- The bytes that are hashed: each letter is one. -/
def hashed (rows : List (List CellText)) : List UInt8 :=
  (letters rows).map fun c => UInt8.ofNat c.toNat

/-! ### The report -/

theorem rowText_eq {t : Table} {row : Row}
    (h : ∀ cell ∈ row, cell.isNull = false → (t.column? cell.name).isSome = true) :
    rowText t row = .ok (String.ofList (rowLetters (row.filterMap (cellText? t)))) := by
  induction row with
  | nil => rfl
  | cons cell row ih =>
      obtain ⟨hcell, hrow⟩ := List.forall_mem_cons.mp h
      rw [rowText, ih hrow]
      by_cases hnull : cell.isNull = true
      · have hnone : cellText? t cell = none := if_pos hnull
        rw [if_pos hnull, List.filterMap_cons_none hnone]
      · obtain ⟨c, hc⟩ := Option.isSome_iff_exists.mp (hcell (by simpa using hnull))
        have hsome : cellText? t cell = some ⟨c.name, canonicalText c.kind cell.value⟩ := by
          rw [cellText?, if_neg hnull, hc]
          rfl
        rw [if_neg hnull, hc, List.filterMap_cons_some hsome, rowLetters, rowLetters,
          List.flatMap_cons, String.ofList_append, String.ofList_toList]
        rfl

/-- A report is of the number of rows and of the bytes that are hashed. -/
theorem tableReport_eq {t : Table} {rows : List Row} (h : Placed t rows) :
    tableReport t rows = .ok ⟨t.name, rows.length,
      if rows.isEmpty then none else some (md5Hex (hashed (texts t rows)))⟩ := by
  have hcontent : contentText t rows = .ok (String.ofList (letters (texts t rows))) := by
    induction rows with
    | nil => rfl
    | cons row rows ih =>
        obtain ⟨hrow, hrows⟩ := List.forall_mem_cons.mp h
        rw [contentText, rowText_eq hrow, ih hrows, texts, texts, List.map_cons, letters, letters,
          List.flatMap_cons, String.ofList_append]
        rfl
  rw [tableReport, hcontent, Except.map, String.toList_ofList]
  rfl

/-! ### Bytes and letters -/

theorem ascii_escape (s : String) : Text.Ascii (escape s) := by
  intro c hc
  exact Nat.lt_succ_of_lt ((unmarked_escape s).1 c hc).lt

theorem ascii_texts {t : Table} {rows : List Row} :
    ∀ row ∈ texts t rows, ∀ cell ∈ row, Text.Ascii cell.text := by
  intro _ hrow text htext
  obtain ⟨row, -, rfl⟩ := List.mem_map.mp hrow
  obtain ⟨cell, -, hcell⟩ := List.mem_filterMap.mp htext
  rw [cellText?] at hcell
  split at hcell
  · cases hcell
  · obtain ⟨column, -, rfl⟩ := Option.map_eq_some_iff.mp hcell
    exact ascii_escape _

theorem ascii_letters {t : Table} {rows : List Row} :
    ∀ c ∈ letters (texts t rows), c.toNat < 0x80 := by
  intro c hc
  obtain ⟨row, hrow, hc⟩ := List.mem_flatMap.mp hc
  obtain ⟨cell, hcell, hc⟩ := List.mem_flatMap.mp hc
  exact ascii_texts row hrow cell hcell c hc

/-- Letters that are bytes can be told from the bytes. -/
theorem hashed_eq_iff {t : Table} {xs ys : List Row} :
    hashed (texts t xs) = hashed (texts t ys) ↔ letters (texts t xs) = letters (texts t ys) := by
  have hback {rows : List Row} : (hashed (texts t rows)).map (fun b => Char.ofNat b.toNat)
      = letters (texts t rows) := by
    rw [hashed, List.map_map]
    refine (List.map_congr_left fun c hc => ?_).trans (List.map_id _)
    have hlt : c.toNat < 0x80 := ascii_letters c hc
    have hsize : c.toNat < UInt8.size := Nat.lt_trans hlt (by decide)
    rw [Function.comp, UInt8.toNat_ofNat_of_lt' hsize, Char.ofNat_toNat, id]
  refine ⟨fun h => ?_, fun h => by rw [hashed, hashed, h]⟩
  rw [← hback, ← hback, h]

/-! ## Regrouping -/

/-- Letters have gone between neighbouring cells, and cells without letters have come and gone. -/
inductive Regrouped : List (List CellText) → List (List CellText) → Prop
  | refl (rows : List (List CellText)) : Regrouped rows rows
  | symm {xs ys : List (List CellText)} : Regrouped xs ys → Regrouped ys xs
  | trans {xs ys zs : List (List CellText)} : Regrouped xs ys → Regrouped ys zs → Regrouped xs zs
  /-- It happens in a later row, -/
  | later {xs ys : List (List CellText)} (row : List CellText) :
      Regrouped xs ys → Regrouped (row :: xs) (row :: ys)
  /-- or later in the row. -/
  | after {row row' : List CellText} {xs ys : List (List CellText)} (cell : CellText) :
      Regrouped (row :: xs) (row' :: ys) → Regrouped ((cell :: row) :: xs) ((cell :: row') :: ys)
  /-- The letters `b` go to the next cell of the row, -/
  | along (c c' a b d : String) (row : List CellText) (rows : List (List CellText)) :
      Regrouped ((⟨c, a ++ b⟩ :: ⟨c', d⟩ :: row) :: rows) ((⟨c, a⟩ :: ⟨c', b ++ d⟩ :: row) :: rows)
  /-- or from the last cell of the row to the first of the next row. -/
  | across (c c' a b d : String) (row : List CellText) (rows : List (List CellText)) :
      Regrouped ([⟨c, a ++ b⟩] :: (⟨c', d⟩ :: row) :: rows)
        ([⟨c, a⟩] :: (⟨c', b ++ d⟩ :: row) :: rows)
  /-- A cell without letters is as null. -/
  | empty (c : String) (row : List CellText) (rows : List (List CellText)) :
      Regrouped ((⟨c, ""⟩ :: row) :: rows) (row :: rows)

namespace Regrouped

/-- All letters go to one cell. -/
theorem gather_row (row : List CellText) (rows : List (List CellText)) :
    Regrouped (row :: rows) ([⟨"", String.ofList (rowLetters row)⟩] :: rows) := by
  induction row with
  | nil => exact .symm (.empty "" [] rows)
  | cons cell row ih =>
      obtain ⟨c, text⟩ := cell
      have hmove := along c "" "" text (String.ofList (rowLetters row)) [] rows
      rw [String.empty_append] at hmove
      rw [rowLetters, List.flatMap_cons, String.ofList_append, String.ofList_toList]
      exact .trans (.after _ ih) (.trans hmove (.empty c _ rows))

/-- The normal form: all letters are in one cell of the first row. -/
theorem gather (row : List CellText) (rows : List (List CellText)) :
    Regrouped (row :: rows)
      ([⟨"", String.ofList (letters (row :: rows))⟩] :: List.replicate rows.length []) := by
  induction rows generalizing row with
  | nil =>
      rw [letters, List.flatMap_singleton]
      exact gather_row row []
  | cons next rows ih =>
      have hmove := across "" "" (String.ofList (rowLetters row))
        (String.ofList (letters (next :: rows))) "" [] (List.replicate rows.length [])
      rw [String.append_empty, ← String.ofList_append] at hmove
      refine .trans (.later row (ih next)) (.trans (gather_row row _) (.trans (.symm hmove) ?_))
      exact .later _ (.empty "" [] _)

theorem length_eq {xs ys : List (List CellText)} (h : Regrouped xs ys) :
    xs.length = ys.length := by
  induction h with
  | refl => rfl
  | symm _ ih => exact ih.symm
  | trans _ _ ih ih' => exact ih.trans ih'
  | later _ _ ih => exact congrArg (· + 1) ih
  | after _ _ ih => exact ih
  | along | across | empty => rfl

theorem letters_eq {xs ys : List (List CellText)} (h : Regrouped xs ys) :
    letters xs = letters ys := by
  induction h with
  | refl => rfl
  | symm _ ih => exact ih.symm
  | trans _ _ ih ih' => exact ih.trans ih'
  | later row _ ih =>
      rw [letters, letters, List.flatMap_cons, List.flatMap_cons, ← letters, ih, letters]
  | @after row row' xs ys cell _ ih =>
      simp only [letters, rowLetters, List.flatMap_cons, List.append_assoc] at ih ⊢
      rw [ih]
  | along | across | empty => simp [letters, rowLetters]

end Regrouped

/-- **Texts are regrouped exactly if they are of as many rows and have the same letters.** -/
theorem regrouped_iff {xs ys : List (List CellText)} :
    Regrouped xs ys ↔ xs.length = ys.length ∧ letters xs = letters ys := by
  refine ⟨fun h => ⟨h.length_eq, h.letters_eq⟩, fun ⟨hlength, h⟩ => ?_⟩
  match xs, ys, hlength with
  | [], [], _ => exact .refl []
  | row :: xs, row' :: ys, hlength =>
      have hnormal := Regrouped.gather row xs
      rw [h, Nat.succ.inj hlength] at hnormal
      exact .trans hnormal (.symm (.gather row' ys))

/-! ## What does not go unseen -/

/-- The same cells have texts, and each text is as long as the other. -/
def SameEnds (xs ys : List (List CellText)) : Prop :=
  List.Forall₂ (List.Forall₂ fun a b => a.column = b.column ∧ a.text.length = b.text.length) xs ys

/-- As many letters belong to both, and the same letters belong to nothing else. -/
def Told {α : Type} (f : α → List Char) (a b : α) : Prop :=
  (f a).length = (f b).length ∧ (f a = f b → a = b)

/-- If things in the same places can be told apart, so can lists of them. -/
theorem Told.flatMap {α : Type} {f : α → List Char} {as bs : List α}
    (h : List.Forall₂ (Told f) as bs) : Told (·.flatMap f) as bs := by
  induction h with
  | nil => exact ⟨rfl, fun _ => rfl⟩
  | cons hhead _ ih =>
      obtain ⟨hlength, hsame⟩ := hhead
      obtain ⟨hlengths, hothers⟩ := ih
      refine ⟨?_, fun heq => ?_⟩
      · simp only [List.flatMap_cons, List.length_append, hlength, hlengths]
      · simp only [List.flatMap_cons] at heq
        obtain ⟨hfirst, hrest⟩ := List.append_inj heq hlength
        rw [hsame hfirst, hothers hrest]

/-- Texts whose ends are in the same places have the same letters only if they are the same. -/
theorem SameEnds.letters_eq_iff {xs ys : List (List CellText)} (h : SameEnds xs ys) :
    letters xs = letters ys ↔ xs = ys := by
  have hcell (a b : CellText) (hab : a.column = b.column ∧ a.text.length = b.text.length) :
      Told (fun cell => cell.text.toList) a b := by
    obtain ⟨c, text⟩ := a
    obtain ⟨c', text'⟩ := b
    obtain ⟨rfl, hlength⟩ := hab
    exact ⟨hlength, fun heq => congrArg (CellText.mk c) (String.toList_inj.mp heq)⟩
  have hrows : Told (·.flatMap rowLetters) xs ys :=
    .flatMap (h.imp fun row row' hrow => Told.flatMap (hrow.imp hcell))
  exact ⟨hrows.2, fun heq => by rw [heq]⟩

/-- The texts are the same but for one cell, which has the text `a` or the text `b`. -/
structure OneCell (xs ys : List (List CellText)) (a b : String) : Prop where
  exists_split : ∃ before left c right after,
    xs = before ++ (left ++ ⟨c, a⟩ :: right) :: after
      ∧ ys = before ++ (left ++ ⟨c, b⟩ :: right) :: after

theorem OneCell.letters_eq_iff {xs ys : List (List CellText)} {a b : String}
    (h : OneCell xs ys a b) : letters xs = letters ys ↔ a = b := by
  obtain ⟨before, left, c, right, after, rfl, rfl⟩ := h
  simp only [letters, rowLetters, List.flatMap_append, List.flatMap_cons, List.append_assoc,
    List.append_cancel_left_eq, List.append_cancel_right_eq, ← String.toList_inj]

/-! ## Digests -/

/-- **Contents of as many rows are hashed alike exactly if they are regrouped.** They are not if the
ends of their texts are in the same places, or if they differ in one cell. So reports of contents
that are not regrouped agree by a collision of MD5 only. -/
theorem hashed_eq_iff_regrouped {t : Table} {xs ys : List Row} (hx : Placed t xs)
    (hy : Placed t ys) (hlength : xs.length = ys.length) :
    (∀ rows ∈ [xs, ys], tableReport t rows = .ok ⟨t.name, rows.length,
        if rows.isEmpty then none else some (md5Hex (hashed (texts t rows)))⟩)
      ∧ (hashed (texts t xs) = hashed (texts t ys) ↔ Regrouped (texts t xs) (texts t ys))
      ∧ (SameEnds (texts t xs) (texts t ys) →
        (hashed (texts t xs) = hashed (texts t ys) ↔ texts t xs = texts t ys))
      ∧ (∀ a b, OneCell (texts t xs) (texts t ys) a b →
        (hashed (texts t xs) = hashed (texts t ys) ↔ a = b))
      ∧ (¬ Regrouped (texts t xs) (texts t ys) → tableReport t xs = tableReport t ys →
        hashed (texts t xs) ≠ hashed (texts t ys)
          ∧ md5Hex (hashed (texts t xs)) = md5Hex (hashed (texts t ys))) := by
  have hrows : (texts t xs).length = (texts t ys).length := by
    rw [texts, texts, List.length_map, List.length_map, hlength]
  have hregrouped : hashed (texts t xs) = hashed (texts t ys)
      ↔ Regrouped (texts t xs) (texts t ys) := by
    rw [hashed_eq_iff, regrouped_iff, and_iff_right hrows]
  refine ⟨?_, hregrouped, fun h => hashed_eq_iff.trans h.letters_eq_iff,
    fun a b h => hashed_eq_iff.trans h.letters_eq_iff, fun hne heq => ⟨mt hregrouped.mp hne, ?_⟩⟩
  · refine List.forall_mem_cons.mpr ⟨tableReport_eq hx, ?_⟩
    exact List.forall_mem_singleton.mpr (tableReport_eq hy)
  · rw [tableReport_eq hx, tableReport_eq hy] at heq
    cases xs with
    | nil =>
        rw [List.length_eq_zero_iff.mp hlength.symm] at hne
        exact absurd (.refl _) hne
    | cons row xs =>
        obtain ⟨row', ys, rfl⟩ := List.exists_cons_of_length_eq_add_one hlength.symm
        exact Option.some.inj (TableReport.mk.inj (Except.ok.inj heq)).2.2

/-- A table with two columns of text. -/
def pairs : Table :=
  ⟨"pair", [⟨"first", "VARCHAR(9)", .text, false, true, false, none⟩,
    ⟨"second", "VARCHAR(9)", .text, false, true, false, none⟩]⟩

/-- A row of the table. -/
def pair (first second : Value) : Row := [⟨"first", first⟩, ⟨"second", second⟩]

/-- A change of one text is seen in what is hashed, and it is no regrouping. -/
theorem hashed_ne_of_changed_pair :
    let xs := [pair (.text "ab") (.text "c")]
    let ys := [pair (.text "ab") (.text "d")]
    Placed pairs xs ∧ Placed pairs ys ∧ hashed (texts pairs xs) ≠ hashed (texts pairs ys)
      ∧ ¬ Regrouped (texts pairs xs) (texts pairs ys) := by
  intro xs ys
  have hx : Placed pairs xs := by decide +kernel
  have hy : Placed pairs ys := by decide +kernel
  have hone : OneCell (texts pairs xs) (texts pairs ys) "c" "d" :=
    ⟨[], [⟨"first", "ab"⟩], "second", [], [], by decide +kernel, by decide +kernel⟩
  obtain ⟨-, hregrouped, -, hcell, -⟩ := hashed_eq_iff_regrouped hx hy rfl
  have hne : hashed (texts pairs xs) ≠ hashed (texts pairs ys) :=
    mt (hcell "c" "d" hone).mp (by decide)
  exact ⟨hx, hy, hne, mt hregrouped.mpr hne⟩

/-- A letter that goes to the next cell is not seen, nor one that goes to the next row, nor a value
that changes places with null. -/
theorem hashed_eq_of_moved :
    let alike (xs ys : List Row) : Prop :=
      Placed pairs xs ∧ Placed pairs ys ∧ xs.length = ys.length ∧ texts pairs xs ≠ texts pairs ys
        ∧ hashed (texts pairs xs) = hashed (texts pairs ys)
        ∧ tableReport pairs xs = tableReport pairs ys
    alike [pair (.text "ab") (.text "c")] [pair (.text "a") (.text "bc")]
      ∧ alike [pair .null (.text "ab"), pair (.text "c") .null]
        [pair .null (.text "a"), pair (.text "bc") .null]
      ∧ alike [pair (.text "ab") .null] [pair .null (.text "ab")] := by
  decide +kernel

end Tablekeep.Digest
