import Tablekeep.Proofs.Backup.Held
import Tablekeep.Proofs.Backup.RoundTrip

/-!
# The elements of a backup

A backup has a wrapper for each table, in it an element for each row, in that one an element
for each cell that is not null, and nothing in a cell. `Opened` says this of the content of
the outermost element, and that the rest of it is layout. It holds whatever the values are,
as soon as bytes that are written as they are may stand as text.

The way up goes through the same layers as the restoration of rows. What is different is that
nothing is asked of the values, so that the characters may not be readable: they are `Bare`
content and no more.
-/

namespace Tablekeep.Backup

open Markup Markup.Grammar

/-! ## Elements next to each other -/

/-- The characters are an element, given by its tag and what it holds. -/
inductive BareElement : List Char → String × Content → Prop where
  | tagged {name inside : List Char} {inner : Content} : Grammar.isName name = true →
      Bare inside inner → BareElement (tagged name inside) (String.ofList name, inner)

theorem Bare.space {gap cs : List Char} {content : Content} (hgap : AllSpace gap)
    (h : Bare cs content) : ∃ more, Bare (gap ++ cs) more ∧ more.children = content.children
      ∧ more.ownText = String.ofList gap ++ content.ownText := by
  induction gap with
  | nil => exact ⟨content, h, rfl, by simp⟩
  | cons c gap ih =>
      obtain ⟨hc, hgap⟩ := List.forall_mem_cons.mp hgap
      obtain ⟨more, hbare, hchildren, htext⟩ := ih hgap
      have hspaces : c = ' ' ∨ c = '\t' ∨ c = '\n' ∨ c = '\r' := by
        simp only [isSpace, Bool.or_eq_true, beq_iff_eq] at hc
        rcases hc with ((hc | hc) | hc) | hc
        · exact .inl hc
        · exact .inr (.inl hc)
        · exact .inr (.inr (.inl hc))
        · exact .inr (.inr (.inr hc))
      have hinert : isCharacter c = true ∧ c ≠ '<' ∧ c ≠ '&' ∧ c ≠ ']' := by
        rcases hspaces with rfl | rfl | rfl | rfl <;> decide
      obtain ⟨hcharacter, hbracket, hamp, hclose⟩ := hinert
      have hend : ¬ [']', ']', '>'] <+: c :: (gap ++ cs) := by
        rintro ⟨_, heq⟩
        exact hclose (List.cons.inj heq).1.symm
      refine ⟨.text (String.ofList [c]) more, .char hcharacter hbracket hamp hend hbare,
        hchildren, ?_⟩
      rw [Content.ownText, htext, ← String.append_assoc, ← String.ofList_append]
      rfl

/-- Elements with layout before each of them and after the last. -/
theorem exists_bare_spaced {gap last : List Char} (hgap : AllSpace gap) (hlast : AllSpace last)
    {css : List (List Char)} {elements : List (String × Content)}
    (h : List.Forall₂ BareElement css elements) :
    ∃ content, Bare (css.flatMap (gap ++ ·) ++ last) content ∧ content.children = elements
      ∧ AllSpace content.ownText.toList := by
  induction h with
  | nil =>
      obtain ⟨content, hbare, hchildren, htext⟩ := Bare.space hlast .empty
      rw [List.append_nil] at hbare
      refine ⟨content, hbare, hchildren, ?_⟩
      rw [htext, Content.ownText, String.append_empty, String.toList_ofList]
      exact hlast
  | @cons cs element css elements hhead _ ih =>
      obtain ⟨rest, hrest, hchildren, htext⟩ := ih
      obtain ⟨hname, hinside⟩ := hhead
      obtain ⟨content, hbare, hchildren', htext'⟩ :=
        Bare.space hgap (.element hname hinside hrest)
      refine ⟨content, ?_, ?_, ?_⟩
      · rw [List.flatMap_cons, List.append_assoc, List.append_assoc]
        exact hbare
      · rw [hchildren', Content.children, hchildren]
      · intro c hc
        rw [htext', Content.ownText, String.toList_append, String.toList_ofList] at hc
        rcases List.mem_append.mp hc with hc | hc
        · exact hgap c hc
        · exact htext c hc

/-! ## The elements of a backup -/

section Opened

variable {plural : String → String} {zone : Option Int} {t : Table}

/-- The element is the one of a cell: it bears the name of the column and holds text alone. -/
inductive CellOpened (zone : Option Int) (t : Table) : Cell → String × Content → Prop where
  | mk {cell : Cell} {c : Column} {text : String} {inner : Content} :
      t.column? cell.name = some c → cellText zone c.kind cell.value = .ok text →
      inner.children = [] → inner.ownText = heldText c.kind cell.value text →
      CellOpened zone t cell (c.name, inner)

/-- The element is the one of a row: it has an element for each cell that is not null. -/
structure RowOpened (zone : Option Int) (t : Table) (row : Row) (element : String × Content) :
    Prop where
  name : element.1 = t.name
  layout : AllSpace element.2.ownText.toList
  cells : List.Forall₂ (CellOpened zone t) (row.filter fun cell => !cell.isNull)
    element.2.children

/-- The element is the wrapper of a table and has an element for each row. -/
structure TableOpened (plural : String → String) (zone : Option Int) (part : Table × List Row)
    (element : String × Content) : Prop where
  name : element.1 = plural part.1.name
  layout : AllSpace element.2.ownText.toList
  rows : List.Forall₂ (RowOpened zone part.1) part.2 element.2.children

/-- The content is the one of a database: it has a wrapper for each table. -/
structure Opened (plural : String → String) (zone : Option Int) (parts : List (Table × List Row))
    (content : Content) : Prop where
  layout : AllSpace content.ownText.toList
  tables : List.Forall₂ (TableOpened plural zone) parts content.children

/-- Bytes that are written as they are may stand as text. -/
def BytesFit (t : Table) (row : Row) : Prop :=
  ∀ cell ∈ row, ∀ c s, t.column? cell.name = some c → bytesText? c.kind cell.value = some s →
    CharacterData s.toList

theorem bytesFit_of_isBytes {row : Row} (h : ∀ cell ∈ row, isBytes cell.value = false) :
    BytesFit t row := by
  intro cell hcell c s _ hs
  have hnone : bytesText? c.kind cell.value = none := by
    unfold bytesText?
    split
    · rfl
    · rfl
    · rfl
    · rw [if_neg (by simp [h cell hcell])]
  rw [hnone] at hs
  cases hs

/-- The names of a table are names of the grammar. -/
structure TableNamed (plural : String → String) (t : Table) : Prop where
  table : Grammar.isName t.name.toList = true
  plural : Grammar.isName (plural t.name).toList = true
  columns : ∀ c ∈ t.columns, Grammar.isName c.name.toList = true

theorem bareElement_tagged {name : String} {inside : List Char} {content : Content}
    (hname : Grammar.isName name.toList = true) (h : Bare inside content) :
    BareElement (tagged name.toList inside) (name, content) := by
  have := BareElement.tagged hname h
  rwa [String.ofList_toList] at this

theorem exists_cellElements_opened (hnames : ∀ c ∈ t.columns, Grammar.isName c.name.toList = true)
    {row : Row} {written : List String} (h : cellElements zone t row = .ok written)
    (hbytes : BytesFit t row) :
    ∃ elements, List.Forall₂ BareElement (written.map String.toList) elements
      ∧ List.Forall₂ (CellOpened zone t) (row.filter fun cell => !cell.isNull) elements := by
  induction row generalizing written with
  | nil =>
      cases h
      exact ⟨[], .nil, .nil⟩
  | cons cell row ih =>
      obtain ⟨hcell, hrow⟩ := List.forall_mem_cons.mp hbytes
      rw [cellElements] at h
      by_cases hnull : cell.isNull = true
      · rw [if_pos hnull] at h
        rw [List.filter_cons_of_neg (by simp [hnull])]
        exact ih h hrow
      · rw [if_neg hnull] at h
        rw [List.filter_cons_of_pos (by simpa using hnull)]
        split at h
        · cases h
        · rename_i c hc
          split at h
          · cases h
          · rename_i text htext
            obtain ⟨rest, hrest, rfl⟩ := Outcome.map_eq_ok_iff.mp h
            obtain ⟨elements, hbare, hopened⟩ := ih hrest hrow
            have hvalue : cell.value ≠ .null := by
              intro hvalue
              exact hnull (by rw [Cell.isNull, hvalue]; rfl)
            obtain ⟨content, hcontent, hchildren, hheld⟩ :=
              bareText_cellText hvalue htext fun s => hcell c s hc
            have hname := hnames c (List.mem_of_find?_eq_some hc)
            refine ⟨(c.name, content) :: elements, ?_, .cons (.mk hc htext hchildren hheld) hopened⟩
            rw [List.map_cons, toList_element]
            exact .cons (bareElement_tagged hname hcontent) hbare

theorem exists_rowLine_opened (hnames : TableNamed plural t) {row : Row} {line : String}
    (h : rowLine zone t row = .ok line) (hbytes : BytesFit t row) :
    ∃ cs element, line.toList = "    ".toList ++ cs ∧ BareElement cs element
      ∧ RowOpened zone t row element := by
  obtain ⟨written, hwritten, rfl⟩ := Outcome.map_eq_ok_iff.mp h
  obtain ⟨elements, hbare, hopened⟩ := exists_cellElements_opened hnames.columns hwritten hbytes
  have hnone : AllSpace [] := by simp [AllSpace]
  obtain ⟨content, hcontent, hchildren, hlayout⟩ := exists_bare_spaced hnone hnone hbare
  have hinside : Bare (Text.join "" written).toList content := by
    rw [toList_join_empty]
    simpa [List.flatMap_id'] using hcontent
  refine ⟨_, (t.name, content), toList_rowLine _ _, bareElement_tagged hnames.table hinside, rfl,
    hlayout, ?_⟩
  rw [hchildren]
  exact hopened

theorem exists_rowLines_opened (hnames : TableNamed plural t) {rows : List Row}
    {lines : List String} (h : rowLines zone t rows = ⟨lines, none⟩)
    (hbytes : ∀ row ∈ rows, BytesFit t row) :
    ∃ css elements, below lines = css.flatMap ("\n    ".toList ++ ·)
      ∧ List.Forall₂ BareElement css elements ∧ List.Forall₂ (RowOpened zone t) rows elements := by
  induction rows generalizing lines with
  | nil =>
      cases h
      exact ⟨[], [], rfl, .nil, .nil⟩
  | cons row rows ih =>
      obtain ⟨hrow, hrows⟩ := List.forall_mem_cons.mp hbytes
      rw [rowLines] at h
      split at h
      · cases h
      · rename_i line hline
        cases hrest : rowLines zone t rows with
        | mk more failure =>
            rw [hrest] at h
            cases h
            obtain ⟨css, elements, hbelow, hbare, hopened⟩ := ih hrest hrows
            obtain ⟨cs, element, hchars, helement, hrowOpened⟩ :=
              exists_rowLine_opened hnames hline hrow
            refine ⟨cs :: css, element :: elements, ?_, .cons helement hbare,
              .cons hrowOpened hopened⟩
            rw [List.flatMap_cons, ← hbelow]
            simp [below, hchars]

/-- **A table is written as a wrapper with its rows**, whatever their values are, if only bytes fit
their columns. -/
theorem exists_tableLines_opened (hnames : TableNamed plural t) {rows : List Row}
    (h : (tableLines plural zone t rows).failure = none) (hbytes : ∀ row ∈ rows, BytesFit t row) :
    ∃ cs element, below (tableLines plural zone t rows).lines = "\n  ".toList ++ cs
      ∧ BareElement cs element ∧ TableOpened plural zone (t, rows) element := by
  cases hlines : rowLines zone t rows with
  | mk lines failure =>
      have hfailure : failure = none := by simpa [tableLines, hlines] using h
      subst hfailure
      obtain ⟨css, elements, hbelow, hbare, hopened⟩ :=
        exists_rowLines_opened hnames hlines hbytes
      have hgap : AllSpace "\n    ".toList := by unfold AllSpace; decide
      have hlast : AllSpace "\n  ".toList := by unfold AllSpace; decide
      obtain ⟨content, hcontent, hchildren, hlayout⟩ := exists_bare_spaced hgap hlast hbare
      rw [← hbelow] at hcontent
      refine ⟨_, (plural t.name, content), ?_, bareElement_tagged hnames.plural hcontent, rfl,
        hlayout, ?_⟩
      · simp only [tableLines, hlines, Option.isNone_none, ↓reduceIte]
        exact below_wrapper plural t lines
      · rw [hchildren]
        exact hopened

theorem exists_wrappers_opened {parts : List (Table × List Row)}
    (hnames : ∀ part ∈ parts, TableNamed plural part.1)
    (h : ∀ part ∈ parts, (tableLines plural zone part.1 part.2).failure = none)
    (hbytes : ∀ part ∈ parts, ∀ row ∈ part.2, BytesFit part.1 row) :
    ∃ css elements, below (parts.flatMap fun part => (tableLines plural zone part.1 part.2).lines)
          = css.flatMap ("\n  ".toList ++ ·)
      ∧ List.Forall₂ BareElement css elements
      ∧ List.Forall₂ (TableOpened plural zone) parts elements := by
  induction parts with
  | nil => exact ⟨[], [], rfl, .nil, .nil⟩
  | cons part parts ih =>
      obtain ⟨hname, hnames⟩ := List.forall_mem_cons.mp hnames
      obtain ⟨hhead, h⟩ := List.forall_mem_cons.mp h
      obtain ⟨hbytesHead, hbytes⟩ := List.forall_mem_cons.mp hbytes
      obtain ⟨css, elements, hbelow, hbare, hopened⟩ := ih hnames h hbytes
      obtain ⟨cs, element, hchars, helement, htable⟩ :=
        exists_tableLines_opened hname hhead hbytesHead
      refine ⟨cs :: css, element :: elements, ?_, .cons helement hbare, .cons htable hopened⟩
      rw [List.flatMap_cons, below_append, hbelow, hchars, List.flatMap_cons]

/-! ## The characters of a backup -/

/-- The character is kept of a text that is escaped for the cell. -/
def KeptIn (t : Table) (cell : Cell) (ch : Char) : Prop :=
  ∃ c s, t.column? cell.name = some c ∧ escapedText? c.kind cell.value = some s
    ∧ ch ∈ s.toList ∧ isDropped ch = false

/-- The character is kept of a text that is escaped for some cell that is not null. -/
def KeptOf (parts : List (Table × List Row)) (ch : Char) : Prop :=
  ∃ part ∈ parts, ∃ row ∈ part.2, ∃ cell ∈ row.filter fun cell => !cell.isNull,
    KeptIn part.1 cell ch

theorem exists_iff_of_forall₂ {α β : Type} {r : α → β → Prop} {p : α → Prop} {q : β → Prop}
    {as : List α} {bs : List β} (h : List.Forall₂ r as bs)
    (hpq : ∀ a ∈ as, ∀ b, r a b → (p a ↔ q b)) : (∃ a ∈ as, p a) ↔ ∃ b ∈ bs, q b := by
  induction h with
  | nil => simp
  | cons hhead _ ih =>
      obtain ⟨hfirst, hrest⟩ := List.forall_mem_cons.mp hpq
      simp only [List.mem_cons, exists_eq_or_imp]
      rw [hfirst _ hhead, ih hrest]

/-- Layout has none of the characters that a document may not hold. -/
theorem mem_characters_of_layout {content : Content} (h : AllSpace content.ownText.toList)
    {ch : Char} (hch : ¬ isCharacter ch = true) :
    ch ∈ content.characters ↔ ∃ child ∈ content.children, ch ∈ child.2.characters := by
  rw [Content.mem_characters_iff]
  refine ⟨fun hmem => hmem.resolve_left fun htext => ?_, .inr⟩
  have hspace := h ch htext
  simp only [isSpace, Bool.or_eq_true, beq_iff_eq] at hspace
  rcases hspace with ((rfl | rfl) | rfl) | rfl <;> exact hch (by decide)

section Characters

variable {ch : Char}

theorem CellOpened.mem_characters_iff {cell : Cell} {element : String × Content}
    (h : CellOpened zone t cell element) (hnull : cell.isNull = false)
    (hbytes : ∀ c s, t.column? cell.name = some c → bytesText? c.kind cell.value = some s →
      CharacterData s.toList) (hch : ¬ isCharacter ch = true) :
    ch ∈ element.2.characters ↔ KeptIn t cell ch := by
  cases h with
  | @mk c text inner hc htext hchildren hheld =>
      have hvalue : cell.value ≠ .null := by
        intro hvalue
        rw [Cell.isNull, hvalue] at hnull
        cases hnull
      have hown : ch ∈ inner.characters ↔ ch ∈ (heldText c.kind cell.value text).toList := by
        rw [Content.mem_characters_iff, hchildren, hheld]
        simp
      rw [hown]
      constructor
      · intro hmem
        rcases cellText_cases hvalue htext with ⟨s, hescaped, -⟩ | ⟨hescaped, hshown⟩
        · rw [heldText, hescaped, Option.map_some, Option.getD_some, kept, String.toList_ofList,
            List.mem_filter] at hmem
          exact ⟨c, s, hc, hescaped, hmem.1, by simpa using hmem.2⟩
        · -- the others have none of these characters
          rw [heldText, hescaped] at hmem
          have hdata : CharacterData text.toList := by
            rcases hshown with hshown | ⟨-, hplain⟩
            · exact hbytes c text hc hshown
            · exact hplain.characterData
          exact absurd (hdata.characters ch hmem).1 hch
      · rintro ⟨c', s, hc', hescaped, hmem, hkept⟩
        obtain rfl : c = c' := Option.some.inj (hc.symm.trans hc')
        rw [heldText, hescaped, Option.map_some, Option.getD_some, kept, String.toList_ofList,
          List.mem_filter]
        exact ⟨hmem, by simp [hkept]⟩

theorem RowOpened.mem_characters_iff {row : Row} {element : String × Content}
    (h : RowOpened zone t row element) (hbytes : BytesFit t row) (hch : ¬ isCharacter ch = true) :
    ch ∈ element.2.characters
      ↔ ∃ cell ∈ row.filter fun cell => !cell.isNull, KeptIn t cell ch := by
  rw [mem_characters_of_layout h.layout hch]
  refine (exists_iff_of_forall₂ h.cells fun cell hmem element hcell => ?_).symm
  obtain ⟨hmem, hnull⟩ := List.mem_filter.mp hmem
  exact (hcell.mem_characters_iff (by simpa using hnull) (hbytes cell hmem) hch).symm

theorem Opened.mem_characters_iff {parts : List (Table × List Row)} {content : Content}
    (h : Opened plural zone parts content)
    (hbytes : ∀ part ∈ parts, ∀ row ∈ part.2, BytesFit part.1 row)
    (hch : ¬ isCharacter ch = true) : ch ∈ content.characters ↔ KeptOf parts ch := by
  rw [mem_characters_of_layout h.layout hch]
  refine (exists_iff_of_forall₂ h.tables fun part hpart element htable => ?_).symm
  rw [mem_characters_of_layout htable.layout hch]
  exact exists_iff_of_forall₂ htable.rows fun row hrow element hopened =>
    (hopened.mem_characters_iff (hbytes part hpart row hrow) hch).symm

end Characters

end Opened

end Tablekeep.Backup
