import Tablekeep.Proofs.Backup.Shape

/-!
# Documents that say the same

A backup can be written in many ways. Cells can stand in any order, names can be spelled in any
letter case, there can be blanks around the elements or none, and rows can stand outside their
wrapper. What is read is the same.

`Restyled` relates the contents of elements that differ in the first three ways. What may be done
to content depends on the element that it is in: in a cell all blanks count, and only the parts of a
row can be put in another order. So the relation has a level for an index, and so has `Same`, which
says what the reader makes of content at each level: the items of a document, the rows of a wrapper,
the keys of a row in any order, the text of a cell. One lemma for each way of restyling says that it
keeps this, and the rest is an induction.

To take a wrapper away (`Unwrapped`) is no such change, as it can make a document acceptable: once
there is no wrapper, rows of other tables may stand beside its rows.
-/

namespace Tablekeep.Markup.Content

/-- The parts of content: texts, and elements with what they hold. -/
def nodes : Content → List (String ⊕ String × Content)
  | empty => []
  | text s rest => .inl s :: rest.nodes
  | element tag inner rest => .inr (tag, inner) :: rest.nodes

theorem children_eq_filterMap (c : Content) : c.children = c.nodes.filterMap Sum.getRight? := by
  induction c with
  | empty => rfl
  | text s rest ih => rw [children, nodes, ih, List.filterMap_cons, Sum.getRight?]
  | element tag inner rest _ ih => rw [children, nodes, ih, List.filterMap_cons, Sum.getRight?]

theorem blank_ownText_iff (c : Content) :
    Text.Blank c.ownText ↔ ∀ s ∈ c.nodes.filterMap Sum.getLeft?, Text.Blank s := by
  induction c with
  | empty => simp [ownText, nodes]
  | text s rest ih =>
      rw [ownText, Text.blank_append, ih, nodes, List.filterMap_cons, Sum.getLeft?,
        List.forall_mem_cons]
  | element tag inner rest _ ih => rw [ownText, ih, nodes, List.filterMap_cons, Sum.getLeft?]

end Tablekeep.Markup.Content

namespace Tablekeep.Backup

open Markup

/-! ## Ways to write a document -/

/-- What kind of element content is in. -/
inductive Level where
  | database
  | wrapper
  | row
  | cell
  deriving DecidableEq, Repr

namespace Reader

variable (r : Reader)

/-- Some table has the plural. -/
def isPlural (tag : String) : Bool :=
  r.database.tables.any fun t => Text.sameName (r.plural t.name) tag

/-- What kind of element it is that stands in another one. -/
def within : Level → String → Level
  | .database, tag => if r.isPlural tag then .wrapper else .row
  | .wrapper, _ => .row
  | .row, _ => .cell
  | .cell, _ => .cell

/-- The content has been written in another way. -/
inductive Restyled : Level → Content → Content → Prop where
  | refl {l : Level} (c : Content) : Restyled l c c
  | symm {l : Level} {c d : Content} : Restyled l c d → Restyled l d c
  | trans {l : Level} {c d e : Content} : Restyled l c d → Restyled l d e → Restyled l c e
  /-- Text can be read in pieces, -/
  | joined {l : Level} (s s' : String) (c : Content) :
      Restyled l (.text s (.text s' c)) (.text (s ++ s') c)
  /-- and an empty piece is none. -/
  | nothing {l : Level} (c : Content) : Restyled l (.text "" c) c
  /-- Blanks outside cells can be other ones. -/
  | blanks {l : Level} {s s' : String} (c : Content) :
      l ≠ .cell → Text.Blank s → Text.Blank s' → Restyled l (.text s c) (.text s' c)
  /-- The parts of a row can stand in any order. -/
  | permuted {c d : Content} : c.nodes.Perm d.nodes → Restyled .row c d
  /-- What comes after a text is written in another way, -/
  | text {l : Level} {c d : Content} (s : String) :
      Restyled l c d → Restyled l (.text s c) (.text s d)
  /-- or the name of an element, what it holds and what comes after it. -/
  | element {l : Level} {tag tag' : String} {inner inner' c d : Content} :
      Text.sameName tag tag' = true → Restyled (r.within l tag) inner inner' → Restyled l c d →
      Restyled l (.element tag inner c) (.element tag' inner' d)

/-- A wrapper has been taken away from around its rows, which can be told from wrappers. -/
inductive Unwrapped : Content → Content → Prop where
  | here {tag : String} {t : Table} (inner rest : Content) :
      (r.database.tables.find? fun t => Text.sameName (r.plural t.name) tag) = some t →
      r.isPlural t.name = false → Unwrapped (.element tag inner rest) (inner.append rest)
  | text {c d : Content} (s : String) : Unwrapped c d → Unwrapped (.text s c) (.text s d)
  | element {c d : Content} (tag : String) (inner : Content) :
      Unwrapped c d → Unwrapped (.element tag inner c) (.element tag inner d)

/-! ## The keys of a row -/

end Reader

/-- All that matters of a cell. -/
structure CellKey where
  name : String
  text : String
  isFlat : Bool
  deriving DecidableEq

/-- What matters of an element in a row. -/
def CellKey.of (cell : String × Content) : CellKey :=
  ⟨Text.lower cell.1, cell.2.ownText, cell.2.children.isEmpty⟩

/-- What matters of the elements in a row. -/
def cellKeys (row : Content) : List CellKey :=
  row.children.map .of

theorem namesColumns_iff {t : Table} {row : Content} :
    NamesColumns t row ↔ ∀ k ∈ cellKeys row,
      (∃ c ∈ t.selected, k.name = Text.lower c.name) ∧ k.isFlat = true := by
  simp only [NamesColumns, cellKeys, List.forall_mem_map, CellKey.of, Text.sameName_iff,
    List.isEmpty_iff]

theorem namesOnce_iff {row : Content} :
    NamesOnce row ↔ (cellKeys row).Pairwise fun k k' => k.name ≠ k'.name := by
  simp [NamesOnce, cellKeys, CellKey.of, List.pairwise_map, ← Bool.not_eq_true, Text.sameName_iff]

theorem cellText?_eq_some_iff_key {row : Content} (honce : NamesOnce row) {c : Column}
    {text : String} :
    cellText? row c = some text ↔
      ∃ k ∈ cellKeys row, k.name = Text.lower c.name ∧ k.text = text := by
  rw [cellText?_eq_some_iff honce]
  simp only [cellKeys, List.mem_map, exists_exists_and_eq_and, CellKey.of, Text.sameName_iff]

namespace Reader

variable {r : Reader}

/-- **A row is read by its keys**, in whatever order they are. -/
theorem rowIn_congr {t : Table} (ht : t.Valid) {row row' : Content}
    (htext : Text.Blank row.ownText ↔ Text.Blank row'.ownText)
    (hkeys : (cellKeys row).Perm (cellKeys row')) : r.rowIn t [] row = r.rowIn t [] row' := by
  have hcolumns : NamesColumns t row ↔ NamesColumns t row' := by
    rw [namesColumns_iff, namesColumns_iff]
    exact forall_congr' fun k => by rw [hkeys.mem_iff]
  have honce : NamesOnce row ↔ NamesOnce row' := by
    rw [namesOnce_iff, namesOnce_iff]
    exact hkeys.pairwise_iff fun h => h.symm
  -- the first element that names a column is the only one, so it is the same in any order
  have hcells (h : NamesOnce row) : cellText? row = cellText? row' := by
    funext c
    ext text
    rw [cellText?_eq_some_iff_key h, cellText?_eq_some_iff_key (honce.mp h)]
    exact exists_congr fun k => by rw [hkeys.mem_iff]
  ext ins
  rw [rowIn_eq_some_iff r ht, rowIn_eq_some_iff r ht, htext, hcolumns]
  refine ⟨fun ⟨⟨hblank, hnames, h⟩, hpairs⟩ => ⟨⟨hblank, hnames, honce.mp h⟩, ?_⟩,
    fun ⟨⟨hblank, hnames, h⟩, hpairs⟩ => ⟨⟨hblank, hnames, honce.mpr h⟩, ?_⟩⟩
  · rwa [← hcells h]
  · rwa [hcells (honce.mpr h)]

/-! ## What is kept -/

/-- The reader makes the same of the content. -/
def Same (r : Reader) : Level → Content → Content → Prop
  | .database, c, d => r.itemsIn c = r.itemsIn d
  | .wrapper, c, d => ∀ t ∈ r.database.tables, r.rowsIn t c = r.rowsIn t d
  | .row, c, d => (Text.Blank c.ownText ↔ Text.Blank d.ownText) ∧ (cellKeys c).Perm (cellKeys d)
  | .cell, c, d => c.ownText = d.ownText ∧ (c.children = [] ↔ d.children = [])

variable {l : Level} {c d e : Content}

theorem Same.refl (l : Level) (c : Content) : r.Same l c c := by
  cases l with
  | database => exact rfl
  | wrapper => exact fun _ _ => rfl
  | row => exact ⟨Iff.rfl, .refl _⟩
  | cell => exact ⟨rfl, Iff.rfl⟩

theorem Same.symm (h : r.Same l c d) : r.Same l d c := by
  cases l with
  | database => exact Eq.symm h
  | wrapper => exact fun t ht => (h t ht).symm
  | row => exact ⟨h.1.symm, h.2.symm⟩
  | cell => exact ⟨h.1.symm, h.2.symm⟩

theorem Same.trans (h : r.Same l c d) (h' : r.Same l d e) : r.Same l c e := by
  cases l with
  | database => exact Eq.trans h h'
  | wrapper => exact fun t ht => (h t ht).trans (h' t ht)
  | row => exact ⟨h.1.trans h'.1, h.2.trans h'.2⟩
  | cell => exact ⟨h.1.trans h'.1, h.2.trans h'.2⟩

theorem same_joined (l : Level) (s s' : String) (c : Content) :
    r.Same l (.text s (.text s' c)) (.text (s ++ s') c) := by
  cases l with
  | database =>
      simp only [Same, itemsIn, Text.blank_append]
      by_cases hs : Text.Blank s <;> simp [hs]
  | wrapper =>
      intro t _
      simp only [rowsIn, Text.blank_append]
      by_cases hs : Text.Blank s <;> simp [hs]
  | row => exact ⟨by simp [Content.ownText, and_assoc], .refl _⟩
  | cell => exact ⟨by simp [Content.ownText, String.append_assoc], Iff.rfl⟩

theorem same_nothing (l : Level) (c : Content) : r.Same l (.text "" c) c := by
  cases l with
  | database => simp [Same, itemsIn]
  | wrapper => simp [Same, rowsIn]
  | row => exact ⟨by simp [Content.ownText], .refl _⟩
  | cell => exact ⟨by simp [Content.ownText], Iff.rfl⟩

theorem same_blanks {s s' : String} (c : Content) (hl : l ≠ .cell) (hs : Text.Blank s)
    (hs' : Text.Blank s') : r.Same l (.text s c) (.text s' c) := by
  cases l with
  | database => simp [Same, itemsIn, hs, hs']
  | wrapper => simp [Same, rowsIn, hs, hs']
  | row => exact ⟨by simp [Content.ownText, hs, hs'], .refl _⟩
  | cell => exact absurd rfl hl

theorem same_permuted (h : c.nodes.Perm d.nodes) : r.Same .row c d := by
  constructor
  · rw [c.blank_ownText_iff, d.blank_ownText_iff]
    exact forall_congr' fun s => by rw [(h.filterMap _).mem_iff]
  · rw [cellKeys, cellKeys, c.children_eq_filterMap, d.children_eq_filterMap]
    exact (h.filterMap _).map _

theorem Same.text (s : String) (h : r.Same l c d) : r.Same l (.text s c) (.text s d) := by
  cases l with
  | database => simp only [Same, itemsIn, show r.itemsIn c = r.itemsIn d from h]
  | wrapper =>
      intro t ht
      rw [rowsIn, rowsIn, h t ht]
  | row => exact ⟨by simp [Content.ownText, h.1], h.2⟩
  | cell => exact ⟨by simp [Content.ownText, h.1], h.2⟩

/-! ### Names -/

/-- The role of an element is the same for all spellings of its name. -/
theorem topRole_congr {tag tag' : String} (h : Text.sameName tag tag' = true) {role : Role} :
    r.topRole tag = .ok role ↔ r.topRole tag' = .ok role := by
  have hsame (name : String) : Text.sameName name tag = Text.sameName name tag' := by
    rw [Text.sameName_comm, Text.sameName_congr h, Text.sameName_comm]
  have htable : r.database.table? tag = r.database.table? tag' := by
    simp only [Database.table?, hsame]
  simp only [topRole, hsame, htable]
  split
  · rfl
  · split
    · rfl
    · simp

theorem isPlural_of_wrapper {tag : String} {t : Table} (h : r.topRole tag = .ok (.wrapper t)) :
    r.isPlural tag = true := by
  have hfind := r.topRole_eq_wrapper_iff.mp h
  have hplural := List.find?_some hfind
  exact List.any_eq_true.mpr ⟨t, List.mem_of_find?_eq_some hfind, hplural⟩

theorem isPlural_of_row {tag : String} {t : Table} (h : r.topRole tag = .ok (.row t [])) :
    r.isPlural tag = false := by
  simpa [isPlural] using (r.topRole_eq_row_iff.mp h).1

theorem Same.element (hv : r.database.Valid) {tag tag' : String} {inner inner' : Content}
    (htag : Text.sameName tag tag' = true) (hinner : r.Same (r.within l tag) inner inner')
    (h : r.Same l c d) : r.Same l (.element tag inner c) (.element tag' inner' d) := by
  cases l with
  | database =>
      have hrest : r.itemsIn c = r.itemsIn d := h
      change r.itemsIn (.element tag inner c) = r.itemsIn (.element tag' inner' d)
      rw [itemsIn, itemsIn, hrest]
      cases htop : r.topRole tag with
      | error fault =>
          cases htop' : r.topRole tag' with
          | error fault' => rfl
          | ok role =>
              rw [← topRole_congr htag, htop] at htop'
              cases htop'
      | ok role =>
          rw [(topRole_congr htag).mp htop]
          -- a plural is the name of a wrapper for both the reader and the level of the content
          rcases r.topRole_mem htop with ⟨t, rfl, ht⟩ | ⟨t, rfl, ht⟩
          · rw [within, if_pos (isPlural_of_wrapper htop)] at hinner
            simp only [hinner t ht]
          · rw [within, isPlural_of_row htop, if_neg Bool.false_ne_true] at hinner
            simp only [rowIn_congr (hv.tables t ht) hinner.1 hinner.2]
  | wrapper =>
      intro t ht
      rw [rowsIn, rowsIn, Text.sameName_congr htag,
        rowIn_congr (hv.tables t ht) hinner.1 hinner.2, h t ht]
  | row =>
      refine ⟨by simpa [Content.ownText] using h.1, ?_⟩
      have hflat : inner.children.isEmpty = inner'.children.isEmpty := by
        rw [Bool.eq_iff_iff, List.isEmpty_iff, List.isEmpty_iff, hinner.2]
      have hkey : CellKey.of (tag, inner) = .of (tag', inner') := by
        rw [CellKey.of, CellKey.of, Text.sameName_iff.mp htag, hinner.1, hflat]
      rw [cellKeys, cellKeys, Content.children, Content.children, List.map_cons, List.map_cons,
        hkey]
      exact h.2.cons _
  | cell => exact ⟨by simpa [Content.ownText] using h.1, by simp [Content.children]⟩

/-- **To write content in another way changes nothing for the reader.** -/
theorem Restyled.same (hv : r.database.Valid) (h : r.Restyled l c d) : r.Same l c d := by
  induction h with
  | refl c => exact .refl _ c
  | symm _ ih => exact ih.symm
  | trans _ _ ih ih' => exact ih.trans ih'
  | joined s s' c => exact same_joined _ s s' c
  | nothing c => exact same_nothing _ c
  | blanks c hl hs hs' => exact same_blanks c hl hs hs'
  | permuted h => exact same_permuted h
  | text s _ ih => exact ih.text s
  | element htag _ _ ihinner ih => exact .element hv htag ihinner ih

/-! ## Without a wrapper -/

/-- An element right under the database is read on its own. -/
theorem itemsIn_element (tag : String) (inner rest : Content) :
    r.itemsIn (.element tag inner rest) = (r.itemsIn (.element tag inner .empty)).bind
      fun items => (r.itemsIn rest).map (items ++ ·) := by
  rw [itemsIn, itemsIn]
  cases htop : r.topRole tag with
  | error fault => rfl
  | ok role =>
      rcases r.topRole_mem htop with ⟨t, rfl, -⟩ | ⟨t, rfl, -⟩
      · cases hrows : r.rowsIn t inner <;> simp [itemsIn, hrows]
      · cases hrow : r.rowIn t [] inner <;> simp [itemsIn, hrow]

theorem itemsIn_append (c d : Content) :
    r.itemsIn (c.append d)
      = (r.itemsIn c).bind fun items => (r.itemsIn d).map (items ++ ·) := by
  induction c with
  | empty => simp [Content.append, itemsIn]
  | text s rest ih =>
      rw [Content.append, itemsIn, itemsIn, ih]
      split <;> rfl
  | element tag inner rest _ ih =>
      rw [Content.append, itemsIn_element, ih, itemsIn_element tag inner rest]
      cases r.itemsIn (.element tag inner .empty) <;> cases r.itemsIn rest <;>
        cases r.itemsIn d <;> simp

/-- The name of a table that is no plural makes a row of it. -/
theorem topRole_of_not_isPlural (hv : r.database.Valid) {t : Table} (ht : t ∈ r.database.tables)
    (hplural : r.isPlural t.name = false) {tag : String} (hname : Text.sameName tag t.name = true) :
    r.topRole tag = .ok (.row t []) := by
  rw [topRole_congr hname, topRole_eq_row_iff]
  exact ⟨by simpa [isPlural] using hplural,
    hv.table?_eq_some_iff.mpr ⟨ht, Text.sameName_self _⟩⟩

/-- What is read in a wrapper is read outside it too, if it cannot be taken for a wrapper. -/
theorem itemsIn_of_rowsIn (hv : r.database.Valid) {t : Table} (ht : t ∈ r.database.tables)
    (hplural : r.isPlural t.name = false) {items : List ReadItem}
    (h : r.rowsIn t c = some items) : r.itemsIn c = some items := by
  induction c generalizing items with
  | empty => exact h
  | text s rest ih =>
      rw [rowsIn] at h
      rw [itemsIn]
      split at h
      · rename_i hs
        rw [if_pos hs]
        exact ih h
      · cases h
  | element tag inner rest _ ih =>
      rw [rowsIn] at h
      split at h
      · rename_i hname
        obtain ⟨row, hrow, h⟩ := Option.bind_eq_some_iff.mp h
        obtain ⟨rows, hrows, rfl⟩ := Option.map_eq_some_iff.mp h
        rw [itemsIn, topRole_of_not_isPlural hv ht hplural hname]
        simp only [hrow, ih hrows, Option.bind_some, Option.map_some]
      · cases h

/-- The same rows are read without the wrapper. -/
theorem Unwrapped.rows_eq (hv : r.database.Valid) (h : r.Unwrapped c d) {items : List ReadItem}
    (hc : r.itemsIn c = some items) :
    ∃ items', r.itemsIn d = some items'
      ∧ ReadResult.rows ⟨items', none⟩ = ReadResult.rows ⟨items, none⟩ := by
  induction h generalizing items with
  | here inner rest hfind hplural =>
      rw [itemsIn, r.topRole_eq_wrapper_iff.mpr hfind] at hc
      obtain ⟨rows, hrows, hc⟩ := Option.bind_eq_some_iff.mp hc
      obtain ⟨more, hmore, rfl⟩ := Option.map_eq_some_iff.mp hc
      refine ⟨rows ++ more, ?_, ?_⟩
      · rw [itemsIn_append, itemsIn_of_rowsIn hv (List.mem_of_find?_eq_some hfind) hplural hrows,
          hmore]
        rfl
      · -- the wrapper was announced, which tells no row
        simp [ReadResult.rows]
  | text s _ ih =>
      rw [itemsIn] at hc ⊢
      split at hc
      · rename_i hs
        rw [if_pos hs]
        exact ih hc
      · cases hc
  | element tag inner _ ih =>
      rw [itemsIn_element] at hc ⊢
      obtain ⟨first, hfirst, hc⟩ := Option.bind_eq_some_iff.mp hc
      obtain ⟨more, hmore, rfl⟩ := Option.map_eq_some_iff.mp hc
      obtain ⟨more', hmore', hrows⟩ := ih hmore
      refine ⟨first ++ more', by rw [hfirst, hmore']; rfl, ?_⟩
      simp only [ReadResult.rows, List.filterMap_append] at hrows ⊢
      rw [hrows]

/-! ## Documents -/

/-- What is read of a well-formed document, given as a tree. -/
def readTree (r : Reader) (root : Element) : ReadResult :=
  r.readEvents ⟨root.events, true⟩

/-- A tree is read as its items, or there is a failure. -/
theorem readTree_cases (r : Reader) (root : Element) :
    (r.itemsOf root = none ∧ (r.readTree root).failure ≠ none)
      ∨ ∃ items, r.itemsOf root = some items ∧ r.readTree root = ⟨items, none⟩ := by
  cases hitems : r.itemsOf root with
  | some items => exact .inr ⟨items, rfl, (r.readEvents_element_iff root items).mpr hitems⟩
  | none =>
      refine .inl ⟨rfl, fun hnone => ?_⟩
      have hread : r.readTree root = ⟨(r.readTree root).items, none⟩ := by rw [← hnone]
      rw [readTree, readEvents_element_iff, hitems] at hread
      cases hread

/-- The document has been written in another way. -/
structure RestyledAs (r : Reader) (root root' : Element) : Prop where
  name : Text.sameName root.tag root'.tag = true
  content : r.Restyled .database root.content root'.content

end Reader

/-- Both are accepted or neither, and the same rows are read where they are. -/
structure ReadResult.Agrees (a b : ReadResult) : Prop where
  failure : a.failure = none ↔ b.failure = none
  rows : a.failure = none → a.rows = b.rows

namespace Reader

/--
**What is read of a document does not depend on how it is written.**

Two documents that differ in the order of the parts of rows, in the spelling of names and in the
blanks outside cells are both accepted or neither, and then the same rows are read of them. The same
rows are also read of an accepted document after a wrapper has been taken away, provided that the
name of its table is no plural. Every document in bytes that is well formed is such a tree.
-/
theorem agrees_of_restyled (r : Reader) (hv : r.database.Valid) :
    (∀ root root' : Element, r.RestyledAs root root' →
        (r.readTree root).Agrees (r.readTree root'))
      ∧ (∀ tag c d, r.Unwrapped c d → (r.readTree ⟨tag, c⟩).failure = none →
          (r.readTree ⟨tag, d⟩).failure = none
            ∧ (r.readTree ⟨tag, d⟩).rows = (r.readTree ⟨tag, c⟩).rows)
      ∧ ∀ bytes reading, Markup.read bytes = .ok reading → reading.wellFormed = true →
          ∃ root : Element, reading.events = root.events ∧ r.read bytes = r.readTree root := by
  refine ⟨fun root root' h => ?_, fun tag c d h hnone => ?_, fun bytes reading hread hwell => ?_⟩
  · have hitems : r.itemsOf root = r.itemsOf root' := by
      have hcontent : r.itemsIn root.content = r.itemsIn root'.content := h.content.same hv
      rw [itemsOf, itemsOf, Text.sameName_congr h.name, hcontent]
    rcases r.readTree_cases root with ⟨hnone, hfailure⟩ | ⟨items, hsome, hread⟩
    · rcases r.readTree_cases root' with ⟨-, hfailure'⟩ | ⟨items, hsome, -⟩
      · exact ⟨iff_of_false hfailure hfailure', fun hcon => absurd hcon hfailure⟩
      · rw [← hitems, hnone] at hsome
        cases hsome
    · have hread' := (r.readEvents_element_iff root' items).mpr (hitems ▸ hsome)
      rw [hread, readTree, hread']
      exact ⟨Iff.rfl, fun _ => rfl⟩
  · rcases r.readTree_cases ⟨tag, c⟩ with ⟨-, hfailure⟩ | ⟨items, hsome, hread⟩
    · exact absurd hnone hfailure
    · rw [itemsOf] at hsome
      split at hsome
      · rename_i hname
        obtain ⟨items', hitems', hrows⟩ := h.rows_eq hv hsome
        have hread' := (r.readEvents_element_iff ⟨tag, d⟩ items').mpr
          (by rw [itemsOf, if_pos hname, hitems'])
        rw [hread, readTree, hread']
        exact ⟨rfl, hrows⟩
      · cases hsome
  · obtain ⟨root, hroot⟩ := exists_element_of_wellFormed hread hwell
    refine ⟨root, hroot, ?_⟩
    rw [Reader.read, hread, readTree, ← hroot, ← hwell]

/-- An item on a shelf, in a wrapper and without one, with its cells in either order. -/
theorem agrees_of_restyled_shelf :
    let r : Reader := ⟨.shelf, Plural.ofName, some 0⟩
    let id (rest : Content) : Content := .element "id" (.text "7" .empty) rest
    let item (cells : Content) : Content := .element "item" cells .empty
    let written : Content := .element "items" (item (id (.element "name" .empty .empty))) .empty
    let styled : Content :=
      .text "\n" (.element "Items" (item (.element "NAME" .empty (id .empty))) .empty)
    let bytes := Text.Utf8.encode "<shop><items><item><id>7</id></item></items></shop>"
    let bare : Content := item (id (.element "name" .empty .empty))
    (r.readTree ⟨"shop", written⟩).failure = none
      ∧ (r.readTree ⟨"shop", written⟩).Agrees (r.readTree ⟨"SHOP", styled⟩)
      ∧ ((r.readTree ⟨"shop", bare⟩).failure = none
        ∧ (r.readTree ⟨"shop", bare⟩).rows = (r.readTree ⟨"shop", written⟩).rows)
      ∧ ∃ root, r.read bytes = r.readTree root := by
  intro r id item written styled bytes bare
  obtain ⟨hrestyled, hunwrapped, hbytes⟩ := agrees_of_restyled r (by decide)
  have haccepted : (r.readTree ⟨"shop", written⟩).failure = none := by decide +kernel
  refine ⟨haccepted, hrestyled _ _ ⟨by decide, ?_⟩, ?_, ?_⟩
  · have horder : r.Restyled .row (id (.element "name" .empty .empty))
        (.element "name" .empty (id .empty)) := .permuted (.swap _ _ _)
    have hcells : r.Restyled .row (id (.element "name" .empty .empty))
        (.element "NAME" .empty (id .empty)) :=
      .trans horder (.element (by decide) (.refl _) (.refl _))
    have hwithin : r.within .database "items" = .wrapper := by decide +kernel
    have hitems : r.Restyled (r.within .database "items")
        (item (id (.element "name" .empty .empty)))
        (item (.element "NAME" .empty (id .empty))) := by
      rw [hwithin]
      exact .element (by decide) hcells (.refl _)
    exact .trans (.symm (.nothing _)) (.trans (.blanks _ (by decide) (by decide) (by decide))
      (.text "\n" (.element (by decide) hitems (.refl _))))
  · have hfind : ((r.database.tables.find? fun t => Text.sameName (r.plural t.name) "items").any
        fun t => !r.isPlural t.name) = true := by decide +kernel
    obtain ⟨hsome, hplural⟩ := (Option.any_eq_true_iff_get _ _).mp hfind
    exact hunwrapped "shop" written bare
      (.here bare .empty (Option.some_get hsome).symm (by simpa using hplural)) haccepted
  · obtain ⟨root, -, hroot⟩ := hbytes bytes
      ⟨[.start "shop", .start "items", .start "item", .start "id", .text "7", .finish,
        .finish, .finish, .finish], true⟩ (by decide +kernel) rfl
    exact ⟨root, hroot⟩

end Reader

end Tablekeep.Backup
