import Tablekeep.Proofs.Definition.Grammar
import Tablekeep.Proofs.Text.Words

/-!
# Databases that are made of words

A definition has no quotes: a name is a word, and so is a declared type and what a column refers
to. Which word it is makes no difference, a keyword is as good as any other. `Database.Worded` is
what this says of a database, next to `Database.Valid`.

Whatever is read from a text is made of words, because it is put together from the words of the
lines (`Database.valid_worded_of_ofText`).
-/

namespace Tablekeep

open Text

/-! ## Words in place of names -/

/-- The name of a column, its type and what it refers to are words. -/
structure Column.Worded (c : Column) : Prop where
  name : IsWord c.name
  declared : IsWord c.declared
  foreignKey : ∀ target ∈ c.foreignKey, IsWord target

instance (c : Column) : Decidable c.Worded :=
  decidable_of_iff (IsWord c.name ∧ IsWord c.declared ∧ ∀ target ∈ c.foreignKey, IsWord target)
    ⟨fun h => ⟨h.1, h.2.1, h.2.2⟩, fun h => ⟨h.1, h.2, h.3⟩⟩

/-- So are the names in a table. -/
structure Table.Worded (t : Table) : Prop where
  name : IsWord t.name
  columns : ∀ c ∈ t.columns, c.Worded

instance (t : Table) : Decidable t.Worded :=
  decidable_of_iff (IsWord t.name ∧ ∀ c ∈ t.columns, c.Worded)
    ⟨fun h => ⟨h.1, h.2⟩, fun h => ⟨h.1, h.2⟩⟩

/-- So are the names in a database. -/
structure Database.Worded (d : Database) : Prop where
  name : IsWord d.name
  tables : ∀ t ∈ d.tables, t.Worded

instance (d : Database) : Decidable d.Worded :=
  decidable_of_iff (IsWord d.name ∧ ∀ t ∈ d.tables, t.Worded)
    ⟨fun h => ⟨h.1, h.2⟩, fun h => ⟨h.1, h.2⟩⟩

/-! ## Lists -/

/-- Nothing changes where nothing in a list changes. -/
theorem map_eq_self {α : Type} {f : α → α} {l : List α} (h : ∀ a ∈ l, f a = a) : l.map f = l :=
  (List.map_congr_left h).trans (List.map_id l)

/-- Whatever stands in the first list has a partner in the second. -/
theorem exists_of_mem_of_forall₂ {α β : Type} {R : α → β → Prop} {as : List α} {bs : List β}
    (h : List.Forall₂ R as bs) {a : α} (ha : a ∈ as) : ∃ b ∈ bs, R a b := by
  induction h with
  | nil => cases ha
  | @cons _ b _ bs hhead _ ih =>
      rcases List.mem_cons.mp ha with rfl | ha
      · exact ⟨b, List.mem_cons_self .., hhead⟩
      · obtain ⟨b', hb', hR⟩ := ih ha
        exact ⟨b', List.mem_cons_of_mem _ hb', hR⟩

/-! ## What words spell -/

/-- A modifier refers to one of the words that spell it. -/
theorem Modifier.Spelled.target_mem {ms : List Modifier} {ws : List String} (h : Spelled ms ws)
    {target : String} (ht : target ∈ ms.filterMap target?) : target ∈ ws := by
  induction h with
  | nil => cases ht
  | identity _ _ ih | index _ _ ih | null _ _ ih => exact List.mem_cons_of_mem _ (ih ht)
  | notNull _ _ _ ih => exact List.mem_cons_of_mem _ (List.mem_cons_of_mem _ (ih ht))
  | foreignKey target' _ _ ih =>
      rcases List.mem_cons.mp ht with rfl | ht
      · simp
      · exact List.mem_cons_of_mem _ (List.mem_cons_of_mem _ (ih ht))

theorem ColumnLine.Spelled.worded {l : ColumnLine} {ws : List String} (h : l.Spelled ws)
    (hws : ∀ w ∈ ws, IsWord w) : l.column.Worded := by
  obtain ⟨rest, rfl, hms⟩ := h
  refine ⟨hws l.name (by simp), hws l.declared (by simp), fun target ht => hws target ?_⟩
  exact List.mem_cons_of_mem _ (List.mem_cons_of_mem _ (hms.target_mem
    (List.mem_of_mem_getLast? ht)))

theorem TableBlock.Spelled.worded {b : TableBlock} {lines : List (List String)}
    (h : b.Spelled lines) (hws : ∀ ws ∈ lines, ∀ w ∈ ws, IsWord w) : b.table.Worded := by
  cases h with
  | @lines opening _ _ _ _ _ hbody =>
      refine ⟨hws [opening, b.name] (by simp) b.name (by simp), fun c hc => ?_⟩
      obtain ⟨l, hl, rfl⟩ := List.mem_map.mp hc
      obtain ⟨ws, hmem, hspelled⟩ := exists_of_mem_of_forall₂ hbody hl
      exact hspelled.worded (hws ws (by simp [hmem]))

theorem Definition.Spelled.worded {d : Definition} {lines : List (List String)}
    (h : d.Spelled lines) (hws : ∀ ws ∈ lines, ∀ w ∈ ws, IsWord w) : d.database.Worded := by
  cases h with
  | @lines opening _ _ hblocks =>
      refine ⟨hws [opening, d.name] (by simp) d.name (by simp), fun t ht => ?_⟩
      obtain ⟨b, hb, rfl⟩ := List.mem_map.mp ht
      obtain ⟨block, hmem, hspelled⟩ := exists_of_mem_of_forall₂ hblocks hb
      refine hspelled.worded fun ws hws' => hws ws ?_
      exact List.mem_cons_of_mem _ (List.mem_flatten.mpr ⟨block, hmem, hws'⟩)

/-! ## What is read -/

/-- A text is read by its words alone. -/
theorem Database.ofText_eq_ok_iff_readOn {source text : String} {db : Database} :
    Database.ofText source text = .ok db ↔ Progress.start.readOn (wordLines text) = .ok db := by
  rw [wordLines_eq]
  exact Draft.feedLines_eq_ok_iff (Text.lines text) (.empty source) 1 db

theorem isWord_of_mem_wordLines {text w : String} {ws : List String} (hws : ws ∈ wordLines text)
    (hw : w ∈ ws) : IsWord w := by
  rw [wordLines] at hws
  obtain ⟨line, -, rfl⟩ := List.mem_map.mp hws
  exact isWord_of_mem_words hw

/-- **What is read is valid, and made of words.** -/
theorem Database.valid_worded_of_ofText {source text : String} {db : Database}
    (h : Database.ofText source text = .ok db) : db.Valid ∧ db.Worded := by
  have hne : ∀ ws ∈ wordLines text, ws ≠ [] := by
    intro ws hws
    rw [wordLines_eq] at hws
    simpa using (List.mem_filter.mp hws).2
  obtain ⟨d, hd, rfl, hvalid⟩ :=
    (Progress.readOn_start_iff hne).mp (Database.ofText_eq_ok_iff_readOn.mp h)
  exact ⟨hvalid, hd.worded fun ws hws w hw => isWord_of_mem_wordLines hws hw⟩

end Tablekeep
