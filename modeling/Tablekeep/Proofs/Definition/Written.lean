import Tablekeep.Proofs.Definition.Worded

/-!
# Definitions written down

A database can be written down as a definition, a line for each name and each column, and reading
it gives the database back. `Database.written` is the words of the lines and `Database.render` the
text.

The words are taken as they are. `END` may be a table, `FKEY` a type and `NULL` what a column
refers to: a line inside a table has two words at least, its first two are the name and the type
whatever they are, and after `FKEY` the next word is taken unread. So all that is asked of a
database is that it is valid and made of words, and as nothing else is ever read, these are exactly
the databases that definitions define (`Database.ofText_render_iff`).
-/

namespace Tablekeep

open Text

/-! ## Columns -/

namespace Column

/-- What stands after the type of a column. An identity is not null, so that is not said again. -/
def modifiers (c : Column) : List Modifier :=
  (if c.isIdentity then [.identity] else if c.isNullable then [] else [.notNull])
    ++ (if c.isIndex then [.index] else [])
    ++ c.foreignKey.toList.map .foreignKey

/-- The line that declares the column. -/
def line (c : Column) : ColumnLine :=
  ⟨c.name, c.declared, c.modifiers⟩

/-- The words of the line. -/
def written (c : Column) : List String :=
  [c.name, c.declared]
    ++ (if c.isIdentity then ["IDENTITY"] else if c.isNullable then [] else ["NOT", "NULL"])
    ++ (if c.isIndex then ["INDEX"] else [])
    ++ c.foreignKey.toList.flatMap fun target => ["FKEY", target]

end Column

/-- Modifiers may follow one another. -/
theorem Modifier.Spelled.append {ms ns : List Modifier} {ws vs : List String}
    (h : Spelled ms ws) (h' : Spelled ns vs) : Spelled (ms ++ ns) (ws ++ vs) := by
  induction h with
  | nil => exact h'
  | identity hw _ ih => exact .identity hw ih
  | index hw _ ih => exact .index hw ih
  | null hw _ ih => exact .null hw ih
  | notNull hw hv _ ih => exact .notNull hw hv ih
  | foreignKey target hw _ ih => exact .foreignKey target hw ih

namespace Column

variable {c : Column}

theorem line_spelled (c : Column) : c.line.Spelled c.written := by
  have hnull : Modifier.Spelled
      (if c.isIdentity then [.identity] else if c.isNullable then [] else [.notNull])
      (if c.isIdentity then ["IDENTITY"] else if c.isNullable then [] else ["NOT", "NULL"]) := by
    split
    · exact .identity (by decide) .nil
    · split
      · exact .nil
      · exact .notNull (by decide) (by decide) .nil
  have hindex : Modifier.Spelled (if c.isIndex then [.index] else [])
      (if c.isIndex then ["INDEX"] else []) := by
    split
    · exact .index (by decide) .nil
    · exact .nil
  have htarget : Modifier.Spelled (c.foreignKey.toList.map .foreignKey)
      (c.foreignKey.toList.flatMap fun target => ["FKEY", target]) := by
    cases c.foreignKey with
    | none => exact .nil
    | some target => exact .foreignKey target (by decide) .nil
  refine ⟨_, ?_, (hnull.append hindex).append htarget⟩
  simp [written, line]

/-- The line of a column of words is made of words. -/
theorem Worded.written (h : c.Worded) : ∀ w ∈ c.written, IsWord w := by
  intro w hw
  simp only [Column.written, List.mem_append, List.mem_cons, List.not_mem_nil, or_false,
    List.mem_flatMap, Option.mem_toList] at hw
  rcases hw with (((rfl | rfl) | hw) | hw) | ⟨target, htarget, rfl | rfl⟩
  · exact h.name
  · exact h.declared
  · split at hw
    · obtain rfl := List.mem_singleton.mp hw
      decide
    · split at hw
      · cases hw
      · rcases List.mem_pair.mp hw with rfl | rfl <;> decide
  · split at hw
    · obtain rfl := List.mem_singleton.mp hw
      decide
    · cases hw
  · decide
  · exact h.foreignKey w htarget

/-- The line of a valid column declares the column. -/
theorem line_column (h : c.Valid) : c.line.column = c := by
  have hidentity := h.identity
  obtain ⟨name, declared, kind, isIdentity, isNullable, isIndex, foreignKey⟩ := c
  obtain rfl : kind = .ofType declared := h.kind
  cases isIdentity with
  | true =>
      -- what an identity may not be is what its line does not say
      obtain ⟨hnull, hindex, hkey, -⟩ := hidentity rfl
      simp only at hnull hindex hkey
      subst hnull hindex hkey
      rfl
  | false => cases isNullable <;> cases isIndex <;> cases foreignKey <;> rfl

end Column

/-! ## Tables and databases -/

namespace Table

/-- The lines of the table. -/
def block (t : Table) : TableBlock :=
  ⟨t.name, t.columns.map (·.line)⟩

/-- The words of the lines. -/
def written (t : Table) : List (List String) :=
  ["TABLE", t.name] :: (t.columns.map (·.written) ++ [["END"]])

theorem block_table {t : Table} (h : t.Valid) : t.block.table = t := by
  have hcolumns : t.columns.map (fun c => c.line.column) = t.columns :=
    map_eq_self fun c hc => Column.line_column (h.columns.valid c hc)
  rw [block, TableBlock.table, List.map_map, Function.comp_def, hcolumns]

theorem block_spelled {t : Table} (h : t.columns ≠ []) : t.block.Spelled t.written := by
  refine .lines (by decide) (by decide) (by simpa [block] using h) ?_
  rw [block, List.forall₂_map_left_iff, List.forall₂_map_right_iff, List.forall₂_same]
  exact fun c _ => c.line_spelled

end Table

namespace Database

/-- The definition of the database. -/
def definition (d : Database) : Definition :=
  ⟨d.name, d.tables.map (·.block)⟩

/-- The words of its lines. -/
def written (d : Database) : List (List String) :=
  ["DATABASE", d.name] :: d.tables.flatMap (·.written)

/-- The database as the text of a definition. -/
def render (d : Database) : String :=
  join "\n" (d.written.map (join " "))

theorem definition_database {d : Database} (h : d.Valid) : d.definition.database = d := by
  have htables : d.tables.map (fun t => t.block.table) = d.tables :=
    map_eq_self fun t ht => Table.block_table (h.tables t ht)
  rw [definition, Definition.database, List.map_map, Function.comp_def, htables]

theorem definition_spelled {d : Database} (h : d.Valid) : d.definition.Spelled d.written := by
  have hblocks : List.Forall₂ TableBlock.Spelled (d.tables.map (·.block))
      (d.tables.map (·.written)) := by
    rw [List.forall₂_map_left_iff, List.forall₂_map_right_iff, List.forall₂_same]
    exact fun t ht => Table.block_spelled (h.tables t ht).nonempty
  exact .lines (by decide) hblocks

/-! ## What is written is read -/

/-- A line that is written down consists of words, and has one at least. -/
theorem written_words {d : Database} (h : d.Worded) :
    ∀ ws ∈ d.written, ws ≠ [] ∧ ∀ w ∈ ws, IsWord w := by
  intro ws hws
  rcases List.mem_cons.mp hws with rfl | hws
  · refine ⟨by simp, fun w hw => ?_⟩
    rcases List.mem_pair.mp hw with rfl | rfl
    · decide
    · exact h.name
  · obtain ⟨t, ht, hws⟩ := List.mem_flatMap.mp hws
    have ht := h.tables t ht
    simp only [Table.written, List.mem_cons, List.mem_append, List.mem_map, List.not_mem_nil,
      or_false] at hws
    rcases hws with rfl | ⟨c, hc, rfl⟩ | rfl
    · refine ⟨by simp, fun w hw => ?_⟩
      rcases List.mem_pair.mp hw with rfl | rfl
      · decide
      · exact ht.name
    · exact ⟨by simp [Column.written], (ht.columns c hc).written⟩
    · exact ⟨by simp, by decide⟩

/-- The text has the words that were written. -/
theorem wordLines_render {d : Database} (h : d.Worded) : wordLines d.render = d.written := by
  have hwords := written_words h
  have hlines : lines d.render = d.written.map (join " ") := by
    refine lines_join fun l hl => ?_
    obtain ⟨ws, hws, rfl⟩ := List.mem_map.mp hl
    obtain ⟨hne, hall⟩ := hwords ws hws
    refine ⟨fun hempty => hne ?_, fun c hc => ?_⟩
    · rw [← words_join hall, hempty]
      rfl
    · -- a line end would be a blank, but there is none in a word and a space is no line end
      rcases mem_join hc with hc | ⟨w, hw, hc⟩
      · obtain rfl : c = ' ' := by simpa using hc
        decide
      · by_contra hend
        exact (hall w hw).solid.not_mem (isBlank_of_isLineEnd (by simpa using hend)) hc
  have hback : (d.written.map (join " ")).map words = d.written := by
    rw [List.map_map]
    exact map_eq_self fun ws hws => words_join (hwords ws hws).2
  rw [wordLines_eq, hlines, hback, List.filter_eq_self]
  exact fun ws hws => by simpa using (hwords ws hws).1

theorem ofText_render {d : Database} (h : d.Valid) (hw : d.Worded) (source : String) :
    Database.ofText source d.render = .ok d := by
  rw [ofText_eq_ok_iff_readOn, wordLines_render hw]
  have hne : ∀ ws ∈ d.written, ws ≠ [] := fun ws hws => (written_words hw ws hws).1
  exact (Progress.readOn_start_iff hne).mpr
    ⟨d.definition, definition_spelled h, definition_database h, h⟩

/--
**Every valid database of words can be written down, and is read back.**

No other database is ever read, from whatever text. So those that definitions define are exactly
the valid ones that are made of words, and the text of each can be taken to be `render`.
-/
theorem ofText_render_iff (source : String) (d : Database) :
    (Database.ofText source d.render = .ok d ↔ d.Valid ∧ d.Worded)
      ∧ ((∃ text, Database.ofText source text = .ok d) ↔ d.Valid ∧ d.Worded) := by
  have hread : ∀ text, Database.ofText source text = .ok d → d.Valid ∧ d.Worded :=
    fun _ => valid_worded_of_ofText
  have hwritten : d.Valid ∧ d.Worded → Database.ofText source d.render = .ok d :=
    fun h => ofText_render h.1 h.2 source
  exact ⟨⟨hread _, hwritten⟩, fun ⟨text, h⟩ => hread text h, fun h => ⟨_, hwritten h⟩⟩

example :
    (⟨"END", [⟨"TABLE", [⟨"id", "INT", .integer, true, false, false, none⟩,
      ⟨"NULL", "FKEY", .text, false, false, true, some "END"⟩]⟩]⟩ : Database).render
      = "DATABASE END\nTABLE TABLE\nid INT IDENTITY\nNULL FKEY NOT NULL INDEX FKEY END\nEND" := by
  decide

end Database

end Tablekeep
