import Tablekeep.Proofs.Definition.Parser

/-!
# What holds while a definition is read

A reader can be asked for more at any time: a line may be fed after one that was refused, and the
end may be tried in the middle. This file is about every parser that such calls lead to, whatever
the lines are and however they are numbered.

The fields of a parser are set one at a time and by many hands, so nothing in the type relates them
to each other. `Parser.Sound` does: it says which fields are set in which phase, and that nothing
that was read clashes. A fresh parser is sound, and so is the one that any calls lead to, those
that fail included.

The way there is over drafts. `Progress.Valid` says of a progress what soundness leaves open once
the phase is known. One statement keeps it (`Progress.step_valid`), a refused one changes nothing,
and the parser that shows a valid draft is sound (`Parser.sound_ofDraft`).
-/

namespace Tablekeep

namespace Progress

/-! ## Valid drafts -/

/-- What has been read does not clash: not in the closed tables, and not with the open one. -/
def Valid : Progress → Prop
  | start => True
  | between database tables => (⟨database, tables⟩ : Database).Valid
  | inside database tables table columns =>
    (⟨database, tables⟩ : Database).Valid ∧ hasTable tables table = false
      ∧ Column.Compatible columns

/-- **A statement that is accepted keeps what has been read valid.** -/
theorem step_valid {p q : Progress} {words : List String} (hne : words ≠ []) (hp : p.Valid)
    (h : p.step words = .ok q) : q.Valid := by
  cases p with
  | start =>
      obtain ⟨_, name, -, -, rfl⟩ := step_start_eq_ok hne h
      exact Database.Valid.empty name
  | between database tables =>
      obtain ⟨_, table, -, -, hnew, rfl⟩ := step_between_eq_ok hne h
      exact ⟨hp, hnew, .nil⟩
  | inside database tables table columns =>
      obtain ⟨hvalid, hnew, hcolumns⟩ := hp
      rcases step_inside_eq_ok hne hcolumns h with
        ⟨_, -, -, hsome, rfl⟩ | ⟨l, -, hall, rfl⟩
      · -- the open table is closed, and its name has been compared with those before it
        refine Database.valid_append_singleton_iff.mpr ⟨hvalid, ⟨hcolumns, hsome⟩, ?_⟩
        simpa [hasTable] using hnew
      · exact ⟨hvalid, hnew, hall⟩

end Progress

namespace Draft

theorem after_valid {d : Draft} (hd : d.progress.Valid) (call : DraftCall) :
    (d.after call).progress.Valid := by
  cases call with
  | finish => exact hd
  | feed text line =>
      rw [after, feed]
      split
      · exact hd
      · rename_i w ws _
        dsimp only
        split
        · rename_i progress hstep
          exact Progress.step_valid (List.cons_ne_nil w ws) hd hstep
        · -- a refused line is remembered for reports, and nothing else
          exact hd

/-- Any calls keep a draft valid, whether or not some of them are refused. -/
theorem foldl_after_valid {d : Draft} (hd : d.progress.Valid) (calls : List DraftCall) :
    (calls.foldl after d).progress.Valid := by
  induction calls generalizing d with
  | nil => exact hd
  | cons call calls ih => exact ih (after_valid hd call)

end Draft

/-! ## Sound parsers -/

namespace Parser

/-- The fields fit together. -/
structure Sound (p : Parser) : Prop where
  /-- The database has no name exactly until it is declared, and no table comes before that. -/
  unnamed : p.database = none ↔ p.phase = .database
  untabled : p.phase = .database → p.tables = []
  /-- A table is open exactly while its columns are read, and no columns wait otherwise. -/
  opened : p.table.isSome = true ↔ p.phase = .inTable
  unpending : p.phase ≠ .inTable → p.columns = []
  /-- A closed table has a name and columns. -/
  named : ∀ t ∈ p.tables, t.name.isSome = true
  nonempty : ∀ t ∈ p.tables, t.columns ≠ []
  /-- No two tables have one name, be they closed or open. -/
  names : (p.tables.filterMap (·.name) ++ p.table.toList).Pairwise
    fun a b => Text.sameName a b = false
  /-- In every table the columns are valid, differ in their names, and have one identity at most. -/
  columns : ∀ t ∈ p.tables, Column.Compatible t.columns
  waiting : Column.Compatible p.columns

theorem filterMap_name_ofTable (tables : List Table) :
    (tables.map LooseTable.ofTable).filterMap (·.name) = tables.map (·.name) := by
  rw [List.filterMap_map]
  exact congrFun List.filterMap_eq_map' tables

/-- Names of tables that differ are names in a list that differ. -/
theorem pairwise_names_iff {tables : List Table} :
    (tables.map (·.name)).Pairwise (fun a b => Text.sameName a b = false)
      ↔ tables.Pairwise fun t u => Text.sameName t.name u.name = false :=
  List.pairwise_map

variable {d : Draft}

/-- The closed tables of a valid draft are as the parser that shows it needs them. -/
theorem closed_of_valid {name : String} {tables : List Table}
    (h : (⟨name, tables⟩ : Database).Valid) :
    ∀ t ∈ tables.map LooseTable.ofTable,
      t.name.isSome = true ∧ t.columns ≠ [] ∧ Column.Compatible t.columns := by
  intro t ht
  obtain ⟨u, hu, rfl⟩ := List.mem_map.mp ht
  exact ⟨rfl, (h.tables u hu).nonempty, (h.tables u hu).columns⟩

/-- **A valid draft is shown by a sound parser.** -/
theorem sound_ofDraft (h : d.progress.Valid) : (ofDraft d).Sound := by
  obtain ⟨source, progress, line, statement⟩ := d
  cases progress with
  | start =>
      exact {
        unnamed := iff_of_true rfl rfl
        untabled := fun _ => rfl
        opened := iff_of_false Bool.noConfusion Phase.noConfusion
        unpending := fun _ => rfl
        named := by simp [ofDraft, Progress.closed]
        nonempty := by simp [ofDraft, Progress.closed]
        names := .nil
        columns := by simp [ofDraft, Progress.closed]
        waiting := .nil }
  | between database tables =>
      have hclosed := closed_of_valid h
      exact {
        unnamed := by simp [ofDraft, Progress.database?, Progress.phase]
        untabled := by simp [ofDraft, Progress.phase]
        opened := by simp [ofDraft, Progress.opened?, Progress.phase]
        unpending := fun _ => rfl
        named := fun t ht => (hclosed t ht).1
        nonempty := fun t ht => (hclosed t ht).2.1
        names := by
          dsimp only [ofDraft, Progress.closed, Progress.opened?]
          rw [filterMap_name_ofTable, Option.toList_none, List.append_nil]
          exact pairwise_names_iff.mpr h.names
        columns := fun t ht => (hclosed t ht).2.2
        waiting := .nil }
  | inside database tables table columns =>
      obtain ⟨hvalid, hnew, hcolumns⟩ := h
      have hclosed := closed_of_valid hvalid
      exact {
        unnamed := by simp [ofDraft, Progress.database?, Progress.phase]
        untabled := by simp [ofDraft, Progress.phase]
        opened := by simp [ofDraft, Progress.opened?, Progress.phase]
        unpending := fun hne => absurd rfl hne
        named := fun t ht => (hclosed t ht).1
        nonempty := fun t ht => (hclosed t ht).2.1
        names := by
          -- the open table has the last of the names, so it is compared with all others
          dsimp only [ofDraft, Progress.closed, Progress.opened?]
          rw [filterMap_name_ofTable, List.pairwise_append, pairwise_names_iff]
          exact ⟨hvalid.names, List.pairwise_singleton .., by simpa [Progress.hasTable] using hnew⟩
        columns := fun t ht => (hclosed t ht).2.2
        waiting := hcolumns }

/-- Only between two tables can a definition end, and then nothing is missing. -/
theorem answer_finish_ofDraft {db : Option LooseDatabase} :
    (ofDraft d).answer .finish = .ok db
      ↔ ∃ database tables, d.progress = .between database tables
        ∧ db = some (.ofDatabase ⟨database, tables⟩) := by
  rw [answer_ofDraft, Outcome.mapError_eq_ok_iff, Outcome.map_eq_ok_iff, Draft.answer]
  obtain ⟨source, progress, line, statement⟩ := d
  cases progress with
  | start => simp [Draft.finish, Progress.close, Except.map]
  | between database tables =>
      constructor
      · rintro ⟨_, hfinish, rfl⟩
        cases hfinish
        exact ⟨database, tables, rfl, rfl⟩
      · rintro ⟨_, _, hprogress, rfl⟩
        cases hprogress
        exact ⟨_, rfl, rfl⟩
  | inside database tables table columns => simp [Draft.finish, Progress.close, Except.map]

/--
**What holds of a parser after any calls.**

Whatever lines a fresh parser has been fed, and however often its end has been tried in between, it
shows the draft that the same calls lead to, and its fields fit together. The end can be had exactly
between two tables; it gives the name and the closed tables, which make a valid database.
-/
theorem sound_of_calls (source : String) (calls : List DraftCall) :
    let p := calls.foldl after (.fresh source)
    p = ofDraft (calls.foldl Draft.after (.empty source))
      ∧ p.Sound
      ∧ ((∃ db, p.answer .finish = .ok db) ↔ p.phase = .tableOrEnd)
      ∧ ∀ db, p.answer .finish = .ok db →
          ∃ d : Database, db = some (.ofDatabase d) ∧ d.Valid
            ∧ p.database = some d.name ∧ p.tables = d.tables.map .ofTable := by
  intro p
  have hp : p = ofDraft (calls.foldl Draft.after (.empty source)) := foldl_after_fresh source calls
  have hstart : (Draft.empty source).progress.Valid := trivial
  have hvalid := Draft.foldl_after_valid hstart calls
  refine ⟨hp, ?_⟩
  clear_value p
  subst hp
  generalize calls.foldl Draft.after (.empty source) = d at hvalid
  refine ⟨sound_ofDraft hvalid, ?_, fun db hdb => ?_⟩
  · simp only [answer_finish_ofDraft]
    obtain ⟨source, progress, line, statement⟩ := d
    cases progress <;> simp [ofDraft, Progress.phase]
  · obtain ⟨database, tables, hprogress, rfl⟩ := answer_finish_ofDraft.mp hdb
    rw [hprogress] at hvalid
    refine ⟨⟨database, tables⟩, rfl, hvalid, ?_, ?_⟩
    · rw [ofDraft, hprogress]
      rfl
    · rw [ofDraft, hprogress]
      rfl

end Parser

end Tablekeep
