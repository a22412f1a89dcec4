import Tablekeep.Proofs.Outcome
import Tablekeep.Proofs.Text.Words
import Tablekeep.Script.Basic

/-!
# The script and the statements

The statements of a database are put together twice: in a list, to be sent to a server, and in a
script, to be read by people. The script has other gaps in other places, as it treats the
statement that drops a table, the constraints and the indexes each in a way of its own.

Still it is the same statements in the same order, with one or two line feeds before each of them
and nothing else (`Laid`). The induction is on the tables. What it needs is that the script of a
table begins one line feed late and ends one line feed late, so that what a table leaves open is
what the next one takes up.
-/

namespace Tablekeep

/-! ## Statements in a text -/

/-- The text is made up of the statements in this order, each after one or two line feeds. -/
inductive Laid : List String → String → Prop where
  | nil : Laid [] ""
  | cons {gap statement text : String} {statements : List String} :
      gap = "\n" ∨ gap = "\n\n" → Laid statements text →
      Laid (statement :: statements) (gap ++ statement ++ text)

namespace Laid

theorem append {ss ts : List String} {text more : String} (h : Laid ss text)
    (h' : Laid ts more) : Laid (ss ++ ts) (text ++ more) := by
  induction h with
  | nil => simpa using h'
  | cons hgap _ ih =>
      rw [List.cons_append, String.append_assoc]
      exact .cons hgap ih

end Laid

namespace TableScript

/-! ## Tables -/

/-- The lines with a line feed before each. -/
def below (lines : List String) : String :=
  String.join (lines.map ("\n" ++ ·))

theorem below_cons (line : String) (lines : List String) :
    below (line :: lines) = "\n" ++ line ++ below lines := by
  rw [below, List.map_cons, String.join_cons]
  rfl

theorem below_append (lines more : List String) :
    below (lines ++ more) = below lines ++ below more := by
  induction lines with
  | nil => simp [below]
  | cons line lines ih =>
      rw [List.cons_append, below_cons, ih, below_cons, String.append_assoc, String.append_assoc,
        String.append_assoc]

theorem laid_below (ss : List String) : Laid ss (below ss) := by
  induction ss with
  | nil => exact .nil
  | cons s ss ih =>
      rw [below_cons]
      exact .cons (.inl rfl) ih

/-- The indexes stand below each other, whether there are any or not. -/
theorem below_indexes (indexes : List String) :
    below (if indexes.isEmpty then [] else [Text.join "\n" indexes]) = below indexes := by
  cases indexes with
  | nil => rfl
  | cons index indexes =>
      rw [List.isEmpty_cons, if_neg Bool.false_ne_true, below_cons, Text.join_cons, below_cons]
      simp [below, String.append_assoc]

/-- Below an empty line, the lines of a table are its statements and an empty line. -/
theorem exists_laid (s : TableScript) :
    ∃ text, Laid s.statements text ∧ "\n" ++ below s.lines = text ++ "\n" := by
  have hcreate : Laid (s.create :: (s.constraints ++ s.indexes))
      ("\n\n" ++ s.create ++ (below s.constraints ++ below s.indexes)) :=
    .cons (.inr rfl) ((laid_below s.constraints).append (laid_below s.indexes))
  have hlines : below s.lines = below (s.drop.toList.map (· ++ "\n"))
      ++ ("\n" ++ s.create ++ (below s.constraints ++ below s.indexes) ++ "\n") := by
    have hend : below [""] = "\n" := by simp [below]
    rw [lines, below_append, below_append, below_append, below_indexes, below_cons, hend]
    simp only [String.append_assoc]
  cases hdrop : s.drop with
  | none =>
      have hstatements : s.statements = s.create :: (s.constraints ++ s.indexes) := by
        simp [statements, hdrop]
      rw [← hstatements] at hcreate
      refine ⟨_, hcreate, ?_⟩
      rw [hlines, hdrop, ← String.toList_inj]
      simp [below]
  | some drop =>
      have hstatements : s.statements = drop :: s.create :: (s.constraints ++ s.indexes) := by
        simp [statements, hdrop]
      have hall := @Laid.cons "\n\n" drop _ _ (.inr rfl) hcreate
      rw [← hstatements] at hall
      refine ⟨_, hall, ?_⟩
      -- the empty line after the dropping statement is the one before the creating statement
      rw [hlines, hdrop, ← String.toList_inj]
      simp [below]

/-- A table has no script if there is nothing in it to create. -/
theorem ofTable_eq_error {d : Dialect} {t : Table} (h : t.selected = []) :
    ofTable d t = .error (.nothingToCreate t.name) := by
  simp [ofTable, h]

theorem exists_ofTable {d : Dialect} {t : Table} (h : t.selected ≠ []) :
    ∃ s, ofTable d t = .ok s := by
  cases d <;> simp [ofTable, h]

end TableScript

/-! ## Databases -/

namespace Database

/-- What the list of statements and the script come to together: both name the first table that
cannot be created, or the script is the statements below the choice of the database. -/
inductive Scripted (db : Database) :
    Except ScriptError (List String) → Except ScriptError String → Prop where
  | refused {before after : List Table} {t : Table} :
      db.tables = before ++ t :: after → (∀ u ∈ before, u.selected ≠ []) → t.selected = [] →
      Scripted db (.error (.nothingToCreate t.name)) (.error (.nothingToCreate t.name))
  | laid {statements : List String} {text : String} :
      (∀ t ∈ db.tables, t.selected ≠ []) → Laid statements text →
      Scripted db (.ok statements) (.ok ("USE " ++ db.name ++ ";" ++ text ++ "\n"))

/-- The scripts of the tables are there if each table has something to create; otherwise the first
that has not is named. -/
theorem mapM_ofTable_cases (d : Dialect) (ts : List Table) :
    (∃ before t after, ts = before ++ t :: after ∧ (∀ u ∈ before, u.selected ≠ [])
        ∧ t.selected = [] ∧ ts.mapM (TableScript.ofTable d) = .error (.nothingToCreate t.name))
      ∨ (∀ t ∈ ts, t.selected ≠ [])
        ∧ ∃ scripts, ts.mapM (TableScript.ofTable d) = .ok scripts := by
  induction ts with
  | nil => exact .inr ⟨List.forall_mem_nil _, [], rfl⟩
  | cons t ts ih =>
      rw [List.mapM_cons]
      by_cases ht : t.selected = []
      · refine .inl ⟨[], t, ts, rfl, List.forall_mem_nil _, ht, ?_⟩
        rw [TableScript.ofTable_eq_error ht]
        rfl
      · obtain ⟨s, hs⟩ := TableScript.exists_ofTable (d := d) ht
        rw [hs]
        rcases ih with ⟨before, u, after, rfl, hbefore, hu, herror⟩ | ⟨hall, scripts, hscripts⟩
        · refine .inl ⟨t :: before, u, after, rfl, List.forall_mem_cons.mpr ⟨ht, hbefore⟩, hu, ?_⟩
          rw [herror]
          rfl
        · refine .inr ⟨List.forall_mem_cons.mpr ⟨ht, hall⟩, s :: scripts, ?_⟩
          rw [hscripts]
          rfl

/-- The scripts of tables one below the other, after an empty line that the first takes up and
before one that the last leaves. -/
theorem exists_laid_tables (scripts : List TableScript) :
    ∃ text, Laid (scripts.flatMap TableScript.statements) text
      ∧ "\n" ++ TableScript.below (scripts.flatMap TableScript.lines) = text ++ "\n" := by
  induction scripts with
  | nil => exact ⟨"", .nil, rfl⟩
  | cons s scripts ih =>
      obtain ⟨text, hlaid, htext⟩ := s.exists_laid
      obtain ⟨more, hmore, hbelow⟩ := ih
      refine ⟨text ++ more, hlaid.append hmore, ?_⟩
      rw [List.flatMap_cons, TableScript.below_append, ← String.append_assoc, htext,
        String.append_assoc, hbelow, String.append_assoc]

/--
**The script is the statements.**

Either neither can be put together, for the same reason, which is the first table without a column
to create; or the script chooses the database and goes on with the statements as they are, one or
two line feeds before each, and a line feed at the end. To ask for a dialect by a name is to ask for
the dialect of that name.
-/
theorem statements_scripted (r : DialectRequest) (db : Database) :
    db.Scripted (db.statements r.dialect) (db.scriptFor r)
      ∧ ∀ name, db.scriptFor (.named name) = db.scriptFor (.exactly (.ofName name)) := by
  refine ⟨?_, fun _ => rfl⟩
  unfold scriptFor statements script tableScripts
  rcases mapM_ofTable_cases r.dialect db.tables with
    ⟨before, t, after, htables, hbefore, ht, herror⟩ | ⟨hall, scripts, hscripts⟩
  · rw [herror]
    exact .refused htables hbefore ht
  · obtain ⟨text, hlaid, htext⟩ := exists_laid_tables scripts
    have hscript :
        Text.join "\n" (("USE " ++ db.name ++ ";\n") :: scripts.flatMap TableScript.lines)
          = "USE " ++ db.name ++ ";" ++ text ++ "\n" := by
      have hfirst : "USE " ++ db.name ++ ";\n" = "USE " ++ db.name ++ ";" ++ "\n" := by
        rw [← String.toList_inj]
        simp
      calc Text.join "\n" (("USE " ++ db.name ++ ";\n") :: scripts.flatMap TableScript.lines)
          = "USE " ++ db.name ++ ";" ++ "\n"
              ++ TableScript.below (scripts.flatMap TableScript.lines) := by
            rw [Text.join_cons, hfirst]
            rfl
        _ = "USE " ++ db.name ++ ";" ++ text ++ "\n" := by
            simp only [String.append_assoc, htext]
    rw [hscripts]
    simp only [Except.map, hscript]
    exact .laid hall hlaid

end Database

end Tablekeep
