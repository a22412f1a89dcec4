import Tablekeep.Proofs.Backup.Insertion
import Tablekeep.Proofs.Text.Words

/-!
# What the literal of a text denotes

The text of a cell is restored as a string: without its line feeds, between apostrophes, and with
its apostrophes and backslashes doubled. Read by the rules for strings this is the text again, and
the string does not end before its last character, whatever runs of apostrophes and backslashes
stand in the text. Only another apostrophe after the literal could take its end away, and in a
statement a comma or a parenthesis comes after it.
-/

namespace Tablekeep.Backup

variable {zone : Option Int} {c : Column}

/-! ## The literal of a text -/

/-- The literal of a text, or the word for null. -/
theorem literal_text (hkind : c.kind = .text) (raw : Option String) :
    literal zone c raw
      = .ok (if raw.getD "" = "" ∧ c.isNullable = true then "null"
          else inApostrophes (doubleQuotes (dropLineFeeds (raw.getD "")))) := by
  have hblob : c.isBlob = false := by simp [Column.isBlob, hkind]
  simp only [literal, hblob, hkind, Bool.false_eq_true, ↓reduceIte, Bool.and_eq_true,
    String.isEmpty_iff, dropLineFeeds_doubleQuotes]
  split
  · rfl
  · rfl

theorem inApostrophes_ne_null (s : String) : inApostrophes s ≠ "null" := by
  intro h
  have hfirst := congrArg (fun l => l.toList.head?) h
  rw [toList_inApostrophes] at hfirst
  cases hfirst

/-! ## Its place in a statement -/

/-- After a literal in a statement comes a comma or a parenthesis. -/
theorem RowInsert.statement_split {row : RowInsert} {name l : String}
    {before after : List (String × String)} (h : row.pairs = before ++ (name, l) :: after) :
    ∃ opening stop rest, Sql.Stops stop
      ∧ row.statement.toList = opening ++ (l.toList ++ stop :: rest) := by
  have hvalues : ∃ opening,
      row.values = opening ++ l ++ String.join ((after.map (·.2)).map ("," ++ ·)) := by
    rw [values, h, List.map_append, List.map_cons]
    cases before.map (·.2) with
    | nil => exact ⟨"", by rw [List.nil_append, Text.join_cons, String.empty_append]⟩
    | cons first others =>
        refine ⟨first ++ String.join (others.map ("," ++ ·)) ++ ",", ?_⟩
        rw [List.cons_append, Text.join_cons, List.map_append, String.join_append, List.map_cons,
          String.join_cons]
        simp only [String.append_assoc]
  have hclosing : ∃ stop rest, Sql.Stops stop
      ∧ (String.join ((after.map (·.2)).map ("," ++ ·)) ++ ");").toList = stop :: rest := by
    cases after.map (·.2) with
    | nil => exact ⟨')', [';'], .inr rfl, rfl⟩
    | cons next others =>
        refine ⟨',', (next ++ String.join (others.map ("," ++ ·)) ++ ");").toList, .inl rfl, ?_⟩
        rw [List.map_cons, String.join_cons]
        simp only [String.toList_append]
        rfl
  obtain ⟨opening, hvalues⟩ := hvalues
  obtain ⟨stop, rest, hstop, hclosing⟩ := hclosing
  -- for any texts, so that nothing tries to compute with these
  have hsplit : ∀ start opening closing tail : String,
      (start ++ (opening ++ l ++ closing) ++ tail).toList
        = (start ++ opening).toList ++ (l.toList ++ (closing ++ tail).toList) := by
    intros
    simp only [String.toList_append, List.append_assoc]
  have hstatement := hsplit ("INSERT INTO " ++ row.table ++ " (" ++ row.columns ++ ") VALUES (")
    opening (String.join ((after.map (·.2)).map ("," ++ ·))) ");"
  rw [hclosing, ← hvalues] at hstatement
  exact ⟨_, stop, rest, hstop, hstatement⟩

/-! ## What it denotes -/

/--
**The literal of a text denotes the text.**

A text is restored as null exactly if it is empty and its column allows that. Otherwise its literal
is read as one string: it ends at its last character, as long as no other apostrophe follows it, and
it denotes the text without its line feeds. In the statement of a row no apostrophe follows any of
the literals.
-/
theorem literal_denotes (hkind : c.kind = .text) (raw : Option String) :
    (literal zone c raw = .ok "null" ↔ raw.getD "" = "" ∧ c.isNullable = true)
      ∧ (literal zone c raw ≠ .ok "null" → ∃ l, literal zone c raw = .ok l
        ∧ (∀ rest : List Char, rest.head? ≠ some '\'' →
          Sql.takeDatum (l.toList ++ rest)
            = some (.text (String.ofList ((raw.getD "").toList.filter (· ≠ '\n'))), rest))
        ∧ ∀ (row : RowInsert) (name : String) (before after : List (String × String)),
          row.pairs = before ++ (name, l) :: after →
            ∃ opening stop rest, (stop = ',' ∨ stop = ')')
              ∧ row.statement.toList = opening ++ (l.toList ++ stop :: rest)) := by
  rw [literal_text hkind raw]
  split
  · rename_i hnull
    exact ⟨iff_of_true rfl hnull, fun hne => absurd rfl hne⟩
  · rename_i hfull
    refine ⟨iff_of_false ?_ hfull, fun _ => ⟨_, rfl, fun rest hrest => ?_, ?_⟩⟩
    · exact fun h => inApostrophes_ne_null _ (Except.ok.inj h)
    · exact takeDatum_doubleQuotes _ hrest
    · exact fun _ _ _ _ => RowInsert.statement_split

/-- A text that begins like the end of a string, and has a line feed in it. -/
theorem literal_denotes_quotes :
    let c : Column := ⟨"s", "TEXT", .text, false, true, false, none⟩
    let raw := "\\'\nit's"
    c.kind = .text ∧ literal none c (some raw) ≠ .ok "null"
      ∧ ∃ l, literal none c (some raw) = .ok l ∧ ∀ rest : List Char, rest.head? ≠ some '\'' →
        Sql.takeDatum (l.toList ++ rest) = some (.text "\\'it's", rest) := by
  intro c raw
  have hne : literal none c (some raw) ≠ .ok "null" := by decide
  obtain ⟨l, hl, hread, -⟩ := (@literal_denotes none c rfl (some raw)).2 hne
  have htext : String.ofList (((some raw).getD "").toList.filter (· ≠ '\n')) = "\\'it's" := by
    decide
  rw [htext] at hread
  exact ⟨rfl, hne, l, hl, hread⟩

end Tablekeep.Backup
