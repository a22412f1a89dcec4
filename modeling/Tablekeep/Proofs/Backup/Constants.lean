import Tablekeep.Proofs.Backup.Denoted
import Tablekeep.Proofs.Backup.Elements

/-!
# What a restored text is on the other server

Literals are written in one way for both dialects, but the servers do not read them in one way. To
the rules of T-SQL a backslash is a character like any other, except that it takes away a line feed
right after it. A restored text has no line feeds, so its literal ends where it should there, too.
But nothing undoes the doubling of its backslashes, and what is stored has twice as many of them as
the text that was backed up.

This is said of every row that is told of a document, and of the cells of its element. What is
stored is the text of the cell exactly if there is no backslash in it.
-/

namespace Tablekeep

/-! ## Constants of T-SQL -/

namespace Sql

/-- What comes after the apostrophe that opens a constant of characters: what it denotes, and the
rest after the apostrophe that closes it. -/
def takeConstant : List Char → Option (List Char × List Char)
  | [] => none
  | '\\' :: '\n' :: cs => takeConstant cs
  | '\'' :: '\'' :: cs => (takeConstant cs).map fun (s, rest) => ('\'' :: s, rest)
  | '\'' :: cs => some ([], cs)
  | c :: cs => (takeConstant cs).map fun (s, rest) => (c :: s, rest)

/-- A constant of characters at the beginning, and the rest. -/
def constant? : List Char → Option (String × List Char)
  | '\'' :: inside => (takeConstant inside).map fun (s, rest) => (String.ofList s, rest)
  | _ => none

/-- The literal `l` stands in the text, and there it is read as a constant that denotes `s` and ends
with the literal. -/
def ReadAs (text l s : String) : Prop :=
  ∃ opening stop rest, Stops stop ∧ text.toList = opening ++ (l.toList ++ stop :: rest)
    ∧ constant? (l.toList ++ stop :: rest) = some (s, stop :: rest)

theorem takeConstant_cons {c : Char} {cs : List Char} (hquote : c ≠ '\'')
    (hfeed : cs.head? ≠ some '\n') :
    takeConstant (c :: cs) = (takeConstant cs).map fun (s, rest) => (c :: s, rest) := by
  refine takeConstant.eq_5 c cs (fun tail _ htail => hfeed ?_) (fun _ h _ => hquote h) hquote
  rw [htail]
  rfl

end Sql

namespace Backup

/-! ## The literal of a text -/

/-- Backslashes are written twice. -/
def doubledSlash (c : Char) : List Char :=
  if c = '\\' then [c, c] else [c]

/-- The text with its backslashes doubled. -/
def doubleSlashes (s : String) : String :=
  String.ofList (s.toList.flatMap doubledSlash)

theorem length_doubledSlash (cs : List Char) :
    (cs.flatMap doubledSlash).length = cs.length + cs.count '\\' := by
  induction cs with
  | nil => rfl
  | cons c cs ih =>
      rw [List.flatMap_cons, List.length_append, ih, List.length_cons, List.count_cons,
        doubledSlash]
      by_cases hc : c = '\\'
      · simp [hc]
        omega
      · simp [hc]
        omega

theorem doubleSlashes_eq_self_iff {s : String} : doubleSlashes s = s ↔ '\\' ∉ s.toList := by
  constructor
  · intro h
    have hlength := congrArg (fun s => s.toList.length) h
    simp only [doubleSlashes, String.toList_ofList, length_doubledSlash] at hlength
    exact List.count_eq_zero.mp (by omega)
  · intro h
    have hself : ∀ cs : List Char, '\\' ∉ cs → cs.flatMap doubledSlash = cs := by
      intro cs hcs
      induction cs with
      | nil => rfl
      | cons c cs ih =>
          obtain ⟨hc, hcs⟩ := List.ne_and_not_mem_of_not_mem_cons hcs
          rw [List.flatMap_cons, ih hcs, doubledSlash, if_neg (Ne.symm hc), List.singleton_append]
    rw [doubleSlashes, hself _ h, String.ofList_toList]

/-- Doubling leaves the first character where it is. -/
theorem head?_doubled (cs rest : List Char) :
    (cs.flatMap doubled ++ '\'' :: rest).head? = some (cs.headD '\'') := by
  cases cs with
  | nil => rfl
  | cons c cs =>
      rw [List.flatMap_cons, doubled]
      split <;> rfl

/-- What was doubled is read as it stands, but for the apostrophes. -/
theorem takeConstant_doubled {cs : List Char} (hfeed : '\n' ∉ cs) {rest : List Char}
    (hrest : rest.head? ≠ some '\'') :
    Sql.takeConstant (cs.flatMap doubled ++ '\'' :: rest)
      = some (cs.flatMap doubledSlash, rest) := by
  induction cs with
  | nil =>
      refine Sql.takeConstant.eq_4 _ fun tail htail => hrest ?_
      rw [htail]
      rfl
  | cons c cs ih =>
      obtain ⟨hc, hfeeds⟩ := List.ne_and_not_mem_of_not_mem_cons hfeed
      -- neither of two backslashes takes anything away
      have hnext : (cs.flatMap doubled ++ '\'' :: rest).head? ≠ some '\n' := by
        rw [head?_doubled]
        cases cs with
        | nil => decide
        | cons d ds =>
            have hd : '\n' ≠ d := (List.ne_and_not_mem_of_not_mem_cons hfeeds).1
            exact fun h => hd (Option.some.inj h).symm
      rw [List.flatMap_cons, List.flatMap_cons, List.append_assoc, doubledSlash]
      rcases doubled_cases c with ⟨rfl, h⟩ | ⟨rfl, h⟩ | ⟨hslash, hquote, h⟩
      · rw [h, List.cons_append, List.singleton_append,
          Sql.takeConstant_cons (by decide) (by simp), Sql.takeConstant_cons (by decide) hnext,
          ih hfeeds]
        rfl
      · rw [h, List.cons_append, List.singleton_append, Sql.takeConstant.eq_3, ih hfeeds]
        rfl
      · rw [h, List.singleton_append, Sql.takeConstant_cons hquote hnext, ih hfeeds,
          if_neg hslash]
        rfl

theorem constant?_literal {s : String} (hfeed : '\n' ∉ s.toList) {rest : List Char}
    (hrest : rest.head? ≠ some '\'') :
    Sql.constant? ((inApostrophes (doubleQuotes s)).toList ++ rest)
      = some (doubleSlashes s, rest) := by
  rw [toList_inApostrophes, doubleQuotes, String.toList_ofList, List.cons_append, List.append_assoc,
    List.singleton_append, Sql.constant?, takeConstant_doubled hfeed hrest]
  rfl

theorem not_mem_dropLineFeeds (s : String) : '\n' ∉ (dropLineFeeds s).toList := by
  simp [dropLineFeeds]

theorem slash_mem_dropLineFeeds_iff {s : String} :
    '\\' ∈ (dropLineFeeds s).toList ↔ '\\' ∈ s.toList := by
  simp [dropLineFeeds]

/-! ## The batch of a row -/

/-- In what is sent for a row a comma or a parenthesis comes after each literal. -/
theorem RowInsert.batch_split {row : RowInsert} {name l : String} (h : (name, l) ∈ row.pairs)
    (d : Dialect) : ∃ opening stop rest, Sql.Stops stop
      ∧ (row.batch d).toList = opening ++ (l.toList ++ stop :: rest) := by
  obtain ⟨before, after, hpairs⟩ := List.append_of_mem h
  obtain ⟨opening, stop, rest, hstop, hstatement⟩ := statement_split hpairs
  unfold batch
  split
  · -- for any texts, so that nothing tries to compute with these
    have hwrapped : ∀ a t b s c d : String, s.toList = opening ++ (l.toList ++ stop :: rest) →
        (a ++ t ++ b ++ s ++ c ++ t ++ d).toList
          = (a ++ t ++ b).toList ++ opening
            ++ (l.toList ++ stop :: (rest ++ (c ++ t ++ d).toList)) := by
      intro a t b s c d hs
      simp only [String.toList_append, hs, List.append_assoc, List.cons_append]
    exact ⟨_, stop, _, hstop, hwrapped _ _ _ _ _ _ hstatement⟩
  · exact ⟨opening, stop, rest, hstop, hstatement⟩

section Rows

variable {zone : Option Int} {t : Table} {cells : List (String × String)} {c : Column}
  {text : String}

theorem rowPairs_literal {cs : List Column} {pairs : List (String × String)}
    (h : rowPairs zone t cells cs = .ok pairs) (hc : c ∈ cs)
    (hcell : cells.lookup c.name = some text) :
    ∃ l, (c.name, l) ∈ pairs ∧ literal zone c (some text) = .ok l := by
  induction cs generalizing pairs with
  | nil => cases hc
  | cons d cs ih =>
      rw [rowPairs] at h
      split at h
      · rename_i hnone
        -- the column that is left out has no cell, so it is not this one
        have hother : c ∈ cs := (List.mem_cons.mp hc).resolve_left fun heq => by
          rw [← heq, hcell] at hnone
          cases hnone
        split at h
        · exact ih h hother
        · cases h
      · rename_i text' hcell'
        split at h
        · cases h
        · rename_i l hl
          obtain ⟨rest, hrest, rfl⟩ := Outcome.map_eq_ok_iff.mp h
          rcases List.mem_cons.mp hc with rfl | hother
          · rw [hcell] at hcell'
            cases hcell'
            exact ⟨l, List.mem_cons_self, hl⟩
          · obtain ⟨l, hmem, hl⟩ := ih hrest hother
            exact ⟨l, List.mem_cons_of_mem _ hmem, hl⟩

theorem rowInsert_literal {ins : RowInsert} (h : rowInsert zone t cells = .ok ins)
    (hc : c ∈ t.selected) (hcell : cells.lookup c.name = some text) :
    ∃ l, (c.name, l) ∈ ins.pairs ∧ literal zone c (some text) = .ok l := by
  unfold rowInsert at h
  split at h
  · cases h
  · rename_i hnil
    obtain ⟨l, hmem, -⟩ := rowPairs_literal hnil hc hcell
    cases hmem
  · rename_i hpairs
    cases h
    exact rowPairs_literal hpairs hc hcell

end Rows

/-! ## Documents -/

namespace Reader

/-- **On the other server a restored text has its backslashes doubled.** Every row that is told is
the row of an element of the document. For each text in it that is not empty there is a literal in
what is sent to the server, which is read there as one constant. It denotes the text without its
line feeds and with its backslashes doubled, and that is the text without its line feeds exactly if
there are no backslashes. -/
theorem read_rows_doubled (r : Reader) (bytes : List UInt8) :
    ∀ row ∈ (r.read bytes).rows, ∃ reading, Markup.read bytes = .ok reading
      ∧ ∃ t ∈ r.database.tables, ∃ cells, RowStands reading.events t cells
        ∧ rowInsert r.zone t (byName cells) = .ok row
        ∧ ∀ p ∈ cells, p.1.kind = .text → p.2 ≠ "" →
          ∃ l, (p.1.name, l) ∈ row.pairs
            ∧ Sql.ReadAs (row.batch .azure) l (doubleSlashes (dropLineFeeds p.2))
            ∧ (doubleSlashes (dropLineFeeds p.2) = dropLineFeeds p.2 ↔ '\\' ∉ p.2.toList) := by
  intro row hrow
  obtain ⟨reading, hreading, t, ht, cells, hstands, hins⟩ := read_restoresFrom hrow
  refine ⟨reading, hreading, t, ht, cells, hstands, hins, fun p hp hkind hne => ?_⟩
  obtain ⟨hselected, hlookup⟩ := hstands.mem p hp
  obtain ⟨l, hmem, hl⟩ := rowInsert_literal hins hselected hlookup
  have hliteral : l = inApostrophes (doubleQuotes (dropLineFeeds p.2)) := by
    rw [literal_text hkind, Option.getD_some, if_neg fun h => hne h.1] at hl
    exact (Except.ok.inj hl).symm
  obtain ⟨opening, stop, rest, hstop, hbatch⟩ := RowInsert.batch_split hmem .azure
  have hquote : (stop :: rest).head? ≠ some '\'' := by
    simpa using hstop.spec.2.2.1
  refine ⟨l, hmem, ⟨opening, stop, rest, hstop, hbatch, ?_⟩, ?_⟩
  · rw [hliteral]
    exact constant?_literal (not_mem_dropLineFeeds p.2) hquote
  · rw [doubleSlashes_eq_self_iff, slash_mem_dropLineFeeds_iff]

/-- A text with quotes and a backslash, in a row whose identity has to be announced. -/
theorem read_rows_doubled_note :
    let t : Table := ⟨"note", [⟨"id", "INT", .integer, true, false, false, none⟩,
      ⟨"body", "TEXT", .text, false, true, false, none⟩]⟩
    let r : Reader := ⟨⟨"d", [t]⟩, Plural.ofName, none⟩
    let bytes := Text.Utf8.encode "<d><note><id>7</id><body>it's C:\\</body></note></d>"
    let row : RowInsert := ⟨"note", [("id", "7"), ("body", "'it''s C:\\\\'")], true⟩
    row ∈ (r.read bytes).rows
      ∧ ∃ reading, Markup.read bytes = .ok reading
        ∧ ∃ t ∈ r.database.tables, ∃ cells, RowStands reading.events t cells
          ∧ rowInsert r.zone t (byName cells) = .ok row
          ∧ ∀ p ∈ cells, p.1.kind = .text → p.2 ≠ "" → ∃ l, (p.1.name, l) ∈ row.pairs
            ∧ Sql.ReadAs (row.batch .azure) l (doubleSlashes (dropLineFeeds p.2)) := by
  intro t r bytes row
  have hrow : row ∈ (r.read bytes).rows := by decide +kernel
  obtain ⟨reading, hreading, t', ht, cells, hstands, hins, hread⟩ :=
    read_rows_doubled r bytes row hrow
  refine ⟨hrow, reading, hreading, t', ht, cells, hstands, hins, fun p hp hkind hne => ?_⟩
  obtain ⟨l, hmem, hl, -⟩ := hread p hp hkind hne
  exact ⟨l, hmem, hl⟩

/-- **One backslash becomes two** on the server that does not know it as a mark; the other server
reads the same literal as the text that was backed up. -/
theorem read_rows_doubled_of_slash :
    let t : Table := ⟨"t", [⟨"s", "TEXT", .text, false, true, false, none⟩]⟩
    let r : Reader := ⟨⟨"d", [t]⟩, Plural.ofName, none⟩
    let text := "a\\b"
    let bytes := Text.Utf8.encode ("<d><t><s>" ++ text ++ "</s></t></d>")
    let row : RowInsert := ⟨"t", [("s", "'a\\\\b'")], false⟩
    ((r.read bytes).rows = [row] ∧ (r.read bytes).failure = none)
      ∧ row.batch .azure = "INSERT INTO t (s) VALUES ('a\\\\b');"
      ∧ Sql.constant? "'a\\\\b');".toList = some ("a\\\\b", [')', ';'])
      ∧ "a\\\\b" ≠ dropLineFeeds text
      ∧ Sql.takeDatum "'a\\\\b');".toList = some (.text (dropLineFeeds text), [')', ';']) := by
  decide +kernel

end Reader

end Backup

end Tablekeep
