import Tablekeep.Proofs.Backup.Fit
import Tablekeep.Proofs.Backup.Restored
import Tablekeep.Proofs.Sql.Statements

/-!
# What a restored row makes the server do

The cells of a backup may hold any text, and their literals are put into a statement. The row
is inserted and nothing else happens if every literal is one literal to the server, too:
then the list of values has a value for each column, and the statement ends where it should
(`RowInsert.Single`).

Texts, timestamps and truth values always are such literals. A text may hold anything, but
its apostrophes and backslashes are doubled, and that is undone by the rules for strings. Of
a number nothing is checked: the text of the cell is taken over as it stands. So the main
result says that numbers are all that it depends on.
-/

namespace Tablekeep.Backup

/-! ## Strings -/

theorem doubled_cases (c : Char) :
    (c = '\\' ∧ doubled c = ['\\', '\\']) ∨ (c = '\'' ∧ doubled c = ['\'', '\''])
      ∨ (c ≠ '\\' ∧ c ≠ '\'' ∧ doubled c = [c]) := by
  by_cases hslash : c = '\\'
  · subst hslash
    exact .inl ⟨rfl, by decide⟩
  · by_cases hquote : c = '\''
    · subst hquote
      exact .inr (.inl ⟨rfl, by decide⟩)
    · refine .inr (.inr ⟨hslash, hquote, ?_⟩)
      rw [doubled, if_neg fun h => h.elim hslash hquote]

/-- What was doubled is read once, and the string ends at the apostrophe that was put after it,
unless another one makes two of it. -/
theorem takeString_doubled (cs : List Char) {rest : List Char} (hrest : rest.head? ≠ some '\'') :
    Sql.takeString (cs.flatMap doubled ++ '\'' :: rest) = some (cs, rest) := by
  induction cs with
  | nil =>
      refine Sql.takeString.eq_4 _ fun tail htail => hrest ?_
      rw [htail]
      rfl
  | cons c cs ih =>
      rw [List.flatMap_cons, List.append_assoc]
      rcases doubled_cases c with ⟨rfl, hc⟩ | ⟨rfl, hc⟩ | ⟨hslash, hquote, hc⟩
      · rw [hc, List.cons_append, List.singleton_append, Sql.takeString.eq_2, ih]
        rfl
      · rw [hc, List.cons_append, List.singleton_append, Sql.takeString.eq_3, ih]
        rfl
      · rw [hc, List.singleton_append, Sql.takeString.eq_5 _ _ (fun _ _ h _ => hslash h)
          (fun _ h _ => hquote h) hquote, ih]
        rfl

theorem toList_inApostrophes (s : String) :
    (inApostrophes s).toList = '\'' :: (s.toList ++ ['\'']) := by
  rw [inApostrophes, String.toList_append, String.toList_append]
  rfl

/-- A text with doubled quotes is read as the text, between apostrophes, and reading ends with the
second of them. -/
theorem takeDatum_doubleQuotes (s : String) {rest : List Char} (hrest : rest.head? ≠ some '\'') :
    Sql.takeDatum ((inApostrophes (doubleQuotes s)).toList ++ rest) = some (.text s, rest) := by
  have hinside := takeString_doubled s.toList hrest
  rw [toList_inApostrophes, doubleQuotes, String.toList_ofList, List.cons_append, List.append_assoc,
    List.singleton_append, Sql.takeDatum, hinside]
  exact congrArg (fun s => some (Sql.Datum.text s, rest)) String.ofList_toList

/-- **A text with doubled quotes denotes the text**, between apostrophes. -/
theorem datum?_doubleQuotes (s : String) :
    Sql.datum? (inApostrophes (doubleQuotes s)) = some (.text s) := by
  have hopen : ∀ cs, Sql.skipGap ('\'' :: cs) = '\'' :: cs := fun _ => rfl
  have htake := @takeDatum_doubleQuotes s [] (by simp)
  rw [List.append_nil, toList_inApostrophes] at htake
  rw [Sql.datum?, toList_inApostrophes, hopen, htake]
  rfl

theorem doubleQuotes_eq_self {s : String} (h : ∀ c ∈ s.toList, c ≠ '\\' ∧ c ≠ '\'') :
    doubleQuotes s = s := by
  have hself : ∀ cs : List Char, (∀ c ∈ cs, c ≠ '\\' ∧ c ≠ '\'') → cs.flatMap doubled = cs := by
    intro cs hcs
    induction cs with
    | nil => rfl
    | cons c cs ih =>
        obtain ⟨⟨hslash, hquote⟩, htail⟩ := List.forall_mem_cons.mp hcs
        rw [List.flatMap_cons, ih htail, doubled, if_neg fun h => h.elim hslash hquote]
        rfl
  rw [doubleQuotes, hself _ h, String.ofList_toList]

/-- Plain text has nothing to double. -/
theorem datum?_plain {s : String} (h : Plain s.toList) :
    Sql.datum? (inApostrophes s) = some (.text s) := by
  have hquotes : doubleQuotes s = s := by
    have hspecial : ∀ d ∈ ['\\', '\''], isPlain d = false := by decide
    refine doubleQuotes_eq_self fun c hc => ?_
    have hplain := h c hc
    constructor
    · rintro rfl
      rw [hspecial _ (by decide)] at hplain
      cases hplain
    · rintro rfl
      rw [hspecial _ (by decide)] at hplain
      cases hplain
  have hdatum := datum?_doubleQuotes s
  rwa [hquotes] at hdatum

theorem plain_toStamp (m : Calendar.Moment) : Plain m.toStamp.toList := by
  refine (plain_stamp m).subset fun c hc => ?_
  rw [String.toList_append]
  exact List.mem_append_left _ hc

theorem dropLineFeeds_doubleQuotes (s : String) :
    dropLineFeeds (doubleQuotes s) = doubleQuotes (dropLineFeeds s) := by
  have hcomm : ∀ cs : List Char, (cs.flatMap doubled).filter (fun c => decide (c ≠ '\n'))
      = (cs.filter fun c => decide (c ≠ '\n')).flatMap doubled := by
    intro cs
    induction cs with
    | nil => rfl
    | cons c cs ih =>
        rw [List.flatMap_cons, List.filter_append, ih]
        rcases doubled_cases c with ⟨rfl, hc⟩ | ⟨rfl, hc⟩ | ⟨hslash, hquote, hc⟩
        · rw [hc]
          rfl
        · rw [hc]
          rfl
        · rw [hc]
          by_cases hfeed : c = '\n'
          · subst hfeed
            rfl
          · simp [hfeed, hc]
  simp only [dropLineFeeds, doubleQuotes, String.toList_ofList, hcomm]

/-! ## Literals -/

section Literals

variable {zone : Option Int} {c : Column} {raw : Option String} {l : String}

/-- What the literal of a cell is, by the kind of its column: the word for null, a string, one of
two numbers, or the text of the cell. -/
theorem literal_cases (h : literal zone c raw = .ok l) :
    ((raw.getD "" = "" ∧ c.isNullable = true) ∧ l = "null")
      ∨ ¬ (raw.getD "" = "" ∧ c.isNullable = true) ∧
        ((c.kind = .text ∧ l = inApostrophes (dropLineFeeds (doubleQuotes (raw.getD ""))))
          ∨ (c.kind = .timestamp ∧ ∃ m : Calendar.Moment, l = inApostrophes m.toStamp)
          ∨ (c.kind = .boolean ∧ (l = "1" ∨ l = "0"))
          ∨ (isNumeric c.kind = true ∧ l = raw.getD "")) := by
  simp only [literal] at h
  split at h
  · cases h
  · rename_i hblob
    split at h
    · rename_i hnull
      rw [Bool.and_eq_true, String.isEmpty_iff] at hnull
      exact .inl ⟨hnull, (Except.ok.inj h).symm⟩
    · rename_i hnull
      rw [Bool.and_eq_true, String.isEmpty_iff] at hnull
      refine .inr ⟨hnull, ?_⟩
      split at h
      · rename_i hkind
        exact .inl ⟨hkind, (Except.ok.inj h).symm⟩
      · rename_i hkind
        split at h
        · cases h
        · split at h
          · cases h
          · rename_i m _
            exact .inr (.inl ⟨hkind, m, (Except.ok.inj h).symm⟩)
      · rename_i hkind
        refine .inr (.inr (.inl ⟨hkind, ?_⟩))
        split at h
        · exact .inl (Except.ok.inj h).symm
        · exact .inr (Except.ok.inj h).symm
      · rename_i htext htimestamp hboolean
        refine .inr (.inr (.inr ⟨?_, (Except.ok.inj h).symm⟩))
        rw [Column.isBlob, beq_iff_eq] at hblob
        cases hkind : c.kind with
        | integer | single | decimal => rfl
        | boolean => exact absurd hkind hboolean
        | timestamp => exact absurd hkind htimestamp
        | text => exact absurd hkind htext
        | binary => exact absurd hkind hblob

/-- What is no number is always one literal. -/
theorem isLiteral_of_kind (h : literal zone c raw = .ok l) (hkind : isNumeric c.kind = false) :
    Sql.IsLiteral l := by
  have hwords : Sql.IsLiteral "null" ∧ Sql.IsLiteral "1" ∧ Sql.IsLiteral "0" := by decide
  rcases literal_cases h with
    ⟨-, rfl⟩ | ⟨-, ⟨-, rfl⟩ | ⟨-, m, rfl⟩ | ⟨-, rfl | rfl⟩ | ⟨hnumeric, -⟩⟩
  · exact hwords.1
  · rw [dropLineFeeds_doubleQuotes]
    exact ⟨_, datum?_doubleQuotes _⟩
  · exact ⟨_, datum?_plain (plain_toStamp m)⟩
  · exact hwords.2.1
  · exact hwords.2.2
  · rw [hkind] at hnumeric
    cases hnumeric

/-- A number is one if the text of the cell is one, or there is no text and no need for it. -/
theorem isLiteral_iff_of_numeric (h : literal zone c raw = .ok l)
    (hkind : isNumeric c.kind = true) :
    Sql.IsLiteral l ↔
      (raw.getD "" = "" ∧ c.isNullable = true) ∨ Sql.IsLiteral (raw.getD "") := by
  have hother : ∀ k, isNumeric k = false → c.kind ≠ k := by
    rintro k hk rfl
    rw [hk] at hkind
    cases hkind
  rcases literal_cases h with
    ⟨hnull, rfl⟩ | ⟨hfull, ⟨htext, -⟩ | ⟨hstamp, -⟩ | ⟨hbool, -⟩ | ⟨-, rfl⟩⟩
  · exact ⟨fun _ => .inl hnull, fun _ => by decide⟩
  · exact absurd htext (hother _ rfl)
  · exact absurd hstamp (hother _ rfl)
  · exact absurd hbool (hother _ rfl)
  · exact ⟨.inr, fun h => h.elim (fun hnull => absurd hnull hfull) id⟩

end Literals

/-! ## Rows -/

/-- Of pairs only the second part matters. -/
theorem forall₂_right_iff {α β : Type} {R : α → β → Prop} {P : β → Prop} {as : List α} {bs : List β}
    (h : List.Forall₂ R as bs) : List.Forall₂ (fun _ b => P b) as bs ↔ ∀ b ∈ bs, P b := by
  induction h with
  | nil => exact ⟨fun _ => by simp, fun _ => .nil⟩
  | cons _ _ ih => rw [List.forall₂_cons, List.forall_mem_cons, ih]

theorem exists_forall₂ {α β : Type} {R : α → β → Prop} {as : List α} (h : ∀ a ∈ as, ∃ b, R a b) :
    ∃ bs, List.Forall₂ R as bs := by
  induction as with
  | nil => exact ⟨[], .nil⟩
  | cons a as ih =>
      obtain ⟨⟨b, hb⟩, has⟩ := List.forall_mem_cons.mp h
      obtain ⟨bs, hbs⟩ := ih has
      exact ⟨b :: bs, .cons hb hbs⟩

/-- Where the literal of a column comes from: the text of its cell, or it is the word for null. -/
def Given (zone : Option Int) (cells : List (String × String)) (c : Column) (l : String) : Prop :=
  l = "null" ∨ ∃ text, cells.lookup c.name = some text ∧ literal zone c (some text) = .ok l

section Rows

variable {zone : Option Int} {t : Table} {cells : List (String × String)} {ins : RowInsert}

theorem rowPairs_given {cs : List Column} {pairs : List (String × String)}
    (h : rowPairs zone t cells cs = .ok pairs) :
    ∃ cols : List Column, cols.Sublist cs
      ∧ List.Forall₂ (fun c p => p.1 = c.name ∧ Given zone cells c p.2) cols pairs := by
  induction cs generalizing pairs with
  | nil =>
      rw [rowPairs, Except.ok.injEq] at h
      subst h
      exact ⟨[], .slnil, .nil⟩
  | cons c cs ih =>
      rw [rowPairs] at h
      split at h
      · split at h
        · obtain ⟨cols, hsub, hpairs⟩ := ih h
          exact ⟨cols, hsub.cons c, hpairs⟩
        · cases h
      · rename_i text hcell
        split at h
        · cases h
        · rename_i l hl
          obtain ⟨rest, hrest, rfl⟩ := Outcome.map_eq_ok_iff.mp h
          obtain ⟨cols, hsub, hpairs⟩ := ih hrest
          exact ⟨c :: cols, hsub.cons_cons c, .cons ⟨rfl, .inr ⟨text, hcell, hl⟩⟩ hpairs⟩

/-- A row has literals for some columns of its table, in their order. -/
theorem rowInsert_given (h : rowInsert zone t cells = .ok ins) :
    ∃ cols : List Column, cols.Sublist t.selected
      ∧ List.Forall₂ (fun c p => p.1 = c.name ∧ Given zone cells c p.2) cols ins.pairs := by
  unfold rowInsert at h
  split at h
  · cases h
  · split at h
    · cases h
    · cases h
      refine ⟨t.selected, .refl _, ?_⟩
      rw [List.forall₂_map_right_iff, List.forall₂_same]
      exact fun c _ => ⟨rfl, .inl rfl⟩
  · rename_i hpairs
    cases h
    exact rowPairs_given hpairs

end Rows

/-! ## Statements -/

namespace RowInsert

/-- The statement without the semicolon after it. -/
def insertion (row : RowInsert) : String :=
  "INSERT INTO " ++ row.table ++ " (" ++ row.columns ++ ") VALUES (" ++ row.values ++ ")"

/-- The statements that the server is to carry out for the row, and nothing after the last
semicolon. -/
def intended (d : Dialect) (row : RowInsert) : List String :=
  if d.needsIdentityInsert && row.hasIdentity then
    ["SET IDENTITY_INSERT " ++ row.table ++ " ON", " " ++ row.insertion,
      " SET IDENTITY_INSERT " ++ row.table ++ " OFF", ""]
  else [row.insertion, ""]

/-- **The row is inserted and nothing else happens**: each of its literals denotes one value, the
list of values ends at the parenthesis before the last semicolon, and the server is given the
intended statements, unless a name of the definition has a meaning of its own. -/
structure Single (row : RowInsert) (data : List Sql.Datum) : Prop where
  each : List.Forall₂ (fun p d => Sql.datum? p.2 = some d) row.pairs data
  list : ∀ rest, Sql.Values (row.values.toList ++ ')' :: rest) data rest
  alone : Sql.IsName row.table → (∀ p ∈ row.pairs, Sql.IsName p.1) →
    ∀ d : Dialect, Sql.pieces (row.batch d) = row.intended d

variable {row : RowInsert}

theorem Single.literals {data : List Sql.Datum} (h : row.Single data) :
    ∀ p ∈ row.pairs, Sql.IsLiteral p.2 := by
  have hread : List.Forall₂ (fun d p => Sql.datum? p.2 = some d) data row.pairs := h.each.flip
  exact (forall₂_right_iff hread).mp (hread.imp fun d p hd => ⟨d, hd⟩)

theorem statement_eq (row : RowInsert) : row.statement = row.insertion ++ ";" := by
  -- for any text before it, so that nothing tries to compute with that
  have hend : ∀ s : String, s ++ ");" = s ++ ")" ++ ";" := fun s => by
    rw [String.append_assoc]
    rfl
  exact hend _

theorem closed_insertion (htable : Sql.IsName row.table) (hnames : ∀ p ∈ row.pairs, Sql.IsName p.1)
    (hliterals : ∀ p ∈ row.pairs, Sql.IsLiteral p.2) : Sql.Closed row.insertion.toList := by
  have hcolumns : Sql.Closed row.columns.toList :=
    .join (List.forall_mem_map.mpr fun p hp => .name (hnames p hp))
  have hvalues : Sql.Closed row.values.toList :=
    .join (List.forall_mem_map.mpr fun p hp => .literal (hliterals p hp))
  have hopening : Sql.Closed ("INSERT INTO " ++ row.table ++ " (").toList :=
    .text (.text (.of_quiet (by decide)) (.name htable)) (.of_quiet (by decide))
  have hlist : Sql.Closed
      ("INSERT INTO " ++ row.table ++ " (" ++ row.columns ++ ") VALUES (").toList :=
    .text (.text hopening hcolumns) (.of_quiet (by decide))
  exact .text (.text hlist hvalues) (.of_quiet (by decide))

/-- The semicolons between the statements are the only ones that count. -/
theorem pieces_batch (htable : Sql.IsName row.table) (hrow : Sql.Closed row.insertion.toList)
    (d : Dialect) : Sql.pieces (row.batch d) = row.intended d := by
  have hnothing : Sql.pieces "" = [""] := by decide
  unfold batch intended
  split
  · have hswitch : ∀ before after : String, (∀ c ∈ before.toList, Sql.isQuiet c = true) →
        (∀ c ∈ after.toList, Sql.isQuiet c = true) →
        Sql.Closed (before ++ row.table ++ after).toList := by
      intro before after hbefore hafter
      exact .text (.text (.of_quiet hbefore) (.name htable)) (.of_quiet hafter)
    have hspaced : Sql.Closed (" " ++ row.insertion).toList := .text (.of_quiet (by decide)) hrow
    -- for any texts, so that nothing tries to compute with these
    have hsplit : ∀ a t on semicolon gap s b off nothing : String,
        a ++ t ++ (on ++ semicolon ++ gap) ++ (s ++ semicolon) ++ b ++ t
            ++ (off ++ semicolon ++ nothing)
          = (a ++ t ++ on) ++ semicolon ++ ((gap ++ s) ++ semicolon
            ++ ((b ++ t ++ off) ++ semicolon ++ nothing)) := by
      intros
      simp only [String.append_assoc]
    have htext : "SET IDENTITY_INSERT " ++ row.table ++ " ON; " ++ row.statement
          ++ " SET IDENTITY_INSERT " ++ row.table ++ " OFF;"
        = ("SET IDENTITY_INSERT " ++ row.table ++ " ON") ++ ";" ++ ((" " ++ row.insertion) ++ ";"
          ++ ((" SET IDENTITY_INSERT " ++ row.table ++ " OFF") ++ ";" ++ "")) := by
      rw [statement_eq]
      exact hsplit _ _ " ON" ";" " " _ _ " OFF" ""
    rw [htext, Sql.pieces_append (hswitch _ _ (by decide) (by decide)), Sql.pieces_append hspaced,
      Sql.pieces_append (hswitch _ _ (by decide) (by decide)), hnothing]
  · have htext : row.statement = row.insertion ++ ";" ++ "" := by
      rw [statement_eq, String.append_empty]
    rw [htext, Sql.pieces_append hrow, hnothing]

/-- A row is inserted as it should be if its literals are literals to the server. -/
theorem exists_single (hne : row.pairs ≠ []) (h : ∀ p ∈ row.pairs, Sql.IsLiteral p.2) :
    ∃ data, row.Single data := by
  obtain ⟨data, hdata⟩ := exists_forall₂ h
  refine ⟨data, hdata, fun rest => ?_, fun htable hnames d => ?_⟩
  · rw [values]
    obtain ⟨table, pairs, flag⟩ := row
    cases hdata with
    | nil => exact absurd rfl hne
    | cons hd hdata =>
        exact Sql.Values.of_literals (.cons hd (List.forall₂_map_left_iff.mpr hdata)) rest
  · exact pieces_batch htable (closed_insertion htable hnames h) d

end RowInsert

/-! ## Documents -/

namespace Reader

/-- **Only numbers can make a row do something else.** A literal is one literal to the server,
unless the column takes numbers and the text of the cell is none. In every row that is told of a
document, each pair is the name of another column of one table and a literal for it, and the row is
inserted and nothing else happens exactly if those of numbers are literals to the server, too. -/
theorem read_rows_single :
    (∀ zone c raw l, literal zone c raw = .ok l →
      (isNumeric c.kind = false → Sql.IsLiteral l)
        ∧ (isNumeric c.kind = true → (Sql.IsLiteral l ↔
          (raw.getD "" = "" ∧ c.isNullable = true) ∨ Sql.IsLiteral (raw.getD ""))))
    ∧ ∀ (r : Reader) (bytes : List UInt8), ∀ row ∈ (r.read bytes).rows,
      ∃ t ∈ r.database.tables, row.table = t.name ∧ row.pairs ≠ []
        ∧ ∃ cols : List Column, cols.Sublist t.selected
          ∧ List.Forall₂ (fun c p => p.1 = c.name
              ∧ (p.2 = "null" ∨ ∃ text, literal r.zone c (some text) = .ok p.2)) cols row.pairs
          ∧ ((∃ data, row.Single data) ↔
              List.Forall₂ (fun c p => isNumeric c.kind = true → Sql.IsLiteral p.2)
                cols row.pairs) := by
  refine ⟨fun zone c raw l h => ⟨isLiteral_of_kind h, isLiteral_iff_of_numeric h⟩, ?_⟩
  intro r bytes row hrow
  obtain ⟨t, ht, cells, hins⟩ := read_restores row hrow
  obtain ⟨htable, -, hne, -⟩ := rowInsert_columns hins
  obtain ⟨cols, hsub, hpairs⟩ := rowInsert_given hins
  refine ⟨t, ht, htable, hne, cols, hsub, ?_, ?_, ?_⟩
  · exact hpairs.imp fun c p hp => ⟨hp.1, hp.2.imp_right fun ⟨text, _, hl⟩ => ⟨text, hl⟩⟩
  · rintro ⟨data, hsingle⟩
    refine ((forall₂_right_iff hpairs).mpr hsingle.literals).imp ?_
    intro c p hp _
    exact hp
  · intro hnumbers
    have hall : List.Forall₂ (fun _ p => Sql.IsLiteral p.2) cols row.pairs := by
      refine List.Forall₂.mp (fun c p hp hnumber => ?_) hpairs hnumbers
      by_cases hkind : isNumeric c.kind = true
      · exact hnumber hkind
      · rcases hp.2 with hnull | ⟨text, -, hl⟩
        · rw [hnull]
          decide
        · exact isLiteral_of_kind hl (by simpa using hkind)
    exact RowInsert.exists_single hne ((forall₂_right_iff hpairs).mp hall)

/-- A cell that tries to end its string and its statement is a value like any other. -/
theorem read_rows_single_string :
    let t : Table := ⟨"t", [⟨"id", "INT", .integer, false, false, false, none⟩,
      ⟨"s", "TEXT", .text, false, true, false, none⟩]⟩
    let r : Reader := ⟨⟨"d", [t]⟩, Plural.ofName, none⟩
    let bytes := Text.Utf8.encode "<d><t><id>-7</id><s>1'); DROP TABLE t; --\\</s></t></d>"
    let row : RowInsert := ⟨"t", [("id", "-7"), ("s", "'1''); DROP TABLE t; --\\\\'")], false⟩
    row ∈ (r.read bytes).rows ∧ ∃ data, row.Single data := by
  intro t r bytes row
  have hrow : row ∈ (r.read bytes).rows := by decide +kernel
  refine ⟨hrow, ?_⟩
  obtain ⟨t', ht, -, -, cols, hsub, hpairs, hsingle⟩ := read_rows_single.2 r bytes row hrow
  obtain rfl := List.mem_singleton.mp ht
  obtain rfl := hsub.eq_of_length hpairs.length_eq
  exact hsingle.mpr (.cons (fun _ => by decide) (.cons (fun hkind => by cases hkind) .nil))

/-- **A number can make a row do something else**: its text is no literal if it is empty or goes on
after the number, and then the server is given another statement. -/
theorem read_rows_of_number :
    let c : Column := ⟨"id", "INT", .integer, false, false, false, none⟩
    let text := "1); DROP TABLE t; --"
    let r : Reader := ⟨⟨"d", [⟨"t", [c]⟩]⟩, Plural.ofName, none⟩
    let bytes := Text.Utf8.encode ("<d><t><id>" ++ text ++ "</id></t></d>")
    let row : RowInsert := ⟨"t", [("id", text)], false⟩
    (literal none c none = .ok "" ∧ ¬ Sql.IsLiteral "")
      ∧ (literal none c (some text) = .ok text ∧ ¬ Sql.IsLiteral text)
      ∧ ((r.read bytes).rows = [row] ∧ (r.read bytes).failure = none ∧ ¬ ∃ data, row.Single data)
      ∧ Sql.pieces (row.batch .mysql)
        = ["INSERT INTO t (id) VALUES (1)", " DROP TABLE t", " --)", ""] := by
  intro c text r bytes row
  have htext : ¬ Sql.IsLiteral text := by decide +kernel
  refine ⟨by decide +kernel, ⟨by decide +kernel, htext⟩, ⟨by decide +kernel, by decide +kernel, ?_⟩,
    by decide +kernel⟩
  rintro ⟨data, hsingle⟩
  exact htext (hsingle.literals ("id", text) (List.mem_singleton_self _))

end Reader

end Tablekeep.Backup
