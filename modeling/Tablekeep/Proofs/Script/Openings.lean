import Mathlib.Data.List.Infix
import Tablekeep.Proofs.Outcome
import Tablekeep.Script.Basic
import Tablekeep.Server.Statement

/-!
# How statements begin

What a statement does can be told from the words it begins with. They stay where they are when the
statement is made ready to be sent, and a text that begins with some words does not begin with
others. The script of a database has five kinds of statements, which all create or drop something in
it.
-/

namespace Tablekeep

open Text

namespace Text

theorem beginsWith_iff {s w : String} : beginsWith s w = true ↔ w.toList <+: s.toList :=
  List.isPrefixOf_iff_prefix

/-- What follows does not matter. -/
theorem beginsWith_append {s w : String} (h : beginsWith s w = true) (t : String) :
    beginsWith (s ++ t) w = true := by
  rw [beginsWith_iff] at h ⊢
  rw [String.toList_append]
  exact h.trans (List.prefix_append ..)

/-- No text begins in two ways of which neither begins with the other. -/
theorem not_beginsWith {s v w : String} (hv : beginsWith s v = true)
    (hvw : beginsWith v w = false) (hwv : beginsWith w v = false) : beginsWith s w = false := by
  rw [Bool.eq_false_iff] at hvw hwv ⊢
  intro hw
  rw [beginsWith_iff] at hv hw
  rw [ne_eq, beginsWith_iff] at hvw hwv
  -- of two beginnings of one text the shorter begins the longer
  rcases List.prefix_or_prefix_of_prefix hv hw with h | h
  · exact hwv h
  · exact hvw h

/-- Neither the first character nor the last is a blank. -/
def isBare (w : String) : Bool :=
  w.toList.head?.any (!isBlank ·) && w.toList.getLast?.any (!isBlank ·)

theorem dropBlanksEnd_append {cs : List Char} (hlast : cs.getLast?.any (!isBlank ·) = true)
    (rest : List Char) : dropBlanksEnd (cs ++ rest) = cs ++ dropBlanksEnd rest := by
  have hkept : cs.reverse.dropWhile isBlank = cs.reverse := by
    rw [← List.head?_reverse] at hlast
    cases hrev : cs.reverse with
    | nil => rfl
    | cons c rest =>
        rw [hrev] at hlast
        exact List.dropWhile_cons_of_neg (by simpa using hlast)
  -- nothing but the rest is given up from the end, and all of it if it is blank
  unfold dropBlanksEnd
  rw [List.reverse_append, List.dropWhile_append]
  split
  · rename_i hall
    rw [hkept, List.isEmpty_iff.mp hall, List.reverse_reverse, List.reverse_nil, List.append_nil]
  · rw [List.reverse_append, List.reverse_reverse]

theorem beginsWith_trim {s w : String} (hw : isBare w = true) (h : beginsWith s w = true) :
    beginsWith (trim s) w = true := by
  obtain ⟨hfirst, hlast⟩ := Bool.and_eq_true_iff.mp hw
  rw [beginsWith_iff] at h ⊢
  obtain ⟨rest, hrest⟩ := h
  have hfront : dropBlanks s.toList = s.toList := by
    rw [← hrest]
    cases hcs : w.toList with
    | nil => rw [hcs] at hfirst; cases hfirst
    | cons c cs =>
        rw [hcs] at hfirst
        exact List.dropWhile_cons_of_neg (by simpa using hfirst)
  rw [trim, String.toList_ofList, hfront, ← hrest, dropBlanksEnd_append hlast]
  exact List.prefix_append ..

/-- What a statement begins with is what it is sent with. -/
theorem beginsWith_ended {s w : String} (hw : isBare w = true) (h : beginsWith s w = true) :
    beginsWith (Server.ended s) w = true := by
  unfold Server.ended
  dsimp only
  split
  · exact beginsWith_trim hw h
  · exact beginsWith_append (beginsWith_trim hw h) ";"

end Text

theorem Server.selectText_opens (d : Dialect) (r : RowRequest) :
    beginsWith (Server.selectText d r) "SELECT" = true := by
  unfold Server.selectText
  split
  · repeat with_reducible apply beginsWith_append
    decide
  · repeat with_reducible apply beginsWith_append
    decide
  · repeat with_reducible apply beginsWith_append
    decide

/-! ## The statements of a script -/

/-- The ways in which statements of a script begin. -/
def scriptOpenings : List String :=
  ["DROP TABLE", "CREATE TABLE", "CREATE INDEX", "CREATE NONCLUSTERED INDEX", "ALTER TABLE"]

/-- The text begins like a statement of a script. -/
def OpensScript (text : String) : Prop :=
  ∃ w ∈ scriptOpenings, beginsWith text w = true

namespace TableScript

theorem mysqlIndex_opens {t : Table} {c : Column} {text : String} (h : mysqlIndex t c = some text) :
    OpensScript text := by
  unfold mysqlIndex at h
  split at h
  · obtain rfl := Option.some.inj h
    refine ⟨"CREATE INDEX", by decide, ?_⟩
    repeat with_reducible apply beginsWith_append
    decide
  · cases h

theorem azureIndex_opens {t : Table} {c : Column} {text : String} (h : azureIndex t c = some text) :
    OpensScript text := by
  unfold azureIndex at h
  split at h
  · obtain rfl := Option.some.inj h
    refine ⟨"CREATE NONCLUSTERED INDEX", by decide, ?_⟩
    repeat with_reducible apply beginsWith_append
    decide
  · cases h

theorem azureForeignKey_opens {t : Table} {c : Column} {text : String}
    (h : text ∈ azureForeignKey t c) : OpensScript text := by
  unfold azureForeignKey at h
  split at h
  · cases h
  · refine ⟨"ALTER TABLE", by decide, ?_⟩
    rcases List.mem_cons.mp h with rfl | h
    · repeat with_reducible apply beginsWith_append
      decide
    · obtain rfl := List.mem_singleton.mp h
      repeat with_reducible apply beginsWith_append
      decide

theorem mysql_opens (t : Table) : ∀ text ∈ (mysql t).statements, OpensScript text := by
  intro text hmem
  rcases List.mem_append.mp hmem with hmem | hindex
  · rcases List.mem_append.mp hmem with hdrop | hcreate
    · obtain rfl := List.mem_singleton.mp hdrop
      refine ⟨"DROP TABLE", by decide, ?_⟩
      repeat with_reducible apply beginsWith_append
      decide
    · obtain rfl := List.mem_singleton.mp hcreate
      refine ⟨"CREATE TABLE", by decide, ?_⟩
      dsimp only [mysql]
      repeat with_reducible apply beginsWith_append
      decide
  · obtain ⟨c, -, hc⟩ := List.mem_filterMap.mp hindex
    exact mysqlIndex_opens hc

theorem azure_opens (t : Table) : ∀ text ∈ (azure t).statements, OpensScript text := by
  intro text hmem
  rcases List.mem_append.mp hmem with hmem | hindex
  · rcases List.mem_cons.mp hmem with rfl | hconstraint
    · refine ⟨"CREATE TABLE", by decide, ?_⟩
      dsimp only [azure]
      repeat with_reducible apply beginsWith_append
      decide
    · obtain ⟨c, -, hc⟩ := List.mem_flatMap.mp hconstraint
      exact azureForeignKey_opens hc
  · obtain ⟨c, -, hc⟩ := List.mem_filterMap.mp hindex
    exact azureIndex_opens hc

theorem ofTable_opens {d : Dialect} {t : Table} {script : TableScript}
    (h : ofTable d t = .ok script) :
    ∀ text ∈ script.statements, OpensScript text := by
  unfold ofTable at h
  split at h
  · cases h
  · cases d with
    | mysql =>
        obtain rfl := Except.ok.inj h
        exact mysql_opens t
    | azure =>
        obtain rfl := Except.ok.inj h
        exact azure_opens t

theorem exists_table_of_mapM {d : Dialect} {ts : List Table} {scripts : List TableScript}
    (h : ts.mapM (ofTable d) = .ok scripts) :
    ∀ script ∈ scripts, ∃ t, ofTable d t = .ok script := by
  induction ts generalizing scripts with
  | nil =>
      rw [List.mapM_nil] at h
      obtain rfl := Except.ok.inj h
      exact List.forall_mem_nil _
  | cons t ts ih =>
      rw [List.mapM_cons] at h
      obtain ⟨script, hscript, h⟩ := Outcome.bind_eq_ok_iff.mp h
      obtain ⟨rest, hrest, h⟩ := Outcome.bind_eq_ok_iff.mp h
      obtain rfl := Except.ok.inj h
      exact List.forall_mem_cons.mpr ⟨⟨t, hscript⟩, ih hrest⟩

end TableScript

/-- Every statement that creates the tables of a database begins like one of a script. -/
theorem Database.statements_open {d : Dialect} {db : Database} {texts : List String}
    (h : db.statements d = .ok texts) : ∀ text ∈ texts, OpensScript text := by
  obtain ⟨scripts, hscripts, rfl⟩ := Outcome.map_eq_ok_iff.mp h
  intro text hmem
  obtain ⟨script, hscript, htext⟩ := List.mem_flatMap.mp hmem
  obtain ⟨t, ht⟩ := TableScript.exists_table_of_mapM hscripts script hscript
  exact TableScript.ofTable_opens ht text htext

end Tablekeep
