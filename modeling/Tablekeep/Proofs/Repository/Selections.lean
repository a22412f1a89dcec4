import Tablekeep.Proofs.Backup.WellFormed
import Tablekeep.Proofs.Definition.Worded
import Tablekeep.Proofs.Digest.Canonical
import Tablekeep.Proofs.Files.Path
import Tablekeep.Proofs.Repository.Making
import Tablekeep.Proofs.Repository.Within
import Tablekeep.Proofs.Server.Conversation
import Tablekeep.Server.Memory

/-!
# What backups and reports select

A backup and a report ask for the rows of each table once, in the order of the definition, and
say nothing else to a server. This file follows that down to the text that is sent: a run that
ends well has added one selection for each table to the trace of the network, and nothing more.

The list of a selection names the columns that are no large objects. It does so unless there are
none: an empty list is taken for a list that was not given, and so all columns are asked for,
which are large objects then (`asked_iff`).
-/

namespace Tablekeep

open Server Files

/-! ## Lists of columns -/

namespace Server

/-- The items of a list of columns, which stand between commas. -/
def items (list : String) : List String :=
  (Text.pieces ',' list).map Text.trim

/-- The list asks for a column: it names the column in some letter case, or it asks for all. -/
def Asks (list column : String) : Prop :=
  ∃ item ∈ items list, item = "*" ∨ Text.sameName item column = true

/-- A name that can be an item: a word without a comma. -/
structure IsItem (name : String) : Prop where
  word : Text.IsWord name
  comma : ',' ∉ name.toList

/-- The items are what was put into the list. -/
theorem items_join {names : List String} (hne : names ≠ []) (h : ∀ n ∈ names, IsItem n) :
    items (Text.join ", " names) = names := by
  -- every item but the first has a space in front of it
  have hpieces : ∀ (before : List Char) (n : String) (ns : List String),
      (∀ m ∈ n :: ns, IsItem m) →
      Text.piecesFrom ',' before (Text.join ", " (n :: ns)).toList
        = (before.reverse ++ n.toList) :: ns.map fun m => ' ' :: m.toList := by
    intro before n ns hns
    induction ns generalizing before n with
    | nil => exact Text.piecesFrom_of_not_mem (hns n (by simp)).comma before
    | cons m ns ih =>
        obtain ⟨hn, hns⟩ := List.forall_mem_cons.mp hns
        have hsplit : (Text.join ", " (n :: m :: ns)).toList
            = n.toList ++ ',' :: ' ' :: (Text.join ", " (m :: ns)).toList := by
          rw [Text.join, String.toList_append, String.toList_append, List.append_assoc]
          rfl
        rw [hsplit, Text.piecesFrom_append, Text.piecesFrom_of_not_mem hn.comma,
          Text.piecesFrom, if_neg (by decide), ih [' '] m hns]
        rfl
  obtain ⟨n, ns, rfl⟩ := List.exists_cons_of_ne_nil hne
  obtain ⟨hn, hns⟩ := List.forall_mem_cons.mp h
  rw [items, Text.pieces, hpieces [] n ns h, List.map_cons, List.map_cons, List.map_map,
    List.map_map, List.reverse_nil, Text.trim_before hn.word [] (by simp)]
  refine congrArg (n :: ·) ((List.map_congr_left fun m hm => ?_).trans (List.map_id ns))
  exact Text.trim_before (hns m hm).word [' '] (by simp [Text.isBlank])

/-! ## Selections -/

/-- The list of the selection of a table: the columns that are no large objects, if there are
any. -/
theorem selectList_request (t : Table) :
    selectList (Backup.request t).columns
      = if t.selected = [] then "*" else Text.join ", " (t.selected.map (·.name)) := by
  rw [Backup.request]
  cases t.selected <;> rfl

/-- What passes when a table is selected from. -/
def Connection.selects (c : Connection) (t : Table) : Event :=
  .sent c.number c.url (match c.dialect with | .mysql => .stream | .azure => .query)
    ("SELECT " ++ selectList (Backup.request t).columns ++ " FROM " ++ t.name ++ ";")

/-- The names of the columns can be told apart in a list, and from the sign for all of them. -/
def Listable (t : Table) : Prop :=
  ∀ col ∈ t.columns, ',' ∉ col.name.toList ∧ col.name ≠ "*"

instance (t : Table) : Decidable (Listable t) :=
  inferInstanceAs (Decidable (∀ col ∈ t.columns, ',' ∉ col.name.toList ∧ col.name ≠ "*"))

/-- **A large object is asked for exactly if there is nothing else in the table.** -/
theorem asked_iff {t : Table} (ht : t.Valid) (hworded : t.Worded) (hlist : Listable t) :
    (∃ col ∈ t.columns, col.isBlob = true ∧ Asks (selectList (Backup.request t).columns) col.name)
      ↔ t.selected = [] := by
  rw [selectList_request]
  constructor
  · rintro ⟨col, hcol, hblob, item, hitem, hasks⟩
    by_contra hne
    have hitems : ∀ n ∈ t.selected.map (·.name), IsItem n := by
      intro n hn
      obtain ⟨c, hc, rfl⟩ := List.mem_map.mp hn
      have hmem := (Table.mem_selected.mp hc).1
      exact ⟨(hworded.columns c hmem).name, (hlist c hmem).1⟩
    rw [if_neg hne, items_join (by simpa using hne) hitems] at hitem
    obtain ⟨c, hc, rfl⟩ := List.mem_map.mp hitem
    obtain ⟨hmem, hselected⟩ := Table.mem_selected.mp hc
    rcases hasks with hstar | hname
    · exact (hlist c hmem).2 hstar
    · -- a selected column of the name would be the large object itself
      obtain rfl := ht.columns.eq_of_sameName hmem hcol hname
      rw [hblob] at hselected
      cases hselected
  · intro hnone
    obtain ⟨col, hcol⟩ := List.exists_mem_of_ne_nil _ ht.nonempty
    refine ⟨col, hcol, ?_, "*", by rw [if_pos hnone]; decide, .inl rfl⟩
    by_contra hblob
    have hmem : col ∈ t.selected := Table.mem_selected.mpr ⟨hcol, by simpa using hblob⟩
    rw [hnone] at hmem
    cases hmem

/-! ## What is left in the trace -/

variable {σ : Type} [Server σ]

/-- A table whose rows are had was selected from. -/
theorem trace_of_rows {c : Connection} {t : Table} {n n' : Network σ} {rows : List Row}
    (h : (c.rows (Backup.request t)).run n = (.ok rows, n')) :
    n'.trace = n.trace ++ [c.selects t] := by
  rw [Connection.rows, send_run] at h
  rcases haccept : Server.accept n.server c.url with ⟨_ | text, server⟩
  · rw [haccept] at h
    obtain ⟨-, rfl⟩ := Prod.mk.inj h
    rfl
  · rw [haccept] at h
    obtain ⟨hrefused, -⟩ := Prod.mk.inj h
    cases hrefused

/-- So were tables whose rows are had one after another. -/
theorem trace_of_given {c : Connection} {ts : List Table} {given : List (List Row)}
    {n n' : Network σ}
    (h : (ts.mapM fun t => c.rows (Backup.request t)).run n = (given.map .ok, n')) :
    n'.trace = n.trace ++ ts.map c.selects := by
  induction ts generalizing given n with
  | nil =>
      obtain ⟨-, rfl⟩ := Prod.mk.inj h
      exact (List.append_nil _).symm
  | cons t ts ih =>
      rw [List.mapM_cons] at h
      cases hanswer : (c.rows (Backup.request t)).run n with
      | mk answer n₁ =>
          cases hothers : (ts.mapM fun t => c.rows (Backup.request t)).run n₁ with
          | mk others n₂ =>
              rw [run_bind_of_eq hanswer, run_bind_of_eq hothers] at h
              obtain ⟨hanswers, rfl⟩ := Prod.mk.inj h
              cases given with
              | nil => cases hanswers
              | cons rows given =>
                  obtain ⟨rfl, rfl⟩ := List.cons.inj hanswers
                  rw [ih hothers, trace_of_rows hanswer, List.append_assoc]
                  rfl

end Server

/-! ## Reports -/

/-- When the reports of all tables were made, the source has answered for each of them. -/
theorem Digest.exists_given_of_tableReports {τ ε : Type} {source : Source (StateM τ) ε}
    {ts : List Table} {reports : List TableReport} {s s' : τ}
    (h : (tableReports source ts).run s = (.ok reports, s')) :
    ∃ given : List (List Row),
      (ts.mapM fun t => source (Backup.request t)).run s = (given.map .ok, s') := by
  have hends : (survey ε).Ends source s ts ((tableReports source ts).run s).1
      ((tableReports source ts).run s).2 := tableReports_ends ts s
  rw [h] at hends
  dsimp only at hends
  obtain ⟨given, rfl, hmakes⟩ := hends.makes
  exact ⟨_, hmakes.run_eq⟩

/-! ## Backups -/

theorem Backup.exists_given_of_documentLines {τ ε : Type} {source : Source (StateM τ) ε}
    {plural : String → String} {zone : Option Int} {db : Database} {s s' : τ}
    {written : Written (SourceError ε)}
    (h : (documentLines source plural zone db).run s = (written, s'))
    (hnone : written.failure = none) :
    ∃ given : List (List Row),
      (db.tables.mapM fun t => source (request t)).run s = (given.map .ok, s') := by
  rw [documentLines] at h
  cases hbody : (tablesLines source plural zone db.tables).run s with
  | mk body s₁ =>
      rw [run_bind_of_eq hbody] at h
      obtain ⟨rfl, rfl⟩ := Prod.mk.inj h
      obtain ⟨lines, failure⟩ := body
      subst hnone
      obtain ⟨given, hgiven, -⟩ := exists_given_of_tablesLines hbody
      exact ⟨given, hgiven⟩

namespace Repository.BackupPlan

/-- A run that ends well has fetched the rows and written them, and has said nothing else to a
server. -/
theorem documentLines_of_run {ρ : Type} {plan : BackupPlan} {client : Client ρ}
    {s s' : Workspace ρ} {path : Path} (h : (plan.run client).on s = (.ok path, s')) :
    (Backup.documentLines client.rows plan.plural plan.zone plan.database).run s.remote
        = (plan.written client s.remote, s'.remote)
      ∧ (plan.written client s.remote).failure = none := by
  have hchange (g : FileTree → Except FileError FileTree) :
      Work.Within (.silent ρ) (Work.change RepositoryError.file g) :=
    .change (fun _ _ _ => trivial) _
  have hlog (level : Level) (text : String) :
      Work.Within (.silent ρ) (Work.log level text : Work ρ RepositoryError Unit) := .log _ _
  unfold run at h
  obtain ⟨_, s₁, hmade, h⟩ := Work.on_bind_eq_ok h
  obtain ⟨_, s₂, hlogged, h⟩ := Work.on_bind_eq_ok h
  obtain ⟨_, s₃, hdocument, hpacked⟩ := Work.on_bind_eq_ok h
  have hbefore : s₂.remote = s.remote :=
    ((hlog _ _).remote_eq hlogged).trans ((hchange _).remote_eq hmade)
  have hafter : s'.remote = s₃.remote :=
    Work.Within.remote_eq
      (.ite (pack_within (fun _ _ _ _ _ _ => trivial) fun _ _ _ => trivial) (.pure _)) hpacked
  unfold writeDocument at hdocument
  obtain ⟨_, s₄, hbegun, hdocument⟩ := Work.on_bind_eq_ok hdocument
  obtain ⟨lines, s₅, hasked, hended⟩ := Work.on_bind_eq_ok hdocument
  rw [Work.on_ask, (hchange _).remote_eq hbegun, hbefore] at hasked
  obtain ⟨hlines, rfl⟩ := Prod.mk.inj hasked
  obtain rfl : plan.written client s.remote = lines := Except.ok.inj hlines
  cases hfailure : (plan.written client s.remote).failure with
  | some e =>
      rw [hfailure] at hended
      obtain ⟨_, s₆, -, hfailed⟩ := Work.on_bind_eq_ok hended
      cases hfailed
  | none =>
      rw [hfailure] at hended
      rw [hafter, (hchange _).remote_eq hended]
      exact ⟨rfl, rfl⟩

end Repository.BackupPlan

/-! ## Both -/

namespace Server

open Repository

variable {σ : Type} [Server σ]

/-- **Backups and reports select from each table once, in the order of the definition, and say
nothing else to the server.** The list of a selection has the columns that are no large objects, if
there are any. A large object is asked for exactly in a table that has nothing else. -/
theorem selections_of_ofText {source text : String} {db : Database}
    (hdb : Database.ofText source text = .ok db) (c : Connection) :
    (∀ (plan : BackupPlan) (s s' : Workspace (Network σ)) (path : Path), plan.database = db →
        (plan.run c.client).on s = (.ok path, s') →
        s'.remote.trace = s.remote.trace ++ db.tables.map c.selects)
      ∧ (∀ (n n' : Network σ) (reports : List Digest.TableReport),
        (Digest.report c.rows db).run n = (.ok reports, n') →
        n'.trace = n.trace ++ db.tables.map c.selects)
      ∧ ∀ t ∈ db.tables,
        selectList (Backup.request t).columns
            = (if t.selected = [] then "*" else Text.join ", " (t.selected.map (·.name)))
          ∧ (Listable t →
            ((∃ col ∈ t.columns, col.isBlob = true
                ∧ Asks (selectList (Backup.request t).columns) col.name)
              ↔ t.selected = [])) := by
  obtain ⟨hvalid, hworded⟩ := Database.valid_worded_of_ofText hdb
  refine ⟨?_, ?_, fun t ht => ⟨selectList_request t, ?_⟩⟩
  · rintro plan s s' path rfl hrun
    obtain ⟨hwritten, hnone⟩ := BackupPlan.documentLines_of_run hrun
    obtain ⟨given, hgiven⟩ := Backup.exists_given_of_documentLines hwritten hnone
    exact trace_of_given hgiven
  · intro n n' reports hreport
    obtain ⟨given, hgiven⟩ := Digest.exists_given_of_tableReports hreport
    exact trace_of_given hgiven
  · exact asked_iff (hvalid.tables t ht) (hworded.tables t ht)

/-- The definition of a shop: a table with a large object, and one of nothing else. -/
def shopText : String :=
  "DATABASE shop\nTABLE item\n id INT\n photo BLOB\nEND\nTABLE scan\n page BLOB\nEND\n"

/-- The definition that is read from the text. -/
def shop : Database :=
  ⟨"shop", [⟨"item", [⟨"id", "INT", .integer, false, true, false, none⟩,
      ⟨"photo", "BLOB", .binary, false, true, false, none⟩]⟩,
    ⟨"scan", [⟨"page", "BLOB", .binary, false, true, false, none⟩]⟩]⟩

/-- A server with a row in each table of the shop. -/
def shopServer : Network Memory :=
  ⟨⟨[("shop", [("item", [[⟨"id", .int 7⟩, ⟨"photo", .bytes [0, 255]⟩]]),
    ("scan", [[⟨"page", .bytes [1]⟩]])])], none, [], []⟩, 1, []⟩

/-- A connection to the shop. -/
def toShop : Connection := ⟨0, "mysql://root@localhost/shop", .mysql⟩

/-- What is selected from the shop, whether it is backed up or reported on. -/
theorem selections_of_shopText :
    let sent : List Event := [
      .sent 0 "mysql://root@localhost/shop" .stream "SELECT id FROM item;",
      .sent 0 "mysql://root@localhost/shop" .stream "SELECT * FROM scan;"]
    let plan : BackupPlan := ⟨shop, Path.ofText "b", ⟨2024, 3, 1⟩, true, Plural.ofName, none⟩
    let item := shop.tables.head (by decide)
    Database.ofText "shop.dbd" shopText = .ok shop
      ∧ (∃ path s', (plan.run toShop.client).on ⟨⟨[], []⟩, [], shopServer⟩ = (.ok path, s')
        ∧ s'.remote.trace = sent)
      ∧ (∃ reports n', (Digest.report toShop.rows shop).run shopServer = (.ok reports, n')
        ∧ n'.trace = sent)
      ∧ Listable item
      ∧ ¬ ∃ col ∈ item.columns, col.isBlob = true
        ∧ Asks (selectList (Backup.request item).columns) col.name := by
  intro sent plan item
  have htext : Database.ofText "shop.dbd" shopText = .ok shop := by decide +kernel
  have hsent : shopServer.trace ++ shop.tables.map toShop.selects = sent := by decide +kernel
  have hlistable : Listable item := by decide +kernel
  have hselected : item.selected ≠ [] := by decide +kernel
  obtain ⟨hbackup, hreport, hasked⟩ :=
    selections_of_ofText (σ := Memory) htext toShop
  refine ⟨htext, ?_, ?_, hlistable, ?_⟩
  · have hended : ((plan.run toShop.client).on ⟨⟨[], []⟩, [], shopServer⟩).1
        = .ok (Path.ofText "b/shop-2024-03-01.zip") := by decide +kernel
    cases hrun : (plan.run toShop.client).on ⟨⟨[], []⟩, [], shopServer⟩ with
    | mk outcome s' =>
        rw [hrun] at hended
        subst hended
        exact ⟨_, s', rfl, (hbackup plan _ s' _ rfl hrun).trans hsent⟩
  · have hended : ((Digest.report toShop.rows shop).run shopServer).1
        = .ok [⟨"item", 1, some "8F14E45FCEEA167A5A36DEDD4BEA2543"⟩,
          ⟨"scan", 1, some "CAB5CBE49A9B91458D6D516DD25B88AA"⟩] := by decide +kernel
    cases hrun : (Digest.report toShop.rows shop).run shopServer with
    | mk outcome n' =>
        rw [hrun] at hended
        subst hended
        exact ⟨_, n', rfl, (hreport _ n' _ hrun).trans hsent⟩
  · rw [(hasked item (List.head_mem _)).2 hlistable]
    exact hselected

/-- A scan is asked for, and what it holds goes into the digest. -/
theorem selects_scan :
    let scan : Table := ⟨"scan", [⟨"page", "BLOB", .binary, false, true, false, none⟩]⟩
    let answer := (Digest.report toShop.rows shop).run shopServer
    Database.ofText "shop.dbd" shopText = .ok shop ∧ scan ∈ shop.tables
      ∧ answer.1.isOk = true
      ∧ .sent 0 "mysql://root@localhost/shop" .stream "SELECT * FROM scan;" ∈ answer.2.trace
      ∧ ((toShop.rows (Backup.request scan)).run shopServer).1
        = .ok [[⟨"page", .bytes [1]⟩]] := by
  decide +kernel

end Server

end Tablekeep
