import Tablekeep.Proofs.Backup.Opened

/-!
# Backups are documents

A backup that is written to its end is a document of the elements that were opened. There is one
reservation: in a column of numbers or timestamps bytes are written as they are shown, with nothing
escaped, so they must be shown as character data there (`BytesFit`). All that any other value of a
source can do is to refer to a character that a document may not hold, because the characters that
are left out by the escaping are a fixed list. So the document is well formed if and only if no such
character is kept.

Integers are taken to have a text however long they are. Where the digits of an integer are limited,
a backup with a longer one is not written to its end.
-/

namespace Tablekeep.Backup

open Markup Markup.Grammar

section Document

variable {plural : String → String} {zone : Option Int}

/-! ## The document -/

/-- What is said of a backup: it is a document with the elements that were opened, if references may
name what was kept, and a well-formed one if and only if that is allowed. -/
structure Documented (plural : String → String) (zone : Option Int) (name : String)
    (parts : List (Table × List Row)) (content : Content) (cs : List Char) : Prop where
  opened : Opened plural zone parts content
  document : ∀ may : Char → Prop, (∀ ch, isCharacter ch = true → may ch) →
    (∀ ch, KeptOf parts ch → may ch) → Document may cs ⟨name, content⟩
  wellFormed_iff : WellFormed cs ↔ ∀ ch, KeptOf parts ch → isCharacter ch = true

theorem exists_documented {name : String} {parts : List (Table × List Row)}
    (hname : Grammar.isName name.toList = true)
    (hnames : ∀ part ∈ parts, TableNamed plural part.1)
    (h : ∀ part ∈ parts, (tableLines plural zone part.1 part.2).failure = none)
    (hbytes : ∀ part ∈ parts, ∀ row ∈ part.2, BytesFit part.1 row) :
    ∃ content, Documented plural zone name parts content
      (Text.join "\n" (declaration :: openTag name
        :: (parts.flatMap fun part => (tableLines plural zone part.1 part.2).lines)
        ++ [closeTag name])).toList := by
  obtain ⟨css, elements, hbelow, hbare, hopened⟩ := exists_wrappers_opened hnames h hbytes
  have hgap : AllSpace "\n  ".toList := by unfold AllSpace; decide
  have hlast : AllSpace "\n".toList := by unfold AllSpace; decide
  obtain ⟨content, hcontent, hchildren, hlayout⟩ := exists_bare_spaced hgap hlast hbare
  rw [← hbelow] at hcontent
  have hcontentOpened : Opened plural zone parts content := ⟨hlayout, hchildren ▸ hopened⟩
  obtain ⟨hdocument, hwell⟩ := Grammar.wellFormed_iff hname hcontent
  rw [String.ofList_toList] at hdocument
  rw [join_document, String.toList_ofList, List.append_nil, List.singleton_append]
  refine ⟨content, hcontentOpened, ?_, ?_⟩
  · intro may hcharacter hkept
    refine hdocument may fun ch hmem => ?_
    by_cases hch : isCharacter ch = true
    · exact hcharacter ch hch
    · exact hkept ch ((hcontentOpened.mem_characters_iff hbytes hch).mp hmem)
  · rw [hwell]
    refine forall_congr' fun ch => ?_
    by_cases hch : isCharacter ch = true
    · simp [hch]
    · rw [hcontentOpened.mem_characters_iff hbytes hch]

end Document

/-! ## Sources -/

/-- When the lines of all tables were written, the source has answered for each of them. -/
theorem exists_given_of_tablesLines {σ ε : Type} {source : Source (StateM σ) ε}
    {plural : String → String} {zone : Option Int} {ts : List Table} {lines : List String}
    {s s' : σ} (h : (tablesLines source plural zone ts).run s = (⟨lines, none⟩, s')) :
    ∃ given : List (List Row), (ts.mapM fun t => source (request t)).run s = (given.map .ok, s')
      ∧ (∀ part ∈ ts.zip given, (tableLines plural zone part.1 part.2).failure = none)
      ∧ lines = (ts.zip given).flatMap fun part =>
        (tableLines plural zone part.1 part.2).lines := by
  induction ts generalizing lines s with
  | nil =>
      obtain ⟨hlines, hstate⟩ := Prod.mk.inj h
      cases hlines
      exact ⟨[], by rw [← hstate]; rfl, by simp, rfl⟩
  | cons t ts ih =>
      rw [tablesLines] at h
      cases hanswer : (source (request t)).run s with
      | mk answer s₁ =>
          rw [run_bind_of_eq hanswer] at h
          cases answer with
          | error e =>
              obtain ⟨hlines, -⟩ := Prod.mk.inj h
              cases hlines
          | ok rows =>
              dsimp only at h
              cases hfailure : (tableLines plural zone t rows).failure with
              | some e =>
                  rw [hfailure] at h
                  obtain ⟨hlines, -⟩ := Prod.mk.inj h
                  cases hlines
              | none =>
                  rw [hfailure] at h
                  cases hrest : (tablesLines source plural zone ts).run s₁ with
                  | mk rest s₂ =>
                      rw [run_bind_of_eq hrest] at h
                      obtain ⟨hlines, hstate⟩ := Prod.mk.inj h
                      obtain ⟨more, failure⟩ := rest
                      obtain ⟨hlines, hnone⟩ := Written.mk.inj hlines
                      subst hnone hstate
                      obtain ⟨given, hgiven, hall, hmore⟩ := ih hrest
                      refine ⟨rows :: given, ?_, ?_, ?_⟩
                      · rw [List.mapM_cons, run_bind_of_eq hanswer, run_bind_of_eq hgiven]
                        rfl
                      · rw [List.zip_cons_cons]
                        exact List.forall_mem_cons.mpr ⟨hfailure, hall⟩
                      · rw [List.zip_cons_cons, List.flatMap_cons, ← hmore]
                        exact hlines.symm

/-- The names of a database are names of the grammar. -/
structure DatabaseNamed (plural : String → String) (db : Database) : Prop where
  database : Grammar.isName db.name.toList = true
  tables : ∀ t ∈ db.tables, TableNamed plural t

/--
**Every backup is a document.**

When a backup was written to its end, the source has answered for every table. Whatever it has
answered with, the lines are then a document whose elements are those that were opened, provided
that bytes which are written as they are may stand as text. Only references can be wrong with it:
it is well formed exactly when no character was kept that a document may not hold.
-/
theorem backup_documented {σ ε : Type} {source : Source (StateM σ) ε} {plural : String → String}
    {zone : Option Int} {db : Database} {lines : List String} {s s' : σ}
    (hnames : DatabaseNamed plural db)
    (h : (documentLines source plural zone db).run s = (⟨lines, none⟩, s')) :
    ∃ given : List (List Row),
      (db.tables.mapM fun t => source (request t)).run s = (given.map .ok, s')
      ∧ ((∀ part ∈ db.tables.zip given, ∀ row ∈ part.2, BytesFit part.1 row) →
          ∃ content, Documented plural zone db.name (db.tables.zip given) content
            (Text.join "\n" lines).toList) := by
  rw [documentLines] at h
  cases hbody : (tablesLines source plural zone db.tables).run s with
  | mk body s₁ =>
      rw [run_bind_of_eq hbody] at h
      obtain ⟨hwritten, hstate⟩ := Prod.mk.inj h
      obtain ⟨hlines, hnone⟩ := Written.mk.inj hwritten
      obtain ⟨more, failure⟩ := body
      subst hnone hstate
      obtain ⟨given, hgiven, hall, hmore⟩ := exists_given_of_tablesLines hbody
      refine ⟨given, hgiven, fun hbytes => ?_⟩
      have hpart : ∀ part ∈ db.tables.zip given, TableNamed plural part.1 := fun part hpart =>
        hnames.tables part.1 (List.of_mem_zip hpart).1
      obtain ⟨content, hdocumented⟩ := exists_documented hnames.database hpart hall hbytes
      rw [← hmore] at hdocumented
      exact ⟨content, hlines ▸ hdocumented⟩

/-- Of an item on a shelf the name is quoted, and the document is well formed. -/
theorem backup_documented_shelf :
    let row : Row := [⟨"NAME", .text "Tom & <Jerry>"⟩]
    let source : Source (StateM Nat) String := fun _ n => (.ok [row], n + 1)
    ∃ lines, (documentLines source Plural.ofName none .shelf).run 0 = (⟨lines, none⟩, 1)
      ∧ WellFormed (Text.join "\n" lines).toList := by
  intro row source
  have hnames : DatabaseNamed Plural.ofName .shelf := by
    refine ⟨by decide, fun t ht => ?_⟩
    obtain rfl := List.mem_singleton.mp ht
    constructor <;> decide +kernel
  have hrun : ∃ lines, (documentLines source Plural.ofName none .shelf).run 0
      = (⟨lines, none⟩, 1) := ⟨_, rfl⟩
  obtain ⟨lines, hlines⟩ := hrun
  obtain ⟨given, hgiven, hall⟩ := backup_documented hnames hlines
  have hrows : given = [[row]] := by
    have : [[row]].map Except.ok = given.map (Except.ok : _ → Except String (List Row)) :=
      (Prod.mk.inj hgiven).1
    exact (List.map_injective_iff.mpr (fun _ _ h => Except.ok.inj h) this).symm
  subst hrows
  have hfit : ∀ part ∈ Database.shelf.tables.zip [[row]], ∀ r ∈ part.2, BytesFit part.1 r := by
    intro part hpart r hr
    obtain rfl := List.mem_singleton.mp hpart
    obtain rfl := List.mem_singleton.mp hr
    exact bytesFit_of_isBytes (by decide)
  obtain ⟨content, hdocumented⟩ := hall hfit
  refine ⟨lines, hlines, hdocumented.wellFormed_iff.mpr ?_⟩
  rintro ch ⟨part, hpart, r, hr, cell, hcell, c, s, -, hs, hmem, -⟩
  obtain rfl := List.mem_singleton.mp hpart
  obtain rfl := List.mem_singleton.mp hr
  obtain rfl := List.mem_singleton.mp hcell
  have hall : ∀ ch ∈ (Text.trimEnd "Tom & <Jerry>").toList, isCharacter ch = true := by
    decide +kernel
  exact hall ch (eq_of_escapedText? hs ▸ hmem)

/-- A control character that is not left out makes a backup that is no well-formed document. -/
theorem backup_of_control :
    let t : Table := ⟨"t", [⟨"a", "VARCHAR(9)", .text, false, true, false, none⟩]⟩
    let source : Source (StateM Unit) String := fun _ => pure (.ok [[⟨"a", .text "x\u0003y"⟩]])
    let lines := ["<?xml version=\"1.0\"?>", "<d>", "  <ts>", "    <t><a>x&#x3;y</a></t>",
      "  </ts>", "</d>"]
    DatabaseNamed Plural.ofName ⟨"d", [t]⟩
      ∧ (documentLines source Plural.ofName none ⟨"d", [t]⟩).run () = (⟨lines, none⟩, ())
      ∧ ¬ WellFormed (Text.join "\n" lines).toList := by
  intro t source lines
  have htable : TableNamed Plural.ofName t := by
    constructor <;> decide +kernel
  have hnames : DatabaseNamed Plural.ofName ⟨"d", [t]⟩ := by
    refine ⟨by decide, fun u hu => ?_⟩
    obtain rfl := List.mem_singleton.mp hu
    exact htable
  let parts : List (Table × List Row) := [(t, [[⟨"a", .text "x\u0003y"⟩]])]
  have hpart : ∀ part ∈ parts, TableNamed Plural.ofName part.1 := by
    intro part hpart
    obtain rfl := List.mem_singleton.mp hpart
    exact htable
  have hwritten : ∀ part ∈ parts,
      (tableLines Plural.ofName none part.1 part.2).failure = none := by
    decide +kernel
  let document := declaration :: openTag "d" :: (parts.flatMap fun part =>
    (tableLines Plural.ofName none part.1 part.2).lines) ++ [closeTag "d"]
  have hlines : document = lines := by decide +kernel
  have hgiven : ([t].mapM fun t => source (request t)).run ()
      = ([[[⟨"a", .text "x\u0003y"⟩]]].map .ok, ()) := rfl
  have hrun : (documentLines source Plural.ofName none ⟨"d", [t]⟩).run ()
      = (⟨document, none⟩, ()) := documentLines_run (tablesLines_run hgiven hwritten)
  rw [hlines] at hrun
  refine ⟨hnames, hrun, fun hwell => ?_⟩
  have hfit : ∀ part ∈ parts, ∀ row ∈ part.2, BytesFit part.1 row := by
    intro part hpart row hrow
    obtain rfl := List.mem_singleton.mp hpart
    obtain rfl := List.mem_singleton.mp hrow
    exact bytesFit_of_isBytes (by decide)
  obtain ⟨content, hdocumented⟩ := exists_documented hnames.database hpart hwritten hfit
  change Documented _ _ _ _ _ (Text.join "\n" document).toList at hdocumented
  rw [hlines] at hdocumented
  have hkept : KeptOf parts '\u0003' := by
    refine ⟨_, List.mem_singleton.mpr rfl, _, List.mem_singleton.mpr rfl,
      ⟨"a", .text "x\u0003y"⟩, by decide +kernel,
      ⟨"a", "VARCHAR(9)", .text, false, true, false, none⟩, "x\u0003y", by decide +kernel, ?_,
      by decide, by decide⟩
    decide +kernel
  have := hdocumented.wellFormed_iff.mp hwell _ hkept
  revert this
  decide

end Tablekeep.Backup
