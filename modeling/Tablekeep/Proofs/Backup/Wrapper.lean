import Tablekeep.Proofs.Backup.RoundTrip
import Tablekeep.Proofs.Definition.Grammar
import Tablekeep.Proofs.Definition.Plural

/-!
# Whose wrapper an element is

A wrapper bears the plural of its table, and the reader takes an element for the wrapper of
the first table with that plural. Definitions keep names apart but not plurals, so a table
can come after another one whose plural is the same. Then the two wrappers are one and the
same to the reader, the first table owns both, and a row of the second is refused in either
of them.

That is all that can go wrong. A table before which no other has its plural owns its
wrapper, whatever comes later; and when names are in ASCII, the plurals that meet are those
of `Plural.Clash`.
-/

namespace Tablekeep.Backup

open Markup

namespace Reader

variable (r : Reader)

/-! ## The two outcomes -/

/-- The element that bears the plural of the table is read as its wrapper. -/
structure Owns (t : Table) : Prop where
  role : r.topRole (r.plural t.name) = .ok (.wrapper t)
  /-- Whatever stands in it, in whatever document around it, is read as rows of the table. -/
  content : ∀ (outer : List Frame) (es : List Event) (tag text : String) (content : Content),
    Text.Blank text →
    r.run? ⟨⟨tag, .database, text⟩ :: outer, true⟩
        (.start (r.plural t.name) :: (content.events ++ .finish :: es))
      = (r.rowsIn t content).bind fun rows =>
          telling (.table t.name :: rows) (r.run? ⟨⟨tag, .database, ""⟩ :: outer, true⟩ es)
  /-- An element that bears the name of the table is a row of it there. -/
  row : ∀ text, r.roleIn ⟨r.plural t.name, .wrapper t, text⟩ t.name = .ok (.row t [])

/-- The element that bears the plural of `t` is read as a wrapper of `u`, and so the first row of
`t` in it is refused. -/
structure Yields (t u : Table) : Prop where
  role : r.topRole (r.plural t.name) = .ok (.wrapper u)
  refused : ∀ (outer : List Frame) (es : List Event) (tag text gap : String),
    Text.Blank text → Text.Blank gap →
    r.steps ⟨⟨tag, .database, text⟩ :: outer, true⟩
        (.start (r.plural t.name) :: .text gap :: .start t.name :: es)
      = ([.table u.name], .error (.shape (.wrongRow u.name (r.plural t.name) t.name)))

variable {r} {t u : Table}

theorem owns_of_topRole (h : r.topRole (r.plural t.name) = .ok (.wrapper t)) : r.Owns t where
  role := h
  content := by
    intro outer es tag text content htext
    have hrole : r.roleIn ⟨tag, .database, text⟩ (r.plural t.name) = .ok (.wrapper t) := by
      rw [roleIn, h]
      rfl
    rw [r.run?_start htext hrole, run?_wrapper, if_pos Text.blank_empty]
    cases r.rowsIn t content <;> simp [announced]
  row := by
    intro text
    simp [roleIn]

theorem steps_cons {s s' : ReadState} {item : Option ReadItem} {e : Event} (es : List Event)
    (h : r.step s e = .ok (s', item)) :
    r.steps s (e :: es) = (item.toList ++ (r.steps s' es).1, (r.steps s' es).2) := by
  rw [steps, h]

theorem yields_of_topRole (h : r.topRole (r.plural t.name) = .ok (.wrapper u))
    (hne : Text.sameName t.name u.name = false) : r.Yields t u where
  role := h
  refused := by
    intro outer es tag text gap htext hgap
    -- the wrapper begins, its text is blank, and the row is none of the table it is taken for
    have hopen : r.step ⟨⟨tag, .database, text⟩ :: outer, true⟩ (.start (r.plural t.name))
        = .ok (⟨⟨r.plural t.name, .wrapper u, ""⟩ :: ⟨tag, .database, ""⟩ :: outer, true⟩,
            some (.table u.name)) := by
      simp [step, start, Frame.checkText_eq, htext, roleIn, h, Except.mapError, announced]
    have htext' : r.step ⟨⟨r.plural t.name, .wrapper u, ""⟩ :: ⟨tag, .database, ""⟩ :: outer, true⟩
        (.text gap)
        = .ok (⟨⟨r.plural t.name, .wrapper u, gap⟩ :: ⟨tag, .database, ""⟩ :: outer, true⟩,
            none) := by
      simp [step, characters]
    have hrow : r.step ⟨⟨r.plural t.name, .wrapper u, gap⟩ :: ⟨tag, .database, ""⟩ :: outer, true⟩
        (.start t.name) = .error (.shape (.wrongRow u.name (r.plural t.name) t.name)) := by
      simp [step, start, Frame.checkText_eq, hgap, roleIn, hne]
    rw [steps_cons _ hopen, steps_cons _ htext', steps, hrow]
    rfl

/-! ## Which of them it is -/

theorem topRole_plural_append {before after : List Table}
    (ht : r.database.tables = before ++ t :: after) :
    r.topRole (r.plural t.name)
      = .ok (.wrapper ((before.find? fun u =>
          Text.sameName (r.plural u.name) (r.plural t.name)).getD t)) := by
  have hself : ((t :: after).find? fun u => Text.sameName (r.plural u.name) (r.plural t.name))
      = some t := List.find?_cons_of_pos (Text.sameName_self _)
  rw [topRole_eq_wrapper_iff, ht, List.find?_append, hself]
  cases before.find? fun u => Text.sameName (r.plural u.name) (r.plural t.name) <;> rfl

theorem sameName_of_before (h : r.database.Valid) {before after : List Table}
    (ht : r.database.tables = before ++ t :: after) (hu : u ∈ before) :
    Text.sameName t.name u.name = false := by
  have hnames := h.names
  rw [ht, List.pairwise_append] at hnames
  rw [Text.sameName_comm]
  exact hnames.2.2 u hu t (List.mem_cons_self ..)

/-- A table owns its wrapper when no earlier one has its plural, and only then. -/
theorem owns_iff (h : r.database.Valid) {before after : List Table}
    (ht : r.database.tables = before ++ t :: after) :
    r.Owns t ↔ ∀ u ∈ before, Text.sameName (r.plural u.name) (r.plural t.name) = false := by
  have hrole := topRole_plural_append ht
  constructor
  · intro howns u hu
    by_contra hplural
    have hfind : (before.find? fun u =>
        Text.sameName (r.plural u.name) (r.plural t.name)).isSome = true :=
      List.find?_isSome.mpr ⟨u, hu, by simpa using hplural⟩
    obtain ⟨v, hv⟩ := Option.isSome_iff_exists.mp hfind
    rw [howns.role, hv, Option.getD_some, Except.ok.injEq, Role.wrapper.injEq] at hrole
    -- the table would come before itself
    have := sameName_of_before h ht (List.mem_of_find?_eq_some hv)
    rw [← hrole, Text.sameName_self] at this
    cases this
  · intro hno
    have hfind : (before.find? fun u =>
        Text.sameName (r.plural u.name) (r.plural t.name)) = none :=
      List.find?_eq_none.mpr fun u hu => by simp [hno u hu]
    rw [hfind] at hrole
    exact owns_of_topRole hrole

/-- The first of the earlier tables with its plural takes its wrapper. -/
theorem yields_of_find? (h : r.database.Valid) {before after : List Table}
    (ht : r.database.tables = before ++ t :: after)
    (hu : (before.find? fun u => Text.sameName (r.plural u.name) (r.plural t.name)) = some u) :
    r.Yields t u := by
  have hrole := topRole_plural_append ht
  rw [hu] at hrole
  exact yields_of_topRole hrole (sameName_of_before h ht (List.mem_of_find?_eq_some hu))

/-! ## Lines that were written -/

/-- A document can bear the names of the table. -/
structure Named (r : Reader) (t : Table) : Prop where
  table : isName t.name.toList = true
  plural : isName (r.plural t.name).toList = true
  columns : ∀ c ∈ t.selected, isName c.name.toList = true

/-- The lines that are written for the table spell an element that is told as the restored rows,
in whatever document around it. -/
def RestoresWrapper (r : Reader) (t : Table) : Prop :=
  ∀ (zone : Option Int) (rows : List Row), RestorableRows zone r.zone t rows →
    ∃ lines cs content, tableLines r.plural zone t rows = ⟨lines, none⟩
      ∧ below lines = "\n  ".toList ++ cs ∧ SpelledElement cs (r.plural t.name, content)
      ∧ ∀ (outer : List Frame) (es : List Event) (tag text : String), Text.Blank text →
          r.run? ⟨⟨tag, .database, text⟩ :: outer, true⟩
              (.start (r.plural t.name) :: (content.events ++ .finish :: es))
            = telling (.table t.name :: rows.map fun row => .row (restoredRow zone r.zone t row))
                (r.run? ⟨⟨tag, .database, ""⟩ :: outer, true⟩ es)

/-- What stands in a wrapper is read by the table and the zone alone. -/
theorem rowsIn_congr {r' : Reader} (hzone : r.zone = r'.zone) (content : Content) :
    r.rowsIn t content = r'.rowsIn t content := by
  induction content with
  | empty => rfl
  | text s rest ih => rw [rowsIn, rowsIn, ih]
  | element tag inner rest _ ih => rw [rowsIn, rowsIn, ih, rowIn, rowIn, hzone]

theorem restoresWrapper_of_owns (h : r.database.Valid) (ht : t ∈ r.database.tables)
    (hnames : r.Named t) (hzone : (r.zone.getD 0).natAbs < Calendar.dayMicros) (howns : r.Owns t) :
    r.RestoresWrapper t := by
  intro zone rows hrows
  -- other tables do not matter to what is written, so let there be none
  let alone : Reader := ⟨⟨t.name, [t]⟩, r.plural, r.zone⟩
  have hfaithful : Faithful alone := {
    valid := ⟨by simpa [alone] using h.tables t ht, by simp [alone]⟩
    database := hnames.table
    tables := by simpa [alone] using hnames.table
    columns := by simpa [alone] using hnames.columns
    plurals := by simpa [alone] using hnames.plural
    distinct := by simp [alone]
    zone := hzone }
  obtain ⟨lines, cs, content, hlines, hbelow, hspelled, hread⟩ :=
    exists_tableLines hfaithful (List.mem_singleton.mpr rfl) hrows
  refine ⟨lines, cs, content, hlines, hbelow, hspelled, ?_⟩
  intro outer es tag text htext
  have hzones : r.zone = alone.zone := rfl
  rw [howns.content outer es tag text content htext, rowsIn_congr hzones, hread]
  rfl

/-! ## Definitions -/

/--
**Whose wrapper it is.**

In a definition that was read, a table owns its wrapper exactly when no table before it has
the same plural; then what was written into the wrapper is told as rows of the table.
Otherwise the wrapper is the one of the first such table, and the first row in it is an
error. For names in ASCII the tables that may not come before are those that clash.
-/
theorem wrapper_of_ofText {source text : String} {db : Database}
    (h : Database.ofText source text = .ok db) {before after : List Table} {t : Table}
    (ht : db.tables = before ++ t :: after) (zone : Option Int) :
    let r : Reader := ⟨db, Plural.ofName, zone⟩
    let rival (u : Table) := Text.sameName (Plural.ofName u.name) (Plural.ofName t.name)
    (r.Owns t ↔ ∀ u ∈ before, rival u = false)
      ∧ (r.Owns t → r.Named t → (zone.getD 0).natAbs < Calendar.dayMicros → r.RestoresWrapper t)
      ∧ (∀ u, before.find? rival = some u → r.Yields t u)
      ∧ ((∀ u ∈ db.tables, Text.Ascii u.name) →
          (r.Owns t ↔ ∀ u ∈ before, ¬ Plural.Clash (Text.lower u.name) (Text.lower t.name)
            ∧ ¬ Plural.Clash (Text.lower t.name) (Text.lower u.name))) := by
  intro r rival
  obtain ⟨_, -, -, hvalid⟩ := (Database.ofText_eq_ok_iff source text db).mp h
  have howns : r.Owns t ↔ ∀ u ∈ before, rival u = false := owns_iff (r := r) hvalid ht
  refine ⟨howns, ?_, fun u hu => yields_of_find? (r := r) hvalid ht hu, ?_⟩
  · intro how hnames hzone
    exact restoresWrapper_of_owns hvalid (by simp [r, ht]) hnames hzone how
  · intro hascii
    have htascii : Text.Ascii t.name := hascii t (by simp [ht])
    rw [howns]
    refine forall₂_congr fun u hu => ?_
    -- equal names are out of the question, so one plural means a clash
    have hne := sameName_of_before (r := r) hvalid ht hu
    have hplural := Plural.sameName_ofName_iff (hascii u (by simp [ht, hu])) htascii
    rw [Text.sameName_comm u.name, hne] at hplural
    rw [← Bool.not_eq_true, hplural]
    simp

/-- Buses are read as buses beside news. -/
theorem wrapper_of_ofText_bus :
    let bus : Table := ⟨"bus", [⟨"id", "INT", .integer, false, true, false, none⟩]⟩
    let news : Table := ⟨"news", [⟨"id", "INT", .integer, false, true, false, none⟩]⟩
    (⟨⟨"d", [news, bus]⟩, Plural.ofName, none⟩ : Reader).Owns bus := by
  intro bus news
  have h : Database.ofText "-" "DATABASE d\nTABLE news\n id INT\nEND\nTABLE bus\n id INT\nEND\n"
      = .ok ⟨"d", [news, bus]⟩ := by decide +kernel
  have ht : [news, bus] = [news] ++ bus :: [] := rfl
  obtain ⟨howns, -, -, -⟩ := wrapper_of_ofText h ht none
  exact howns.mpr (by decide +kernel)

/-- The news that were written to a document are refused, because the table *new* comes first. -/
theorem wrapper_of_news_yields :
    let new : Table := ⟨"new", [⟨"id", "INT", .integer, false, true, false, none⟩]⟩
    let news : Table := ⟨"news", [⟨"id", "INT", .integer, false, true, false, none⟩]⟩
    let r : Reader := ⟨⟨"d", [new, news]⟩, Plural.ofName, none⟩
    Database.ofText "-" "DATABASE d\nTABLE new\n id INT\nEND\nTABLE news\n id INT\nEND\n"
        = .ok r.database
      ∧ (tableLines Plural.ofName none news [[⟨"id", .int 1⟩]]).lines
        = ["  <news>", "    <news><id>1</id></news>", "  </news>"]
      ∧ r.topRole (Plural.ofName news.name) = .ok (.wrapper new)
      ∧ (r.read (Text.Utf8.encode
          "<d>\n  <news>\n    <news><id>1</id></news>\n  </news>\n</d>")).failure
        = some (.shape (.wrongRow "new" "news" "news")) := by
  decide +kernel

end Reader

end Tablekeep.Backup
