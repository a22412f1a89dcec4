import Tablekeep.Repository.Loading
import Tablekeep.Proofs.Definition.Parser
import Tablekeep.Proofs.Workspace
import Mathlib.Data.List.Induction

/-!
# Which fault is reported

A text with many faults is reported for one of them. It is the first line that is refused when the
lines are fed one after another, and the report holds that line and its number; what comes after it
has no say. Only where no line is refused can the end be at fault, and then it is the last statement
that is named.

The loop over the lines of a text and the calls that someone makes of a draft by hand come to the
same as long as nothing is refused (`feedLines_of_accepted`), so a refused line is met by the loop
in the state in which it is refused by hand. Where the last statement stood does not depend on
refusals at all, which is why `endPlace_of_feeding` is about any lines.
-/

namespace Tablekeep

namespace Draft

variable {d : Draft} {first : Int} {text : String} {e : DefinitionError}

/-! ## Lines as calls -/

/-- The lines as calls, numbered from `first` on. -/
def feeding (first : Int) : List String → List DraftCall
  | [] => []
  | text :: rest => .feed text first :: feeding (first + 1) rest

/-- Numbers go on where they were. -/
theorem number_succ (first : Int) (n : Nat) : first + 1 + n = first + (n + 1 : Nat) := by
  omega

theorem feeding_append (first : Int) (lines rest : List String) :
    feeding first (lines ++ rest) = feeding first lines ++ feeding (first + lines.length) rest := by
  induction lines generalizing first with
  | nil => simp [feeding]
  | cons text lines ih =>
      rw [List.cons_append, feeding, feeding, ih, List.cons_append, List.length_cons, number_succ]

@[simp] theorem isRefusedLine_feed :
    (⟨.feed text first, d.answer (.feed text first)⟩ : Answered _ _).isRefusedLine
      = (d.feed text first).2.isSome := by
  rw [answer]
  cases (d.feed text first).2 <;> rfl

/-- The first of the lines that is refused, with its report: what comes before it is accepted. -/
structure FirstRefused (d : Draft) (first : Int) (lines before : List String) (text : String)
    (e : DefinitionError) : Prop where
  split : ∃ rest, lines = before ++ text :: rest
  accepted : ∀ x ∈ d.answers (feeding first before), x.isRefusedLine = false
  refused : (((feeding first before).foldl after d).feed text (first + before.length)).2 = some e

/-- If any line is refused there is a first one. -/
theorem exists_firstRefused {lines : List String}
    (h : ∃ x ∈ d.answers (feeding first lines), x.isRefusedLine = true) :
    ∃ before text e, d.FirstRefused first lines before text e := by
  induction lines generalizing d first with
  | nil => simp [feeding, answers] at h
  | cons text lines ih =>
      cases hfeed : (d.feed text first).2 with
      | some e =>
          refine ⟨[], text, e, ⟨lines, rfl⟩, by simp [feeding, answers], ?_⟩
          simpa [feeding] using hfeed
      | none =>
          -- the line itself is accepted, so it is one of the others
          simp only [feeding, answers, List.mem_cons, exists_eq_or_imp, isRefusedLine_feed, hfeed,
            Option.isSome_none, Bool.false_eq_true, false_or] at h
          obtain ⟨before, text', e, ⟨rest, rfl⟩, haccepted, hrefused⟩ := ih h
          refine ⟨text :: before, text', e, ⟨rest, rfl⟩, ?_, ?_⟩
          · simpa [feeding, answers, hfeed] using haccepted
          · rw [feeding, List.foldl_cons, List.length_cons, ← number_succ]
            exact hrefused

/-! ## The loop over the lines -/

theorem feedLines_cons_accepted (h : (d.feed text first).2 = none) (rest : List String) :
    d.feedLines first (text :: rest) = (d.feed text first).1.feedLines (first + 1) rest := by
  rw [feedLines]
  cases hresult : d.feed text first with
  | mk d' report =>
      rw [hresult] at h
      obtain rfl : report = none := h
      rfl

theorem feedLines_cons_refused (h : (d.feed text first).2 = some e) (rest : List String) :
    d.feedLines first (text :: rest) = .error e := by
  rw [feedLines]
  cases hresult : d.feed text first with
  | mk d' report =>
      rw [hresult] at h
      obtain rfl : report = some e := h
      rfl

/-- Lines that are accepted are read, and the loop goes on after them. -/
theorem feedLines_of_accepted {before : List String}
    (h : ∀ x ∈ d.answers (feeding first before), x.isRefusedLine = false) (rest : List String) :
    d.feedLines first (before ++ rest)
      = ((feeding first before).foldl after d).feedLines (first + before.length) rest := by
  induction before generalizing d first with
  | nil => simp [feeding]
  | cons text before ih =>
      simp only [feeding, answers, List.forall_mem_cons, isRefusedLine_feed,
        Option.isSome_eq_false_iff, Option.isNone_iff_eq_none] at h
      obtain ⟨hfeed, hbefore⟩ := h
      rw [List.cons_append, feedLines_cons_accepted hfeed, ← after, ih hbefore, feeding,
        List.foldl_cons, List.length_cons, number_succ]

/-- **The first line that is refused ends the loop**, whatever lines follow it. -/
theorem FirstRefused.feedLines {lines before whole : List String}
    (h : d.FirstRefused first lines before text e) (hwhole : before ++ [text] <+: whole) :
    d.feedLines first whole = .error e := by
  obtain ⟨rest, rfl⟩ := hwhole
  rw [List.append_assoc, feedLines_of_accepted h.accepted]
  exact feedLines_cons_refused h.refused rest

/-! ## Places -/

/-- What is reported after a statement is reported at it, whether or not it was refused. -/
theorem place_of_report (d : Draft) (htext : ¬ Text.Blank text) (hfirst : first ≠ 0)
    (fault : DefinitionFault) :
    let e := (d.feed text first).1.report fault
    e.line = some first ∧ e.statement = some (Text.trim text) := by
  have htrim : (Text.trim text).isEmpty = false := by
    rwa [Bool.eq_false_iff, ne_eq, Text.trim_isEmpty_iff]
  rw [feed]
  split
  · rename_i hwords
    exact absurd ((Text.words_eq_nil_iff text).mp hwords) htext
  · dsimp only
    split <;> simp [report, hfirst, htrim]

/-- A line that is refused is a statement, and the refusal is a report at it. -/
theorem eq_report_of_refused (h : (d.feed text first).2 = some e) :
    ¬ Text.Blank text ∧ ∃ fault, e = (d.feed text first).1.report fault := by
  rw [← Text.words_eq_nil_iff]
  rw [feed] at h ⊢
  split at h
  · cases h
  · rename_i w ws hwords
    dsimp only at h ⊢
    cases hstep : d.progress.step (w :: ws) with
    | ok progress =>
        rw [hstep] at h
        cases h
    | error fault =>
        rw [hstep] at h
        rw [hwords]
        exact ⟨List.cons_ne_nil w ws, fault, (Option.some.inj h).symm⟩

/-- Where a fault at the end of the lines is reported: at the last line that is not blank. -/
inductive EndPlace (lines : List String) : Option Int → Option String → Prop
  | nowhere : (∀ t ∈ lines, Text.Blank t) → EndPlace lines none none
  | last {before rest : List String} {text : String} : lines = before ++ text :: rest →
      ¬ Text.Blank text → (∀ t ∈ rest, Text.Blank t) →
      EndPlace lines (some (before.length + 1)) (some (Text.trim text))

/-- A blank line at the end is not the place of anything. -/
theorem EndPlace.concat_blank {lines : List String} {line : Option Int} {statement : Option String}
    (h : EndPlace lines line statement) (htext : Text.Blank text) :
    EndPlace (lines ++ [text]) line statement := by
  cases h with
  | nowhere hlines => exact .nowhere (by simpa [or_imp, forall_and] using ⟨hlines, htext⟩)
  | last hlines hlast hrest =>
      refine .last (by rw [hlines, List.append_assoc, List.cons_append]) hlast ?_
      simpa [or_imp, forall_and] using ⟨hrest, htext⟩

/-- A draft that was fed the lines reports at the last statement, whether or not some of them were
refused. -/
theorem endPlace_of_feeding (source : String) (lines : List String) (fault : DefinitionFault) :
    let e := ((feeding 1 lines).foldl after (.empty source)).report fault
    EndPlace lines e.line e.statement := by
  intro e
  -- lines are added at the end, since the last one decides
  induction lines using List.reverseRecOn with
  | nil => exact .nowhere (by simp)
  | append_singleton lines text ih =>
      dsimp only [e] at ih ⊢
      rw [feeding_append, List.foldl_append, feeding, feeding, List.foldl_cons, List.foldl_nil]
      by_cases hblank : Text.Blank text
      · rw [after, feed, (Text.words_eq_nil_iff text).mpr hblank]
        exact ih.concat_blank hblank
      · have hnumber : 1 + (lines.length : Int) ≠ 0 := by omega
        obtain ⟨hline, hstatement⟩ :=
          place_of_report ((feeding 1 lines).foldl after (.empty source)) hblank hnumber fault
        rw [after, hline, hstatement, Int.add_comm]
        exact .last rfl hblank (by simp)

end Draft

/-! ## What is written of it -/

namespace Repository

variable {ρ ε α β : Type}

/-- What is written of the outcome of a reading: its error, if it has one. -/
def records : Except DefinitionError α → List Entry
  | .ok _ => []
  | .error e => [.record .error e.logText]

/-- The reading comes to the outcome, and all it does besides is to record an error. -/
def Records (w : Work ρ DefinitionError α) (outcome : Except DefinitionError α) : Prop :=
  ∀ s, w.on s = (outcome, { s with journal := s.journal ++ records outcome })

theorem Records.pure (a : α) : Records (Pure.pure a : Work ρ DefinitionError α) (.ok a) := by
  intro s
  simp [Work.on_pure, records]

theorem records_refuse (e : DefinitionError) :
    Records (refuse e : Work ρ DefinitionError α) (.error e) := by
  intro s
  rw [refuse, Work.on_bind_ok (Work.on_log _ _), Work.on_fail]
  rfl

/-- One reading after another: no error is recorded twice. -/
theorem Records.bind {w : Work ρ DefinitionError α} {f : α → Work ρ DefinitionError β}
    {outcome : Except DefinitionError α} {next : α → Except DefinitionError β}
    (hw : Records w outcome) (hf : ∀ a, outcome = .ok a → Records (f a) (next a)) :
    Records (w >>= f) (outcome >>= next) := by
  intro s
  cases outcome with
  | error e => exact Work.on_bind_error (hw s)
  | ok a =>
      rw [Work.on_bind_ok (hw s), hf a rfl]
      simp only [records, List.append_nil]
      rfl

theorem readLines_records (d : Draft) (line : Int) (lines : List String) :
    Records (readLines d line lines : Work ρ DefinitionError Draft) (d.feedLines line lines) := by
  induction lines generalizing d line with
  | nil => exact .pure d
  | cons text rest ih =>
      intro s
      rw [readLines, readLine, Draft.feedLines]
      cases d.feed text line with
      | mk d' report =>
          cases report with
          | none => exact (Work.on_bind_ok (Work.on_pure d')).trans (ih d' (line + 1) s)
          | some e => exact Work.on_bind_error (records_refuse e s)

theorem readEnd_records (d : Draft) :
    Records (readEnd d : Work ρ DefinitionError Database) d.finish := by
  rw [readEnd]
  cases d.finish with
  | ok db => exact .pure db
  | error e => exact records_refuse e

/-- **Reading a text comes to what the text defines**, and one that is no good leaves a record. -/
theorem readDefinition_on (source text : String) (s : Workspace ρ) :
    (readDefinition source text : Work ρ ε _).on s
      = (.ok (Database.ofText source text),
          { s with journal := s.journal ++ records (Database.ofText source text) }) := by
  have hread := (readLines_records (ρ := ρ) (.empty source) 1 (Text.lines text)).bind
    fun d _ => readEnd_records d
  exact Work.on_attempt (hread s)

open Draft

/--
**The first fault of a text is reported, and nothing that follows it matters.**

Let a new draft be fed any lines. If one of them is refused, then the first of these has its number
and its wording in the report, and every text that begins with the lines up to this one comes to the
same report. If none is refused but the end is, then the report names the last line that is not
blank, if there is one, and the text of these lines comes to it. Each reading leaves one record of
its error, and no record if there is none.
-/
theorem first_fault_reported (source : String) (lines : List String) :
    let start := Draft.empty source
    ((∃ x ∈ start.answers (feeding 1 lines), x.isRefusedLine = true) →
        ∃ before text e, start.FirstRefused 1 lines before text e
          ∧ e.line = some ((before.length : Int) + 1) ∧ e.statement = some (Text.trim text)
          ∧ ∀ whole, before ++ [text] <+: Text.lines whole →
            Database.ofText source whole = .error e)
      ∧ ((∀ x ∈ start.answers (feeding 1 lines), x.isRefusedLine = false) →
        ∀ e, ((feeding 1 lines).foldl Draft.after start).finish = .error e →
          EndPlace lines e.line e.statement
            ∧ ∀ whole, Text.lines whole = lines → Database.ofText source whole = .error e)
      ∧ ∀ (whole : String) (s : Workspace ρ),
          (readDefinition source whole : Work ρ ε _).on s
            = (.ok (Database.ofText source whole),
                { s with journal := s.journal ++ records (Database.ofText source whole) }) := by
  intro start
  refine ⟨fun hrefused => ?_, fun haccepted e hfinish => ?_, readDefinition_on source⟩
  · obtain ⟨before, text, e, hfirst⟩ := exists_firstRefused hrefused
    obtain ⟨htext, fault, he⟩ := eq_report_of_refused hfirst.refused
    have hnumber : 1 + (before.length : Int) ≠ 0 := by omega
    have hplace := place_of_report ((feeding 1 before).foldl Draft.after start) htext hnumber fault
    rw [← he, Int.add_comm] at hplace
    refine ⟨before, text, e, hfirst, hplace.1, hplace.2, fun whole hwhole => ?_⟩
    rw [Database.ofText, hfirst.feedLines hwhole]
    rfl
  · refine ⟨?_, fun whole hwhole => ?_⟩
    · rw [finish] at hfinish
      split at hfinish
      · cases hfinish
      · obtain rfl := Except.error.inj hfinish
        exact endPlace_of_feeding source lines _
    · have hall := feedLines_of_accepted haccepted []
      rw [List.append_nil, feedLines] at hall
      rw [Database.ofText, hwhole, hall]
      exact hfinish

/-- A text that goes wrong at its second line, and one that ends too early. -/
theorem first_fault_reported_shop :
    let misspelled := ["", "  DATABAS shop "]
    let unfinished := ["DATABASE shop", "TABLE customer", ""]
    let start := Draft.empty "shop.def"
    (∃ x ∈ start.answers (feeding 1 misspelled), x.isRefusedLine = true)
      ∧ (∀ whole, misspelled <+: Text.lines whole → Database.ofText "shop.def" whole
        = .error ⟨.databaseExpected, "shop.def", some 2, some "DATABAS shop"⟩)
      ∧ (∀ x ∈ start.answers (feeding 1 unfinished), x.isRefusedLine = false)
      ∧ ∀ whole, Text.lines whole = unfinished → Database.ofText "shop.def" whole
        = .error ⟨.noEnd "customer", "shop.def", some 2, some "TABLE customer"⟩ := by
  intro misspelled unfinished start
  have hrefused : ∃ x ∈ start.answers (feeding 1 misspelled), x.isRefusedLine = true := by decide
  have haccepted : ∀ x ∈ start.answers (feeding 1 unfinished), x.isRefusedLine = false := by decide
  have hend : ((feeding 1 unfinished).foldl Draft.after start).finish
      = .error ⟨.noEnd "customer", "shop.def", some 2, some "TABLE customer"⟩ := by decide
  obtain ⟨before, text, e, ⟨⟨rest, hsplit⟩, -, hreport⟩, -, -, hfirst⟩ :=
    (@first_fault_reported Unit Empty "shop.def" misspelled).1 hrefused
  have hlast := (@first_fault_reported Unit Empty "shop.def" unfinished).2.1 haccepted _ hend
  refine ⟨hrefused, fun whole hwhole => ?_, haccepted, hlast.2⟩
  -- the blank line is accepted, and there are no more than two
  match before with
  | [] =>
      obtain ⟨rfl, -⟩ := List.cons.inj hsplit
      have hblank : (start.feed "" 1).2 = none := by decide
      cases hblank.symm.trans hreport
  | [_] =>
      obtain ⟨rfl, hsecond⟩ := List.cons.inj hsplit
      obtain ⟨rfl, -⟩ := List.cons.inj hsecond
      have hreported : ((start.after (.feed "" 1)).feed "  DATABAS shop " 2).2
          = some ⟨.databaseExpected, "shop.def", some 2, some "DATABAS shop"⟩ := by decide
      obtain rfl := Option.some.inj (hreported.symm.trans hreport)
      exact hfirst whole hwhole
  | _ :: _ :: more =>
      have hlength := congrArg List.length hsplit
      simp [misspelled] at hlength

end Repository

end Tablekeep
