import Tablekeep.Proofs.Definition.Parser

/-!
# Lines that are refused

A line can be refused for many reasons, and whoever feeds it may go on all the same. This file
says that a refused line might as well not have been there: of all that was read nothing changes
but the place that reports name, and so the calls after it come to what they would have come to
without it.

All of it is about parsers, whose handlers set one field after another and leave what they have set
when they fail, and about any parser, not only about those that calls lead to. What keeps the fields
is the order in which a handler goes: it `Checks` first, which sets nothing and may fail, and then
sets what there is to set, which is `Total`. Checks and what is total are `Careful`, and so is a
check with something careful after it; each handler is taken apart along these lines.

Whether a line is accepted depends on what has been read, and not on where the last statement stood.
So two parsers with the same reading (`SameReading`) take the same calls in the same way, and
`accepted`, the calls that are left when the refused lines are taken out, can be made of the same
parser without any of them being refused.
-/

namespace Tablekeep.Parser

/-! ## Handlers that fail early -/

section Handlers

variable {α β : Type} {x : Handler α} {k : α → Handler β}

/-- No field is set, whatever comes of it. -/
def Checks (x : Handler α) : Prop :=
  ∀ p, left (x.run p) = p

/-- It does not fail. -/
def Total (x : Handler α) : Prop :=
  ∀ p e p', x.run p ≠ .error e p'

/-- If it fails, no field is set. -/
def Careful (x : Handler α) : Prop :=
  ∀ p e p', x.run p = .error e p' → p' = p

theorem Checks.careful (h : Checks x) : Careful x := by
  intro p e p' hrun
  rw [← h p, hrun]
  rfl

theorem Total.careful (h : Total x) : Careful x :=
  fun p e p' hrun => absurd hrun (h p e p')

theorem Checks.bind (hx : Checks x) (hk : ∀ a, Checks (k a)) : Checks (x >>= k) := by
  intro p
  have hleft := hx p
  rw [run_bind]
  cases hrun : x.run p with
  | ok a p' =>
      rw [hrun] at hleft
      obtain rfl : p' = p := hleft
      exact hk a p'
  | error e p' =>
      rw [hrun] at hleft
      exact hleft

theorem Total.bind (hx : Total x) (hk : ∀ a, Total (k a)) : Total (x >>= k) := by
  intro p e p' hrun
  rw [run_bind] at hrun
  cases hfirst : x.run p with
  | ok a p₁ =>
      rw [hfirst] at hrun
      exact hk a p₁ e p' hrun
  | error e₁ p₁ => exact hx p e₁ p₁ hfirst

/-- What follows a check meets the fields as they were. -/
theorem Checks.bind_careful (hx : Checks x) (hk : ∀ a, Careful (k a)) : Careful (x >>= k) := by
  intro p e p' hrun
  have hleft := hx p
  rw [run_bind] at hrun
  cases hfirst : x.run p with
  | ok a p₁ =>
      rw [hfirst] at hrun hleft
      obtain rfl : p₁ = p := hleft
      exact hk a p₁ e p' hrun
  | error e₁ p₁ =>
      rw [hfirst] at hrun hleft
      cases hrun
      exact hleft

theorem checks_pure (a : α) : Checks (pure a) := fun _ => rfl

theorem checks_get : Checks get := fun _ => rfl

theorem checks_throw (stop : Stop) : Checks (throw stop : Handler α) := fun _ => rfl

theorem checks_fail (fault : DefinitionFault) : Checks (fail fault : Handler α) := fun _ => rfl

theorem checks_failIf (b : Bool) (fault : DefinitionFault) : Checks (failIf b fault) := by
  cases b with
  | true => exact checks_fail fault
  | false => exact checks_pure ()

theorem total_modify (f : Parser → Parser) : Total (modify f) := by
  intro p e p' hrun
  cases hrun

end Handlers

/-! ## Each handler -/

theorem checks_readFlags (f : Flags) (ws : List String) : Checks (readFlags f ws) := by
  fun_induction readFlags f ws with
  | case1 => exact checks_pure _
  | case2 _ _ _ _ ih | case3 _ _ _ _ ih | case4 _ _ _ _ ih => exact ih
  | case6 _ _ _ _ _ _ ih => exact ih
  | case9 _ _ _ _ _ ih => exact ih
  | case5 | case7 | case8 | case10 => exact checks_fail _

theorem checks_parseColumn (name declared : String) (rest : List String) :
    Checks (parseColumn name declared rest) := by
  refine (checks_readFlags _ rest).bind fun f => ?_
  refine (checks_failIf _ _).bind fun _ => ?_
  refine (checks_failIf _ _).bind fun _ => ?_
  refine (checks_failIf _ _).bind fun _ => ?_
  exact (checks_failIf _ _).bind fun _ => checks_pure _

theorem checks_hasTable (name : String) (tables : List LooseTable) :
    Checks (hasTable name tables) := by
  induction tables with
  | nil => exact checks_pure false
  | cons t ts ih =>
      rw [hasTable]
      cases t.name with
      | none => exact checks_throw .nameless
      | some n =>
          dsimp only
          cases Text.sameName n name with
          | true => exact checks_pure true
          | false => exact ih

theorem checks_finish : Checks finish := by
  refine checks_get.bind fun p => ?_
  refine (checks_failIf _ _).bind fun _ => ?_
  exact (checks_failIf _ _).bind fun _ => checks_pure _

theorem careful_parseDatabase (w : String) (ws : List String) : Careful (parseDatabase w ws) := by
  refine (checks_failIf _ _).bind_careful fun _ => ?_
  match ws with
  | [] => exact (checks_fail _).careful
  | [name] => exact ((total_modify _).bind fun _ => total_modify _).careful
  | _ :: _ :: _ => exact (checks_fail _).careful

theorem careful_parseTable (w : String) (ws : List String) : Careful (parseTable w ws) := by
  refine (checks_failIf _ _).bind_careful fun _ => ?_
  match ws with
  | [] => exact (checks_fail _).careful
  | [name] =>
      refine checks_get.bind_careful fun p => ?_
      refine (checks_hasTable name p.tables).bind_careful fun taken => ?_
      refine (checks_failIf _ _).bind_careful fun _ => ?_
      exact ((total_modify _).bind fun _ => (total_modify _).bind fun _ => total_modify _).careful
  | _ :: _ :: _ => exact (checks_fail _).careful

theorem careful_closeTable : Careful closeTable := by
  refine checks_get.bind_careful fun p => ?_
  refine (checks_failIf _ _).bind_careful fun _ => ?_
  exact ((total_modify _).bind fun _ => (total_modify _).bind fun _ =>
    (total_modify _).bind fun _ => total_modify _).careful

theorem careful_addColumn (c : Column) : Careful (addColumn c) := by
  refine checks_get.bind_careful fun p => ?_
  refine (checks_failIf _ _).bind_careful fun _ => ?_
  exact (checks_failIf _ _).bind_careful fun _ => (total_modify _).careful

theorem careful_parseTableBody (w : String) (ws : List String) :
    Careful (parseTableBody w ws) := by
  cases ws with
  | nil => exact (checks_failIf _ _).bind_careful fun _ => careful_closeTable
  | cons declared rest => exact (checks_parseColumn w declared rest).bind_careful careful_addColumn

theorem careful_parseStatement (phase : Phase) (w : String) (ws : List String) :
    Careful (parseStatement phase w ws) := by
  cases phase with
  | database => exact careful_parseDatabase w ws
  | tableOrEnd => exact careful_parseTable w ws
  | inTable => exact careful_parseTableBody w ws

/-! ## Calls that fail -/

variable {p q r : Parser}

/-- A statement is remembered before it is looked at. -/
theorem feed_run {text w : String} {ws : List String} (h : Text.words text = w :: ws)
    (line : Int) (p : Parser) :
    (feed text line).run p
      = (parseStatement p.phase w ws).run { p with line := line, statement := Text.trim text } := by
  rw [feed, h]
  rfl

theorem feed_run_blank {text : String} (h : Text.words text = []) (line : Int) (p : Parser) :
    (feed text line).run p = .ok () p := by
  rw [feed, h]
  rfl

theorem after_feed (text : String) (line : Int) (p : Parser) :
    p.after (.feed text line) = left ((feed text line).run p) := by
  rw [after, call, run_bind]
  cases (feed text line).run p <;> rfl

theorem answer_feed (text : String) (line : Int) (p : Parser) :
    p.answer (.feed text line) = (outcome ((feed text line).run p)).map fun _ => none := by
  rw [answer, call, run_bind]
  cases (feed text line).run p <;> rfl

/-- To ask for the end sets nothing. -/
theorem after_finish (p : Parser) : p.after .finish = p := by
  have hleft := checks_finish p
  rw [after, call, run_bind]
  cases hrun : finish.run p with
  | ok db p' =>
      rw [hrun] at hleft
      exact hleft
  | error e p' =>
      rw [hrun] at hleft
      exact hleft

/-- **A call that fails changes nothing** but the place of the last statement. -/
theorem after_of_error {c : DraftCall} {e : Stop} (h : p.answer c = .error e) :
    ∃ line statement, p.after c = { p with line := line, statement := statement } := by
  cases c with
  | finish => exact ⟨p.line, p.statement, after_finish p⟩
  | feed text line =>
      rw [answer_feed, Outcome.map_eq_error_iff] at h
      rw [after_feed]
      cases hwords : Text.words text with
      | nil =>
          rw [feed_run_blank hwords] at h
          cases h
      | cons w ws =>
          rw [feed_run hwords] at h ⊢
          refine ⟨line, Text.trim text, ?_⟩
          cases hrun : (parseStatement p.phase w ws).run
              { p with line := line, statement := Text.trim text } with
          | ok a p' =>
              rw [hrun] at h
              cases h
          | error e' p' => exact careful_parseStatement p.phase w ws _ e' p' hrun

/-! ## What does not depend on places -/

/-- The same has been read. Only the places of the last statements may differ. -/
structure SameReading (p q : Parser) : Prop where
  source : p.source = q.source
  phase : p.phase = q.phase
  database : p.database = q.database
  tables : p.tables = q.tables
  table : p.table = q.table
  columns : p.columns = q.columns

theorem SameReading.refl (p : Parser) : SameReading p p := ⟨rfl, rfl, rfl, rfl, rfl, rfl⟩

theorem SameReading.trans (h : SameReading p q) (h' : SameReading q r) : SameReading p r :=
  ⟨h.source.trans h'.source, h.phase.trans h'.phase, h.database.trans h'.database,
    h.tables.trans h'.tables, h.table.trans h'.table, h.columns.trans h'.columns⟩

theorem SameReading.symm (h : SameReading p q) : SameReading q p :=
  ⟨h.source.symm, h.phase.symm, h.database.symm, h.tables.symm, h.table.symm, h.columns.symm⟩

theorem sameReading_place (p : Parser) (line : Int) (statement : String) :
    SameReading { p with line := line, statement := statement } p :=
  ⟨rfl, rfl, rfl, rfl, rfl, rfl⟩

/-- At one place, parsers with the same reading are the same. -/
theorem SameReading.eq_at (h : SameReading p q) (line : Int) (statement : String) :
    { p with line := line, statement := statement }
      = { q with line := line, statement := statement } := by
  obtain ⟨source, phase, database, tables, table, columns, _, _⟩ := p
  obtain ⟨source', phase', database', tables', table', columns', _, _⟩ := q
  obtain ⟨rfl, rfl, rfl, rfl, rfl, rfl⟩ := h
  rfl

/-- What is wrong, wherever it is. -/
def Stop.cause : Stop → Option (DefinitionFault × String)
  | .refused e => some (e.fault, e.source)
  | .nameless => none

/-- The call and what it came to, but for the place in a report. -/
def outcomeOf (x : Answered Stop LooseDatabase) :
    DraftCall × Except (Option (DefinitionFault × String)) (Option LooseDatabase) :=
  (x.call, x.answer.mapError Stop.cause)

/-- A line that is a statement is remembered, so what it comes to is the same even in its place. -/
theorem SameReading.feed (h : SameReading p q) (text : String) (line : Int) :
    SameReading (p.after (.feed text line)) (q.after (.feed text line))
      ∧ p.answer (.feed text line) = q.answer (.feed text line) := by
  rw [after_feed, after_feed, answer_feed, answer_feed]
  cases hwords : Text.words text with
  | nil =>
      rw [feed_run_blank hwords, feed_run_blank hwords]
      exact ⟨h, rfl⟩
  | cons w ws =>
      rw [feed_run hwords, feed_run hwords, h.eq_at, h.phase]
      exact ⟨.refl _, rfl⟩

theorem SameReading.after (h : SameReading p q) (c : DraftCall) :
    SameReading (p.after c) (q.after c) := by
  cases c with
  | feed text line => exact (h.feed text line).1
  | finish =>
      rw [after_finish, after_finish]
      exact h

/-- What is missing at the end is the same, though it may be reported elsewhere. -/
theorem SameReading.finish (h : SameReading p q) :
    (p.answer .finish).mapError Stop.cause = (q.answer .finish).mapError Stop.cause := by
  obtain ⟨source, phase, database, tables, table, columns, _, _⟩ := p
  obtain ⟨source', phase', database', tables', table', columns', _, _⟩ := q
  obtain ⟨rfl, rfl, rfl, rfl, rfl, rfl⟩ := h
  cases phase <;> rfl

theorem SameReading.answer (h : SameReading p q) (c : DraftCall) :
    outcomeOf ⟨c, p.answer c⟩ = outcomeOf ⟨c, q.answer c⟩
      ∧ (⟨c, p.answer c⟩ : Answered Stop LooseDatabase).isRefusedLine
        = (⟨c, q.answer c⟩ : Answered Stop LooseDatabase).isRefusedLine := by
  cases c with
  | feed text line =>
      rw [(h.feed text line).2]
      exact ⟨rfl, rfl⟩
  | finish =>
      refine ⟨?_, rfl⟩
      rw [outcomeOf, outcomeOf, h.finish]

/-! ## Runs -/

/-- The calls without the lines that are refused when their turn comes. -/
def accepted (p : Parser) (calls : List DraftCall) : List DraftCall :=
  ((p.answers calls).filter fun x => !x.isRefusedLine).map (·.call)

theorem accepted_cons (c : DraftCall) (calls : List DraftCall) :
    p.accepted (c :: calls)
      = if (⟨c, p.answer c⟩ : Answered Stop LooseDatabase).isRefusedLine then
          (p.after c).accepted calls
        else c :: (p.after c).accepted calls := by
  unfold accepted
  rw [answers, List.filter_cons]
  cases (⟨c, p.answer c⟩ : Answered Stop LooseDatabase).isRefusedLine <;> rfl

theorem sameReading_of_isRefusedLine {c : DraftCall}
    (h : (⟨c, p.answer c⟩ : Answered Stop LooseDatabase).isRefusedLine = true) :
    SameReading (p.after c) p := by
  cases hanswer : p.answer c with
  | error e =>
      obtain ⟨line, statement, hafter⟩ := after_of_error hanswer
      rw [hafter]
      exact sameReading_place p line statement
  | ok db =>
      -- a call that comes to something is no refused line
      rw [hanswer] at h
      cases c <;> cases h

/-- The accepted calls lead any parser with the same reading to the same reading, and on the way
they come to the same. -/
theorem SameReading.accepted (h : SameReading q p) (calls : List DraftCall) :
    SameReading ((p.accepted calls).foldl Parser.after q) (calls.foldl Parser.after p)
      ∧ (q.answers (p.accepted calls)).map outcomeOf
        = ((p.answers calls).filter fun x => !x.isRefusedLine).map outcomeOf
      ∧ ∀ x ∈ q.answers (p.accepted calls), x.isRefusedLine = false := by
  induction calls generalizing p q with
  | nil => exact ⟨h, rfl, by simp [Parser.accepted, answers]⟩
  | cons c calls ih =>
      rw [accepted_cons, List.foldl_cons, answers, List.filter_cons]
      obtain ⟨houtcome, hrefused⟩ := h.answer c
      cases hline : (⟨c, p.answer c⟩ : Answered Stop LooseDatabase).isRefusedLine with
      | true =>
          -- the line is not among the accepted calls, and the fields stay as they are
          exact ih (h.trans (sameReading_of_isRefusedLine hline).symm)
      | false =>
          obtain ⟨hreading, houtcomes, hnone⟩ := ih (h.after c)
          refine ⟨hreading, ?_, List.forall_mem_cons.mpr ⟨hrefused.trans hline, hnone⟩⟩
          exact congrArg₂ List.cons houtcome houtcomes

/--
**Refused lines might as well not have been fed.**

A call that fails leaves every field of a parser as it was but for the place of the last statement,
and to ask for the end never changes anything. So after any calls a parser has the reading that it
has after the accepted ones alone. None of these is refused then, each of them comes to the same as
before, and so does asking for the end at last. Where the parser is fresh, it shows the draft that
the calls lead to.
-/
theorem run_accepted (p : Parser) (calls : List DraftCall) :
    (∀ (p : Parser) (c : DraftCall) (e : Stop), p.answer c = .error e →
        ∃ line statement, p.after c = { p with line := line, statement := statement })
      ∧ (∀ p : Parser, p.after .finish = p)
      ∧ SameReading ((p.accepted calls).foldl after p) (calls.foldl after p)
      ∧ (∀ x ∈ p.answers (p.accepted calls), x.isRefusedLine = false)
      ∧ (p.answers (p.accepted calls)).map outcomeOf
        = ((p.answers calls).filter fun x => !x.isRefusedLine).map outcomeOf
      ∧ (((p.accepted calls).foldl after p).answer .finish).mapError Stop.cause
        = ((calls.foldl after p).answer .finish).mapError Stop.cause
      ∧ ∀ source : String, calls.foldl after (.fresh source)
        = ofDraft (calls.foldl Draft.after (.empty source)) := by
  obtain ⟨hreading, houtcomes, hnone⟩ := (SameReading.refl p).accepted calls
  exact ⟨fun p c e h => after_of_error h, after_finish, hreading, hnone, houtcomes,
    hreading.finish, fun source => foldl_after_fresh source calls⟩

end Tablekeep.Parser
