import Mathlib.Data.List.Forall2
import Tablekeep.Proofs.Workspace
import Tablekeep.Server.Network

/-!
# What passes between a program and its servers

An `Exchange` is a statement together with what came of it, and a `Conversation` leads from one
state of the network to another by exchanges, one after another, with nothing else that a server
hears of in between. So what is shown of the exchanges of a run is shown of everything that was sent
in it, and it may speak of the answers, which the trace of the network does not keep.

`Work.Does` is work with the conversation that it holds, and there is one lemma for each way in
which work is put together. `Work.Sends` is what is left of it where the order of the exchanges is
of no matter: every exchange is of one kind, and if the work succeeds every statement was answered.
-/

namespace Tablekeep.Server

/-! ## Exchanges -/

/-- A statement, and what came of it. -/
inductive Exchange where
  | databases (answer : Except ServerError (List Value))
  | tables (answer : Except ServerError (List Value))
  | probe (answer : Except ServerError Unit)
  | select (request : RowRequest) (answer : Except ServerError (List Row))
  | run (text : String) (answer : Except ServerError Unit)

namespace Exchange

/-- The exchange of a statement and what came of it. -/
def of {α : Type} : Statement α → Except ServerError α → Exchange
  | .databases, answer => databases answer
  | .tables, answer => tables answer
  | .probe, answer => probe answer
  | .select request, answer => select request answer
  | .run text, answer => run text answer

/-- The text of the statement. -/
def text (d : Dialect) : Exchange → String
  | databases _ => Statement.databases.text d
  | tables _ => Statement.tables.text d
  | probe _ => Statement.probe.text d
  | select request _ => (Statement.select request).text d
  | run text _ => (Statement.run text).text d

/-- Why the statement was not answered, if it was not. -/
def error? : Exchange → Option ServerError
  | databases (.error e) | tables (.error e) | probe (.error e) | select _ (.error e)
  | run _ (.error e) => some e
  | _ => none

/-- The server answered the statement. -/
def Answered (x : Exchange) : Prop :=
  x.error? = none

theorem text_of {α : Type} (d : Dialect) (st : Statement α) (answer : Except ServerError α) :
    (of st answer).text d = st.text d := by
  cases st <;> rfl

theorem error?_of_error {α : Type} (st : Statement α) (e : ServerError) :
    (of st (.error e)).error? = some e := by
  cases st <;> rfl

theorem answered_of_ok {α : Type} (st : Statement α) (a : α) : (of st (.ok a)).Answered := by
  cases st <;> rfl

/-- A statement that a server does not accept was sent all the same. -/
theorem error?_of_mapError {α : Type} (st : Statement α) (answer : Except String α)
    (text : String) : (of st (answer.mapError .rejected)).error? ≠ some (.refused text) := by
  cases answer with
  | ok a =>
      have hanswered : (of st (.ok a)).error? = none := answered_of_ok st a
      intro h
      cases hanswered.symm.trans h
  | error e =>
      have hrejected := error?_of_error st (.rejected e)
      intro h
      cases hrejected.symm.trans h

end Exchange

/-! ## Conversations -/

/-- An event that is no statement: a connection is opened or closed, or a client waits. -/
def Event.isNote : Event → Bool
  | opened .. | closed .. | waited .. => true
  | refused .. | sent .. => false

variable {σ : Type} [Server σ]

/-- The exchanges lead from one state of the network to another. -/
inductive Conversation (d : Dialect) (n : Network σ) : List Exchange → Network σ → Prop
  | silence : Conversation d n [] n
  | noted {xs : List Exchange} {n' : Network σ} (opened : Nat) {e : Event} : e.isNote = true →
      Conversation d n xs n' → Conversation d n xs ⟨n'.server, opened, n'.trace ++ [e]⟩
  | exchanged {xs : List Exchange} {n' : Network σ} {α : Type} (c : Connection)
      (st : Statement α) : c.dialect = d → Conversation d n xs n' →
      Conversation d n (xs ++ [.of st ((c.send st).run n').1]) ((c.send st).run n').2

variable {d : Dialect} {n n' n'' : Network σ} {xs ys : List Exchange}

theorem Conversation.trans (h : Conversation d n xs n') (h' : Conversation d n' ys n'') :
    Conversation d n (xs ++ ys) n'' := by
  induction h' with
  | silence =>
      rw [List.append_nil]
      exact h
  | noted opened hnote _ ih => exact .noted opened hnote ih
  | exchanged c st hd _ ih =>
      rw [← List.append_assoc]
      exact .exchanged c st hd ih

/-- A statement that is sent. -/
theorem Conversation.send {α : Type} (c : Connection) (st : Statement α) (n : Network σ) :
    Conversation c.dialect n [.of st ((c.send st).run n).1] ((c.send st).run n).2 :=
  .exchanged c st rfl .silence

/-- A connection that is opened, of which no server hears. -/
theorem Conversation.connect (url : String) (n : Network σ) :
    Conversation d n [] ((Connection.connect url d).run n).2 :=
  @Conversation.noted σ _ d n [] n (n.opened + 1) (.opened n.opened url) rfl .silence

/-- A connection that is closed. -/
theorem Conversation.close (c : Connection) (n : Network σ) :
    Conversation d n [] (c.close.run n).2 :=
  @Conversation.noted σ _ d n [] n n.opened (.closed c.number c.url) rfl .silence

/-- A wait. -/
theorem Conversation.wait (seconds : Rat) (n : Network σ) :
    Conversation d n [] ((record (.waited seconds)).run n).2 :=
  @Conversation.noted σ _ d n [] n n.opened (.waited seconds) rfl .silence

/-- What an exchange leaves in the trace: the statement was sent with its text, or the client was
not admitted. -/
inductive Leaves (d : Dialect) (x : Exchange) : Event → Prop
  | sent (connection : Nat) (url : String) (channel : Channel) :
      (∀ text, x.error? ≠ some (.refused text)) →
      Leaves d x (.sent connection url channel (x.text d))
  | refused (connection : Nat) (url : String) {text : String} :
      x.error? = some (.refused text) → Leaves d x (.refused connection url text)

/-- What sending does once it is known whether the client is admitted. -/
theorem send_run {α : Type} (c : Connection) (st : Statement α) (n : Network σ) :
    (c.send st).run n
      = match Server.accept n.server c.url with
        | (some text, server) =>
          (.error (.refused text), ⟨server, n.opened, n.trace ++ [.refused c.number c.url text]⟩)
        | (none, server) =>
          let (answer, server) := Server.answer server c.url (st.text c.dialect) st
          (answer.mapError .rejected, ⟨server, n.opened,
            n.trace ++ [.sent c.number c.url (st.channel c.dialect) (st.text c.dialect)]⟩) := by
  rw [Connection.send, StateT.run_bind, StateT.run_get, pure_bind]
  dsimp only
  rcases Server.accept n.server c.url with ⟨_ | text, server⟩
  · rfl
  · rfl

theorem send_leaves {α : Type} (c : Connection) (st : Statement α) (n : Network σ) :
    ∃ e, e.isNote = false ∧ ((c.send st).run n).2.trace = n.trace ++ [e]
      ∧ Leaves c.dialect (.of st ((c.send st).run n).1) e := by
  rw [send_run]
  -- a statement that is rejected was sent all the same; without admission none is
  rcases Server.accept n.server c.url with ⟨_ | text, server⟩
  · refine ⟨_, rfl, rfl, ?_⟩
    dsimp only
    rcases Server.answer server c.url (st.text c.dialect) st with ⟨answer, server'⟩
    rw [← Exchange.text_of c.dialect st (answer.mapError .rejected)]
    exact .sent _ _ _ (Exchange.error?_of_mapError st answer)
  · exact ⟨_, rfl, rfl, .refused _ _ (Exchange.error?_of_error st _)⟩

/-- **The trace has the exchanges.** In what a conversation adds to the trace, the events that are
statements are those of the exchanges, in order. -/
theorem Conversation.trace (h : Conversation d n xs n') :
    ∃ events, n'.trace = n.trace ++ events
      ∧ List.Forall₂ (Leaves d) xs (events.filter fun e => !e.isNote) := by
  induction h with
  | silence => exact ⟨[], by rw [List.append_nil], .nil⟩
  | @noted xs n' opened e hnote _ ih =>
      obtain ⟨events, htrace, hleaves⟩ := ih
      refine ⟨events ++ [e], by rw [htrace, List.append_assoc], ?_⟩
      rw [List.filter_append]
      simpa [hnote] using hleaves
  | @exchanged xs n' α c st hd _ ih =>
      obtain ⟨events, htrace, hleaves⟩ := ih
      obtain ⟨e, hnote, hsent, hleft⟩ := send_leaves c st n'
      refine ⟨events ++ [e], by rw [hsent, htrace, List.append_assoc], ?_⟩
      rw [List.filter_append]
      have hlast : [e].filter (fun e => !e.isNote) = [e] := by simp [hnote]
      rw [hlast]
      exact List.rel_append hleaves (.cons (hd ▸ hleft) .nil)

/-! ## Asking -/

/-- Whatever the state of the network, asking holds a conversation with exchanges of one kind, and
the result is good only if all were answered. -/
def Talks {α : Type} (d : Dialect) (Q : Exchange → Prop) (good : α → Prop)
    (w : StateM (Network σ) α) : Prop :=
  ∀ n, ∃ xs, Conversation d n xs (w.run n).2 ∧ (∀ x ∈ xs, Q x)
    ∧ (good (w.run n).1 → ∀ x ∈ xs, x.Answered)

/-- A result that is no error. -/
def IsOk {ε α : Type} (outcome : Except ε α) : Prop :=
  ∃ a, outcome = .ok a

theorem isOk_map_iff {ε α β : Type} {f : α → β} {x : Except ε α} : IsOk (x.map f) ↔ IsOk x := by
  cases x with
  | ok a => exact ⟨fun _ => ⟨a, rfl⟩, fun _ => ⟨f a, rfl⟩⟩
  | error e =>
      constructor
      · rintro ⟨b, h⟩
        cases h
      · rintro ⟨a, h⟩
        cases h

theorem isOk_mapError_iff {ε ε' α : Type} {f : ε → ε'} {x : Except ε α} :
    IsOk (x.mapError f) ↔ IsOk x := by
  cases x with
  | ok a => exact ⟨fun _ => ⟨a, rfl⟩, fun _ => ⟨a, rfl⟩⟩
  | error e =>
      constructor
      · rintro ⟨b, h⟩
        cases h
      · rintro ⟨a, h⟩
        cases h

theorem not_isOk_error {ε α : Type} (e : ε) : ¬ IsOk (.error e : Except ε α) := by
  rintro ⟨a, h⟩
  cases h

namespace Talks

variable {α β : Type} {Q : Exchange → Prop} {good : α → Prop} {good' : β → Prop}

theorem pure (a : α) : Talks (σ := σ) d Q good (Pure.pure a) :=
  fun _ => ⟨[], .silence, List.forall_mem_nil _, fun _ => List.forall_mem_nil _⟩

theorem send (c : Connection) (st : Statement α) (h : ∀ answer, Q (.of st answer)) :
    Talks (σ := σ) c.dialect Q IsOk (c.send st) := by
  intro n
  refine ⟨_, .send c st n, ?_, ?_⟩
  · rw [List.forall_mem_singleton]
    exact h _
  · rintro ⟨a, ha⟩
    rw [List.forall_mem_singleton, ha]
    exact Exchange.answered_of_ok st a

/-- What follows is good only if what it follows on is. -/
theorem bind {w : StateM (Network σ) α} {k : α → StateM (Network σ) β} (hw : Talks d Q good w)
    (hk : ∀ a, Talks d Q good' (k a)) (hgood : ∀ a n, good' ((k a).run n).1 → good a) :
    Talks d Q good' (w >>= k) := by
  intro n
  obtain ⟨xs, hxs, hQ, hanswered⟩ := hw n
  obtain ⟨ys, hys, hQ', hanswered'⟩ := hk (w.run n).1 (w.run n).2
  refine ⟨xs ++ ys, hxs.trans hys, List.forall_mem_append.mpr ⟨hQ, hQ'⟩, fun hresult => ?_⟩
  exact List.forall_mem_append.mpr ⟨hanswered (hgood _ _ hresult), hanswered' hresult⟩

theorem map {w : StateM (Network σ) α} {f : α → β} (hw : Talks d Q good w)
    (hgood : ∀ a, good' (f a) → good a) :
    Talks d Q good' (w >>= fun a => Pure.pure (f a)) :=
  hw.bind (fun a => .pure (f a)) fun a _ => hgood a

end Talks

end Tablekeep.Server

/-! ## Work -/

namespace Tablekeep.Work

open Server Files

variable {ρ σ ε ε' α β : Type}

/-- The work never succeeds. -/
def Fails (w : Work ρ ε α) : Prop :=
  ∀ s, ¬ IsOk (w.on s).1

theorem fails_fail (e : ε) : Fails (fail e : Work ρ ε α) := by
  exact fun s => not_isOk_error e

/-- Work that ends with what never succeeds does not succeed. -/
theorem fails_bind {w : Work ρ ε α} {f : α → Work ρ ε β} (h : ∀ a, Fails (f a)) :
    Fails (w >>= f) := by
  intro s
  cases hon : w.on s with
  | mk outcome s' =>
      cases outcome with
      | error e =>
          rw [on_bind_error hon]
          exact not_isOk_error e
      | ok a =>
          rw [on_bind_ok hon]
          exact h a s'

theorem Fails.bind {w : Work ρ ε α} {f : α → Work ρ ε β} (h : Fails w) : Fails (w >>= f) := by
  intro s
  have hw := h s
  cases hon : w.on s with
  | mk outcome s' =>
      rw [hon] at hw
      cases outcome with
      | error e =>
          rw [on_bind_error hon]
          exact not_isOk_error e
      | ok a => exact absurd ⟨a, rfl⟩ hw

/-- An answer that is an error is passed on. -/
theorem fails_ofExcept {f : ε' → ε} {x : Except ε' α} (h : ¬ IsOk x) :
    Fails (ofExcept f x : Work ρ ε α) := by
  cases x with
  | ok a => exact absurd ⟨a, rfl⟩ h
  | error e => exact fails_fail (f e)

variable [Server σ] {d : Dialect}

/-- The work comes to an outcome and a workspace, and holds a conversation on the way. -/
structure Does (d : Dialect) (w : Work (Network σ) ε α) (s : Workspace (Network σ))
    (xs : List Exchange) (outcome : Except ε α) (s' : Workspace (Network σ)) : Prop where
  on : w.on s = (outcome, s')
  held : Conversation d s.remote xs s'.remote

namespace Does

variable {w : Work (Network σ) ε α} {s s₁ s' : Workspace (Network σ)} {xs ys : List Exchange}
  {outcome : Except ε α}

/-- Work that leaves the network as it is. -/
theorem silent (h : w.on s = (outcome, s')) (hremote : s'.remote = s.remote) :
    Does d w s [] outcome s' :=
  ⟨h, hremote ▸ .silence⟩

theorem ask {x : StateM (Network σ) α} (h : Conversation d s.remote xs (x.run s.remote).2) :
    Does d (Work.ask x : Work (Network σ) ε α) s xs (.ok (x.run s.remote).1)
      { s with remote := (x.run s.remote).2 } :=
  ⟨on_ask x, h⟩

theorem bind_ok {f : α → Work (Network σ) ε β} {a : α} {outcome : Except ε β}
    (h : Does d w s xs (.ok a) s₁) (h' : Does d (f a) s₁ ys outcome s') :
    Does d (w >>= f) s (xs ++ ys) outcome s' :=
  ⟨(on_bind_ok h.on).trans h'.on, h.held.trans h'.held⟩

/-- What follows says nothing to a server. -/
theorem bind_silent {f : α → Work (Network σ) ε β} {a : α} {outcome : Except ε β}
    (h : Does d w s xs (.ok a) s₁) (h' : Does d (f a) s₁ [] outcome s') :
    Does d (w >>= f) s xs outcome s' := by
  rw [← List.append_nil xs]
  exact h.bind_ok h'

theorem bind_error {f : α → Work (Network σ) ε β} {e : ε} (h : Does d w s xs (.error e) s') :
    Does d (w >>= f) s xs (.error e) s' :=
  ⟨on_bind_error h.on, h.held⟩

theorem rename {f : ε → ε'} (h : Does d w s xs outcome s') :
    Does d (Work.rename f w) s xs (outcome.mapError f) s' :=
  ⟨on_rename h.on, h.held⟩

theorem ensuring {after : Work (Network σ) ε Unit} (h : Does d w s xs outcome s₁)
    (h' : Does d after s₁ ys (.ok ()) s') :
    Does d (Work.ensuring w after) s (xs ++ ys) outcome s' :=
  ⟨on_ensuring h.on h'.on, h.held.trans h'.held⟩

end Does

/-! ### Work of which only the kind of its exchanges matters -/

/-- Whatever the workspace, the work has exchanges of one kind, and it succeeds only if all were
answered. -/
def Sends (d : Dialect) (Q : Exchange → Prop) (w : Work (Network σ) ε α) : Prop :=
  ∀ s, ∃ xs outcome s', Does d w s xs outcome s' ∧ (∀ x ∈ xs, Q x)
    ∧ (IsOk outcome → ∀ x ∈ xs, x.Answered)

namespace Sends

variable {Q : Exchange → Prop} {w : Work (Network σ) ε α}

theorem silent (h : ∀ s, (w.on s).2.remote = s.remote) : Sends d Q w :=
  fun s => ⟨[], _, _, .silent rfl (h s), List.forall_mem_nil _, fun _ => List.forall_mem_nil _⟩

theorem pure (a : α) : Sends d Q (Pure.pure a : Work (Network σ) ε α) :=
  .silent fun _ => rfl

theorem fail (e : ε) : Sends d Q (Work.fail e : Work (Network σ) ε α) :=
  .silent fun _ => rfl

theorem files : Sends d Q (Work.files : Work (Network σ) ε FileTree) :=
  .silent fun _ => rfl

theorem tell (e : Entry) : Sends d Q (Work.tell e : Work (Network σ) ε Unit) :=
  .silent fun _ => rfl

theorem log (level : Level) (text : String) :
    Sends d Q (Work.log level text : Work (Network σ) ε Unit) :=
  .silent fun _ => rfl

theorem ofExcept (f : ε' → ε) (x : Except ε' α) :
    Sends d Q (Work.ofExcept f x : Work (Network σ) ε α) := by
  cases x with
  | ok a => exact .pure a
  | error e => exact .fail (f e)

theorem bind {f : α → Work (Network σ) ε β} (hw : Sends d Q w) (hf : ∀ a, Sends d Q (f a)) :
    Sends d Q (w >>= f) := by
  intro s
  obtain ⟨xs, outcome, s₁, hdoes, hQ, hanswered⟩ := hw s
  cases outcome with
  | error e =>
      exact ⟨xs, .error e, s₁, hdoes.bind_error, hQ, fun h => absurd h (not_isOk_error e)⟩
  | ok a =>
      obtain ⟨ys, outcome, s', hdoes', hQ', hanswered'⟩ := hf a s₁
      refine ⟨xs ++ ys, outcome, s', hdoes.bind_ok hdoes', ?_, fun hok => ?_⟩
      · exact List.forall_mem_append.mpr ⟨hQ, hQ'⟩
      · exact List.forall_mem_append.mpr ⟨hanswered ⟨a, rfl⟩, hanswered' hok⟩

theorem change (f : FileError → ε) (g : FileTree → Except FileError FileTree) :
    Sends d Q (Work.change f g : Work (Network σ) ε Unit) := by
  unfold Work.change
  exact .bind .files fun t => .bind (.ofExcept f (g t)) fun t => .silent fun _ => rfl

theorem rename {f : ε → ε'} (hw : Sends d Q w) : Sends d Q (Work.rename f w) := by
  intro s
  obtain ⟨xs, outcome, s', hdoes, hQ, hanswered⟩ := hw s
  refine ⟨xs, _, s', hdoes.rename, hQ, ?_⟩
  rintro ⟨a, h⟩
  cases outcome with
  | ok b => exact hanswered ⟨b, rfl⟩
  | error e => cases h

theorem ensuring {after : Work (Network σ) ε Unit} (hw : Sends d Q w) (hafter : Sends d Q after) :
    Sends d Q (Work.ensuring w after) := by
  intro s
  obtain ⟨xs, outcome, s₁, hdoes, hQ, hanswered⟩ := hw s
  have hattempt : Does d (attempt w : Work (Network σ) ε _) s xs (.ok outcome) s₁ :=
    ⟨on_attempt hdoes.on, hdoes.held⟩
  obtain ⟨ys, outcome', s', hdoes', hQ', hanswered'⟩ := hafter s₁
  have hQs := List.forall_mem_append.mpr ⟨hQ, hQ'⟩
  -- an error of what is done after all takes the place of the outcome
  cases outcome' with
  | error e =>
      refine ⟨xs ++ ys, .error e, s', hattempt.bind_ok hdoes'.bind_error, hQs, fun h => ?_⟩
      exact absurd h (not_isOk_error e)
  | ok =>
      refine ⟨xs ++ ys, outcome, s', hdoes.ensuring hdoes', hQs, fun hok => ?_⟩
      exact List.forall_mem_append.mpr ⟨hanswered hok, hanswered' ⟨(), rfl⟩⟩

theorem ite {c : Prop} [Decidable c] {v : Work (Network σ) ε α} (hw : Sends d Q w)
    (hv : Sends d Q v) : Sends d Q (if c then w else v) := by
  split
  · exact hw
  · exact hv

/-- So it is with work that is done unless there is a reason to fail. -/
theorem guard {c : Prop} [Decidable c] (e : ε) (hw : Sends d Q w) :
    Sends d Q (if c then (Work.fail e : Work (Network σ) ε Unit) >>= fun _ => w else w) :=
  .ite (.bind (.fail e) fun _ => hw) hw

/-- What is done with an answer that is not good does not succeed. -/
theorem ask {x : StateM (Network σ) α} {good : α → Prop} {f : α → Work (Network σ) ε β}
    (hx : Talks d Q good x) (hf : ∀ a, Sends d Q (f a)) (hbad : ∀ a, ¬ good a → Fails (f a)) :
    Sends d Q (Work.ask x >>= f) := by
  intro s
  obtain ⟨xs, hxs, hQ, hanswered⟩ := hx s.remote
  have hasked := Does.ask (ε := ε) (x := x) (s := s) hxs
  obtain ⟨ys, outcome, s', hdoes, hQ', hanswered'⟩ := hf (x.run s.remote).1 { s with remote := _ }
  refine ⟨xs ++ ys, outcome, s', hasked.bind_ok hdoes, ?_, fun hok => ?_⟩
  · exact List.forall_mem_append.mpr ⟨hQ, hQ'⟩
  · refine List.forall_mem_append.mpr ⟨hanswered ?_, hanswered' hok⟩
    -- with an answer that is not good, what is done with it could not have succeeded
    by_contra hnot
    refine hbad _ hnot { s with remote := (x.run s.remote).2 } ?_
    rw [hdoes.on]
    exact hok

end Sends

end Tablekeep.Work
