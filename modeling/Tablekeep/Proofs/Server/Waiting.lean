import Tablekeep.Proofs.Server.Conversation
import Tablekeep.Server.Memory
import Tablekeep.Server.Offline
import Tablekeep.Server.Waiting

/-!
# How long a server is waited for

What a try comes to depends on the server alone, and changes it. So a server fixes what every try
that will be made comes to (`Connection.outcome`), and a run is said against that sequence: tries
that time out, each with a warning and a wait after it, and then one that did not time out or was
the last that may be made.

`tryAgain_last` and `tryAgain_again` are the two things that a single try can do, and
`tryAgain_on` is the run. The induction is on the number of waits, since this is what is known of a
run beforehand; how many tries are left and how many were made goes along with it.
-/

namespace Tablekeep.Server

variable {σ : Type}

/-! ## Tries -/

theorem pause_on (seconds : Rat) (w : Workspace (Network σ)) :
    (pause seconds : Work _ ServerError _).on w
      = (.ok (), { w with
          journal := w.journal ++ [.record .warning (waitText seconds)]
          remote := { w.remote with trace := w.remote.trace ++ [.waited seconds] } }) := rfl

/-- The try timed out. -/
def TimedOut (outcome : Except ServerError Unit) : Prop :=
  ∃ e, outcome = .error e ∧ isTimeout e = true

/-- Of the tries that may be made, the last one is made after timeouts only: it is no timeout, or
there is no other after it. -/
theorem exists_last_try (outcome : Nat → Except ServerError Unit) {attempts : Nat}
    (h : 1 ≤ attempts) :
    ∃ k < attempts, (∀ i < k, TimedOut (outcome i))
      ∧ (TimedOut (outcome k) → k + 1 = attempts) := by
  obtain ⟨n, rfl⟩ := Nat.exists_eq_add_one.mpr h
  induction n with
  | zero => exact ⟨0, Nat.zero_lt_one, fun i hi => absurd hi (Nat.not_lt_zero i), fun _ => rfl⟩
  | succ n ih =>
      obtain ⟨k, hk, hbefore, hlast⟩ := ih (Nat.succ_pos n)
      by_cases htimeout : TimedOut (outcome k)
      · refine ⟨n + 1, Nat.lt_succ_self _, fun i hi => ?_, fun _ => rfl⟩
        obtain hlt | rfl : i < k ∨ i = k := by
          have := hlast htimeout
          omega
        · exact hbefore i hlt
        · exact htimeout
      · exact ⟨k, Nat.lt_succ_of_lt hk, hbefore, fun h => absurd h htimeout⟩

/-- How long is waited after a try, where so many were made before it. -/
def waitAfter (delay : Rat) (made : Nat) : Rat :=
  delay * ((made + 1 : Nat) : Rat)

namespace Connection

section Tries

variable [Server σ]

/-- What a try comes to, and the server after it. -/
def tried (c : Connection) (server : σ) : Except ServerError Unit × σ :=
  let (outcome, n) := c.probe.run (Network.fresh server)
  (outcome, n.server)

/-- The server after so many tries. -/
def serverAfter (c : Connection) (server : σ) : Nat → σ
  | 0 => server
  | k + 1 => c.serverAfter (c.tried server).2 k

/-- What a try comes to after so many others. -/
def outcome (c : Connection) (server : σ) (k : Nat) : Except ServerError Unit :=
  (c.tried (c.serverAfter server k)).1

end Tries

/-- What a try leaves in the trace. A client that is not admitted sends nothing. -/
def tryEvent (c : Connection) : Except ServerError Unit → Event
  | .error (.refused text) => .refused c.number c.url text
  | _ => .sent c.number c.url (Statement.probe.channel c.dialect) (Statement.probe.text c.dialect)

/-- What passes in so many tries with a wait after each, and one try more. -/
def tries (c : Connection) (outcome : Nat → Except ServerError Unit) (wait : Nat → Rat)
    (waits : Nat) : List Event :=
  (List.range waits).flatMap (fun i => [c.tryEvent (outcome i), .waited (wait i)])
    ++ [c.tryEvent (outcome waits)]

/-- The warnings before so many waits. -/
def warnings (wait : Nat → Rat) (waits : Nat) : List Entry :=
  (List.range waits).map fun i => .record .warning (waitText (wait i))

variable [Server σ]

/-- The workspace after so many tries with a wait after each, and one try more. -/
def afterTries (c : Connection) (wait : Nat → Rat) (waits : Nat) (w : Workspace (Network σ)) :
    Workspace (Network σ) where
  files := w.files
  journal := w.journal ++ warnings wait waits
  remote := {
    server := c.serverAfter w.remote.server (waits + 1)
    opened := w.remote.opened
    trace := w.remote.trace ++ c.tries (c.outcome w.remote.server) wait waits }

/-- The workspace after a try and a wait. -/
def afterWait (c : Connection) (seconds : Rat) (w : Workspace (Network σ)) :
    Workspace (Network σ) where
  files := w.files
  journal := w.journal ++ [.record .warning (waitText seconds)]
  remote := {
    server := (c.tried w.remote.server).2
    opened := w.remote.opened
    trace := w.remote.trace ++ [c.tryEvent (c.outcome w.remote.server 0), .waited seconds] }

/-- A wait comes before the others. -/
theorem afterTries_succ (c : Connection) (wait : Nat → Rat) (waits : Nat)
    (w : Workspace (Network σ)) :
    c.afterTries wait (waits + 1) w
      = c.afterTries (fun i => wait (i + 1)) waits (c.afterWait (wait 0) w) := by
  have hwarnings : warnings wait (waits + 1)
      = .record .warning (waitText (wait 0)) :: warnings (fun i => wait (i + 1)) waits := by
    simp only [warnings, List.range_succ_eq_map, List.map_cons, List.map_map]
    rfl
  have htries (outcome : Nat → Except ServerError Unit) : c.tries outcome wait (waits + 1)
      = c.tryEvent (outcome 0) :: .waited (wait 0)
        :: c.tries (fun i => outcome (i + 1)) (fun i => wait (i + 1)) waits := by
    simp only [tries, List.range_succ_eq_map, List.flatMap_cons, List.flatMap_map, List.cons_append,
      List.nil_append, Nat.succ_eq_add_one]
  simp only [afterTries, afterWait, hwarnings, htries, List.append_assoc, List.cons_append,
    List.nil_append]
  rfl

/-! ## One try -/

theorem probe_run (c : Connection) (n : Network σ) :
    c.probe.run n = (c.outcome n.server 0,
      ⟨(c.tried n.server).2, n.opened, n.trace ++ [c.tryEvent (c.outcome n.server 0)]⟩) := by
  have hrun (m : Network σ) := send_run c .probe m
  unfold outcome serverAfter tried probe
  rw [hrun, hrun, Network.fresh]
  dsimp only
  rcases Server.accept n.server c.url with ⟨_ | text, server⟩
  · dsimp only
    rcases Server.answer server c.url (Statement.probe.text c.dialect) .probe with ⟨_ | _, server'⟩
    · rfl
    · rfl
  · rfl

theorem probe_on (c : Connection) (w : Workspace (Network σ)) :
    (Work.ask c.probe : Work _ ServerError _).on w
      = (.ok (c.outcome w.remote.server 0), { w with
          remote := ⟨(c.tried w.remote.server).2, w.remote.opened,
            w.remote.trace ++ [c.tryEvent (c.outcome w.remote.server 0)]⟩ }) := by
  rw [Work.on_ask, probe_run]

/-- A try that did not time out or is the last one ends the waiting. -/
theorem tryAgain_last (c : Connection) (delay : Rat) (made left : Nat) (wait : Nat → Rat)
    (w : Workspace (Network σ)) (h : TimedOut (c.outcome w.remote.server 0) → left = 0) :
    (c.tryAgain delay made (left + 1)).on w
      = (c.outcome w.remote.server 0, c.afterTries wait 0 w) := by
  have hafter : c.afterTries wait 0 w = { w with
      remote := ⟨(c.tried w.remote.server).2, w.remote.opened,
        w.remote.trace ++ [c.tryEvent (c.outcome w.remote.server 0)]⟩ } := by
    unfold afterTries warnings
    rw [List.range_zero, List.map_nil, List.append_nil]
    rfl
  rw [tryAgain, Work.on_bind_ok (probe_on c w), hafter]
  cases houtcome : c.outcome w.remote.server 0 with
  | ok => exact Work.on_pure ()
  | error e =>
      have hno : ¬ (isTimeout e && left != 0) = true := by
        intro hagain
        obtain ⟨htimeout, hleft⟩ := Bool.and_eq_true_iff.mp hagain
        rw [h ⟨e, houtcome, htimeout⟩] at hleft
        cases hleft
      dsimp only
      rw [if_neg hno]
      exact Work.on_fail e

/-- After any other there is a wait, and then the rest of the tries. -/
theorem tryAgain_again (c : Connection) (delay : Rat) (made : Nat) {left : Nat}
    (w : Workspace (Network σ)) (h : TimedOut (c.outcome w.remote.server 0)) (hleft : left ≠ 0) :
    (c.tryAgain delay made (left + 1)).on w
      = (c.tryAgain delay (made + 1) left).on (c.afterWait (waitAfter delay made) w) := by
  obtain ⟨e, houtcome, htimeout⟩ := h
  have hagain : (isTimeout e && left != 0) = true := by
    rw [htimeout, Bool.true_and, bne_iff_ne]
    exact hleft
  rw [tryAgain, Work.on_bind_ok (probe_on c w), houtcome]
  dsimp only
  rw [if_pos hagain, Work.on_bind_ok (pause_on _ _)]
  dsimp only
  rw [List.append_assoc, ← houtcome]
  rfl

/-! ## Runs -/

/-- **A run goes on over timeouts as long as there are tries left**, and ends with the try after
them. -/
theorem tryAgain_on (c : Connection) (delay : Rat) {waits : Nat} :
    ∀ (made left : Nat) (w : Workspace (Network σ)), waits < left →
      (∀ i < waits, TimedOut (c.outcome w.remote.server i)) →
      (TimedOut (c.outcome w.remote.server waits) → waits + 1 = left) →
      (c.tryAgain delay made left).on w
        = (c.outcome w.remote.server waits,
          c.afterTries (fun i => waitAfter delay (made + i)) waits w) := by
  induction waits with
  | zero =>
      intro made left w hleft _ hlast
      obtain ⟨left, rfl⟩ := Nat.exists_eq_add_one.mpr hleft
      exact tryAgain_last c delay made left _ w fun h => (Nat.succ.inj (hlast h)).symm
  | succ waits ih =>
      intro made left w hleft htimeouts hlast
      obtain ⟨left, rfl⟩ := Nat.exists_eq_add_one.mpr (Nat.zero_lt_of_lt hleft)
      have hrest := ih (made + 1) left (c.afterWait (waitAfter delay made) w) (by omega)
        (fun i hi => htimeouts (i + 1) (by omega)) (fun h => Nat.succ.inj (hlast h))
      simp only [Nat.add_right_comm made 1] at hrest
      rw [tryAgain_again c delay made w (htimeouts 0 (by omega)) (by omega), hrest, afterTries_succ]
      rfl

/-- **Timeouts are tried again, and nothing else.** The first outcome that is no timeout is the
outcome of the run, if it comes within the tries that may be made, and otherwise the last of these
is. Nothing is done but the tries, and the waits between them with a warning each; and who gets
through has been connected. -/
theorem waitUntilAvailable_retries (c : Connection) {attempts : Nat} (h : 1 ≤ attempts)
    (delay : Rat) (w : Workspace (Network σ)) :
    (∀ k < attempts, (∀ i < k, TimedOut (c.outcome w.remote.server i)) →
      ¬ TimedOut (c.outcome w.remote.server k) →
        (c.waitUntilAvailable attempts delay).on w
          = (c.outcome w.remote.server k, c.afterTries (waitAfter delay) k w))
    ∧ ((∀ i < attempts, TimedOut (c.outcome w.remote.server i)) →
        (c.waitUntilAvailable attempts delay).on w
          = (c.outcome w.remote.server (attempts - 1),
            c.afterTries (waitAfter delay) (attempts - 1) w))
    ∧ (((c.waitUntilAvailable attempts delay).on w).1 = .ok () →
        ∃ k < attempts, c.outcome w.remote.server k = .ok ()) := by
  have hrun {k : Nat} (hk : k < attempts)
      (hbefore : ∀ i < k, TimedOut (c.outcome w.remote.server i))
      (hlast : TimedOut (c.outcome w.remote.server k) → k + 1 = attempts) :
      (c.waitUntilAvailable attempts delay).on w
        = (c.outcome w.remote.server k, c.afterTries (waitAfter delay) k w) := by
    have hon := tryAgain_on c delay 0 attempts w hk hbefore hlast
    simp only [Nat.zero_add] at hon
    exact hon
  refine ⟨fun k hk hbefore hother => ?_, fun hall => ?_, fun hok => ?_⟩
  · exact hrun hk hbefore fun htimeout => absurd htimeout hother
  · exact hrun (by omega) (fun i hi => hall i (by omega)) fun _ => by omega
  · obtain ⟨k, hk, hbefore, hlast⟩ := exists_last_try (c.outcome w.remote.server) h
    rw [hrun hk hbefore hlast] at hok
    exact ⟨k, hk, hok⟩

/-- A server that is asleep for two tries. -/
theorem waitUntilAvailable_retries_waking :
    let c : Connection := ⟨0, "mssql://h/db", .azure⟩
    let asleep := "[HYT00] Connection Timeout Expired"
    let waking : Memory := ⟨[], none, [some asleep, some asleep], []⟩
    let w : Workspace (Network Memory) := ⟨⟨[], []⟩, [], .fresh waking⟩
    1 ≤ 3 ∧ (∀ i < 2, TimedOut (c.outcome waking i)) ∧ ¬ TimedOut (c.outcome waking 2)
      ∧ (c.waitUntilAvailable 3 (1 / 100)).on w = (.ok (), ⟨⟨[], []⟩,
          [.record .warning
            "Connection timeout. Database may have auto-paused. Will retry in 0.01 seconds.",
           .record .warning
            "Connection timeout. Database may have auto-paused. Will retry in 0.02 seconds."],
          ⟨⟨[], none, [], []⟩, 0, [.refused 0 "mssql://h/db" asleep, .waited (1 / 100),
            .refused 0 "mssql://h/db" asleep, .waited (2 / 100),
            .sent 0 "mssql://h/db" .query "SELECT 1"]⟩⟩) := by
  intro c asleep waking w
  have htimeouts : ∀ i < 2, TimedOut (c.outcome waking i) := by
    intro i hi
    obtain rfl | rfl : i = 0 ∨ i = 1 := by omega
    · exact ⟨.refused asleep, rfl, by decide +kernel⟩
    · exact ⟨.refused asleep, rfl, by decide +kernel⟩
  have hawake : ¬ TimedOut (c.outcome waking 2) := by
    rintro ⟨e, he, -⟩
    cases he
  refine ⟨by decide, htimeouts, hawake, ?_⟩
  have hfirst : waitText (waitAfter (1 / 100) 0)
      = "Connection timeout. Database may have auto-paused. Will retry in 0.01 seconds." := by
    decide +kernel
  have hsecond : waitText (waitAfter (1 / 100) 1)
      = "Connection timeout. Database may have auto-paused. Will retry in 0.02 seconds." := by
    decide +kernel
  have hwaits : waitAfter (1 / 100) 0 = 1 / 100 ∧ waitAfter (1 / 100) 1 = 2 / 100 := by
    decide +kernel
  have hthree : 1 ≤ 3 := by decide
  have hafter := (waitUntilAvailable_retries c hthree (1 / 100) w).1 2 (by decide) htimeouts hawake
  have hwhole : c.afterTries (waitAfter (1 / 100)) 2 w = ⟨⟨[], []⟩,
      [.record .warning (waitText (waitAfter (1 / 100) 0)),
        .record .warning (waitText (waitAfter (1 / 100) 1))],
      ⟨⟨[], none, [], []⟩, 0, [.refused 0 "mssql://h/db" asleep, .waited (waitAfter (1 / 100) 0),
        .refused 0 "mssql://h/db" asleep, .waited (waitAfter (1 / 100) 1),
        .sent 0 "mssql://h/db" .query "SELECT 1"]⟩⟩ := rfl
  rw [hafter, hwhole, hfirst, hsecond, hwaits.1, hwaits.2]
  rfl

end Connection

end Tablekeep.Server
