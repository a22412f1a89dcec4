import Tablekeep.Server.Network

/-!
# Connections one after another

A program that has one connection at a time opens it, uses it, closes it, and only then opens
another one. `Sessions` says so of the events of a run, in which the connections are numbered in the
order of their opening. What it comes to for a single connection is `Concluded`: it is closed once,
nothing passes on it before it is opened and after it is closed, and those that were opened earlier
are closed by then. The last section is about the settings of the pool that a connection is from.
-/

namespace Tablekeep.Server

/-! ## Events and connections -/

/-- The number of the connection that the event is about. -/
def Event.number? : Event → Option Nat
  | opened number _ | refused number _ _ | sent number _ _ _ | closed number _ => some number
  | waited _ => none

/-- The connection is used: a statement is sent on it or is not let in, or there is a wait before
the next one. -/
inductive Event.Uses (number : Nat) (url : String) : Event → Prop
  | sent (channel : Channel) (text : String) : Uses number url (.sent number url channel text)
  | refused (text : String) : Uses number url (.refused number url text)
  | waited (seconds : Rat) : Uses number url (.waited seconds)

theorem Event.Uses.number_eq {number k : Nat} {url : String} {e : Event} (h : e.Uses number url)
    (hk : e.number? = some k) : k = number := by
  cases h with
  | sent => exact (Option.some.inj hk).symm
  | refused => exact (Option.some.inj hk).symm
  | waited => cases hk

theorem Event.Uses.not_opened {number k : Nat} {url url' : String} :
    ¬ (Event.opened k url').Uses number url :=
  nofun

/-! ## Sessions -/

/-- Connections to the addresses, one after another, of which the first has the number. -/
inductive Sessions : Nat → List String → List Event → Prop
  | nothing (number : Nat) : Sessions number [] []
  | next {number : Nat} {url : String} {urls : List String} {uses events : List Event} :
      (∀ e ∈ uses, e.Uses number url) → Sessions (number + 1) urls events →
      Sessions number (url :: urls) (.opened number url :: (uses ++ .closed number url :: events))

namespace Sessions

variable {number : Nat} {url : String} {urls urls' : List String}
  {uses events events' : List Event}

theorem one (h : ∀ e ∈ uses, e.Uses number url) :
    Sessions number [url] (.opened number url :: (uses ++ [.closed number url])) :=
  .next h (.nothing _)

theorem append (h : Sessions number urls events)
    (h' : Sessions (number + urls.length) urls' events') :
    Sessions number (urls ++ urls') (events ++ events') := by
  induction h with
  | nothing number => exact h'
  | @next number url urls uses events huses _ ih =>
      rw [List.length_cons, Nat.add_comm urls.length, ← Nat.add_assoc] at h'
      rw [List.cons_append, List.cons_append, List.append_assoc, List.cons_append]
      exact .next huses (ih h')

/-- Whose number an event bears among those of a first connection and of the rest. -/
theorem mem_next {e : Event} :
    e ∈ Event.opened number url :: (uses ++ .closed number url :: events)
      ↔ e = .opened number url ∨ e ∈ uses ∨ e = .closed number url ∨ e ∈ events := by
  simp only [List.mem_cons, List.mem_append]

/-- The events are about connections with the first number or a later one. -/
theorem le_number (h : Sessions number urls events) {e : Event} (he : e ∈ events) {k : Nat}
    (hk : e.number? = some k) : number ≤ k := by
  induction h with
  | nothing => cases he
  | next huses _ ih =>
      rcases mem_next.mp he with rfl | hused | rfl | hlater
      · exact Nat.le_of_eq (Option.some.inj hk)
      · exact Nat.le_of_eq ((huses _ hused).number_eq hk).symm
      · exact Nat.le_of_eq (Option.some.inj hk)
      · exact Nat.le_of_succ_le (ih hlater)

end Sessions

/-! ## Single connections -/

/-- The event in which the connection is opened stands between events that are not about it and that
leave no other connection open; then it is used, and then it is closed. -/
inductive Closes (number : Nat) (url : String) : List Event → Prop
  | intro {before uses after : List Event} : (∀ e ∈ uses, e.Uses number url) →
      (∀ e ∈ before ++ after, e.number? ≠ some number) →
      (∀ other url', .opened other url' ∈ before → .closed other url' ∈ before) →
      Closes number url
        (before ++ .opened number url :: (uses ++ .closed number url :: after))

/-- Whatever connection there is has been opened, and closed for good. -/
structure Concluded (events : List Event) : Prop where
  begun : ∀ e ∈ events, ∀ number, e.number? = some number → ∃ url, .opened number url ∈ events
  ended : ∀ number url, .opened number url ∈ events → Closes number url events

/-- A connection stays closed for good if another one was opened and closed before it. -/
theorem Closes.next {number k : Nat} {url url' : String} {uses events : List Event}
    (huses : ∀ e ∈ uses, e.Uses number url) (hlt : number < k) (h : Closes k url' events) :
    Closes k url' (.opened number url :: (uses ++ .closed number url :: events)) := by
  obtain ⟨huses', hothers, hopen⟩ := h
  rename_i before uses' after
  have hsplit : Event.opened number url :: (uses ++ .closed number url
        :: (before ++ .opened k url' :: (uses' ++ .closed k url' :: after)))
      = (.opened number url :: (uses ++ .closed number url :: before))
        ++ .opened k url' :: (uses' ++ .closed k url' :: after) := by
    simp only [List.cons_append, List.append_assoc]
  rw [hsplit]
  refine .intro huses' (fun e he hk => ?_) fun other url'' hother => ?_
  · rcases List.mem_append.mp he with hbefore | hafter
    · rcases Sessions.mem_next.mp hbefore with rfl | hused | rfl | hbefore
      · exact absurd (Option.some.inj hk) (Nat.ne_of_lt hlt)
      · exact absurd ((huses e hused).number_eq hk).symm (Nat.ne_of_lt hlt)
      · exact absurd (Option.some.inj hk) (Nat.ne_of_lt hlt)
      · exact hothers e (List.mem_append_left _ hbefore) hk
    · exact hothers e (List.mem_append_right _ hafter) hk
  · rcases Sessions.mem_next.mp hother with hfirst | hused | hclosed | hbefore
    · obtain ⟨rfl, rfl⟩ := Event.opened.inj hfirst
      exact Sessions.mem_next.mpr (.inr (.inr (.inl rfl)))
    · exact absurd (huses _ hused) Event.Uses.not_opened
    · cases hclosed
    · exact Sessions.mem_next.mpr (.inr (.inr (.inr (hopen other url'' hbefore))))

/-- **After sessions every connection is closed for good.** -/
theorem Sessions.concluded {number : Nat} {urls : List String} {events : List Event}
    (h : Sessions number urls events) : Concluded events := by
  induction h with
  | nothing => exact ⟨List.forall_mem_nil _, fun _ _ hopened => absurd hopened List.not_mem_nil⟩
  | @next number url urls uses events huses hrest ih =>
      have hopened : Event.opened number url
          ∈ Event.opened number url :: (uses ++ .closed number url :: events) :=
        List.mem_cons_self ..
      constructor
      · intro e he k hk
        rcases mem_next.mp he with rfl | hused | rfl | hlater
        · exact ⟨url, Option.some.inj hk ▸ hopened⟩
        · exact ⟨url, (huses e hused).number_eq hk ▸ hopened⟩
        · exact ⟨url, Option.some.inj hk ▸ hopened⟩
        · obtain ⟨url', hbegun⟩ := ih.begun e hlater k hk
          exact ⟨url', mem_next.mpr (.inr (.inr (.inr hbegun)))⟩
      · intro k url' hk
        rcases mem_next.mp hk with hfirst | hused | hclosed | hlater
        · obtain ⟨rfl, rfl⟩ := Event.opened.inj hfirst
          refine @Closes.intro k url' [] uses events huses (fun e he hsame => ?_)
            fun _ _ hbefore => absurd hbefore List.not_mem_nil
          exact absurd (hrest.le_number he hsame) (Nat.not_succ_le_self k)
        · exact absurd (huses _ hused) Event.Uses.not_opened
        · cases hclosed
        · exact (ih.ended k url' hlater).next huses (hrest.le_number hlater rfl)

/-! ## Networks -/

variable {σ : Type} {n n' n'' : Network σ} {urls urls' : List String}

/-- What passes on the way from one network to another are sessions with the addresses. -/
def Visits (urls : List String) (n n' : Network σ) : Prop :=
  ∃ events, n'.trace = n.trace ++ events ∧ n'.opened = n.opened + urls.length
    ∧ Sessions n.opened urls events

theorem Visits.none (n : Network σ) : Visits [] n n :=
  ⟨[], (List.append_nil _).symm, rfl, .nothing _⟩

theorem Visits.trans (h : Visits urls n n') (h' : Visits urls' n' n'') :
    Visits (urls ++ urls') n n'' := by
  obtain ⟨events, htrace, hopened, hsessions⟩ := h
  obtain ⟨events', htrace', hopened', hsessions'⟩ := h'
  refine ⟨events ++ events', ?_, ?_, hsessions.append (hopened ▸ hsessions')⟩
  · rw [htrace', htrace, List.append_assoc]
  · rw [hopened', hopened, List.length_append, Nat.add_assoc]

/-! ## Pools -/

section Settings

variable {β : Type}

theorem lookup_cons_setting (key name : String) (setting : β) (settings : List (String × β)) :
    ((key, setting) :: settings).lookup name
      = if name = key then some setting else settings.lookup name := by
  rw [List.lookup_cons]
  by_cases hkey : name = key
  · rw [if_pos hkey, beq_iff_eq.mpr hkey]
  · rw [if_neg hkey, beq_eq_false_iff_ne.mpr hkey]

theorem lookup_map_setting (f : String → β → β) (settings : List (String × β)) (name : String) :
    (settings.map fun s => (s.1, f s.1 s.2)).lookup name
      = (settings.lookup name).map (f name) := by
  induction settings with
  | nil => rfl
  | cons s settings ih =>
      rw [List.map_cons, lookup_cons_setting, lookup_cons_setting s.1, ih]
      by_cases hkey : name = s.1
      · rw [if_pos hkey, if_pos hkey, Option.map_some, hkey]
      · rw [if_neg hkey, if_neg hkey]

theorem lookup_filter_setting {p : String → Bool} {name : String} (h : p name = true)
    (settings : List (String × β)) :
    (settings.filter fun s => p s.1).lookup name = settings.lookup name := by
  induction settings with
  | nil => rfl
  | cons s settings ih =>
      rw [lookup_cons_setting s.1]
      by_cases hkey : name = s.1
      · rw [List.filter_cons, if_pos (hkey ▸ h), lookup_cons_setting s.1, if_pos hkey, if_pos hkey]
      · rw [if_neg hkey, List.filter_cons, ← ih]
        by_cases hkept : p s.1 = true
        · rw [if_pos hkept, lookup_cons_setting s.1, if_neg hkey]
        · rw [if_neg hkept]

/-- **A setting that is given is used**, and the one that was there only without it. -/
theorem lookup_overridden (settings given : List (String × β)) (name : String) :
    (overridden settings given).lookup name = (given.lookup name).or (settings.lookup name) := by
  rw [overridden, List.lookup_append,
    lookup_map_setting fun key setting => (given.lookup key).getD setting]
  cases hsetting : settings.lookup name with
  | none =>
      have hunset : (settings.lookup name).isNone = true := by rw [hsetting]; rfl
      rw [Option.map_none, Option.none_or, Option.or_none,
        lookup_filter_setting (p := fun key => (settings.lookup key).isNone) hunset]
  | some setting => cases given.lookup name <;> rfl

end Settings

/-- A pool of one connection is not looked at, where this is what is given; the rest is as usual. -/
example : poolSettings [("pool_size", .number 1), ("pool_pre_ping", .flag false)]
    = [("pool_size", .number 1), ("max_overflow", .number 10), ("pool_pre_ping", .flag false),
      ("pool_recycle", .number 300), ("echo", .flag false)] := by
  decide

end Tablekeep.Server
