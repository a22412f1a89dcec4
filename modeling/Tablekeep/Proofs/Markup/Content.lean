import Tablekeep.Markup.Document

/-!
# Documents as trees

A reading is a sequence of events, and nothing in its type says that elements end in the
order in which they start. This file shows that in a well-formed document they do: the
events of one are those of an `Element`, a tag with its content.

`Content` is what stands between two tags, as a text or an element and what follows it.
Adjacent texts are kept apart as they are met (a reference makes a text of its own), so
that a tree has exactly one sequence of events; `Content.text` joins them.

The invariant is the `Trail` of a reading that is under way: the elements that are open,
innermost first, each with the content that it has so far. One step in content changes
the trail in one of few ways, which `Position.step_next_cases` lists.
-/

namespace Tablekeep.Markup

/-! ## Trees -/

/-- What an element holds, in order. -/
inductive Content where
  | empty
  | text (s : String) (rest : Content)
  | element (tag : String) (inner rest : Content)
  deriving DecidableEq, Repr

namespace Content

/-- The events of content. -/
def events : Content → List Event
  | empty => []
  | text s rest => .text s :: rest.events
  | element tag inner rest => .start tag :: (inner.events ++ .finish :: rest.events)

/-- All text that is not inside an element of the content. -/
def ownText : Content → String
  | empty => ""
  | text s rest => s ++ rest.ownText
  | element _ _ rest => rest.ownText

/-- The elements of the content with what they hold. -/
def children : Content → List (String × Content)
  | empty => []
  | text _ rest => rest.children
  | element tag inner rest => (tag, inner) :: rest.children

/-- One content after another. -/
def append : Content → Content → Content
  | empty, d => d
  | text s rest, d => text s (rest.append d)
  | element tag inner rest, d => element tag inner (rest.append d)

@[simp] theorem events_append (c d : Content) : (c.append d).events = c.events ++ d.events := by
  induction c with
  | empty => rfl
  | text s rest ih => simp [append, events, ih]
  | element tag inner rest _ ih => simp [append, events, ih]

end Content

/-- An element with its content. -/
structure Element where
  tag : String
  content : Content
  deriving DecidableEq, Repr

/-- The events of an element. -/
def Element.events (e : Element) : List Event :=
  .start e.tag :: (e.content.events ++ [.finish])

/-! ## Open elements -/

/-- The elements that are open, innermost first, and what each holds so far. -/
abbrev Trail := List (String × Content)

namespace Trail

/-- The events that have led to a trail. -/
def events : Trail → List Event
  | [] => []
  | (tag, c) :: outer => events outer ++ .start tag :: c.events

/-- More content comes to the innermost element. -/
theorem events_grow (tag : String) (c d : Content) (outer : Trail) :
    events ((tag, c.append d) :: outer) = events ((tag, c) :: outer) ++ d.events := by
  simp [events]

/-- The innermost element ends and becomes content of the one around it. -/
theorem events_close (tag tag' : String) (c c' : Content) (outer : Trail) :
    events ((tag', c'.append (.element tag c .empty)) :: outer)
      = events ((tag, c) :: (tag', c') :: outer) ++ [.finish] := by
  simp [events, Content.events]

end Trail

namespace Position

variable {doctype : Doctype} {p q : Position} {es : List Event}

/-- The ways in which a step that goes on can change the elements that are open: none of them, with
at most a text or an empty element met; one more; or one less. -/
inductive Move (p q : Position) : List Event → Prop where
  | stay (d : Content) : q.opened.length = p.opened.length → Move p q d.events
  | opens (tag : String) : q.opened.length = p.opened.length + 1 → Move p q [.start tag]
  | closes : p.opened.length = q.opened.length + 1 → q.opened ≠ [] → Move p q [.finish]

theorem leave_next_cases (h : p.leave = .next es q) : Move p q es := by
  unfold leave at h
  split at h
  · cases h
  · split at h
    · cases h
      exact .stay .empty rfl
    · cases h

theorem stepEnd_next_cases {cs : List Char} (h : p.stepEnd cs = .next es q) : Move p q es := by
  unfold stepEnd at h
  split at h
  · rename_i name rest e opened _ hopened
    dsimp only at h
    split at h
    · cases h
    · split at h
      · cases h
      · rename_i hne
        cases h
        exact .closes (by simp [hopened]) (by simpa using hne)
  · cases h

theorem stepStart_next_cases {cs : List Char} (h : p.stepStart doctype cs = .next es q) :
    Move p q es := by
  unfold stepStart at h
  split at h
  · cases h
  · rename_i t rest _
    split at h
    · split at h
      · cases h
      · cases h
        exact .stay (.element t.tag .empty .empty) rfl
    · cases h
      exact .opens t.tag rfl

theorem stepReference_next_cases {cs : List Char} (h : p.stepReference doctype cs = .next es q) :
    Move p q es := by
  unfold stepReference at h
  split at h
  · cases h
  · rename_i c rest _
    cases h
    exact .stay (.text (String.ofList [c]) .empty) rfl
  · split at h
    · cases h
      exact .stay (.text (String.ofList [_]) .empty) rfl
    · split at h
      · cases h
      · cases h
        exact .stay .empty rfl
    · cases h

theorem stepText_next_cases (h : p.stepText = .next es q) : Move p q es := by
  unfold stepText at h
  dsimp only at h
  split at h
  · cases h
  · cases h
    exact .stay (.text _ .empty) rfl

/-- **One step in content.** -/
theorem step_next_cases (h : p.step doctype = .next es q) : Move p q es := by
  unfold step at h
  split at h
  · exact leave_next_cases h
  · exact stepEnd_next_cases h
  · split at h
    · split at h
      · cases h
      · cases h
        exact .stay .empty rfl
    · split at h
      · cases h
      · rename_i text rest _
        cases h
        exact .stay (.text (String.ofList text) .empty) rfl
    · cases h
  · split at h
    · cases h
    · cases h
      exact .stay .empty rfl
  · exact stepStart_next_cases h
  · exact stepReference_next_cases h
  · exact stepText_next_cases h

/-- The outermost element is left by its end, and then no other is open. -/
theorem step_done_cases {rest : List Char} (hp : p.opened ≠ [])
    (h : p.step doctype = .done es rest) : es = [.finish] ∧ p.opened.length = 1 := by
  -- of the parts of a step only the end tag can be the last one here
  have hleave : p.leave ≠ .done es rest := by
    unfold leave
    split
    · exact fun h => by cases h
    · split <;> exact fun h => by cases h
  have hstart : ∀ cs, p.stepStart doctype cs ≠ .done es rest := by
    intro cs
    unfold stepStart
    split
    · exact fun h => by cases h
    · split
      · rw [if_neg (by simpa using hp)]
        exact fun h => by cases h
      · exact fun h => by cases h
  have hreference : ∀ cs, p.stepReference doctype cs ≠ .done es rest := by
    intro cs
    unfold stepReference
    repeat' split
    all_goals exact fun h => by cases h
  have htext : p.stepText ≠ .done es rest := by
    unfold stepText
    dsimp only
    split <;> exact fun h => by cases h
  unfold step at h
  split at h
  · exact absurd h hleave
  · unfold stepEnd at h
    split at h
    · rename_i name rest' e opened _ hopened
      dsimp only at h
      split at h
      · cases h
      · split at h
        · rename_i hnil
          cases h
          rw [hopened]
          exact ⟨rfl, by simpa using hnil⟩
        · cases h
    · cases h
  · repeat' split at h
    all_goals cases h
  · split at h <;> cases h
  · exact absurd h (hstart _)
  · exact absurd h (hreference _)
  · exact absurd h htext

/-- The tag that starts the outermost element opens it, -/
theorem stepStart_outermost_next {cs : List Char} (hp : p.opened = [])
    (h : p.stepStart doctype cs = .next es q) :
    ∃ tag, es = [.start tag] ∧ q.opened.length = 1 := by
  unfold stepStart at h
  split at h
  · cases h
  · rename_i t rest _
    split at h
    · simp [hp] at h
    · cases h
      exact ⟨t.tag, rfl, by simp [hp]⟩

/-- or ends it at once. -/
theorem stepStart_done {cs rest : List Char} (h : p.stepStart doctype cs = .done es rest) :
    ∃ tag, es = [.start tag, .finish] := by
  unfold stepStart at h
  split at h
  · cases h
  · rename_i t rest' _
    split at h
    · split at h
      · cases h
        exact ⟨t.tag, rfl⟩
      · cases h
    · cases h

end Position

/-! ## Well-formed documents -/

/-- A reading of content that comes to the end of the outermost element has met the events of that
element. -/
theorem contentFrom_events {doctype : Doctype} :
    ∀ (fuel : Nat) (trail : Trail) {p : Position} {done es : List Event} {rest : List Char},
      trail ≠ [] → trail.length = p.opened.length → done.reverse = Trail.events trail →
      contentFrom doctype fuel p done = (es, some rest) →
      ∃ root : Element, es.reverse = root.events
  | 0, _, _, _, _, _, _, _, _, h => by cases h
  | fuel + 1, trail, p, done, es, rest, hne, hlen, hdone, h => by
      have hopened : p.opened ≠ [] := by
        intro h0
        rw [h0] at hlen
        exact hne (List.eq_nil_of_length_eq_zero hlen)
      obtain ⟨⟨tag, c⟩, outer, rfl⟩ := List.exists_cons_of_ne_nil hne
      rw [contentFrom] at h
      split at h
      · cases h
      · rename_i events q hstep
        have hrev : (events.reverse ++ done).reverse
            = Trail.events ((tag, c) :: outer) ++ events := by simp [hdone]
        cases Position.step_next_cases hstep with
        | stay d hq =>
            -- the innermost element has more content
            refine contentFrom_events fuel ((tag, c.append d) :: outer) (by simp) ?_ ?_ h
            · simpa [hq] using hlen
            · rw [hrev, Trail.events_grow]
        | opens tag' hq =>
            refine contentFrom_events fuel ((tag', .empty) :: (tag, c) :: outer)
              (by simp) ?_ ?_ h
            · simpa [hq] using hlen
            · rw [hrev]; simp [Trail.events, Content.events]
        | closes hq hq' =>
            -- the step goes on, so there is an element around the one that ends
            cases outer with
            | nil =>
                have : q.opened.length = 0 := by
                  simp only [List.length_singleton] at hlen
                  omega
                exact absurd (List.eq_nil_of_length_eq_zero this) hq'
            | cons top outer =>
                obtain ⟨tag', c'⟩ := top
                refine contentFrom_events fuel
                  ((tag', c'.append (.element tag c .empty)) :: outer) (by simp) ?_ ?_ h
                · simp only [List.length_cons] at hlen ⊢
                  omega
                · rw [hrev, Trail.events_close]
      · rename_i events rest' hstep
        obtain ⟨rfl, hone⟩ := Position.step_done_cases hopened hstep
        have houter : outer = [] := by
          rw [hone] at hlen
          simpa using hlen
        cases h
        refine ⟨⟨tag, c⟩, ?_⟩
        simp [hdone, houter, Trail.events, Element.events]

theorem readChars_events {standalone : Bool} {cs : List Char}
    (h : (readChars standalone cs).wellFormed = true) :
    ∃ root : Element, (readChars standalone cs).events = root.events := by
  unfold readChars at h ⊢
  split at h
  · cases h
  · rename_i doctype cs _
    dsimp only at h
    split at h
    · rename_i cs
      split at h
      · cases h
      · rename_i events rest hstep
        obtain ⟨tag, rfl⟩ := Position.stepStart_done hstep
        exact ⟨⟨tag, .empty⟩, rfl⟩
      · rename_i events p hstep
        obtain ⟨tag, rfl, hopened⟩ := Position.stepStart_outermost_next rfl hstep
        split at h
        · cases h
        · rename_i events' rest hcontent
          dsimp only
          rw [hcontent]
          exact contentFrom_events _ [(tag, .empty)] (by simp) (by simp [hopened])
            (by simp [Trail.events, Content.events]) hcontent
    · cases h

/-- **A well-formed document is a tree.** -/
theorem exists_element_of_wellFormed {bytes : List UInt8} {reading : Reading}
    (h : read bytes = .ok reading) (hw : reading.wellFormed = true) :
    ∃ root : Element, reading.events = root.events := by
  unfold read at h
  split at h
  · cases h
    cases hw
  · cases h
  · rename_i d _
    cases h
    simp only [Bool.and_eq_true] at hw
    exact readChars_events hw.1

end Tablekeep.Markup
