import Tablekeep.Proofs.Markup.Content
import Tablekeep.Proofs.Text.Blank
import Mathlib.Data.List.Forall2

/-!
# Plain spellings of content

Content can be written in many ways. `Spelled` is the plain one, which is all that the
library writes itself: tags without attributes, references for single characters, and
runs of characters that mean nothing to the markup. What is written this way is read as
the content that it spells, to the character.

The reading goes on wherever it stands, so the statement is about what is left to read:
after as many steps as the spelling takes, the rest is what follows the spelling. That
is only true if a run of characters ends where the reading ends it, which is why a run
has to be followed by markup.
-/

namespace Tablekeep.Markup

/-! ## Characters -/

/-- The character may stand in a document and is read as itself, which a carriage return is not. -/
def isVerbatim (c : Char) : Bool :=
  isCharacter c && c != '\r'

/-- The character also means nothing to the markup. -/
def isInert (c : Char) : Bool :=
  isVerbatim c && c != '<' && c != '&' && c != '>'

theorem isVerbatim_of_range {c : Char} (hle : 0x20 ≤ c.toNat) (hlt : c.toNat < 0xFFFE) :
    isVerbatim c = true := by
  have hcharacter : isCharacter c = true := by
    simp only [isCharacter, Bool.or_eq_true, Bool.and_eq_true, decide_eq_true_eq]
    omega
  have hne : c ≠ '\r' := by
    rintro rfl
    exact absurd hle (by decide)
  simp [isVerbatim, hcharacter, hne]

theorem isVerbatim_of_between {a b c : Char} (ha : a ≤ c) (hb : c ≤ b) (hlow : 0x20 ≤ a.toNat)
    (hhigh : b.toNat < 0xFFFE) : isVerbatim c = true :=
  isVerbatim_of_range (Nat.le_trans hlow ha) (Nat.lt_of_le_of_lt hb hhigh)

/-! ## Names -/

/-- The characters are a name without a colon. -/
def isName : List Char → Bool
  | [] => false
  | c :: cs => isNameStart c && cs.all isNameChar

/-- The character may stand in a tag right after its name. -/
def endsName (c : Char) : Bool :=
  !isNameChar c && c != ':'

theorem isNameChar_of_start {c : Char} (h : isNameStart c = true) : isNameChar c = true := by
  simp [isNameChar, h]

theorem all_isNameChar {name : List Char} (h : isName name = true) :
    ∀ c ∈ name, isNameChar c = true := by
  cases name with
  | nil => simp
  | cons c cs =>
      simp only [isName, Bool.and_eq_true, List.all_eq_true] at h
      exact List.forall_mem_cons.mpr ⟨isNameChar_of_start h.1, h.2⟩

theorem inRuns_range {runs : List (Nat × Nat)} {n low high : Nat}
    (hruns : ∀ r ∈ runs, low ≤ r.1 ∧ r.2 ≤ high) (h : Text.inRuns runs n = true) :
    low ≤ n ∧ n ≤ high := by
  simp only [Text.inRuns, List.any_eq_true, Bool.and_eq_true, decide_eq_true_eq] at h
  obtain ⟨r, hr, hfirst, hlast⟩ := h
  have := hruns r hr
  omega

/-- Names are made of characters of the basic plane, none of which is a control. -/
theorem isVerbatim_of_isNameChar {c : Char} (h : isNameChar c = true) : isVerbatim c = true := by
  have hstart : ∀ r ∈ nameStartRuns, 0x20 ≤ r.1 ∧ r.2 ≤ 0xFFFD := by decide +kernel
  have hextra : ∀ r ∈ nameExtraRuns, 0x20 ≤ r.1 ∧ r.2 ≤ 0xFFFD := by decide +kernel
  simp only [isNameChar, isNameStart, Text.isDigit, Bool.or_eq_true, beq_iff_eq] at h
  rcases h with (((h | h) | rfl) | rfl) | h
  · split at h
    · -- the letters of the first half, which are no table
      simp only [Bool.or_eq_true, Bool.and_eq_true, decide_eq_true_eq, beq_iff_eq] at h
      rcases h with (h | h) | rfl
      · exact isVerbatim_of_between h.1 h.2 (by decide) (by decide)
      · exact isVerbatim_of_between h.1 h.2 (by decide) (by decide)
      · decide
    · obtain ⟨hle, hlt⟩ := inRuns_range hstart h
      exact isVerbatim_of_range hle (by omega)
  · simp only [Bool.and_eq_true, decide_eq_true_eq] at h
    exact isVerbatim_of_between h.1 h.2 (by decide) (by decide)
  · decide
  · decide
  · obtain ⟨hle, hlt⟩ := inRuns_range hextra h
    exact isVerbatim_of_range hle (by omega)

/-- A test that holds of a list and fails right after it cuts there. -/
theorem takeWhile_append_cons {p : Char → Bool} {cs : List Char} {c : Char}
    (h : ∀ d ∈ cs, p d = true) (hc : p c = false) (rest : List Char) :
    (cs ++ c :: rest).takeWhile p = cs ∧ (cs ++ c :: rest).dropWhile p = c :: rest := by
  rw [List.takeWhile_append_of_pos h, List.dropWhile_append_of_pos h]
  simp [hc]

theorem name?_append {name rest : List Char} {c : Char} (h : isName name = true)
    (hc : isNameChar c = false) : name? (name ++ c :: rest) = some (name, c :: rest) := by
  cases name with
  | nil => cases h
  | cons d ds =>
      simp only [isName, Bool.and_eq_true, List.all_eq_true] at h
      obtain ⟨htake, hdrop⟩ := takeWhile_append_cons h.2 hc rest
      rw [List.cons_append, name?, if_pos h.1, htake, hdrop]

theorem qname?_append {name rest : List Char} {c : Char} (h : isName name = true)
    (hc : endsName c = true) : qname? (name ++ c :: rest) = some (⟨none, name⟩, c :: rest) := by
  simp only [endsName, Bool.and_eq_true, Bool.not_eq_true', bne_iff_ne] at hc
  simp only [qname?, name?_append h hc.1, Option.bind_eq_bind, Option.bind_some]
  split
  · rename_i heq
    cases heq
    exact absurd rfl hc.2
  · rfl

/-! ## Tags -/

/-- A tag without attributes, from after its opening bracket. -/
theorem startTag?_plain {name rest : List Char} (h : isName name = true) :
    startTag? .empty .initial (name ++ '>' :: rest)
      = some (⟨name, String.ofList name, false, .initial⟩, rest) := by
  have hend : endsName '>' = true := by decide
  have hspace : skipSpace ('>' :: rest) = '>' :: rest := by
    rw [skipSpace, List.dropWhile_cons_of_neg (by decide)]
  simp only [startTag?, qname?_append h hend, Option.bind_eq_bind, Option.bind_some]
  rw [tagAttributes?, hspace]
  rfl

theorem endTag?_plain {name rest : List Char} (h : isName name = true) :
    endTag? (name ++ '>' :: rest) = some (name, rest) := by
  have hall : ∀ c ∈ name, (isNameChar c || c == ':') = true := fun c hc => by
    simp [all_isNameChar h c hc]
  have hend : (isNameChar '>' || '>' == ':') = false := by decide
  obtain ⟨htake, hdrop⟩ := takeWhile_append_cons hall hend rest
  have hspace : skipSpace ('>' :: rest) = '>' :: rest := by
    rw [skipSpace, List.dropWhile_cons_of_neg (by decide)]
  simp only [endTag?, htake, hdrop, hspace]
  rfl

/-! ## Text -/

theorem mem_of_expect? {mark cs rest : List Char} (h : expect? mark cs = some rest) :
    ∀ c ∈ mark, c ∈ cs := by
  induction mark generalizing cs with
  | nil => simp
  | cons m mark ih =>
      cases cs with
      | nil => cases h
      | cons c cs =>
          rw [expect?] at h
          split at h
          · rename_i hmc
            refine List.forall_mem_cons.mpr ⟨by simp [hmc], fun d hd => ?_⟩
            exact List.mem_cons_of_mem _ (ih h d hd)
          · cases h

/-- A mark does not occur where one of its characters does not. -/
theorem until?_eq_none {mark cs : List Char} {m : Char} (hm : m ∈ mark) (h : m ∉ cs) :
    until? mark cs = none := by
  induction cs with
  | nil => rfl
  | cons c cs ih =>
      rw [until?]
      split
      · rename_i rest hexpect
        exact absurd (mem_of_expect? hexpect m hm) h
      · rw [ih fun hmem => h (List.mem_cons_of_mem _ hmem), Option.map_none]

/-- The characters after an ampersand refer to the character, whatever follows them. -/
structure RefersTo (body : List Char) (c : Char) : Prop where
  verbatim : ∀ d ∈ body, isVerbatim d = true
  read : ∀ tail, ∃ ref, reference? (body ++ tail) = some (ref, tail)
    ∧ (ref = .character c ∨ ∃ name, ref = .entity name ∧ predefined? name = some c)

/-- The names that always stand for a character refer to it. -/
theorem refersTo_entity {name : List Char} {c : Char} (hname : isName name = true)
    (hc : predefined? name = some c) : RefersTo (name ++ [';']) c where
  verbatim := by
    intro d hd
    rcases List.mem_append.mp hd with hd | hd
    · exact isVerbatim_of_isNameChar (all_isNameChar hname d hd)
    · rw [List.mem_singleton.mp hd]
      decide
  read := by
    intro tail
    have hend : isNameChar ';' = false := by decide
    have hread : name? (name ++ ';' :: tail) = some (name, ';' :: tail) :=
      name?_append hname hend
    refine ⟨.entity name, ?_, .inr ⟨name, rfl, hc⟩⟩
    rw [List.append_assoc, List.singleton_append]
    -- a name does not begin with the sign that announces a number
    have hnumber : ∀ cs, name ++ ';' :: tail ≠ '#' :: cs := by
      intro cs heq
      rw [heq, name?, if_neg (by decide)] at hread
      cases hread
    unfold reference?
    split
    · rename_i heq
      exact absurd heq (hnumber _)
    · rename_i heq
      exact absurd heq (hnumber _)
    · simp only [hread, Option.bind_eq_bind, Option.bind_some]
      rfl

/-! ## Spellings -/

/-- An element whose inside is written already. -/
def tagged (name inside : List Char) : List Char :=
  '<' :: (name ++ '>' :: (inside ++ '<' :: '/' :: (name ++ ['>'])))

theorem tagged_append (name inside rest : List Char) :
    tagged name inside ++ rest
      = '<' :: (name ++ '>' :: (inside ++ '<' :: '/' :: (name ++ '>' :: rest))) := by
  simp [tagged]

/-- Nothing follows, or markup does. -/
def AtMarkup (cs : List Char) : Prop :=
  ∀ c ∈ cs.head?, c = '<' ∨ c = '&'

/-- The characters spell the content. -/
inductive Spelled : List Char → Content → Prop where
  | empty : Spelled [] .empty
  /-- A run of characters that mean nothing to the markup, up to where markup begins. -/
  | run {cs run : List Char} {rest : Content} : run ≠ [] → (∀ c ∈ run, isInert c = true) →
      AtMarkup cs → Spelled cs rest →
      Spelled (run ++ cs) (.text (String.ofList run) rest)
  | reference {cs body : List Char} {c : Char} {rest : Content} : RefersTo body c →
      Spelled cs rest →
      Spelled ('&' :: body ++ cs) (.text (String.ofList [c]) rest)
  | element {name inside cs : List Char} {inner rest : Content} : isName name = true →
      Spelled inside inner → Spelled cs rest →
      Spelled (tagged name inside ++ cs) (.element (String.ofList name) inner rest)

/-- Nothing in a spelling is changed before it is read. -/
theorem Spelled.verbatim {cs : List Char} {content : Content} (h : Spelled cs content) :
    ∀ c ∈ cs, isVerbatim c = true := by
  have hmark : ∀ c ∈ ['<', '/', '>', '&'], isVerbatim c = true := by decide
  induction h with
  | empty => simp
  | run _ hrun _ _ ih =>
      intro c hc
      rcases List.mem_append.mp hc with hc | hc
      · have := hrun c hc
        simp only [isInert, Bool.and_eq_true] at this
        exact this.1.1.1
      · exact ih c hc
  | reference hbody _ ih =>
      intro c hc
      simp only [List.cons_append, List.mem_cons, List.mem_append] at hc
      rcases hc with rfl | hc | hc
      · exact hmark '&' (by simp)
      · exact hbody.verbatim c hc
      · exact ih c hc
  | element hname _ _ ihin ih =>
      intro c hc
      rw [tagged_append] at hc
      simp only [List.mem_cons, List.mem_append] at hc
      rcases hc with rfl | hc | rfl | hc | rfl | rfl | hc | rfl | hc
      · exact hmark '<' (by simp)
      · exact isVerbatim_of_isNameChar (all_isNameChar hname c hc)
      · exact hmark '>' (by simp)
      · exact ihin c hc
      · exact hmark '<' (by simp)
      · exact hmark '/' (by simp)
      · exact isVerbatim_of_isNameChar (all_isNameChar hname c hc)
      · exact hmark '>' (by simp)
      · exact ih c hc

/-! ## Elements next to each other -/

/-- The characters spell the element, which is given by its tag and what it holds. -/
inductive SpelledElement : List Char → String × Content → Prop where
  | tagged {name inside : List Char} {inner : Content} : isName name = true →
      Spelled inside inner → SpelledElement (tagged name inside) (String.ofList name, inner)

theorem spelledElement_tagged {name : String} {inside : List Char} {inner : Content}
    (hname : isName name.toList = true) (h : Spelled inside inner) :
    SpelledElement (tagged name.toList inside) (name, inner) := by
  have := SpelledElement.tagged hname h
  rwa [String.ofList_toList] at this

namespace Content

/-- Elements with nothing between them. -/
def dense : List (String × Content) → Content
  | [] => .empty
  | (tag, inner) :: rest => .element tag inner (dense rest)

/-- Elements with a gap before each of them and another after the last. -/
def spaced (gap last : String) : List (String × Content) → Content
  | [] => .text last .empty
  | (tag, inner) :: rest => .text gap (.element tag inner (spaced gap last rest))

theorem children_dense (elements : List (String × Content)) :
    (dense elements).children = elements := by
  induction elements with
  | nil => rfl
  | cons element elements ih => rw [dense, children, ih]

theorem ownText_dense (elements : List (String × Content)) : (dense elements).ownText = "" := by
  induction elements with
  | nil => rfl
  | cons element elements ih => rw [dense, ownText, ih]

end Content

theorem spelled_dense {css : List (List Char)} {elements : List (String × Content)}
    (h : List.Forall₂ SpelledElement css elements) :
    Spelled css.flatten (Content.dense elements) := by
  induction h with
  | nil => exact .empty
  | cons hhead _ ih =>
      cases hhead with
      | tagged hname hinside => exact .element hname hinside ih

theorem atMarkup_tagged (name inside rest : List Char) : AtMarkup (tagged name inside ++ rest) := by
  intro c hc
  rw [tagged_append] at hc
  cases hc
  exact .inl rfl

/-- Blank text that is a run of its own, as it stands between elements. -/
structure Gap (s : String) : Prop where
  blank : Text.Blank s
  inert : ∀ c ∈ s.toList, isInert c = true
  nonempty : s.toList ≠ []

/-- A gap before markup, or at the end. -/
theorem Gap.spelled {s : String} (h : Gap s) {cs : List Char} {rest : Content}
    (hmarkup : AtMarkup cs) (hcs : Spelled cs rest) : Spelled (s.toList ++ cs) (.text s rest) := by
  have hrun := Spelled.run h.nonempty h.inert hmarkup hcs
  rw [String.ofList_toList] at hrun
  exact hrun

theorem spelled_spaced {gap last : String} (hgap : Gap gap) (hlast : Gap last)
    {css : List (List Char)} {elements : List (String × Content)}
    (h : List.Forall₂ SpelledElement css elements) :
    Spelled (css.flatMap (gap.toList ++ ·) ++ last.toList) (Content.spaced gap last elements) := by
  induction h with
  | nil =>
      have hend := hlast.spelled (by simp [AtMarkup]) .empty
      rw [List.append_nil] at hend
      exact hend
  | @cons cs element css elements hhead _ ih =>
      rw [List.flatMap_cons, List.append_assoc, List.append_assoc]
      cases hhead with
      | tagged hname hinside =>
          exact hgap.spelled (atMarkup_tagged _ _ _) (.element hname hinside ih)

/-! ## Steps over the parts -/

section Steps

variable {p : Position} {cs : List Char}

theorem step_start {c : Char} (h : p.rest = '<' :: c :: cs) (hc : isNameStart c = true) :
    p.step .empty = p.stepStart .empty (c :: cs) := by
  unfold Position.step
  rw [h]
  -- every other kind of markup begins with a character that no name begins with
  split
  · rename_i heq
    cases heq
  · rename_i heq
    cases heq
    exact absurd hc (by decide)
  · rename_i heq
    cases heq
    exact absurd hc (by decide)
  · rename_i heq
    cases heq
    exact absurd hc (by decide)
  · rename_i heq
    cases heq
    rfl
  · rename_i heq
    cases heq
  · rename_i _ _ _ _ hno _ heq
    cases heq
    exact (hno rfl).elim

theorem step_element {name rest : List Char} (h : p.rest = '<' :: (name ++ '>' :: rest))
    (hname : isName name = true) (hscope : p.scope = .initial) :
    p.step .empty = .next [.start (String.ofList name)]
      { p with rest := rest, opened := ⟨name, .initial⟩ :: p.opened } := by
  cases hcons : name with
  | nil =>
      rw [hcons] at hname
      cases hname
  | cons c ds =>
      have hstart : isNameStart c = true := by
        simp only [hcons, isName, Bool.and_eq_true] at hname
        exact hname.1
      rw [← hcons]
      have hrest : p.rest = '<' :: c :: (ds ++ '>' :: rest) := by
        rw [h, hcons, List.cons_append]
      rw [step_start hrest hstart, Position.stepStart, hscope, ← List.cons_append, ← hcons,
        startTag?_plain hname]
      rfl

/-- The end of an element inside another one. -/
theorem step_close {name rest : List Char} {o : OpenElement} {outer : List OpenElement}
    (h : p.rest = '<' :: '/' :: (name ++ '>' :: rest)) (hname : isName name = true)
    (hentity : p.outer = []) (hopened : p.opened = ⟨name, .initial⟩ :: o :: outer) :
    p.step .empty = .next [.finish]
      { p with rest := rest, opened := o :: outer, scope := .initial } := by
  unfold Position.step
  rw [h]
  simp only [Position.stepEnd, endTag?_plain hname, hopened, hentity]
  simp

/-- The end of the outermost element. -/
theorem step_close_outermost {name rest : List Char}
    (h : p.rest = '<' :: '/' :: (name ++ '>' :: rest)) (hname : isName name = true)
    (hentity : p.outer = []) (hopened : p.opened = [⟨name, .initial⟩]) :
    p.step .empty = .done [.finish] rest := by
  unfold Position.step
  rw [h]
  simp only [Position.stepEnd, endTag?_plain hname, hopened, hentity]
  simp

theorem step_reference {body tail : List Char} {c : Char} (h : p.rest = '&' :: (body ++ tail))
    (hbody : RefersTo body c) :
    p.step .empty = .next [.text (String.ofList [c])] { p with rest := tail } := by
  obtain ⟨ref, href, hc⟩ := hbody.read tail
  unfold Position.step
  rw [h]
  simp only [Position.stepReference, href]
  rcases hc with rfl | ⟨name, rfl, hname⟩
  · rfl
  · simp [hname]

theorem step_run {run tail : List Char} (h : p.rest = run ++ tail) (hne : run ≠ [])
    (hrun : ∀ c ∈ run, isInert c = true) (htail : AtMarkup tail) (hmore : tail ≠ []) :
    p.step .empty = .next [.text (String.ofList run)] { p with rest := tail } := by
  have hplain : ∀ c ∈ run, (c != '<' && c != '&') = true := fun c hc => by
    have := hrun c hc
    simp only [isInert, Bool.and_eq_true] at this
    rw [this.1.1.2, this.1.2]
    rfl
  obtain ⟨m, ms, rfl⟩ := List.exists_cons_of_ne_nil hmore
  have hm : (m != '<' && m != '&') = false := by
    rcases htail m rfl with rfl | rfl <;> rfl
  obtain ⟨htake, hdrop⟩ := takeWhile_append_cons hplain hm ms
  -- the mark that may not occur in text ends in a character that is not inert
  have huntil : until? [']', ']', '>'] run = none := by
    refine until?_eq_none (m := '>') (by simp) fun hmem => ?_
    exact absurd (hrun '>' hmem) (by decide)
  have htext : p.stepText = .next [.text (String.ofList run)] { p with rest := m :: ms } := by
    simp only [Position.stepText, h, htake, hdrop, huntil]
    rfl
  rw [← htext]
  obtain ⟨c, cs, rfl⟩ := List.exists_cons_of_ne_nil hne
  have hc := hplain c (by simp)
  unfold Position.step
  rw [h, List.cons_append]
  split
  case h_1 heq => cases heq
  case h_7 => rfl
  all_goals
    rename_i heq
    obtain ⟨rfl, -⟩ := List.cons.inj heq
    exact absurd hc (by decide)

end Steps

/-! ## Reading a spelling -/

theorem contentFrom_next {d : Doctype} {fuel : Nat} {p q : Position} {es done : List Event}
    (h : p.step d = .next es q) :
    contentFrom d (fuel + 1) p done = contentFrom d fuel q (es.reverse ++ done) := by
  rw [contentFrom, h]

/-- **What is spelled is read**, in no more steps than there are characters, inside any open
elements. The rest is the end of the innermost of them. -/
theorem contentFrom_spelled {cs : List Char} {content : Content} (h : Spelled cs content)
    (o : OpenElement) (outer : List OpenElement) (rest : List Char) :
    ∃ k ≤ cs.length, ∀ fuel done,
      contentFrom .empty (fuel + k) ⟨cs ++ '<' :: rest, [], o :: outer, .initial⟩ done
        = contentFrom .empty fuel ⟨'<' :: rest, [], o :: outer, .initial⟩
            (content.events.reverse ++ done) := by
  induction h generalizing o outer rest with
  | empty => exact ⟨0, Nat.le_refl _, fun fuel done => rfl⟩
  | @run cs run content hne hrun hmarkup _ ih =>
      obtain ⟨k, hk, hread⟩ := ih o outer rest
      refine ⟨k + 1, ?_, fun fuel done => ?_⟩
      · have := List.length_pos_iff.mpr hne
        rw [List.length_append]
        omega
      · -- where nothing of the spelling follows, the end tag does
        have hstop : AtMarkup (cs ++ '<' :: rest) := by
          cases cs with
          | nil => simp [AtMarkup]
          | cons c cs => exact hmarkup
        rw [List.append_assoc, ← Nat.add_assoc,
          contentFrom_next (step_run rfl hne hrun hstop (by simp)), hread]
        simp [Content.events]
  | @reference cs body c content hbody _ ih =>
      obtain ⟨k, hk, hread⟩ := ih o outer rest
      refine ⟨k + 1, ?_, fun fuel done => ?_⟩
      · simp only [List.cons_append, List.length_cons, List.length_append]
        omega
      · rw [List.cons_append, List.cons_append, List.append_assoc, ← Nat.add_assoc,
          contentFrom_next (step_reference rfl hbody), hread]
        simp [Content.events]
  | @element name inside cs inner content hname _ _ ihin ih =>
      -- one step for each tag, and between them those of the inside, with one more element open
      obtain ⟨k₁, hk₁, hin⟩ :=
        ihin ⟨name, .initial⟩ (o :: outer) ('/' :: (name ++ '>' :: (cs ++ '<' :: rest)))
      obtain ⟨k₂, hk₂, hread⟩ := ih o outer rest
      refine ⟨k₂ + 1 + k₁ + 1, ?_, fun fuel done => ?_⟩
      · simp only [tagged_append, List.length_cons, List.length_append]
        omega
      · rw [List.append_assoc, tagged_append,
          show fuel + (k₂ + 1 + k₁ + 1) = fuel + k₂ + 1 + k₁ + 1 by omega,
          contentFrom_next (step_element rfl hname rfl), hin,
          contentFrom_next (step_close rfl hname rfl rfl), hread]
        simp [Content.events]

end Tablekeep.Markup
