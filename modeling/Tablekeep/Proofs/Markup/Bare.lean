import Tablekeep.Proofs.Markup.WellFormed

/-!
# Bare documents

What is written without attributes, comments and the like has a relation of its own, `Bare`.
Such content is well formed exactly when all of its characters are allowed. One direction
follows the derivation. The other one looks at the characters: there is no markup but tags,
so that the ampersand of a reference is one in every derivation.
-/

namespace Tablekeep.Markup

namespace Grammar

/-- The characters are content without attributes, comments, sections and instructions, and with a
closing tag for every element. References may name any character. -/
inductive Bare : List Char → Content → Prop where
  | empty : Bare [] .empty
  | char {c : Char} {cs : List Char} {rest : Content} : isCharacter c = true → c ≠ '<' → c ≠ '&' →
      ¬ [']', ']', '>'] <+: c :: cs → Bare cs rest →
      Bare (c :: cs) (.text (String.ofList [c]) rest)
  | reference {body cs : List Char} {c : Char} {rest : Content} :
      referredNumber? body = some c.toNat → Bare cs rest →
      Bare ('&' :: (body ++ ';' :: cs)) (.text (String.ofList [c]) rest)
  | element {name inside cs : List Char} {inner rest : Content} : isName name = true →
      Bare inside inner → Bare cs rest →
      Bare (tagged name inside ++ cs) (.element (String.ofList name) inner rest)

end Grammar

namespace Content

/-- All characters of the content, also those inside elements. -/
def characters : Content → List Char
  | empty => []
  | text s rest => s.toList ++ rest.characters
  | element _ inner rest => inner.characters ++ rest.characters

theorem mem_characters_iff {content : Content} {c : Char} :
    c ∈ content.characters ↔
      c ∈ content.ownText.toList ∨ ∃ child ∈ content.children, c ∈ child.2.characters := by
  induction content with
  | empty => simp [characters, ownText, children]
  | text s rest ih => simp [characters, ownText, children, ih, or_assoc]
  | element tag inner rest _ ih =>
      simp only [characters, ownText, children, List.mem_append, ih, List.mem_cons,
        exists_eq_or_imp]
      exact or_left_comm

end Content

namespace Grammar

variable {cs : List Char} {content : Content}

theorem isNameStart_of_isName {name : List Char} (h : isName name = true) :
    ∃ c rest, name = c :: rest ∧ isNameStart c = true := by
  cases name with
  | nil => cases h
  | cons c rest =>
      simp only [isName, Bool.and_eq_true] at h
      exact ⟨c, rest, rfl, h.1⟩

/-- Bare content is content, if its characters are allowed. -/
theorem Bare.formed {may : Char → Prop} (h : Bare cs content)
    (hmay : ∀ c ∈ content.characters, may c) : Formed may cs content := by
  induction h with
  | empty => exact .empty
  | char hc hbracket hamp hend _ ih =>
      simp only [Content.characters, List.mem_append] at hmay
      exact .char hc hbracket hamp hend (ih fun d hd => hmay d (.inr hd))
  | @reference body cs c rest hbody _ ih =>
      simp only [Content.characters, String.toList_ofList, List.mem_append, List.mem_singleton]
        at hmay
      exact .reference ⟨hbody, hmay c (.inl rfl)⟩ (ih fun d hd => hmay d (.inr hd))
  | @element name inside cs inner rest hname _ _ ihin ih =>
      simp only [Content.characters, List.mem_append] at hmay
      have hin := ihin fun d hd => hmay d (.inl hd)
      have hrest := ih fun d hd => hmay d (.inr hd)
      have hnone : AllSpace [] := by simp [AllSpace]
      have := Formed.element hname .empty hnone hin hnone hrest
      rw [tagged_append]
      exact this

/-- Its only markup are tags. -/
theorem Bare.quiet (h : Bare cs content) : Quiet cs := by
  induction h with
  | empty => exact Followed.of_not_mem (by simp)
  | char _ hbracket _ _ _ ih => exact Followed.cons hbracket ih
  | @reference body cs _ _ hbody _ ih =>
      have hin : Quiet body :=
        Followed.of_not_mem (not_mem_of_referredNumber? hbody '<' (by simp))
      exact Followed.cons (by decide) (hin.append (Followed.cons (by decide) ih))
  | @element name inside cs _ _ hname _ _ ihin ih =>
      obtain ⟨c, rest, rfl, hc⟩ := isNameStart_of_isName hname
      have hletters : Quiet (c :: rest) := by
        refine Followed.of_not_mem fun hmem => ?_
        have := isNameChar_of_isName hname '<' hmem
        rw [not_isNameChar '<' (by simp)] at this
        cases this
      have hbang : c ≠ '!' := by
        rintro rfl
        revert hc
        decide
      have hquestion : c ≠ '?' := by
        rintro rfl
        revert hc
        decide
      have hend : Quiet ('<' :: '/' :: (c :: rest ++ '>' :: cs)) :=
        followed_cons_iff.mpr ⟨fun _ => ⟨_, _, rfl, by decide, by decide⟩,
          Followed.cons (by decide) (hletters.append (Followed.cons (by decide) ih))⟩
      rw [tagged_append]
      exact followed_cons_iff.mpr ⟨fun _ => ⟨c, _, rfl, hbang, hquestion⟩,
        hletters.append (Followed.cons (by decide) (ihin.append hend))⟩

/-- Each of its characters is allowed or is referred to somewhere. -/
theorem Bare.mem_characters (h : Bare cs content) {c : Char} (hc : c ∈ content.characters) :
    isCharacter c = true ∨ ∃ before body after, cs = before ++ '&' :: (body ++ ';' :: after)
      ∧ referredNumber? body = some c.toNat := by
  induction h with
  | empty => cases hc
  | @char d cs rest hd _ _ _ _ ih =>
      simp only [Content.characters, String.toList_ofList, List.mem_append, List.mem_singleton]
        at hc
      rcases hc with rfl | hc
      · exact .inl hd
      · rcases ih hc with hc | ⟨before, body, after, rfl, hbody⟩
        · exact .inl hc
        · exact .inr ⟨d :: before, body, after, rfl, hbody⟩
  | @reference body cs d rest hd _ ih =>
      simp only [Content.characters, String.toList_ofList, List.mem_append, List.mem_singleton]
        at hc
      rcases hc with rfl | hc
      · exact .inr ⟨[], body, cs, rfl, hd⟩
      · rcases ih hc with hc | ⟨before, body', after, rfl, hbody⟩
        · exact .inl hc
        · exact .inr ⟨'&' :: (body ++ ';' :: before), body', after, by simp, hbody⟩
  | @element name inside cs inner rest _ _ _ ihin ih =>
      simp only [Content.characters, List.mem_append] at hc
      rcases hc with hc | hc
      · rcases ihin hc with hc | ⟨before, body, after, rfl, hbody⟩
        · exact .inl hc
        · exact .inr ⟨'<' :: (name ++ '>' :: before), body,
            after ++ '<' :: '/' :: (name ++ '>' :: cs), by simp [tagged_append], hbody⟩
      · rcases ih hc with hc | ⟨before, body, after, rfl, hbody⟩
        · exact .inl hc
        · exact .inr ⟨tagged name inside ++ before, body, after, by simp, hbody⟩

theorem declaration_header : Grammar.Declaration header := by
  have hnone : AllSpace [] := by simp [AllSpace]
  have hblank : AllSpace [' '] := by simp [AllSpace, isSpace]
  have hversion : IsVersion "1.0".toList := ⟨['0'], rfl, by simp, by decide⟩
  have hsetting : Setting "version" IsVersion " version=\"1.0\"".toList :=
    .mk (by simp) hblank hnone hnone (List.mem_cons_self ..) hversion
  exact .mk hsetting (.inl rfl) (.inl rfl) hnone

/-- **A bare element after a declaration is a document, and a well-formed one exactly when all of
its characters are allowed.** -/
theorem wellFormed_iff {name inside : List Char} (hname : isName name = true)
    (h : Bare inside content) :
    (∀ may : Char → Prop, (∀ c ∈ content.characters, may c) →
      Document may (header ++ '\n' :: tagged name inside) ⟨String.ofList name, content⟩)
    ∧ (WellFormed (header ++ '\n' :: tagged name inside) ↔
        ∀ c ∈ content.characters, isCharacter c = true) := by
  have helement : Bare (tagged name inside) (.element (String.ofList name) content .empty) := by
    have := Bare.element hname h .empty
    rw [List.append_nil] at this
    exact this
  have hcharacters : ∀ c, c ∈ (Content.element (String.ofList name) content .empty).characters
      ↔ c ∈ content.characters := by
    intro c
    simp [Content.characters]
  have hdocument : ∀ may : Char → Prop, (∀ c ∈ content.characters, may c) →
      Document may (header ++ '\n' :: tagged name inside) ⟨String.ofList name, content⟩ := by
    intro may hmay
    have hformed : Formed may (tagged name inside)
        (.element (String.ofList name) content .empty) :=
      helement.formed fun c hc => hmay c ((hcharacters c).mp hc)
    obtain ⟨c, rest, rfl, hc⟩ := isNameStart_of_isName hname
    have hspace : Misc ['\n'] := .space (by decide) .empty
    have hall : Document may (header ++ (['\n'] ++ (tagged (c :: rest) inside ++ [])))
        ⟨String.ofList (c :: rest), content⟩ :=
      .mk (.inr declaration_header) hspace hc hformed .empty
    rw [List.append_nil] at hall
    exact hall
  refine ⟨hdocument, ?_, fun hall => ⟨_, hdocument _ hall⟩⟩
  rintro ⟨root, hroot⟩ c hc
  rcases helement.mem_characters ((hcharacters c).mpr hc) with
    hc | ⟨before, body, after, hcs, hbody⟩
  · exact hc
  · -- the document has the ampersand too, and what begins there is the same reference
    have hletters : Quiet "?xml version=\"1.0\"?>\n".toList := Followed.of_not_mem (by decide)
    have htags := (hletters.append helement.quiet).onlyTags
    have hlegible : Legible _ ('<' :: '?' :: ("xml".toList ++ ' ' ::
        ("version=\"1.0\"?>\n".toList ++ tagged name inside))) := Document.legible hroot htags
    obtain ⟨body', c', after', hafter, hrefers⟩ :=
      hlegible (header ++ '\n' :: before) (body ++ ';' :: after) (by
        rw [hcs, List.append_assoc]
        rfl)
    rw [hrefers.eq_of_append hbody hafter]
    exact hrefers.allowed

end Grammar

end Tablekeep.Markup
