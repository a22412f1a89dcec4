import Tablekeep.Definition.Plural
import Tablekeep.Proofs.Definition.Validity

/-!
# Nouns with the same plural

Two tables of different names may have one plural: *bus* and *buse*, *category* and
*categorie*, *new* and *news*. This file says exactly when that happens to names in ASCII.

Letter case is out of the way first: the plural of a name in lower case is what the rules
make of the name in lower case, which is `ofWord`. What is left are words, and each of
them takes its plural by one of six rules. Two rules can meet in one plural only where
the ending that one of them adds is the end of what the other one adds, and those are
the cases of `Clash`.
-/

namespace Tablekeep.Text

theorem endsWith_iff {whole ending : String} :
    endsWith whole ending = true ↔ ending.toList <:+ whole.toList := by
  rw [endsWith, isStart, List.isPrefixOf_iff_prefix, List.reverse_prefix]

/-- All characters are of the first half of the basic Latin block. -/
def Ascii (s : String) : Prop := ∀ c ∈ s.toList, c.toNat < 0x80

instance (s : String) : Decidable (Ascii s) :=
  List.decidableBAll _ s.toList

/-- Among ASCII characters lower case does not depend on the place. -/
theorem toList_lower_ascii {s : String} (h : Ascii s) :
    (lower s).toList = s.toList.map Char.toLower := by
  have hfrom : ∀ cs before : List Char, (∀ c ∈ cs, c.toNat < 0x80) →
      lowerFrom before cs = cs.map Char.toLower := by
    intro cs
    induction cs with
    | nil => intro _ _; rfl
    | cons c cs ih =>
        intro before hcs
        obtain ⟨hc, hcs⟩ := List.forall_mem_cons.mp hcs
        have hsigma : c ≠ capitalSigma := by
          rintro rfl
          exact absurd hc (by decide)
        rw [lowerFrom, if_neg hsigma, ih _ hcs, lowerChar, if_pos hc]
        rfl
  rw [lower, String.toList_ofList]
  exact hfrom _ _ h

theorem lower_append_ascii {s t : String} (hs : Ascii s) (ht : Ascii t) :
    lower (s ++ t) = lower s ++ lower t := by
  have hst : Ascii (s ++ t) := by
    intro c hc
    rw [String.toList_append] at hc
    rcases List.mem_append.mp hc with hc | hc
    · exact hs c hc
    · exact ht c hc
  rw [← String.toList_inj, String.toList_append, toList_lower_ascii hst, toList_lower_ascii hs,
    toList_lower_ascii ht, String.toList_append, List.map_append]

end Tablekeep.Text

namespace Tablekeep.Plural

/-! ## Words in lower case -/

/-- The word has neither a plural of its own nor none. -/
def Regular (w : String) : Prop :=
  w ∉ invariant ∧ irregular.lookup w = none

/-- The word takes `es`. -/
def isSibilant (w : String) : Bool :=
  sibilants.any (Text.endsWith w)

/-- The plural of a word in lower case. -/
def ofWord (w : String) : String :=
  if w.isEmpty then w
  else if w ∈ invariant then w
  else
    match irregular.lookup w with
    | some plural => plural
    | none =>
      if isSibilant w then w ++ "es"
      else if endsInConsonantY w then dropLast w ++ "ies"
      else w ++ "s"

/-- An irregular plural takes the case of the noun, and is what it was in lower case. -/
theorem lower_withCaseOf {w name plural : String} (h : irregular.lookup w = some plural) :
    Text.lower (withCaseOf name plural) = plural := by
  have hall : ∀ x ∈ irregular, Text.lower x.2 = x.2
      ∧ Text.lower (String.ofList ((x.2.toList.take 1).map Char.toUpper ++ x.2.toList.tail))
        = x.2 := by
    decide +kernel
  obtain ⟨_, _, hsplit, -⟩ := List.lookup_eq_some_iff.mp h
  obtain ⟨hplain, hcapital⟩ := hall (w, plural) (by rw [hsplit]; simp)
  unfold withCaseOf
  split
  · rename_i hcs
    split
    · rw [hcs] at hcapital
      exact hcapital
    · exact hplain
  · exact hplain

/-- **Letter case does not matter to the plural of a name in ASCII.** -/
theorem lower_ofName {name : String} (h : Text.Ascii name) :
    Text.lower (ofName name) = ofWord (Text.lower name) := by
  have hempty : (Text.lower name).isEmpty = name.isEmpty := by
    rw [Bool.eq_iff_iff, String.isEmpty_iff, String.isEmpty_iff, ← String.toList_inj,
      ← String.toList_inj, Text.toList_lower_ascii h]
    simp
  have happend : ∀ ending, Text.Ascii ending → Text.lower ending = ending →
      Text.lower (name ++ ending) = Text.lower name ++ ending := by
    intro ending hending hlower
    rw [Text.lower_append_ascii h hending, hlower]
  have hdrop : Text.lower (dropLast name ++ "ies") = dropLast (Text.lower name) ++ "ies" := by
    have hshort : Text.Ascii (dropLast name) := by
      intro c hc
      rw [dropLast, String.toList_ofList] at hc
      exact h c ((List.dropLast_sublist _).mem hc)
    have hlower : Text.lower (dropLast name) = dropLast (Text.lower name) := by
      rw [← String.toList_inj, Text.toList_lower_ascii hshort, dropLast, dropLast,
        String.toList_ofList, String.toList_ofList, Text.toList_lower_ascii h, List.map_dropLast]
    have hies : Text.lower "ies" = "ies" := by decide
    rw [Text.lower_append_ascii hshort (by decide), hlower, hies]
  rw [ofName, ofWord]
  by_cases hname : name.isEmpty = true
  · rw [if_pos hname, hempty, if_pos hname]
  · rw [if_neg hname, hempty, if_neg hname]
    by_cases hinvariant : Text.lower name ∈ invariant
    · rw [if_pos (by simpa using hinvariant), if_pos hinvariant]
    · rw [if_neg (by simpa using hinvariant), if_neg hinvariant]
      cases hplural : irregular.lookup (Text.lower name) with
      | some plural => exact lower_withCaseOf hplural
      | none =>
          dsimp only
          by_cases hsibilant : isSibilant (Text.lower name) = true
          · rw [← isSibilant, if_pos hsibilant, if_pos hsibilant]
            exact happend "es" (by decide) (by decide)
          · rw [← isSibilant, if_neg hsibilant, if_neg hsibilant]
            by_cases hconsonant : endsInConsonantY (Text.lower name) = true
            · rw [if_pos hconsonant, if_pos hconsonant]
              exact hdrop
            · rw [if_neg hconsonant, if_neg hconsonant]
              exact happend "s" (by decide) (by decide)

/-! ## Rules -/

/-- How a word in lower case takes its plural. -/
inductive Rule (w plural : String) : Prop where
  | empty : w = "" → plural = "" → Rule w plural
  | invariant : w ∈ invariant → plural = w → Rule w plural
  | irregular : irregular.lookup w = some plural → Rule w plural
  | sibilant : Regular w → isSibilant w = true → plural = w ++ "es" → Rule w plural
  | consonant (stem : String) : endsInConsonantY w = true → w = stem ++ "y" →
      plural = stem ++ "ies" → Rule w plural
  | other : Regular w → plural = w ++ "s" → Rule w plural

theorem eq_append_of_endsInConsonantY {w : String} (h : endsInConsonantY w = true) :
    w = dropLast w ++ "y" := by
  unfold endsInConsonantY at h
  split at h
  · rename_i c cs hrev
    have hlist : w.toList = (c :: cs).reverse ++ ['y'] := by
      rw [← List.reverse_reverse w.toList, hrev, List.reverse_cons]
    rw [← String.toList_inj, String.toList_append, dropLast, String.toList_ofList, hlist,
      List.dropLast_concat]
    rfl
  · cases h

theorem rule_ofWord (w : String) : Rule w (ofWord w) := by
  unfold ofWord
  split
  · rename_i hw
    rw [String.isEmpty_iff] at hw
    subst hw
    exact .empty rfl rfl
  · split
    · rename_i hw
      exact .invariant hw rfl
    · rename_i hinvariant
      split
      · rename_i plural hplural
        exact .irregular hplural
      · rename_i hirregular
        have hregular : Regular w := ⟨hinvariant, hirregular⟩
        split
        · rename_i hsibilant
          exact .sibilant hregular hsibilant rfl
        · split
          · rename_i hconsonant
            exact .consonant _ hconsonant (eq_append_of_endsInConsonantY hconsonant) rfl
          · exact .other hregular rfl

/-! ## Where two rules meet -/

/-- Two words in lower case that have one plural. -/
inductive Clash : String → String → Prop where
  /-- *bus* and *buse* -/
  | sibilant {w : String} : Regular w → Regular (w ++ "e") → isSibilant w = true →
      Clash w (w ++ "e")
  /-- *category* and *categorie* -/
  | consonant {stem : String} : endsInConsonantY (stem ++ "y") = true →
      Clash (stem ++ "y") (stem ++ "ie")
  /-- *news* and *new* -/
  | invariant {w : String} : w ++ "s" ∈ invariant → Clash (w ++ "s") w
  /-- *series* and *sery* -/
  | invariantConsonant {stem : String} : stem ++ "ies" ∈ Plural.invariant →
      Clash (stem ++ "ies") (stem ++ "y")

theorem append_cancel {a b x y : String} (h : a ++ x = b ++ y)
    (hlength : x.toList.length = y.toList.length) : a = b := by
  have hlist := congrArg String.toList h
  rw [String.toList_append, String.toList_append] at hlist
  exact String.toList_inj.mp (List.append_inj_left' hlist hlength)

theorem dropLast_append (w : String) (c : Char) : dropLast (w ++ String.ofList [c]) = w := by
  rw [← String.toList_inj, dropLast, String.toList_ofList, String.toList_append,
    String.toList_ofList, List.dropLast_concat]

/-- Plurals that are looked up are none that another rule makes. -/
theorem irregular_plural {w plural : String} (h : irregular.lookup w = some plural) :
    plural ≠ "" ∧ plural ∉ invariant ∧ Text.endsWith plural "s" = false
      ∧ ∀ v, irregular.lookup v = some plural → v = w := by
  have hall : ∀ x ∈ irregular, x.2 ≠ "" ∧ x.2 ∉ invariant ∧ Text.endsWith x.2 "s" = false
      ∧ ∀ y ∈ irregular, y.2 = x.2 → y.1 = x.1 := by decide +kernel
  have hmem : ∀ v, irregular.lookup v = some plural → (v, plural) ∈ irregular := by
    intro v hv
    obtain ⟨_, _, hsplit, -⟩ := List.lookup_eq_some_iff.mp hv
    rw [hsplit]
    simp
  obtain ⟨hempty, hinvariant, hs, hsame⟩ := hall _ (hmem w h)
  exact ⟨hempty, hinvariant, hs, fun v hv => hsame _ (hmem v hv) rfl⟩

theorem endsWith_append (w ending : String) : Text.endsWith (w ++ ending) ending = true := by
  rw [Text.endsWith_iff, String.toList_append]
  exact List.suffix_append _ _

theorem isSibilant_append {c : Char} (hc : c ∉ ['s', 'x', 'z', 'h']) (w : String) :
    isSibilant (w ++ String.ofList [c]) = false := by
  simp only [List.mem_cons, List.not_mem_nil, or_false, not_or] at hc
  obtain ⟨hs, hx, hz, hh⟩ := hc
  simp [isSibilant, sibilants, Text.endsWith, Text.isStart, List.isPrefixOf, Ne.symm hs, Ne.symm hx,
    Ne.symm hz, Ne.symm hh]

/-- A word to which `es` could be added to make an invariant one takes another ending. -/
theorem not_invariant_of_isSibilant {w : String} (h : isSibilant w = true) :
    w ++ "es" ∉ invariant := by
  have hall : ∀ u ∈ invariant, isSibilant (dropLast (dropLast u)) = false := by decide +kernel
  intro hmem
  have hes : w ++ "es" = (w ++ "e") ++ String.ofList ['s'] := by
    rw [String.append_assoc]
    rfl
  have hw := hall _ hmem
  rw [hes, dropLast_append, show "e" = String.ofList ['e'] from rfl, dropLast_append, h] at hw
  cases hw

theorem not_irregular_of_endsWith {w plural : String} (h : Text.endsWith plural "s" = true) :
    irregular.lookup w ≠ some plural := by
  intro hw
  rw [(irregular_plural hw).2.2.1] at h
  cases h

theorem endsWith_es (w : String) : Text.endsWith (w ++ "es") "s" = true := by
  have := endsWith_append (w ++ "e") "s"
  rwa [String.append_assoc] at this

theorem endsWith_ies (w : String) : Text.endsWith (w ++ "ies") "s" = true := by
  have := endsWith_append (w ++ "ie") "s"
  rwa [String.append_assoc] at this

/-! Every rule but the last against those that are tried after it -/

theorem eq_of_rule_empty {b : String} (hb : Rule b "") : b = "" := by
  have happend : ∀ w ending : String, ending ≠ "" → "" ≠ w ++ ending := by
    intro w ending hending h
    have := congrArg String.toList h
    rw [String.toList_append, String.toList_empty] at this
    exact hending (String.toList_eq_nil_iff.mp (List.append_eq_nil_iff.mp this.symm).2)
  cases hb with
  | empty hb => exact hb
  | invariant hb heq => exact heq.symm
  | irregular hb => exact absurd rfl (irregular_plural hb).1
  | sibilant _ _ heq => exact absurd heq (happend _ _ (by decide))
  | consonant _ _ _ heq => exact absurd heq (happend _ _ (by decide))
  | other _ heq => exact absurd heq (happend _ _ (by decide))

theorem eq_of_rule_irregular {a b plural : String} (ha : irregular.lookup a = some plural)
    (hb : Rule b plural) : b = a := by
  obtain ⟨hempty, hinvariant, -, hsame⟩ := irregular_plural ha
  cases hb with
  | empty _ heq => exact absurd heq hempty
  | invariant hb heq => exact absurd (heq ▸ hb) hinvariant
  | irregular hb => exact hsame b hb
  | sibilant _ _ heq => exact absurd ha (not_irregular_of_endsWith (heq ▸ endsWith_es b))
  | consonant stem _ _ heq => exact absurd ha (not_irregular_of_endsWith (heq ▸ endsWith_ies stem))
  | other _ heq => exact absurd ha (not_irregular_of_endsWith (heq ▸ endsWith_append b "s"))

theorem clash_of_rule_invariant {a b : String} (ha : a ∈ invariant) (hb : Rule b a) :
    a = b ∨ Clash a b := by
  cases hb with
  | empty hb heq => exact .inl (heq.trans hb.symm)
  | invariant _ heq => exact .inl heq
  | irregular hb => exact absurd ha (irregular_plural hb).2.1
  | sibilant _ hsibilant heq => exact absurd (heq ▸ ha) (not_invariant_of_isSibilant hsibilant)
  | consonant stem _ hb heq =>
      subst hb heq
      exact .inr (.invariantConsonant ha)
  | other _ heq =>
      subst heq
      exact .inr (.invariant ha)

theorem clash_of_rule_sibilant {a b : String} (ha : Regular a) (hsibilant : isSibilant a = true)
    (hb : Rule b (a ++ "es")) : a = b ∨ Clash a b := by
  cases hb with
  | empty hb heq => exact .inl (absurd heq (by simp))
  | invariant hb heq => exact absurd (heq ▸ hb) (not_invariant_of_isSibilant hsibilant)
  | irregular hb => exact absurd hb (not_irregular_of_endsWith (endsWith_es a))
  | sibilant _ _ heq => exact .inl (append_cancel heq rfl)
  | consonant stem _ _ heq =>
      -- the word would end in the letter before the ending
      have hstem : a = stem ++ "i" := by
        refine append_cancel (x := "es") (y := "es") ?_ rfl
        rw [heq, String.append_assoc]
        rfl
      rw [hstem, show "i" = String.ofList ['i'] from rfl,
        isSibilant_append (by decide)] at hsibilant
      cases hsibilant
  | other hregular heq =>
      have hb : a ++ "e" = b := by
        refine append_cancel (x := "s") (y := "s") ?_ rfl
        rw [← heq, String.append_assoc]
        rfl
      subst hb
      exact .inr (.sibilant ha hregular hsibilant)

theorem clash_of_rule_consonant {stem b : String}
    (ha : endsInConsonantY (stem ++ "y") = true) (hb : Rule b (stem ++ "ies")) :
    stem ++ "y" = b ∨ Clash (stem ++ "y") b ∨ Clash b (stem ++ "y") := by
  cases hb with
  | empty hb heq => exact .inl (absurd heq (by simp))
  | invariant hb heq =>
      subst heq
      exact .inr (.inr (.invariantConsonant hb))
  | irregular hb => exact absurd hb (not_irregular_of_endsWith (endsWith_ies stem))
  | sibilant _ hsibilant heq =>
      have hstem : stem ++ "i" = b := by
        refine append_cancel (x := "es") (y := "es") ?_ rfl
        rw [← heq, String.append_assoc]
        rfl
      rw [← hstem, show "i" = String.ofList ['i'] from rfl, isSibilant_append (by decide)]
        at hsibilant
      cases hsibilant
  | consonant stem' _ hb heq =>
      rw [hb, append_cancel heq rfl]
      exact .inl rfl
  | other _ heq =>
      have hb : stem ++ "ie" = b := by
        refine append_cancel (x := "s") (y := "s") ?_ rfl
        rw [← heq, String.append_assoc]
        rfl
      subst hb
      exact .inr (.inl (.consonant ha))

/-- Words with one plural are one word, or two that clash. -/
theorem clash_of_rule {a b plural : String} (ha : Rule a plural) (hb : Rule b plural) :
    a = b ∨ Clash a b ∨ Clash b a := by
  have hturn : b = a ∨ Clash b a → a = b ∨ Clash a b ∨ Clash b a := by
    rintro (h | h)
    · exact .inl h.symm
    · exact .inr (.inr h)
  have hkeep : a = b ∨ Clash a b → a = b ∨ Clash a b ∨ Clash b a := by
    rintro (h | h)
    · exact .inl h
    · exact .inr (.inl h)
  cases ha with
  | empty ha heq =>
      subst ha heq
      exact .inl (eq_of_rule_empty hb).symm
  | invariant ha heq =>
      subst heq
      exact hkeep (clash_of_rule_invariant ha hb)
  | irregular ha => exact .inl (eq_of_rule_irregular ha hb).symm
  | sibilant ha hsibilant heq =>
      subst heq
      exact hkeep (clash_of_rule_sibilant ha hsibilant hb)
  | consonant stem hconsonant ha heq =>
      subst ha heq
      exact clash_of_rule_consonant hconsonant hb
  | other hregular heq =>
      -- the last rule against itself is all that is left, once the words have changed places
      have ha : Rule a plural := .other hregular heq
      cases hb with
      | empty hb heq =>
          subst hb heq
          exact .inl (eq_of_rule_empty ha)
      | invariant hb heq =>
          subst heq
          exact hturn (clash_of_rule_invariant hb ha)
      | irregular hb => exact .inl (eq_of_rule_irregular hb ha)
      | sibilant hb hsibilant heq =>
          subst heq
          exact hturn (clash_of_rule_sibilant hb hsibilant ha)
      | consonant stem hconsonant hb heq =>
          subst hb heq
          rcases clash_of_rule_consonant hconsonant ha with h | h | h
          · exact .inl h.symm
          · exact .inr (.inr h)
          · exact .inr (.inl h)
      | other _ heq' => exact .inl (append_cancel (heq.symm.trans heq') rfl)

/-! ## Clashes share a plural -/

theorem regular_append {ending : String}
    (hinvariant : ∀ u ∈ invariant, Text.endsWith u ending = false)
    (hirregular : ∀ x ∈ irregular, Text.endsWith x.1 ending = false) (w : String) :
    Regular (w ++ ending) := by
  have hends := endsWith_append w ending
  constructor
  · intro hmem
    rw [hinvariant _ hmem] at hends
    cases hends
  · rw [List.lookup_eq_none_iff]
    intro x hx
    rw [bne_iff_ne]
    intro heq
    rw [heq, hirregular x hx] at hends
    cases hends

theorem ofWord_sibilant {w : String} (h : Regular w) (hsibilant : isSibilant w = true) :
    ofWord w = w ++ "es" := by
  have hne : w.isEmpty = false := by
    rw [← Bool.not_eq_true, String.isEmpty_iff]
    rintro rfl
    exact absurd hsibilant (by decide)
  simp [ofWord, hne, h.1, h.2, hsibilant]

theorem ofWord_consonant {stem : String} (h : endsInConsonantY (stem ++ "y") = true) :
    ofWord (stem ++ "y") = stem ++ "ies" := by
  have hregular : Regular (stem ++ "y") := regular_append (by decide +kernel) (by decide +kernel) _
  have hsibilant : isSibilant (stem ++ "y") = false := isSibilant_append (c := 'y') (by decide) stem
  have hdrop : dropLast (stem ++ "y") = stem := dropLast_append stem 'y'
  simp [ofWord, hregular.1, hregular.2, hsibilant, h, hdrop]

/-- After an *e* the plural is formed with an *s*. -/
theorem ofWord_append_e {w : String} (h : Regular (w ++ "e")) :
    ofWord (w ++ "e") = w ++ "e" ++ "s" := by
  have hsibilant : isSibilant (w ++ "e") = false := isSibilant_append (c := 'e') (by decide) w
  have hconsonant : endsInConsonantY (w ++ "e") = false := by
    simp [endsInConsonantY]
  simp [ofWord, h.1, h.2, hsibilant, hconsonant]

theorem ofWord_eq_of_clash {a b : String} (h : Clash a b) : ofWord a = ofWord b := by
  cases h with
  | sibilant hregular hregular' hsibilant =>
      rw [ofWord_sibilant hregular hsibilant, ofWord_append_e hregular', String.append_assoc]
      rfl
  | @consonant stem hconsonant =>
      have hregular : Regular (stem ++ "ie") :=
        regular_append (by decide +kernel) (by decide +kernel) _
      have hie : stem ++ "ie" = stem ++ "i" ++ "e" := by
        rw [String.append_assoc]
        rfl
      rw [ofWord_consonant hconsonant, hie, ofWord_append_e (hie ▸ hregular), ← hie,
        String.append_assoc]
      rfl
  | invariant hmem =>
      have hall : ∀ u ∈ Plural.invariant, Text.endsWith u "s" = true →
          ofWord u = ofWord (dropLast u) := by decide +kernel
      have := hall _ hmem (endsWith_append b "s")
      rwa [show "s" = String.ofList ['s'] from rfl, dropLast_append] at this
  | @invariantConsonant stem hmem =>
      have hall : ∀ u ∈ Plural.invariant, Text.endsWith u "ies" = true →
          ofWord u = ofWord (dropLast (dropLast (dropLast u)) ++ "y") := by decide +kernel
      have hies : stem ++ "ies" = stem ++ String.ofList ['i'] ++ String.ofList ['e']
          ++ String.ofList ['s'] := by
        rw [String.append_assoc, String.append_assoc]
        rfl
      have := hall _ hmem (endsWith_append stem "ies")
      rw [this, hies, dropLast_append, dropLast_append, dropLast_append]

/-- **Words that have one plural.** -/
theorem ofWord_eq_iff {a b : String} : ofWord a = ofWord b ↔ a = b ∨ Clash a b ∨ Clash b a := by
  constructor
  · intro h
    exact clash_of_rule (rule_ofWord a) (h ▸ rule_ofWord b)
  · rintro (rfl | h | h)
    · rfl
    · exact ofWord_eq_of_clash h
    · exact (ofWord_eq_of_clash h).symm

/-- **Names that have one plural**, in whatever letter case. -/
theorem sameName_ofName_iff {a b : String} (ha : Text.Ascii a) (hb : Text.Ascii b) :
    Text.sameName (ofName a) (ofName b) = true ↔
      Text.sameName a b = true ∨ Clash (Text.lower a) (Text.lower b)
        ∨ Clash (Text.lower b) (Text.lower a) := by
  rw [Text.sameName_iff, Text.sameName_iff, lower_ofName ha, lower_ofName hb, ofWord_eq_iff]

end Tablekeep.Plural
