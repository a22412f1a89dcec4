import Tablekeep.Proofs.Markup.Document
import Mathlib.Data.List.Infix

/-!
# Well-formed documents

The grammar of XML 1.0, as a relation between the characters of a document and the tree they
spell. It is independent of the reader: it has all names with colons, attributes, comments,
sections of character data and instructions, and nothing is said about how any of them is
found. Document types alone are left out; a document without `<!` has none.

The grammar is relative to the characters that a reference may name. `WellFormed` is the
case in which these are the characters that a document may hold. With more of them the
grammar still tells markup from text, so it can be said of a document that is not well
formed that its references are all that is wrong with it.

A document has many derivations to be thought of, so what can be read off all of them is
worth knowing. The one result here is of that sort: where there is neither a comment nor an
instruction nor a section, every ampersand begins a reference in every derivation.
-/

namespace Tablekeep.Markup

namespace Grammar

/-! ## Names and references -/

/-- Runs of the characters that may begin a name. -/
def nameStartRuns : List (Nat × Nat) :=
  [(0x3A, 0x3A), (0x41, 0x5A), (0x5F, 0x5F), (0x61, 0x7A), (0xC0, 0xD6), (0xD8, 0xF6),
    (0xF8, 0x2FF), (0x370, 0x37D), (0x37F, 0x1FFF), (0x200C, 0x200D), (0x2070, 0x218F),
    (0x2C00, 0x2FEF), (0x3001, 0xD7FF), (0xF900, 0xFDCF), (0xFDF0, 0xFFFD), (0x10000, 0xEFFFF)]

/-- Runs of the characters that may only stand further inside. -/
def nameInsideRuns : List (Nat × Nat) :=
  [(0x2D, 0x2E), (0x30, 0x39), (0xB7, 0xB7), (0x300, 0x36F), (0x203F, 0x2040)]

def isNameStart (c : Char) : Bool :=
  Text.inRuns nameStartRuns c.toNat

def isNameChar (c : Char) : Bool :=
  isNameStart c || Text.inRuns nameInsideRuns c.toNat

/-- The characters are a name. -/
def isName : List Char → Bool
  | [] => false
  | c :: cs => isNameStart c && cs.all isNameChar

/-- The number of the character that is meant between an ampersand and a semicolon. -/
def referredNumber? : List Char → Option Nat
  | '#' :: 'x' :: digits => Text.hex? digits
  | '#' :: digits => Text.decimal? digits
  | name => (predefined? name).map Char.toNat

section Relations

variable (may : Char → Prop)

/-- The characters between an ampersand and a semicolon refer to a character, which they may. -/
structure Refers (body : List Char) (c : Char) : Prop where
  number : referredNumber? body = some c.toNat
  allowed : may c

/-! ## Tags -/

/-- What stands between the quotes of an attribute. -/
inductive AttributeValue (quote : Char) : List Char → Prop where
  | empty : AttributeValue quote []
  | char {c : Char} {cs : List Char} : isCharacter c = true → c ∉ ['<', '&', quote] →
      AttributeValue quote cs → AttributeValue quote (c :: cs)
  | reference {body cs : List Char} {c : Char} : Refers may body c →
      AttributeValue quote cs → AttributeValue quote ('&' :: (body ++ ';' :: cs))

/-- Attributes of these names, each with blanks before it. -/
inductive Attributes : List (List Char) → List Char → Prop where
  | empty : Attributes [] []
  | cons {names : List (List Char)} {gap name left right value cs : List Char} {quote : Char} :
      gap ≠ [] → AllSpace gap → isName name = true → name ∉ names → AllSpace left →
      AllSpace right → quote ∈ ['"', '\''] → AttributeValue may quote value →
      Attributes names cs →
      Attributes (name :: names)
        (gap ++ (name ++ (left ++ '=' :: (right ++ quote :: (value ++ quote :: cs)))))

/-! ## Content -/

/-- The inside of a comment. -/
structure Comment (body : List Char) : Prop where
  characters : ∀ c ∈ body, isCharacter c = true
  /-- Two hyphens may stand only at its end. -/
  hyphens : ¬ ['-', '-'] <:+: body ++ ['-']

/-- The inside of a section of character data. -/
structure Section (body : List Char) : Prop where
  characters : ∀ c ∈ body, isCharacter c = true
  ending : ¬ [']', ']', '>'] <:+: body

/-- The inside of an instruction. The name of the declaration is reserved. -/
inductive Instruction : List Char → Prop where
  | bare {target : List Char} : isName target = true → target.map Char.toLower ≠ ['x', 'm', 'l'] →
      Instruction target
  | full {target body : List Char} {c : Char} : isName target = true →
      target.map Char.toLower ≠ ['x', 'm', 'l'] → isSpace c = true →
      (∀ d ∈ body, isCharacter d = true) → ¬ ['?', '>'] <:+: body →
      Instruction (target ++ c :: body)

/-- The characters are content, up to references to characters that are not allowed. -/
inductive Formed : List Char → Content → Prop where
  | empty : Formed [] .empty
  /-- The mark that ends a section must not stand in text. -/
  | char {c : Char} {cs : List Char} {rest : Content} : isCharacter c = true → c ≠ '<' → c ≠ '&' →
      ¬ [']', ']', '>'] <+: c :: cs → Formed cs rest →
      Formed (c :: cs) (.text (String.ofList [c]) rest)
  | reference {body cs : List Char} {c : Char} {rest : Content} : Refers may body c →
      Formed cs rest → Formed ('&' :: (body ++ ';' :: cs)) (.text (String.ofList [c]) rest)
  | element {name attributes gap inside gap' cs : List Char} {names : List (List Char)}
      {inner rest : Content} : isName name = true → Attributes may names attributes →
      AllSpace gap → Formed inside inner → AllSpace gap' → Formed cs rest →
      Formed ('<' :: (name ++ (attributes ++ (gap ++ '>' :: (inside ++
        '<' :: '/' :: (name ++ (gap' ++ '>' :: cs))))))) (.element (String.ofList name) inner rest)
  | emptyElement {name attributes gap cs : List Char} {names : List (List Char)}
      {rest : Content} : isName name = true → Attributes may names attributes → AllSpace gap →
      Formed cs rest →
      Formed ('<' :: (name ++ (attributes ++ (gap ++ '/' :: '>' :: cs))))
        (.element (String.ofList name) .empty rest)
  | comment {body cs : List Char} {rest : Content} : Comment body → Formed cs rest →
      Formed ('<' :: '!' :: '-' :: '-' :: (body ++ '-' :: '-' :: '>' :: cs)) rest
  | section_ {body cs : List Char} {rest : Content} : Section body → Formed cs rest →
      Formed ('<' :: '!' :: ("[CDATA[".toList ++ (body ++ ']' :: ']' :: '>' :: cs)))
        (.text (String.ofList body) rest)
  | instruction {body cs : List Char} {rest : Content} : Instruction body → Formed cs rest →
      Formed ('<' :: '?' :: (body ++ '?' :: '>' :: cs)) rest

/-! ## Documents -/

/-- What may stand before and after the outermost element. -/
inductive Misc : List Char → Prop where
  | empty : Misc []
  | space {c : Char} {cs : List Char} : isSpace c = true → Misc cs → Misc (c :: cs)
  | comment {body cs : List Char} : Comment body → Misc cs →
      Misc ('<' :: '!' :: '-' :: '-' :: (body ++ '-' :: '-' :: '>' :: cs))
  | instruction {body cs : List Char} : Instruction body → Misc cs →
      Misc ('<' :: '?' :: (body ++ '?' :: '>' :: cs))

/-- A part of the declaration, with blanks before it. -/
inductive Setting (key : String) (valid : List Char → Prop) : List Char → Prop where
  | mk {gap left right value : List Char} {quote : Char} : gap ≠ [] → AllSpace gap →
      AllSpace left → AllSpace right → quote ∈ ['"', '\''] → valid value →
      Setting key valid
        (gap ++ (key.toList ++ (left ++ '=' :: (right ++ quote :: (value ++ [quote])))))

/-- The versions that there are or may be. -/
def IsVersion (value : List Char) : Prop :=
  ∃ digits, value = '1' :: '.' :: digits ∧ digits ≠ [] ∧ ∀ c ∈ digits, Text.isDigit c = true

/-- The name of an encoding. -/
def IsEncoding (value : List Char) : Prop :=
  ∃ c cs, value = c :: cs ∧ c.isAlpha = true ∧ ∀ d ∈ cs, d.isAlphanum = true ∨ d ∈ ['.', '_', '-']

/-- The declaration. -/
inductive Declaration : List Char → Prop where
  | mk {version encoding standalone gap : List Char} : Setting "version" IsVersion version →
      encoding = [] ∨ Setting "encoding" IsEncoding encoding →
      standalone = [] ∨ Setting "standalone" (· ∈ ["yes".toList, "no".toList]) standalone →
      AllSpace gap →
      Declaration ("<?xml".toList ++ (version ++ (encoding ++ (standalone ++ (gap ++ ['?', '>'])))))

/-- The characters are a document of the element. -/
inductive Document : List Char → Element → Prop where
  | mk {declaration before cs after : List Char} {c : Char} {root : Element} :
      declaration = [] ∨ Declaration declaration → Misc before → isNameStart c = true →
      Formed may ('<' :: c :: cs) (.element root.tag root.content .empty) → Misc after →
      Document (declaration ++ (before ++ ('<' :: c :: cs ++ after))) root

end Relations

end Grammar

/-- The characters are a well-formed document. -/
def WellFormed (cs : List Char) : Prop :=
  ∃ root, Grammar.Document (fun c => isCharacter c = true) cs root

namespace Grammar

/-! ## Which character is meant -/

theorem isSome_of_foldlM_hex {cs : List Char} {n m : Nat}
    (h : cs.foldlM (fun n c => (Text.hexDigitValue? c).map (16 * n + ·)) n = some m) :
    ∀ c ∈ cs, (Text.hexDigitValue? c).isSome = true := by
  induction cs generalizing n with
  | nil => simp
  | cons c cs ih =>
      rw [List.foldlM_cons] at h
      cases hc : Text.hexDigitValue? c with
      | none =>
          rw [hc] at h
          cases h
      | some d =>
          rw [hc] at h
          exact List.forall_mem_cons.mpr ⟨by rw [hc]; rfl, ih h⟩

theorem mem_of_predefined? {name : List Char} {c : Char} (h : predefined? name = some c) :
    name ∈ ["lt".toList, "gt".toList, "amp".toList, "apos".toList, "quot".toList] := by
  by_contra hno
  simp only [String.reduceToList, List.mem_cons, List.not_mem_nil, or_false, not_or] at hno
  simp [predefined?, hno] at h

/-- A reference ends at the first semicolon, and no markup begins in it. -/
theorem not_mem_of_referredNumber? {body : List Char} {n : Nat}
    (h : referredNumber? body = some n) : ∀ m ∈ [';', '&', '<', '>'], m ∉ body := by
  intro m hm
  unfold referredNumber? at h
  split at h
  · rename_i digits
    have hdigit : ∀ m ∈ [';', '&', '<', '>'], m ≠ '#' ∧ m ≠ 'x'
        ∧ (Text.hexDigitValue? m).isSome = false := by decide
    obtain ⟨hsign, hx, hvalue⟩ := hdigit m hm
    unfold Text.hex? at h
    split at h
    · cases h
    · intro hmem
      simp only [List.mem_cons, hsign, hx, false_or] at hmem
      rw [isSome_of_foldlM_hex h m hmem] at hvalue
      cases hvalue
  · rename_i digits _
    have hdigit : ∀ m ∈ [';', '&', '<', '>'], m ≠ '#' ∧ Text.isDigit m = false := by decide
    obtain ⟨hsign, hvalue⟩ := hdigit m hm
    unfold Text.decimal? at h
    split at h
    · cases h
    · split at h
      · rename_i hall
        intro hmem
        simp only [List.mem_cons, hsign, false_or] at hmem
        rw [List.all_eq_true.mp hall m hmem] at hvalue
        cases hvalue
      · cases h
  · obtain ⟨c, hc, -⟩ := Option.map_eq_some_iff.mp h
    have hnames : ∀ name ∈ ["lt".toList, "gt".toList, "amp".toList, "apos".toList, "quot".toList],
        ∀ m ∈ [';', '&', '<', '>'], m ∉ name := by decide
    exact hnames body (mem_of_predefined? hc) m hm

/-- Where a reference begins, only one can. -/
theorem Refers.eq_of_append {may : Char → Prop} {body body' rest rest' : List Char} {c c' : Char}
    (hc : referredNumber? body = some c.toNat) (hc' : Refers may body' c')
    (h : body ++ ';' :: rest = body' ++ ';' :: rest') : c = c' := by
  have hends : ∀ {cs : List Char} {n : Nat} (tail : List Char), referredNumber? cs = some n →
      (cs ++ ';' :: tail).takeWhile (· ≠ ';') = cs := by
    intro cs n tail hn
    have hne := not_mem_of_referredNumber? hn ';' (by simp)
    refine (takeWhile_append_cons ?_ (by decide) tail).1
    intro d hd
    have : d ≠ ';' := by
      rintro rfl
      exact hne hd
    simpa using this
  have hbody : body = body' := by
    rw [← hends rest hc, h, hends rest' hc'.number]
  subst hbody
  have hnumber := hc'.number
  rw [hc, Option.some.injEq] at hnumber
  exact Char.toNat_inj.mp hnumber

/-! ## Marks and what has to follow them -/

/-- After every occurrence of the mark comes what `next` asks for. -/
def Followed (mark : Char) (next : List Char → Prop) (cs : List Char) : Prop :=
  ∀ before after, cs = before ++ mark :: after → next after

section Followed

variable {mark : Char} {next : List Char → Prop} {as bs cs : List Char}

theorem Followed.of_not_mem (h : mark ∉ cs) : Followed mark next cs := by
  rintro before after rfl
  exact absurd (by simp) h

theorem followed_cons_iff {c : Char} :
    Followed mark next (c :: cs) ↔ (c = mark → next cs) ∧ Followed mark next cs := by
  constructor
  · intro h
    refine ⟨?_, ?_⟩
    · rintro rfl
      exact h [] cs rfl
    · rintro before after rfl
      exact h (c :: before) after rfl
  · rintro ⟨hhead, htail⟩ before after heq
    cases before with
    | nil =>
        obtain ⟨rfl, rfl⟩ := List.cons.inj heq
        exact hhead rfl
    | cons b before =>
        obtain ⟨-, heq⟩ := List.cons.inj heq
        exact htail before after heq

theorem Followed.cons {c : Char} (hc : c ≠ mark) (h : Followed mark next cs) :
    Followed mark next (c :: cs) :=
  followed_cons_iff.mpr ⟨fun heq => absurd heq hc, h⟩

/-- What follows a mark may itself be followed by more. -/
theorem Followed.append (hnext : ∀ as bs, next as → next (as ++ bs)) (ha : Followed mark next as)
    (hb : Followed mark next bs) : Followed mark next (as ++ bs) := by
  induction as with
  | nil => exact hb
  | cons a as ih =>
      obtain ⟨hhead, htail⟩ := followed_cons_iff.mp ha
      exact followed_cons_iff.mpr ⟨fun heq => hnext as bs (hhead heq), ih htail⟩

end Followed

/-- Every ampersand begins a reference. -/
def Legible (may : Char → Prop) : List Char → Prop :=
  Followed '&' fun after => ∃ body c rest, after = body ++ ';' :: rest ∧ Refers may body c

/-- Every bracket opens a tag. -/
def Quiet : List Char → Prop :=
  Followed '<' fun after => ∃ c rest, after = c :: rest ∧ c ≠ '!' ∧ c ≠ '?'

section Marks

variable {may : Char → Prop} {as bs cs : List Char}

theorem Legible.append (ha : Legible may as) (hb : Legible may bs) : Legible may (as ++ bs) := by
  refine Followed.append ?_ ha hb
  rintro as bs ⟨body, c, rest, rfl, hrefers⟩
  exact ⟨body, c, rest ++ bs, by simp, hrefers⟩

theorem Legible.reference {body : List Char} {c : Char} (hbody : Refers may body c)
    (hcs : Legible may cs) : Legible may ('&' :: (body ++ ';' :: cs)) := by
  have hinside : Legible may body :=
    Followed.of_not_mem (not_mem_of_referredNumber? hbody.number '&' (by simp))
  exact followed_cons_iff.mpr ⟨fun _ => ⟨body, c, cs, rfl, hbody⟩,
    hinside.append (Followed.cons (by decide) hcs)⟩

theorem Quiet.append (ha : Quiet as) (hb : Quiet bs) : Quiet (as ++ bs) := by
  refine Followed.append ?_ ha hb
  rintro as bs ⟨c, rest, rfl, hc⟩
  exact ⟨c, rest ++ bs, rfl, hc⟩

/-- There are no comments, sections or instructions. -/
structure OnlyTags (cs : List Char) : Prop where
  bang : ¬ ['<', '!'] <:+: cs
  question : ¬ ['<', '?'] <:+: cs

theorem OnlyTags.infix_of (h : OnlyTags cs) (hpart : as <:+: cs) : OnlyTags as :=
  ⟨fun hin => h.bang (hin.trans hpart), fun hin => h.question (hin.trans hpart)⟩

theorem Quiet.onlyTags (h : Quiet cs) : OnlyTags cs := by
  have hnext : ∀ c, ['<', c] <:+: cs → c ≠ '!' ∧ c ≠ '?' := by
    rintro c ⟨before, after, heq⟩
    obtain ⟨d, rest, hd, hne⟩ := h before (c :: after) (by rw [← heq]; simp)
    obtain ⟨rfl, -⟩ := List.cons.inj hd
    exact hne
  exact ⟨fun hin => (hnext '!' hin).1 rfl, fun hin => (hnext '?' hin).2 rfl⟩

/-! ## Ampersands in a derivation -/

theorem not_isNameChar : ∀ c ∈ ['&', '<', '?', ' '], isNameChar c = false := by
  decide

theorem isNameChar_of_isName {name : List Char} (h : isName name = true) :
    ∀ c ∈ name, isNameChar c = true := by
  cases name with
  | nil => simp
  | cons c cs =>
      simp only [isName, Bool.and_eq_true, List.all_eq_true] at h
      exact List.forall_mem_cons.mpr ⟨by simp [isNameChar, h.1], h.2⟩

theorem legible_name {name : List Char} (h : isName name = true) : Legible may name := by
  refine Followed.of_not_mem fun hmem => ?_
  have := isNameChar_of_isName h '&' hmem
  rw [not_isNameChar '&' (by simp)] at this
  cases this

theorem legible_space {gap : List Char} (h : AllSpace gap) : Legible may gap := by
  refine Followed.of_not_mem fun hmem => ?_
  have := h '&' hmem
  revert this
  decide

theorem AttributeValue.legible {quote : Char} {value : List Char}
    (h : AttributeValue may quote value) : Legible may value := by
  induction h with
  | empty => exact Followed.of_not_mem (by simp)
  | char _ hc _ ih =>
      refine Followed.cons ?_ ih
      rintro rfl
      exact hc (by simp)
  | reference hbody _ ih => exact ih.reference hbody

theorem Attributes.legible {names : List (List Char)} {cs : List Char}
    (h : Attributes may names cs) : Legible may cs := by
  induction h with
  | empty => exact Followed.of_not_mem (by simp)
  | @cons names gap name left right value cs quote _ hgap hname _ hleft hright hquote hvalue _ ih =>
      have hmark : ∀ q ∈ ['"', '\''], q ≠ '&' := by decide
      have hquoted : Legible may (quote :: (value ++ quote :: cs)) :=
        Followed.cons (hmark quote hquote)
          (hvalue.legible.append (Followed.cons (hmark quote hquote) ih))
      have hequals : Legible may ('=' :: (right ++ quote :: (value ++ quote :: cs))) :=
        Followed.cons (by decide) ((legible_space hright).append hquoted)
      exact (legible_space hgap).append
        ((legible_name hname).append ((legible_space hleft).append hequals))

/-- Where there are only tags, an ampersand can be nothing but the beginning of a reference. -/
theorem Formed.legible {cs : List Char} {content : Content} (h : Formed may cs content)
    (htags : OnlyTags cs) : Legible may cs := by
  induction h with
  | empty => exact Followed.of_not_mem (by simp)
  | char _ _ hc _ _ ih =>
      exact Followed.cons hc (ih (htags.infix_of (List.infix_cons (List.infix_refl _))))
  | @reference body cs _ _ hbody _ ih =>
      have hrest := ih (htags.infix_of ⟨'&' :: (body ++ [';']), [], by simp⟩)
      exact hrest.reference hbody
  | @element name attributes gap inside gap' cs _ _ _ hname hattributes hgap _ hgap' _ ihin ih =>
      have hin := ihin (htags.infix_of ⟨'<' :: (name ++ (attributes ++ (gap ++ ['>']))),
        '<' :: '/' :: (name ++ (gap' ++ '>' :: cs)), by simp⟩)
      have hrest := ih (htags.infix_of ⟨'<' :: (name ++ (attributes ++ (gap ++ '>' :: (inside ++
        '<' :: '/' :: (name ++ (gap' ++ ['>'])))))), [], by simp⟩)
      have hend : Legible may ('<' :: '/' :: (name ++ (gap' ++ '>' :: cs))) :=
        Followed.cons (by decide) (Followed.cons (by decide)
          ((legible_name hname).append ((legible_space hgap').append
            (Followed.cons (by decide) hrest))))
      have hopen : Legible may (gap ++ '>' :: (inside ++ '<' :: '/' ::
          (name ++ (gap' ++ '>' :: cs)))) :=
        (legible_space hgap).append (Followed.cons (by decide) (hin.append hend))
      exact Followed.cons (by decide) ((legible_name hname).append
        (hattributes.legible.append hopen))
  | @emptyElement name attributes gap cs _ _ hname hattributes hgap _ ih =>
      have hrest := ih (htags.infix_of
        ⟨'<' :: (name ++ (attributes ++ (gap ++ ['/', '>']))), [], by simp⟩)
      have hend : Legible may (gap ++ '/' :: '>' :: cs) := (legible_space hgap).append
        (Followed.cons (by decide) (Followed.cons (by decide) hrest))
      exact Followed.cons (by decide) ((legible_name hname).append
        (hattributes.legible.append hend))
  | comment _ _ _ => exact absurd (List.prefix_iff_eq_append.mpr rfl).isInfix htags.bang
  | section_ _ _ _ => exact absurd (List.prefix_iff_eq_append.mpr rfl).isInfix htags.bang
  | instruction _ _ _ => exact absurd (List.prefix_iff_eq_append.mpr rfl).isInfix htags.question

theorem Misc.legible {cs : List Char} (h : Misc cs) (htags : OnlyTags cs) : Legible may cs := by
  induction h with
  | empty => exact Followed.of_not_mem (by simp)
  | @space c cs hc _ ih =>
      refine Followed.cons ?_ (ih (htags.infix_of (List.infix_cons (List.infix_refl _))))
      rintro rfl
      exact absurd hc (by decide)
  | comment _ _ _ => exact absurd (List.prefix_iff_eq_append.mpr rfl).isInfix htags.bang
  | instruction _ _ _ => exact absurd (List.prefix_iff_eq_append.mpr rfl).isInfix htags.question

theorem not_mem_of_allSpace {gap : List Char} (h : AllSpace gap) : '&' ∉ gap := by
  intro hmem
  have := h '&' hmem
  revert this
  decide

theorem Setting.not_mem {key : String} {valid : List Char → Prop} {cs : List Char}
    (h : Setting key valid cs) (hkey : '&' ∉ key.toList) (hvalid : ∀ v, valid v → '&' ∉ v) :
    '&' ∉ cs := by
  obtain ⟨-, hgap, hleft, hright, hquote, hvalue⟩ := h
  have hmark : ∀ q ∈ ['"', '\''], '&' ≠ q := by decide
  simp [not_mem_of_allSpace hgap, not_mem_of_allSpace hleft, not_mem_of_allSpace hright,
    hkey, hvalid _ hvalue, hmark _ hquote]

/-- There is nothing in the declaration that could be referred to. -/
theorem Declaration.not_mem {cs : List Char} (h : Declaration cs) : '&' ∉ cs := by
  obtain ⟨hversion, hencoding, hstandalone, hgap⟩ := h
  have hdigits : ∀ v, IsVersion v → '&' ∉ v := by
    rintro _ ⟨digits, rfl, -, hall⟩ hmem
    simp only [List.mem_cons, Char.reduceEq, false_or] at hmem
    have := hall '&' hmem
    revert this
    decide
  have hletters : ∀ v, IsEncoding v → '&' ∉ v := by
    rintro _ ⟨c, cs, rfl, hc, hall⟩ hmem
    rcases List.mem_cons.mp hmem with rfl | hmem
    · revert hc
      decide
    · have := hall '&' hmem
      revert this
      decide
  have hyes : ∀ v ∈ ["yes".toList, "no".toList], '&' ∉ v := by decide
  have hversion' := hversion.not_mem (by decide) hdigits
  have hencoding' := hencoding.elim (fun heq => by simp [heq])
    fun h => h.not_mem (by decide) hletters
  have hstandalone' := hstandalone.elim (fun heq => by simp [heq])
    fun h => h.not_mem (by decide) hyes
  simp [hversion', hencoding', hstandalone', not_mem_of_allSpace hgap]

/-- What begins like a declaration is no instruction. -/
theorem Instruction.ne_declaration {body : List Char} (h : Instruction body)
    (rest rest' : List Char) : body ++ '?' :: rest ≠ "xml".toList ++ ' ' :: rest' := by
  have htarget : ∀ {name : List Char} {c : Char} {tail : List Char}, isName name = true →
      isNameChar c = false → name ++ c :: tail = "xml".toList ++ ' ' :: rest' →
      name = "xml".toList := by
    intro name c tail hname hc heq
    have hword := takeWhile_append_cons (isNameChar_of_isName hname) hc tail
    have hletters : ∀ d ∈ "xml".toList, isNameChar d = true := by decide
    have hxml := takeWhile_append_cons hletters (not_isNameChar ' ' (by simp)) rest'
    rw [← hword.1, heq, hxml.1]
  intro heq
  cases h with
  | bare hname hreserved =>
      rw [htarget hname (not_isNameChar '?' (by simp)) heq] at hreserved
      exact hreserved (by decide)
  | @full target body c hname hreserved hc _ _ =>
      have hblank : isNameChar c = false := by
        simp only [isSpace, Bool.or_eq_true, beq_iff_eq] at hc
        rcases hc with ((rfl | rfl) | rfl) | rfl <;> decide
      rw [List.append_assoc, List.cons_append] at heq
      rw [htarget hname hblank heq] at hreserved
      exact hreserved (by decide)

/-- **In a document without comments and the like every ampersand begins a reference**, if it
begins with a declaration. -/
theorem Document.legible {cs : List Char} {root : Element}
    (h : Document may ('<' :: '?' :: ("xml".toList ++ ' ' :: cs)) root)
    (htags : OnlyTags ('?' :: ("xml".toList ++ ' ' :: cs))) :
    Legible may ('<' :: '?' :: ("xml".toList ++ ' ' :: cs)) := by
  generalize htotal : '<' :: '?' :: ("xml".toList ++ ' ' :: cs) = total at h ⊢
  obtain @⟨declaration, before, inside, after, c, root, hdeclaration, hbefore, hc, hformed,
    hafter⟩ := h
  rcases hdeclaration with rfl | hdeclaration
  · -- without a declaration there is nothing that could begin this way
    rw [List.nil_append] at htotal
    cases hbefore with
    | empty =>
        obtain ⟨rfl, -⟩ := List.cons.inj (List.cons.inj htotal).2
        have hno := not_isNameChar '?' (by simp)
        rw [isNameChar, hc] at hno
        cases hno
    | space hspace _ =>
        obtain ⟨rfl, -⟩ := List.cons.inj htotal
        exact absurd hspace (by decide)
    | comment _ _ =>
        obtain ⟨hmark, -⟩ := List.cons.inj (List.cons.inj htotal).2
        exact absurd hmark (by decide)
    | instruction hbody _ =>
        obtain ⟨-, heq⟩ := List.cons.inj (List.cons.inj htotal).2
        rw [List.append_eq, List.append_assoc, List.cons_append] at heq
        exact absurd heq.symm (hbody.ne_declaration _ _)
  · -- the declaration takes the first bracket, so that the others belong to what follows it
    have hrest : ∃ more, '?' :: ("xml".toList ++ ' ' :: cs)
        = more ++ (before ++ ('<' :: c :: inside ++ after)) := by
      obtain ⟨-, -, -, -⟩ := hdeclaration
      exact ⟨_, (List.cons.inj htotal).2⟩
    obtain ⟨more, hrest⟩ := hrest
    have hpart := htags.infix_of ⟨more, [], by rw [List.append_nil, hrest]⟩
    have hbefore' : Legible may before :=
      hbefore.legible (hpart.infix_of (List.prefix_append _ _).isInfix)
    have hformed' := hformed.legible
      (hpart.infix_of ⟨before, after, by simp⟩)
    have hafter' : Legible may after := hafter.legible
      (hpart.infix_of ⟨before ++ '<' :: c :: inside, [], by simp⟩)
    have hdeclaration' : Legible may declaration := Followed.of_not_mem hdeclaration.not_mem
    exact hdeclaration'.append (hbefore'.append (hformed'.append hafter'))

end Marks

end Grammar

end Tablekeep.Markup
