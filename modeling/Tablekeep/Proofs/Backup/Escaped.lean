import Tablekeep.Proofs.Backup.Plain
import Tablekeep.Proofs.Text.Utf8

/-!
# Escaped text is read as what was kept of it

Escaping writes some characters as they are, drops a few, and writes a reference for each
of the others. Reading undoes the references, so what comes back is the text without the
characters that are dropped, provided that a document may hold the ones that are kept.

Plain characters next to each other are read as one run. The induction over the text
therefore carries the run that has not ended yet.
-/

namespace Tablekeep.Backup

open Markup

/-! ## Numbers of characters -/

theorem hexUpperDigit_spec : ∀ d < 16, Text.hexDigitValue? (Text.hexUpperDigit d) = some d
    ∧ Text.hexUpperDigit d ≠ ';' ∧ isVerbatim (Text.hexUpperDigit d) = true := by
  decide

theorem hexUpper_digits (n : Nat) : ∀ c ∈ Text.hexUpper n, ∃ d < 16, c = Text.hexUpperDigit d := by
  induction n using Text.hexUpper.induct with
  | case1 n h =>
      rw [Text.hexUpper, dif_pos h]
      intro c hc
      exact ⟨n, h, List.mem_singleton.mp hc⟩
  | case2 n h ih =>
      rw [Text.hexUpper, dif_neg h]
      intro c hc
      rcases List.mem_append.mp hc with hc | hc
      · exact ih c hc
      · exact ⟨n % 16, Nat.mod_lt _ (by decide), List.mem_singleton.mp hc⟩

theorem hexUpper_ne_nil (n : Nat) : Text.hexUpper n ≠ [] := by
  rw [Text.hexUpper]
  split <;> simp

theorem foldlM_hexUpper (n : Nat) :
    (Text.hexUpper n).foldlM (fun n c => (Text.hexDigitValue? c).map (16 * n + ·)) 0 = some n := by
  induction n using Text.hexUpper.induct with
  | case1 n h =>
      rw [Text.hexUpper, dif_pos h]
      simp [(hexUpperDigit_spec n h).1]
  | case2 n h ih =>
      have hdigit := (hexUpperDigit_spec (n % 16) (Nat.mod_lt _ (by decide))).1
      have hsum : 16 * (n / 16) + n % 16 = n := Nat.div_add_mod n 16
      rw [Text.hexUpper, dif_neg h, List.foldlM_append, ih]
      simp [hdigit, hsum]

/-- The digits of a number are read as this number. -/
theorem hex?_hexUpper (n : Nat) : Text.hex? (Text.hexUpper n) = some n := by
  have hempty : (Text.hexUpper n).isEmpty = false := by simp [hexUpper_ne_nil n]
  simp only [Text.hex?, hempty, Bool.false_eq_true, ↓reduceIte]
  exact foldlM_hexUpper n

theorem character?_toNat {c : Char} (h : isCharacter c = true) : character? c.toNat = some c := by
  have hvalid : c.toNat.isValidChar := c.valid
  rw [character?, dif_pos hvalid, Text.Utf8.ofNatAux_toNat, if_pos h]

/-! ## References -/

/-- A reference by number is read as the character. -/
theorem refersTo_number {c : Char} (h : isCharacter c = true) :
    RefersTo ('#' :: 'x' :: (Text.hexUpper c.toNat ++ [';'])) c where
  verbatim := by
    intro d hd
    simp only [List.mem_cons, List.mem_append, List.not_mem_nil, or_false] at hd
    rcases hd with rfl | rfl | hd | rfl
    · decide
    · decide
    · obtain ⟨k, hk, rfl⟩ := hexUpper_digits _ d hd
      exact (hexUpperDigit_spec k hk).2.2
    · decide
  read := by
    intro tail
    have hdigits : ∀ d ∈ Text.hexUpper c.toNat, decide (d ≠ ';') = true := by
      intro d hd
      obtain ⟨k, hk, rfl⟩ := hexUpper_digits _ d hd
      simpa using (hexUpperDigit_spec k hk).2.1
    have hend : decide (';' ≠ ';') = false := by decide
    obtain ⟨htake, hdrop⟩ := takeWhile_append_cons hdigits hend tail
    refine ⟨.character c, ?_, .inl rfl⟩
    simp only [List.cons_append, List.append_assoc, List.nil_append, reference?,
      characterReference?, htake, hdrop, hex?_hexUpper, Option.bind_eq_bind, Option.bind_some,
      character?_toNat h]
    rfl

/-- The characters with a reference by name: the name stands for them, and they are not dropped. -/
theorem namedReference?_spec {c : Char} {written : String} (h : namedReference? c = some written) :
    ∃ name, written.toList = '&' :: (name ++ [';']) ∧ isName name = true
      ∧ predefined? name = some c ∧ isDropped c = false := by
  unfold namedReference? at h
  split at h
  · rename_i hc
    cases h
    exact ⟨['l', 't'], rfl, by decide, by rw [hc]; rfl, by rw [hc]; decide⟩
  split at h
  · rename_i hc
    cases h
    exact ⟨['g', 't'], rfl, by decide, by rw [hc]; rfl, by rw [hc]; decide⟩
  split at h
  · rename_i hc
    cases h
    exact ⟨['a', 'm', 'p'], rfl, by decide, by rw [hc]; rfl, by rw [hc]; decide⟩
  split at h
  · rename_i hc
    cases h
    exact ⟨['a', 'p', 'o', 's'], rfl, by decide, by rw [hc]; rfl, by rw [hc]; decide⟩
  split at h
  · rename_i hc
    cases h
    exact ⟨['q', 'u', 'o', 't'], rfl, by decide, by rw [hc]; rfl, by rw [hc]; decide⟩
  · cases h

/-! ## What is kept -/

/-- The text without the characters that are dropped. -/
def kept (s : String) : String :=
  String.ofList (s.toList.filter fun c => !isDropped c)

theorem not_isDropped_of_isPlain {c : Char} (h : isPlain c = true) : isDropped c = false := by
  have hdropped : ∀ n ∈ droppedCodePoints, isPlain (Char.ofNat n) = false := by decide
  rw [← Bool.not_eq_true]
  intro hd
  have hmem : c.toNat ∈ droppedCodePoints := by simpa [isDropped] using hd
  have hplain := hdropped _ hmem
  rw [Char.ofNat_toNat, h] at hplain
  cases hplain

/-- The three fates of a character: it is kept as it is, kept as a reference, or dropped. -/
theorem escapeChar_cases (c : Char) :
    (isDropped c = false ∧ isInert c = true ∧ escapeChar c = [c])
      ∨ (isDropped c = false
          ∧ ∃ body, escapeChar c = '&' :: body ∧ (isCharacter c = true → RefersTo body c))
      ∨ isDropped c = true ∧ escapeChar c = [] := by
  unfold escapeChar
  by_cases hplain : isPlain c = true
  · rw [if_pos hplain]
    exact .inl ⟨not_isDropped_of_isPlain hplain, isInert_of_isPlain hplain, rfl⟩
  · rw [if_neg hplain]
    cases hname : namedReference? c with
    | some written =>
        obtain ⟨name, hwritten, hisName, hc, hkept⟩ := namedReference?_spec hname
        exact .inr (.inl ⟨hkept, _, hwritten, fun _ => refersTo_entity hisName hc⟩)
    | none =>
        by_cases hdropped : isDropped c = true
        · exact .inr (.inr ⟨hdropped, by simp [hdropped]⟩)
        · refine .inr (.inl ⟨by simpa using hdropped, _, ?_, refersTo_number⟩)
          simp only [hdropped, Bool.false_eq_true, ↓reduceIte]
          rfl

/-- Dropped characters are not written. -/
theorem escape_kept (s : String) : escape (kept s) = escape s := by
  have hlist : ∀ cs : List Char,
      (cs.filter fun c => !isDropped c).flatMap escapeChar = cs.flatMap escapeChar := by
    intro cs
    induction cs with
    | nil => rfl
    | cons c cs ih =>
        rw [List.flatMap_cons]
        rcases escapeChar_cases c with ⟨hkept, -, -⟩ | ⟨hkept, -⟩ | ⟨hdropped, hnothing⟩
        · rw [List.filter_cons_of_pos (by simp [hkept]), List.flatMap_cons, ih]
        · rw [List.filter_cons_of_pos (by simp [hkept]), List.flatMap_cons, ih]
        · rw [List.filter_cons_of_neg (by simp [hdropped]), hnothing, ih]
          rfl
  rw [escape, escape, kept, String.toList_ofList, hlist]

/-! ## Reading what was escaped -/

/-- A text that is content on its own. -/
structure SpelledText (cs : List Char) (text : String) (content : Content) : Prop where
  spelled : Spelled cs content
  children : content.children = []
  ownText : content.ownText = text

/-- A run before markup, or nothing if it is empty. -/
theorem SpelledText.after_run {run cs : List Char} {text : String} {content : Content}
    (h : SpelledText cs text content) (hrun : ∀ c ∈ run, isInert c = true)
    (hmarkup : AtMarkup cs) :
    ∃ content, SpelledText (run ++ cs) (String.ofList run ++ text) content := by
  by_cases hempty : run = []
  · subst hempty
    refine ⟨content, ?_⟩
    simpa using h
  · refine ⟨.text (String.ofList run) content, .run hempty hrun hmarkup h.spelled, ?_, ?_⟩
    · rw [Content.children, h.children]
    · rw [Content.ownText, h.ownText]

/-- The run before the text is one that has begun already. -/
theorem exists_spelledText_append (run cs : List Char) (hrun : ∀ c ∈ run, isInert c = true)
    (hcs : ∀ c ∈ cs, isDropped c = false → isCharacter c = true) :
    ∃ content, SpelledText (run ++ cs.flatMap escapeChar)
      (String.ofList (run ++ cs.filter fun c => !isDropped c)) content := by
  induction cs generalizing run with
  | nil =>
      have hempty : SpelledText [] "" .empty := ⟨.empty, rfl, rfl⟩
      obtain ⟨content, h⟩ := hempty.after_run hrun (by simp [AtMarkup])
      exact ⟨content, by simpa using h⟩
  | cons c cs ih =>
      obtain ⟨hc, hcs⟩ := List.forall_mem_cons.mp hcs
      rw [List.flatMap_cons]
      rcases escapeChar_cases c with ⟨hkept, hinert, hescape⟩ | ⟨hkept, body, hescape, hrefers⟩ |
        ⟨hdropped, hescape⟩
      · -- the run goes on
        have hlonger : ∀ d ∈ run ++ [c], isInert d = true := by
          intro d hd
          rcases List.mem_append.mp hd with hd | hd
          · exact hrun d hd
          · rw [List.mem_singleton.mp hd]
            exact hinert
        obtain ⟨content, h⟩ := ih _ hlonger hcs
        refine ⟨content, ?_⟩
        rw [hescape, List.filter_cons_of_pos (by simp [hkept])]
        simpa using h
      · -- the run ends before the reference, and another may begin after it
        obtain ⟨content, h⟩ := ih [] (by simp) hcs
        rw [List.nil_append, List.nil_append] at h
        have hreference : SpelledText ('&' :: body ++ cs.flatMap escapeChar)
            (String.ofList [c] ++ String.ofList (cs.filter fun c => !isDropped c))
            (.text (String.ofList [c]) content) :=
          ⟨.reference (hrefers (hc hkept)) h.spelled, h.children,
            by rw [Content.ownText, h.ownText]⟩
        obtain ⟨content, h⟩ := hreference.after_run hrun (by simp [AtMarkup])
        refine ⟨content, ?_⟩
        rw [hescape, List.filter_cons_of_pos (by simp [hkept])]
        rw [← String.ofList_append, ← String.ofList_append] at h
        exact h
      · obtain ⟨content, h⟩ := ih _ hrun hcs
        refine ⟨content, ?_⟩
        rw [hescape, List.filter_cons_of_neg (by simp [hdropped]), List.nil_append]
        exact h

/-- **An escaped text spells what is kept of it**, if a document may hold that. -/
theorem exists_spelledText_escape {s : String}
    (h : ∀ c ∈ s.toList, isDropped c = false → isCharacter c = true) :
    ∃ content, SpelledText (escape s).toList (kept s) content := by
  have := exists_spelledText_append [] s.toList (by simp) h
  simpa [escape, kept] using this

/-- A plain text spells itself. -/
theorem exists_spelledText_plain {s : String} (h : Plain s.toList) :
    ∃ content, SpelledText s.toList s content := by
  have := exists_spelledText_append s.toList [] (fun c hc => isInert_of_isPlain (h c hc)) (by simp)
  simpa using this

end Tablekeep.Backup
