import Tablekeep.Proofs.Text.Blank

/-!
# Words and lines of a text that was put together

Words are joined by spaces into lines, and lines by line feeds into a text. Cutting the text up
gives the same lines and words again, as long as there is no blank in a word.

Everything about words rests on one equation, `wordsFrom_append_blank`: a blank cuts a text into
two that are read on their own. A line feed does the same to lines, where no other line end comes
before it.

Where a text is cut at every character of one kind, a piece without that character stays whole.
-/

namespace Tablekeep.Text

/-! ## Words -/

/-- There is no blank in the text. -/
def Solid (s : String) : Prop := ∀ c ∈ s.toList, isBlank c = false

instance (s : String) : Decidable (Solid s) :=
  inferInstanceAs (Decidable (∀ c ∈ s.toList, isBlank c = false))

theorem Solid.append {s t : String} (hs : Solid s) (ht : Solid t) : Solid (s ++ t) := by
  intro c hc
  rw [String.toList_append, List.mem_append] at hc
  exact hc.elim (hs c) (ht c)

/-- No blank is a character of such a text. -/
theorem Solid.not_mem {s : String} (h : Solid s) {c : Char} (hc : isBlank c = true) :
    c ∉ s.toList := by
  intro hmem
  rw [h c hmem] at hc
  cases hc

/-- A text that is read as one word, whatever it says. -/
structure IsWord (w : String) : Prop where
  nonempty : w ≠ ""
  solid : Solid w

instance (w : String) : Decidable (IsWord w) :=
  decidable_of_iff (w ≠ "" ∧ Solid w) ⟨fun h => ⟨h.1, h.2⟩, fun h => ⟨h.1, h.2⟩⟩

/-- Blanks in front of a word are trimmed. -/
theorem trim_before {w : String} (h : IsWord w) (before : List Char)
    (hbefore : ∀ c ∈ before, isBlank c = true) :
    trim (String.ofList (before ++ w.toList)) = w := by
  have hfirst (cs : List Char) (hcs : ∀ c ∈ cs, isBlank c = false) :
      cs.dropWhile isBlank = cs := by
    cases cs with
    | nil => rfl
    | cons c cs => rw [List.dropWhile_cons, (List.forall_mem_cons.mp hcs).1, if_neg nofun]
  have hfront : dropBlanks (before ++ w.toList) = w.toList := by
    rw [dropBlanks, List.dropWhile_append, List.dropWhile_eq_nil_iff.mpr hbefore]
    exact hfirst _ h.solid
  have hback : dropBlanksEnd w.toList = w.toList := by
    rw [dropBlanksEnd, hfirst _ fun c hc => h.solid c (List.mem_reverse.mp hc),
      List.reverse_reverse]
  rw [trim, String.toList_ofList, hfront, hback, String.ofList_toList]

/-! ## Stops

A text is divided at the first character of a class. It is a blank that divides words. -/

section Stop

variable {p : Char → Bool} {s t x y : String}

/-- What stands before the first stop of a text is taken off it. -/
theorem takeWhile_stop (hs : ∀ c ∈ s.toList, p c = false)
    (hx : x.toList.head?.any p = true) : (s ++ x).toList.takeWhile (!p ·) = s.toList := by
  have hstop : x.toList.takeWhile (!p ·) = [] := by
    cases hcs : x.toList with
    | nil => rfl
    | cons c cs =>
        rw [hcs] at hx
        simp only [List.head?_cons, Option.any_some] at hx
        simp [hx]
  rw [String.toList_append, List.takeWhile_append_of_pos fun c hc => by simp [hs c hc], hstop,
    List.append_nil]

/-- **Two texts that are the same, each taken as what comes before its first stop and the rest, are
the same in both.** -/
theorem append_inj_of_stop (hs : ∀ c ∈ s.toList, p c = false) (ht : ∀ c ∈ t.toList, p c = false)
    (hx : x.toList.head?.any p = true) (hy : y.toList.head?.any p = true)
    (h : s ++ x = t ++ y) : s = t ∧ x = y := by
  have hst : s = t := by
    rw [← String.toList_inj, ← takeWhile_stop hs hx, h, takeWhile_stop ht hy]
  subst hst
  exact ⟨rfl, (String.append_right_inj s).mp h⟩

end Stop

/-- The text goes on with a blank. -/
def BeginsBlank (s : String) : Prop := s.toList.head?.any isBlank = true

instance (s : String) : Decidable (BeginsBlank s) :=
  inferInstanceAs (Decidable (s.toList.head?.any isBlank = true))

theorem BeginsBlank.append {s : String} (h : BeginsBlank s) (t : String) :
    BeginsBlank (s ++ t) := by
  unfold BeginsBlank at *
  rw [String.toList_append, List.head?_append]
  cases hs : s.toList.head? with
  | none => rw [hs] at h; cases h
  | some c => rw [hs] at h; exact h

theorem Solid.append_inj {s t x y : String} (hs : Solid s) (ht : Solid t) (hx : BeginsBlank x)
    (hy : BeginsBlank y) (h : s ++ x = t ++ y) : s = t ∧ x = y :=
  append_inj_of_stop hs ht hx hy h

/-! ## Joining -/

/-- Every text but the first comes after a gap. -/
theorem join_cons (gap s : String) (rest : List String) :
    join gap (s :: rest) = s ++ String.join (rest.map (gap ++ ·)) := by
  induction rest generalizing s with
  | nil => simp [join]
  | cons t rest ih =>
      rw [join, ih, List.map_cons, String.join_cons, String.append_assoc, String.append_assoc]

theorem mem_join {gap : String} {texts : List String} {c : Char}
    (h : c ∈ (join gap texts).toList) : c ∈ gap.toList ∨ ∃ t ∈ texts, c ∈ t.toList := by
  induction texts using join.induct with
  | case1 => simp [join] at h
  | case2 s => exact .inr ⟨s, by simp, h⟩
  | case3 s t rest ih =>
      rw [join, String.toList_append, String.toList_append, List.mem_append, List.mem_append] at h
      rcases h with (h | h) | h
      · exact .inr ⟨s, by simp, h⟩
      · exact .inl h
      · rcases ih h with h | ⟨u, hu, h⟩
        · exact .inl h
        · exact .inr ⟨u, List.mem_cons_of_mem _ hu, h⟩

/-! ## Words of a text -/

/-- **A blank ends the word before it, and nothing else depends on it.** -/
theorem wordsFrom_append_blank {c : Char} (hc : isBlank c = true) (word cs rest : List Char) :
    wordsFrom word (cs ++ c :: rest) = wordsFrom word cs ++ wordsFrom [] rest := by
  induction cs generalizing word with
  | nil => cases word <;> simp [wordsFrom, hc]
  | cons d cs ih =>
      rw [List.cons_append, wordsFrom, wordsFrom]
      by_cases hd : isBlank d = true
      · cases word <;> simp [hd, ih]
      · simp [hd, ih]

/-- Characters without a blank add to the word that has begun. -/
theorem wordsFrom_append {cs : List Char} (h : ∀ c ∈ cs, isBlank c = false)
    (word rest : List Char) :
    wordsFrom word (cs ++ rest) = wordsFrom (cs.reverse ++ word) rest := by
  induction cs generalizing word with
  | nil => rfl
  | cons c cs ih =>
      obtain ⟨hc, hcs⟩ := List.forall_mem_cons.mp h
      rw [List.cons_append, wordsFrom, hc, if_neg Bool.false_ne_true, ih hcs, List.reverse_cons,
        List.append_assoc, List.singleton_append]

theorem words_of_isWord {w : String} (h : IsWord w) : words w = [w] := by
  have hne : w.toList ≠ [] := by simpa using h.nonempty
  have hread := wordsFrom_append h.solid [] []
  rw [List.append_nil, List.append_nil, wordsFrom, if_neg (by simpa using hne),
    List.reverse_reverse] at hread
  rw [words, hread, List.map_singleton, String.ofList_toList]

/-- Words with spaces between them are read again. -/
theorem words_join {ws : List String} (h : ∀ w ∈ ws, IsWord w) : words (join " " ws) = ws := by
  induction ws using join.induct with
  | case1 => rfl
  | case2 w => exact words_of_isWord (h w (by simp))
  | case3 w v rest ih =>
      obtain ⟨hw, hrest⟩ := List.forall_mem_cons.mp h
      have hcut : words (w ++ " " ++ join " " (v :: rest))
          = words w ++ words (join " " (v :: rest)) := by
        rw [words, String.toList_append, String.toList_append, List.append_assoc]
        exact (congrArg _ (wordsFrom_append_blank (by decide) ..)).trans (List.map_append ..)
      rw [join, hcut, words_of_isWord hw, ih hrest, List.singleton_append]

/-- What is read as a word is one. -/
theorem wordsFrom_spec {word cs w : List Char} (hword : ∀ c ∈ word, isBlank c = false)
    (h : w ∈ wordsFrom word cs) : w ≠ [] ∧ ∀ c ∈ w, isBlank c = false := by
  induction cs generalizing word with
  | nil =>
      rw [wordsFrom] at h
      split at h
      · cases h
      · rename_i hne
        obtain rfl := List.mem_singleton.mp h
        exact ⟨by simpa using hne, by simpa using hword⟩
  | cons c cs ih =>
      rw [wordsFrom] at h
      split at h
      · split at h
        · exact ih (List.forall_mem_nil _) h
        · rename_i hne
          rcases List.mem_cons.mp h with rfl | h
          · exact ⟨by simpa using hne, by simpa using hword⟩
          · exact ih (List.forall_mem_nil _) h
      · rename_i hc
        exact ih (List.forall_mem_cons.mpr ⟨by simpa using hc, hword⟩) h

theorem isWord_of_mem_words {s w : String} (h : w ∈ words s) : IsWord w := by
  obtain ⟨cs, hcs, rfl⟩ := List.mem_map.mp h
  obtain ⟨hne, hsolid⟩ := wordsFrom_spec (List.forall_mem_nil _) hcs
  exact ⟨by simpa using hne, by simpa [Solid] using hsolid⟩

/-! ## Lines of a text -/

/-- What ends a line is a blank. -/
theorem isBlank_of_isLineEnd {c : Char} (h : isLineEnd c = true) : isBlank c = true := by
  simp only [isLineEnd, isBlank, Bool.or_eq_true, Bool.and_eq_true, decide_eq_true_eq,
    beq_iff_eq] at *
  omega

/-- Characters that end no line add to the line that has begun. -/
theorem linesFrom_append {cs : List Char} (h : ∀ c ∈ cs, isLineEnd c = false)
    (line rest : List Char) :
    linesFrom line (cs ++ rest) = linesFrom (cs.reverse ++ line) rest := by
  induction cs generalizing line with
  | nil => rfl
  | cons c cs ih =>
      obtain ⟨hc, hcs⟩ := List.forall_mem_cons.mp h
      rw [List.cons_append, linesFrom, hc, if_neg Bool.false_ne_true, ih hcs, List.reverse_cons,
        List.append_assoc, List.singleton_append]
      · -- a carriage return would have ended the line
        rintro _ rfl
        cases hc

theorem linesFrom_feed (line rest : List Char) :
    linesFrom line ('\n' :: rest) = line.reverse :: linesFrom [] rest := by
  rw [linesFrom]
  · rfl
  · intro _ hcr
    cases hcr

/-- Lines with line feeds between them are read again. -/
theorem lines_join {ls : List String}
    (h : ∀ l ∈ ls, l ≠ "" ∧ ∀ c ∈ l.toList, isLineEnd c = false) :
    lines (join "\n" ls) = ls := by
  induction ls using join.induct with
  | case1 => rfl
  | case2 l =>
      obtain ⟨hne, hl⟩ := h l (by simp)
      have hne : l.toList ≠ [] := by simpa using hne
      have hread := linesFrom_append hl [] []
      rw [List.append_nil, List.append_nil, linesFrom, if_neg (by simpa using hne),
        List.reverse_reverse] at hread
      rw [join, lines, hread, List.map_singleton, String.ofList_toList]
  | case3 l m rest ih =>
      obtain ⟨⟨-, hl⟩, hrest⟩ := List.forall_mem_cons.mp h
      have hread := linesFrom_append hl [] ('\n' :: (join "\n" (m :: rest)).toList)
      rw [linesFrom_feed, List.append_nil, List.reverse_reverse] at hread
      have hcut : lines (l ++ "\n" ++ join "\n" (m :: rest))
          = l :: lines (join "\n" (m :: rest)) := by
        rw [lines, String.toList_append, String.toList_append, List.append_assoc]
        exact (congrArg _ hread).trans (by rw [List.map_cons, String.ofList_toList]; rfl)
      rw [join, hcut, ih hrest]

/-! ## Pieces -/

theorem piecesFrom_append (mark : Char) (piece cs rest : List Char) :
    piecesFrom mark piece (cs ++ mark :: rest)
      = piecesFrom mark piece cs ++ piecesFrom mark [] rest := by
  induction cs generalizing piece with
  | nil => simp [piecesFrom]
  | cons c cs ih =>
      rw [List.cons_append, piecesFrom, piecesFrom]
      split
      · rw [ih, List.cons_append]
      · exact ih _

theorem piecesFrom_of_not_mem {mark : Char} {cs : List Char} (h : mark ∉ cs)
    (piece : List Char) : piecesFrom mark piece cs = [piece.reverse ++ cs] := by
  induction cs generalizing piece with
  | nil => simp [piecesFrom]
  | cons c cs ih =>
      obtain ⟨hc, hcs⟩ := List.ne_and_not_mem_of_not_mem_cons h
      rw [piecesFrom, if_neg (Ne.symm hc), ih hcs]
      simp

end Tablekeep.Text
