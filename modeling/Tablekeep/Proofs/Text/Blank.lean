import Tablekeep.Text.Blank
import Mathlib.Data.List.TakeWhile

/-!
# Blank texts

A text is blank when every character of it is. Blank texts are those that nothing is left of
when blanks are trimmed, and those that have no words.
-/

namespace Tablekeep.Text

/-- To decide something of all characters in a list the list is gone through, and not all
characters that there are. -/
instance (priority := 2000) decidableForallMem (p : Char → Prop) [DecidablePred p]
    (cs : List Char) : Decidable (∀ c ∈ cs, p c) :=
  List.decidableBAll p cs

/-- Nothing but blanks. -/
def Blank (s : String) : Prop := ∀ c ∈ s.toList, isBlank c = true

instance (s : String) : Decidable (Blank s) :=
  inferInstanceAs (Decidable (∀ c ∈ s.toList, isBlank c = true))

@[simp] theorem blank_empty : Blank "" := by simp [Blank]

@[simp] theorem blank_append {s t : String} : Blank (s ++ t) ↔ Blank s ∧ Blank t := by
  simp [Blank, or_imp, forall_and]

/-! ## Trimming -/

theorem dropBlanks_eq_nil_iff {cs : List Char} :
    dropBlanks cs = [] ↔ ∀ c ∈ cs, isBlank c = true := by
  simp [dropBlanks, List.dropWhile_eq_nil_iff]

theorem dropBlanksEnd_eq_nil_iff {cs : List Char} :
    dropBlanksEnd cs = [] ↔ ∀ c ∈ cs, isBlank c = true := by
  simp [dropBlanksEnd, List.dropWhile_eq_nil_iff]

/-- Once the blanks in front are gone, only the empty text is blank. -/
theorem dropBlanks_blank {cs : List Char} (h : ∀ c ∈ dropBlanks cs, isBlank c = true) :
    dropBlanks cs = [] := by
  cases hd : dropBlanks cs with
  | nil => rfl
  | cons c rest =>
      have hc : isBlank c = false := by
        have := List.head?_dropWhile_not isBlank cs
        rwa [← dropBlanks, hd] at this
      rw [h c (by rw [hd]; simp)] at hc
      exact Bool.noConfusion hc

/-- Trimming leaves nothing of blank texts, and of no others. -/
theorem trim_isEmpty_iff {s : String} : (trim s).isEmpty = true ↔ Blank s := by
  -- the blanks go in front first, and then at the end of what is left
  have hlist : dropBlanksEnd (dropBlanks s.toList) = [] ↔ dropBlanks s.toList = [] := by
    rw [dropBlanksEnd_eq_nil_iff]
    exact ⟨dropBlanks_blank, fun h => by simp [h]⟩
  rw [trim, String.isEmpty_iff, ← String.toList_inj, String.toList_ofList, String.toList_empty,
    hlist, dropBlanks_eq_nil_iff]
  rfl

theorem dropBlanksEnd_append_blank {cs xs : List Char} (h : ∀ c ∈ xs, isBlank c = true) :
    dropBlanksEnd (cs ++ xs) = dropBlanksEnd cs := by
  rw [dropBlanksEnd, dropBlanksEnd, List.reverse_append, List.dropWhile_append_of_pos]
  exact fun c hc => h c (List.mem_reverse.mp hc)

theorem trimEnd_append_blank {s x : String} (h : Blank x) : trimEnd (s ++ x) = trimEnd s := by
  rw [trimEnd, trimEnd, String.toList_append, dropBlanksEnd_append_blank h]

theorem trim_append_blank {s x : String} (h : Blank x) : trim (s ++ x) = trim s := by
  rw [trim, trim, String.toList_append, dropBlanks, List.dropWhile_append, ← dropBlanks,
    ← dropBlanks]
  split
  · have hs : dropBlanks s.toList = [] := by simpa using ‹(dropBlanks s.toList).isEmpty = true›
    rw [hs, dropBlanks_eq_nil_iff.mpr h]
  · rw [dropBlanksEnd_append_blank h]

/-! ## Words -/

theorem wordsFrom_eq_nil_iff (word cs : List Char) :
    wordsFrom word cs = [] ↔ word = [] ∧ ∀ c ∈ cs, isBlank c = true := by
  induction cs generalizing word with
  | nil => cases word <;> simp [wordsFrom]
  | cons c cs ih =>
      rw [wordsFrom]
      by_cases hc : isBlank c = true
      · cases word <;> simp [hc, ih]
      · simp [hc, ih]

/-- A line has no words exactly when it is blank. -/
theorem words_eq_nil_iff (s : String) : words s = [] ↔ Blank s := by
  simp [words, wordsFrom_eq_nil_iff, Blank]

end Tablekeep.Text
