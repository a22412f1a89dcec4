import Tablekeep.Backup.Escape
import Tablekeep.Cell.Value
import Tablekeep.Proofs.Markup.Spelling

/-!
# Text that needs no escaping

Numbers, truth values and stamps are put into a document as they are. That is right
because all of their characters are plain: digits, letters, signs and points, and nothing
that the markup gives a meaning. For numbers this has to be seen through the layout, which
only ever adds zeros, a point and an exponent to digits.
-/

namespace Tablekeep.Backup

open Markup

/-- All characters are written as they are. -/
def Plain (cs : List Char) : Prop :=
  ∀ c ∈ cs, isPlain c = true

instance (cs : List Char) : Decidable (Plain cs) :=
  inferInstanceAs (Decidable (∀ c ∈ cs, isPlain c = true))

/-- What is written as it is means nothing to the markup. -/
theorem isInert_of_isPlain {c : Char} (h : isPlain c = true) : isInert c = true := by
  have hmarkup : ∀ m ∈ ['<', '&', '>'], isPlain m = false := by decide
  have hne : ∀ m ∈ ['<', '&', '>'], c ≠ m := by
    rintro m hm rfl
    rw [hmarkup c hm] at h
    cases h
  have hpunctuation : ∀ p ∈ plainPunctuation, isVerbatim p = true := by decide
  have hverbatim : isVerbatim c = true := by
    simp only [isPlain, Text.isDigit, Bool.or_eq_true, Bool.and_eq_true, decide_eq_true_eq] at h
    rcases h with ((h | h) | h) | h
    · exact isVerbatim_of_between h.1 h.2 (by decide) (by decide)
    · exact isVerbatim_of_between h.1 h.2 (by decide) (by decide)
    · exact isVerbatim_of_between h.1 h.2 (by decide) (by decide)
    · exact hpunctuation c (by simpa using h)
  simp only [isInert, hverbatim, Bool.true_and, Bool.and_eq_true, bne_iff_ne]
  exact ⟨⟨hne '<' (by simp), hne '&' (by simp)⟩, hne '>' (by simp)⟩

namespace Plain

variable {as bs : List Char}

theorem append (ha : Plain as) (hb : Plain bs) : Plain (as ++ bs) := fun c hc =>
  (List.mem_append.mp hc).elim (ha c) (hb c)

theorem cons {c : Char} (hc : isPlain c = true) (hb : Plain bs) : Plain (c :: bs) :=
  List.forall_mem_cons.mpr ⟨hc, hb⟩

theorem subset (hb : Plain bs) (h : ∀ c ∈ as, c ∈ bs) : Plain as := fun c hc => hb c (h c hc)

theorem zeros (n : Nat) : Plain (List.replicate n '0') := by
  intro c hc
  rw [(List.mem_replicate.mp hc).2]
  decide

/-! ## Digits -/

theorem isDigit_of_mem_toDigits {n : Nat} {c : Char} (hc : c ∈ Nat.toDigits 10 n) :
    Text.isDigit c = true := by
  have hdigit := Nat.isDigit_of_mem_toDigits (by decide) (by decide) hc
  simp only [Char.isDigit, Bool.and_eq_true, decide_eq_true_eq] at hdigit
  simp only [Text.isDigit, Bool.and_eq_true, decide_eq_true_eq]
  exact hdigit

/-- What holds of the ten digits holds of every digit. -/
theorem mem_digits_of_isDigit {c : Char} (h : Text.isDigit c = true) :
    c ∈ "0123456789".toList := by
  have hall : ∀ n < 58, 48 ≤ n → Char.ofNat n ∈ "0123456789".toList := by decide
  simp only [Text.isDigit, Bool.and_eq_true, decide_eq_true_eq] at h
  have hc := hall c.toNat (Nat.lt_succ_of_le h.2) h.1
  rwa [Char.ofNat_toNat] at hc

theorem toDigits (n : Nat) : Plain (Nat.toDigits 10 n) := by
  intro c hc
  simp [isPlain, isDigit_of_mem_toDigits hc]

theorem zeroFill (width : Nat) (h : Plain as) : Plain (Text.zeroFill width as) :=
  (zeros _).append h

theorem decimal (n : Nat) : Plain (Text.decimal n).toList := by
  rw [Text.decimal, String.toList_ofList]
  exact toDigits n

theorem decimalWide (width n : Nat) : Plain (Text.decimalWide width n).toList := by
  rw [Text.decimalWide, String.toList_ofList]
  exact (toDigits n).zeroFill width

theorem decimalInt (n : Int) : Plain (Text.decimalInt n).toList := by
  unfold Text.decimalInt
  split
  · rw [String.toList_append]
    exact Plain.append (by decide) (decimal _)
  · exact decimal _

/-! ## Layouts -/

section Layouts

variable {l : Number.Layout} {digits : List Char} {power : Int}

theorem exponentText (hmark : isPlain l.mark = true) : Plain (l.exponentText power) := by
  refine cons hmark (cons ?_ ((toDigits _).zeroFill _))
  split <;> decide

theorem positional (hdigits : Plain digits) : Plain (l.positional digits power) := by
  simp only [Number.Layout.positional]
  split
  · exact (cons (by decide) (cons (by decide) (zeros _))).append hdigits
  · split
    · refine (hdigits.append (zeros _)).append ?_
      split <;> decide
    · refine (hdigits.subset fun c => List.mem_of_mem_take).append (cons (by decide) ?_)
      exact hdigits.subset fun c => List.mem_of_mem_drop

theorem scientific (hmark : isPlain l.mark = true) (hdigits : Plain digits) :
    Plain (l.scientific digits power) := by
  unfold Number.Layout.scientific
  split
  · exact exponentText hmark
  · exact cons (hdigits _ (by simp)) (exponentText hmark)
  · rename_i d ds _
    have hhead := hdigits d (by simp)
    have htail : Plain ds := hdigits.subset fun c hc => List.mem_cons_of_mem _ hc
    exact (cons hhead (cons (by decide) htail)).append (exponentText hmark)

theorem write (hmark : isPlain l.mark = true) (hdigits : Plain digits) :
    Plain (l.write digits power) := by
  unfold Number.Layout.write
  split
  · exact positional hdigits
  · exact scientific hmark hdigits

theorem dropEndZeros (hdigits : Plain digits) : Plain (Number.dropEndZeros digits) := by
  unfold Number.dropEndZeros
  split
  · decide
  · refine hdigits.subset fun c hc => ?_
    have := (List.dropWhile_sublist _).mem (List.mem_reverse.mp hc)
    exact List.mem_reverse.mp this

end Layouts

/-! ## Numbers -/

theorem decimalText (x : Decimal) : Plain x.toText.toList := by
  have hsign : ∀ b, Plain (Decimal.sign b).toList := by decide
  cases x with
  | finite negative coefficient exponent =>
      simp only [Decimal.toText, String.toList_append, String.toList_ofList]
      have hmark : isPlain 'E' = true := by decide
      exact (hsign _).append (write hmark (toDigits _))
  | infinite negative =>
      simp only [Decimal.toText, String.toList_append]
      exact (hsign _).append (by decide)
  | undefined negative signaling payload =>
      simp only [Decimal.toText, String.toList_append]
      refine ((hsign _).append ?_).append ?_
      · split <;> decide
      · split
        · decide
        · exact decimal _

theorem doubleText (x : Double) : Plain x.toText.toList := by
  cases x with
  | nan => decide
  | infinite negative => cases negative <;> decide
  | finite negative exponent fraction =>
      have hmagnitude : Plain (if Double.mantissa exponent fraction = 0 then ['0', '.', '0']
          else Double.magnitudeText exponent fraction) := by
        split
        · decide
        · exact write (by decide) (dropEndZeros (toDigits _))
      simp only [Double.toText, String.toList_ofList]
      split
      · exact cons (by decide) hmagnitude
      · exact hmagnitude

/-! ## Days and times -/

theorem microText (micro : Nat) : Plain (Calendar.microText micro).toList := by
  unfold Calendar.microText
  split
  · decide
  · rw [String.toList_append]
    exact Plain.append (by decide) (decimalWide _ _)

theorem dateText (d : Calendar.Date) : Plain d.toText.toList := by
  simp only [Calendar.Date.toText, String.toList_append]
  exact ((((decimalWide _ _).append (by decide)).append (decimalWide _ _)).append
    (by decide)).append (decimalWide _ _)

theorem timeText (t : Calendar.TimeOfDay) : Plain t.toText.toList := by
  simp only [Calendar.TimeOfDay.toText, Calendar.TimeOfDay.toStamp, String.toList_append]
  exact (((((decimalWide _ _).append (by decide)).append (decimalWide _ _)).append
    (by decide)).append (decimalWide _ _)).append (microText _)

theorem offsetText (offset : Int) : Plain (Calendar.Moment.offsetText offset).toList := by
  simp only [Calendar.Moment.offsetText, String.toList_append]
  refine Plain.append (Plain.append (Plain.append (Plain.append (Plain.append ?_
    (decimalWide _ _)) (by decide)) (decimalWide _ _)) ?_) (microText _)
  · split <;> decide
  · split
    · decide
    · rw [String.toList_append]
      exact Plain.append (by decide) (decimalWide _ _)

theorem momentText (m : Calendar.Moment) : Plain m.toText.toList := by
  simp only [Calendar.Moment.toText, String.toList_append]
  refine (((dateText _).append (by decide)).append (timeText _)).append ?_
  cases m.offset with
  | none => decide
  | some offset => exact offsetText offset

theorem spanText (s : Calendar.Span) : Plain s.toText.toList := by
  simp only [Calendar.Span.toText, String.toList_append]
  refine Plain.append (Plain.append (Plain.append (Plain.append (Plain.append (Plain.append ?_
    (decimal _)) (by decide)) (decimalWide _ _)) (by decide)) (decimalWide _ _)) (microText _)
  split
  · decide
  · rw [String.toList_append]
    refine (decimalInt _).append ?_
    split <;> decide

end Plain

/-! ## No number is written as nothing -/

theorem write_ne_nil {l : Number.Layout} {digits : List Char} {power : Int} (h : digits ≠ []) :
    l.write digits power ≠ [] := by
  unfold Number.Layout.write
  split
  · simp only [Number.Layout.positional]
    split
    · simp
    · split
      · simp [h]
      · simp
  · unfold Number.Layout.scientific
    split <;> simp [Number.Layout.exponentText]

theorem dropEndZeros_ne_nil (digits : List Char) : Number.dropEndZeros digits ≠ [] := by
  unfold Number.dropEndZeros
  split
  · simp
  · rename_i hne
    intro hnil
    exact hne (List.reverse_eq_nil_iff.mp hnil)

theorem decimalInt_ne_nil (n : Int) : (Text.decimalInt n).toList ≠ [] := by
  unfold Text.decimalInt
  split
  · rw [String.toList_append]
    exact List.cons_ne_nil _ _
  · rw [Text.decimal, String.toList_ofList]
    exact Nat.toDigits_ne_nil

theorem decimalText_ne_nil (x : Decimal) : x.toText.toList ≠ [] := by
  cases x with
  | finite negative coefficient exponent =>
      simp only [Decimal.toText, String.toList_append, String.toList_ofList]
      exact List.append_ne_nil_of_right_ne_nil _ (write_ne_nil Nat.toDigits_ne_nil)
  | infinite negative =>
      simp only [Decimal.toText, String.toList_append]
      exact List.append_ne_nil_of_right_ne_nil _ (by decide)
  | undefined negative signaling payload =>
      simp only [Decimal.toText, String.toList_append]
      refine List.append_ne_nil_of_left_ne_nil (List.append_ne_nil_of_right_ne_nil _ ?_) _
      split <;> decide

theorem doubleText_ne_nil (x : Double) : x.toText.toList ≠ [] := by
  cases x with
  | nan => decide
  | infinite negative => cases negative <;> decide
  | finite negative exponent fraction =>
      simp only [Double.toText, String.toList_ofList]
      split
      · exact List.cons_ne_nil _ _
      · split
        · decide
        · exact write_ne_nil (dropEndZeros_ne_nil _)

end Tablekeep.Backup
