import Tablekeep.Text.Blank
import Tablekeep.Text.Digits
import Mathlib.Data.List.Forall2
import Mathlib.Data.List.TakeWhile

/-!
# How a server reads literals

What a statement does is decided by the server that reads it. This file says how a server
reads the values of an insertion, so that it can be said of a text that it is one value and
nothing else:

* the word `null`, in any letter case;
* a number: digits with a sign, a point and an exponent, of which only digits are needed;
* a string between apostrophes, in which two apostrophes stand for one, and a backslash
  takes the character after it as it stands.

Blanks around a value mean nothing. A list of values is values between commas, up to a
parenthesis. The rules are those of MySQL, as far as values go.

A text that is read as one value is read as this value in a list, too. That is the main
result, `Values.of_literals`; it needs that neither a comma nor a parenthesis can belong to
a value that has ended before it.
-/

namespace Tablekeep.Sql

/-! ## Values -/

/-- What a literal denotes. -/
inductive Datum where
  | null
  /-- A number as it is written. -/
  | number (text : String)
  | text (s : String)
  deriving DecidableEq, Repr

/-- What comes after the apostrophe that opens a string: what the string denotes, and the rest after
the apostrophe that closes it. -/
def takeString : List Char → Option (List Char × List Char)
  | [] => none
  | '\\' :: c :: cs => (takeString cs).map fun (s, rest) => (c :: s, rest)
  | '\'' :: '\'' :: cs => (takeString cs).map fun (s, rest) => ('\'' :: s, rest)
  | '\'' :: cs => some ([], cs)
  | c :: cs => (takeString cs).map fun (s, rest) => (c :: s, rest)

/-- The sign, if there is one. -/
def takeSign : List Char → List Char × List Char
  | [] => ([], [])
  | c :: cs => if c = '+' ∨ c = '-' then ([c], cs) else ([], c :: cs)

/-- As many digits as there are. -/
def takeDigits (cs : List Char) : List Char × List Char :=
  (cs.takeWhile Text.isDigit, cs.dropWhile Text.isDigit)

/-- A point and the digits after it. -/
def takeFraction : List Char → List Char × List Char
  | [] => ([], [])
  | c :: cs => if c = '.' then (c :: (takeDigits cs).1, (takeDigits cs).2) else ([], c :: cs)

/-- The mark of an exponent with a sign and digits; the mark alone is no exponent. -/
def takeExponent : List Char → List Char × List Char
  | [] => ([], [])
  | c :: cs =>
    let digits := takeDigits (takeSign cs).2
    if (c = 'e' ∨ c = 'E') ∧ digits.1 ≠ [] then (c :: (takeSign cs).1 ++ digits.1, digits.2)
    else ([], c :: cs)

/-- A number, which has a digit before or after the point. -/
def takeNumber? (cs : List Char) : Option (List Char × List Char) :=
  let sign := takeSign cs
  let whole := takeDigits sign.2
  let fraction := takeFraction whole.2
  let exponent := takeExponent fraction.2
  if whole.1 = [] ∧ fraction.1.length ≤ 1 then none
  else some (sign.1 ++ whole.1 ++ fraction.1 ++ exponent.1, exponent.2)

/-- The letters of the word for no value. -/
def takeNull? : List Char → Option (List Char)
  | a :: b :: c :: d :: rest =>
    if [a, b, c, d].map Char.toLower = ['n', 'u', 'l', 'l'] then some rest else none
  | _ => none

/-- A value at the beginning, and the rest. -/
def takeDatum (cs : List Char) : Option (Datum × List Char) :=
  match cs with
  | '\'' :: inside => (takeString inside).map fun (s, rest) => (.text (String.ofList s), rest)
  | _ =>
    match takeNull? cs with
    | some rest => some (.null, rest)
    | none => (takeNumber? cs).map fun (n, rest) => (.number (String.ofList n), rest)

/-! ## Texts and lists -/

/-- Blanks between tokens. -/
def isGap (c : Char) : Bool :=
  c = ' ' || c = '\t' || c = '\n' || c = '\r'

/-- The rest after blanks. -/
def skipGap (cs : List Char) : List Char :=
  cs.dropWhile isGap

/-- What a text denotes that is one literal, with blanks around it at most. -/
def datum? (s : String) : Option Datum :=
  match takeDatum (skipGap s.toList) with
  | some (d, rest) => if skipGap rest = [] then some d else none
  | none => none

/-- The text is one literal and nothing else. -/
def IsLiteral (s : String) : Prop :=
  ∃ d, datum? s = some d

instance (s : String) : Decidable (IsLiteral s) :=
  decidable_of_iff ((datum? s).isSome = true) Option.isSome_iff_exists

/-- What comes after the parenthesis that opens a list of values is read as the values `data`, and
`rest` is left after the parenthesis that closes it. -/
inductive Values : List Char → List Datum → List Char → Prop
  | last {cs after rest : List Char} {d : Datum} :
      takeDatum (skipGap cs) = some (d, after) → skipGap after = ')' :: rest → Values cs [d] rest
  | more {cs after cs' rest : List Char} {d : Datum} {data : List Datum} :
      takeDatum (skipGap cs) = some (d, after) → skipGap after = ',' :: cs' →
      Values cs' data rest → Values cs (d :: data) rest

/-! ## What ends a value -/

/-- The character is one that stands after a value in a list. -/
def Stops (c : Char) : Prop :=
  c = ',' ∨ c = ')'

section Stopping

variable {stop : Char} (hstop : Stops stop) (rest : List Char)

include hstop

/-- No token but the end of a list begins with such a character. -/
theorem Stops.spec : Text.isDigit stop = false ∧ isGap stop = false ∧ stop ≠ '\'' ∧ stop ≠ '.'
    ∧ ¬ (stop = '+' ∨ stop = '-') ∧ ¬ (stop = 'e' ∨ stop = 'E')
    ∧ stop.toLower ∉ ['n', 'u', 'l', 'l'] := by
  rcases hstop with rfl | rfl
  · decide
  · decide

theorem takeSign_append (cs : List Char) :
    takeSign (cs ++ stop :: rest) = ((takeSign cs).1, (takeSign cs).2 ++ stop :: rest) := by
  cases cs with
  | nil =>
      have hsign := (hstop.spec).2.2.2.2.1
      simp [takeSign, hsign]
  | cons c cs =>
      rw [List.cons_append, takeSign, takeSign]
      split <;> rfl

theorem takeDigits_append (cs : List Char) :
    takeDigits (cs ++ stop :: rest) = ((takeDigits cs).1, (takeDigits cs).2 ++ stop :: rest) := by
  have hdigit := (hstop.spec).1
  induction cs with
  | nil => simp [takeDigits, hdigit]
  | cons c cs ih =>
      simp only [takeDigits, Prod.mk.injEq] at ih
      by_cases hc : Text.isDigit c = true
      · simp [takeDigits, hc, ih]
      · simp [takeDigits, hc]

theorem takeFraction_append (cs : List Char) :
    takeFraction (cs ++ stop :: rest)
      = ((takeFraction cs).1, (takeFraction cs).2 ++ stop :: rest) := by
  cases cs with
  | nil =>
      have hpoint := (hstop.spec).2.2.2.1
      simp [takeFraction, hpoint]
  | cons c cs =>
      rw [List.cons_append, takeFraction, takeFraction, takeDigits_append hstop]
      split <;> rfl

theorem takeExponent_append (cs : List Char) :
    takeExponent (cs ++ stop :: rest)
      = ((takeExponent cs).1, (takeExponent cs).2 ++ stop :: rest) := by
  cases cs with
  | nil =>
      have hmark := (hstop.spec).2.2.2.2.2.1
      simp [takeExponent, hmark]
  | cons c cs =>
      rw [List.cons_append, takeExponent, takeExponent, takeSign_append hstop,
        takeDigits_append hstop]
      dsimp only
      split <;> rfl

theorem takeNumber?_append (cs : List Char) :
    takeNumber? (cs ++ stop :: rest)
      = (takeNumber? cs).map fun (n, after) => (n, after ++ stop :: rest) := by
  simp only [takeNumber?, takeSign_append hstop, takeDigits_append hstop,
    takeFraction_append hstop, takeExponent_append hstop]
  split <;> rfl

/-- The word does not reach beyond the end of a value, -/
theorem takeNull?_append (cs : List Char) :
    takeNull? (cs ++ stop :: rest) = (takeNull? cs).map (· ++ stop :: rest) := by
  have hletter := (hstop.spec).2.2.2.2.2.2
  have hother : ∀ letters : List Char, stop ∈ letters →
      letters.map Char.toLower ≠ ['n', 'u', 'l', 'l'] := by
    intro letters hmem heq
    exact hletter (heq ▸ List.mem_map_of_mem hmem)
  have hnone : takeNull? (stop :: rest) = none := by
    match rest with
    | b :: c :: d :: rest => rw [takeNull?, if_neg (hother _ (by simp))]
    | [] | [_] | [_, _] => rfl
  match cs with
  | [] => exact hnone
  | [a] =>
      match rest with
      | c :: d :: rest => exact if_neg (hother _ (by simp))
      | [] | [_] => rfl
  | [a, b] =>
      match rest with
      | d :: rest => exact if_neg (hother _ (by simp))
      | [] => rfl
  | [a, b, c] => exact if_neg (hother _ (by simp))
  | a :: b :: c :: d :: cs =>
      simp only [List.cons_append, takeNull?]
      split <;> rfl

/-- and a string that is closed stays as it is. -/
theorem takeString_append {cs s after : List Char} (h : takeString cs = some (s, after)) :
    takeString (cs ++ stop :: rest) = some (s, after ++ stop :: rest) := by
  have hquote := (hstop.spec).2.2.1
  induction cs using takeString.induct generalizing s with
  | case1 => cases h
  | case2 c cs ih =>
      rw [takeString, Option.map_eq_some_iff] at h
      obtain ⟨⟨s', after'⟩, hs, heq⟩ := h
      cases heq
      simp only [List.cons_append, takeString, ih hs, Option.map_some]
  | case3 cs ih =>
      rw [takeString, Option.map_eq_some_iff] at h
      obtain ⟨⟨s', after'⟩, hs, heq⟩ := h
      cases heq
      simp only [List.cons_append, takeString, ih hs, Option.map_some]
  | case4 cs hnext =>
      rw [takeString.eq_4 _ hnext] at h
      obtain ⟨rfl, rfl⟩ := Prod.mk.inj (Option.some.inj h)
      -- what stops a value is no apostrophe, so this one still closes the string
      refine takeString.eq_4 _ fun tail htail => ?_
      cases cs with
      | nil => exact hquote (List.cons.inj htail).1
      | cons c cs =>
          obtain ⟨rfl, -⟩ := List.cons.inj htail
          exact hnext cs rfl
  | case5 c cs hslash hquotes hclosed ih =>
      rw [takeString.eq_5 _ _ hslash hquotes hclosed, Option.map_eq_some_iff] at h
      obtain ⟨⟨s', after'⟩, hs, heq⟩ := h
      cases heq
      -- a backslash at the very end would close nothing
      have hslash' : ∀ d ds, c = '\\' → cs ++ stop :: rest = d :: ds → False := by
        intro d ds hc _
        cases cs with
        | nil => cases hs
        | cons e es => exact hslash e es hc rfl
      have hquotes' : ∀ ds, c = '\'' → cs ++ stop :: rest = '\'' :: ds → False :=
        fun _ hc _ => hclosed hc
      rw [List.cons_append, takeString.eq_5 _ _ hslash' hquotes' hclosed, ih hs]
      rfl

/-- So a value that is there is still there, and nothing more belongs to it. -/
theorem takeDatum_append {cs after : List Char} {d : Datum} (h : takeDatum cs = some (d, after)) :
    takeDatum (cs ++ stop :: rest) = some (d, after ++ stop :: rest) := by
  have hquote := (hstop.spec).2.2.1
  cases cs with
  | nil => cases h
  | cons c cs =>
      by_cases hc : c = '\''
      · subst hc
        rw [takeDatum, Option.map_eq_some_iff] at h
        obtain ⟨⟨s, after'⟩, hs, heq⟩ := h
        cases heq
        rw [List.cons_append, takeDatum, takeString_append hstop rest hs]
        rfl
      · have hopens : ∀ inside, c :: cs = '\'' :: inside → False :=
          fun _ heq => hc (List.cons.inj heq).1
        have hopens' : ∀ inside, c :: (cs ++ stop :: rest) = '\'' :: inside → False :=
          fun _ heq => hc (List.cons.inj heq).1
        rw [takeDatum.eq_2 _ hopens] at h
        rw [List.cons_append, takeDatum.eq_2 _ hopens', ← List.cons_append,
          takeNull?_append hstop, takeNumber?_append hstop]
        cases hnull : takeNull? (c :: cs) with
        | some after' =>
            rw [hnull] at h
            cases h
            rfl
        | none =>
            rw [hnull, Option.map_eq_some_iff] at h
            obtain ⟨⟨n, after'⟩, hn, heq⟩ := h
            cases heq
            rw [hn]
            rfl

theorem skipGap_append (cs : List Char) :
    skipGap (cs ++ stop :: rest) = skipGap cs ++ stop :: rest := by
  have hgap := (hstop.spec).2.1
  induction cs with
  | nil => simp [skipGap, hgap]
  | cons c cs ih =>
      unfold skipGap at ih ⊢
      rw [List.cons_append, List.dropWhile_cons, List.dropWhile_cons, ih]
      split <;> rfl

/-- A text that is one literal is this one literal at the beginning of a longer text. -/
theorem takeDatum_of_literal {s : String} {d : Datum} (h : datum? s = some d) :
    ∃ after, takeDatum (skipGap (s.toList ++ stop :: rest)) = some (d, after)
      ∧ skipGap after = stop :: rest := by
  unfold datum? at h
  split at h
  · rename_i d' after hdatum
    split at h
    · rename_i hgap
      obtain rfl := Option.some.inj h
      refine ⟨after ++ stop :: rest, ?_, ?_⟩
      · rw [skipGap_append hstop]
        exact takeDatum_append hstop rest hdatum
      · rw [skipGap_append hstop, hgap, List.nil_append]
    · cases h
  · cases h

end Stopping

/-! ## Lists of literals -/

/-- **Literals between commas are read as what they denote**, one by one, and the list ends at the
parenthesis after the last of them. -/
theorem Values.of_literals {l : String} {d : Datum} {ls : List String} {ds : List Datum}
    (h : List.Forall₂ (fun l d => datum? l = some d) (l :: ls) (d :: ds)) (rest : List Char) :
    Values ((Text.join "," (l :: ls)).toList ++ ')' :: rest) (d :: ds) rest := by
  induction ls generalizing l d ds with
  | nil =>
      obtain ⟨hl, hnil⟩ := List.forall₂_cons.mp h
      cases hnil
      obtain ⟨after, hdatum, hafter⟩ := takeDatum_of_literal (.inr rfl) rest hl
      exact .last hdatum hafter
  | cons l' ls ih =>
      obtain ⟨hl, hls⟩ := List.forall₂_cons.mp h
      cases hls with
      | @cons _ d' _ ds' hl' hls' =>
          have hlist := ih (.cons hl' hls')
          obtain ⟨after, hdatum, hafter⟩ := takeDatum_of_literal (.inl rfl)
            ((Text.join "," (l' :: ls)).toList ++ ')' :: rest) hl
          have hjoin : (Text.join "," (l :: l' :: ls)).toList ++ ')' :: rest
              = l.toList ++ ',' :: ((Text.join "," (l' :: ls)).toList ++ ')' :: rest) := by
            rw [Text.join, String.toList_append, String.toList_append]
            simp
          rw [hjoin]
          exact .more hdatum hafter hlist

end Tablekeep.Sql
