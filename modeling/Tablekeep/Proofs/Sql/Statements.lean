import Tablekeep.Proofs.Sql.Lexing

/-!
# How a server tells statements apart

Statements that are sent together are told apart by the semicolons between them. A semicolon
in a string is none, so the text has to be gone through with the knowledge of whether a
string is open.

A literal has no semicolon of this sort, and no string is open after it (`Closed.literal`).
So where names and literals are put together, the semicolons that count are those of the
text around them, and each of them ends a statement (`pieces_append`).
-/

namespace Tablekeep.Sql

/-! ## Cutting at semicolons -/

/-- Where in a text a character stands. -/
inductive Mode where
  | outside
  /-- In a string. -/
  | inside
  /-- In a string, after a backslash. -/
  | escaped
  deriving DecidableEq, Repr

/-- Where the next character stands. -/
def Mode.next : Mode → Char → Mode
  | outside, c => if c = '\'' then inside else outside
  | inside, c => if c = '\'' then outside else if c = '\\' then escaped else inside
  | escaped, _ => inside

/-- The pieces of the characters still to come, where `piece` holds what the current one has so far,
last character first. -/
def piecesFrom (m : Mode) (piece : List Char) : List Char → List (List Char)
  | [] => [piece.reverse]
  | c :: cs =>
    if m = .outside ∧ c = ';' then piece.reverse :: piecesFrom .outside [] cs
    else piecesFrom (m.next c) (c :: piece) cs

/-- The pieces of a text between the semicolons that stand outside strings. -/
def pieces (s : String) : List String :=
  (piecesFrom .outside [] s.toList).map String.ofList

/-- A character that may stand in a name without quotes. -/
def isNameChar (c : Char) : Bool :=
  c.isAlphanum || c = '_' || c = '$' || decide (0x80 ≤ c.toNat)

/-- The text may stand as a name without quotes. -/
def IsName (s : String) : Prop :=
  ∀ c ∈ s.toList, isNameChar c = true

instance (s : String) : Decidable (IsName s) :=
  inferInstanceAs (Decidable (∀ c ∈ s.toList, isNameChar c = true))

/-! ## Texts without such a semicolon -/

/-- The characters have no semicolon outside a string, and close the strings that they open. -/
def Closed (cs : List Char) : Prop :=
  ∀ piece rest,
    piecesFrom .outside piece (cs ++ rest) = piecesFrom .outside (cs.reverse ++ piece) rest

/-- The character is neither a semicolon nor an apostrophe. -/
def isQuiet (c : Char) : Bool :=
  c != ';' && c != '\''

/-- So it is with a character of a class to which these two do not belong. -/
theorem isQuiet_of_class {p : Char → Bool} {c : Char} (hsemicolon : p ';' = false)
    (hquote : p '\'' = false) (h : p c = true) : isQuiet c = true := by
  have hne : ∀ d, p d = false → c ≠ d := by
    rintro d hd rfl
    rw [hd] at h
    cases h
  simp only [isQuiet, Bool.and_eq_true, bne_iff_ne]
  exact ⟨hne ';' hsemicolon, hne '\'' hquote⟩

theorem Closed.append {as bs : List Char} (ha : Closed as) (hb : Closed bs) :
    Closed (as ++ bs) := by
  intro piece rest
  rw [List.append_assoc, ha, hb, List.reverse_append, List.append_assoc]

theorem Closed.of_quiet {cs : List Char} (h : ∀ c ∈ cs, isQuiet c = true) : Closed cs := by
  induction cs with
  | nil => exact fun piece rest => rfl
  | cons c cs ih =>
      obtain ⟨hc, hcs⟩ := List.forall_mem_cons.mp h
      simp only [isQuiet, Bool.and_eq_true, bne_iff_ne] at hc
      intro piece rest
      have hnext : Mode.next .outside c = .outside := if_neg hc.2
      rw [List.cons_append, piecesFrom, if_neg fun hboth => hc.1 hboth.2, hnext, ih hcs,
        List.reverse_cons, List.append_assoc]
      rfl

theorem Closed.text {s t : String} (hs : Closed s.toList) (ht : Closed t.toList) :
    Closed (s ++ t).toList := by
  rw [String.toList_append]
  exact hs.append ht

theorem Closed.name {s : String} (h : IsName s) : Closed s.toList :=
  .of_quiet fun c hc => isQuiet_of_class (by decide) (by decide) (h c hc)

theorem Closed.join {parts : List String} (h : ∀ s ∈ parts, Closed s.toList) :
    Closed (Text.join "," parts).toList := by
  induction parts with
  | nil => exact .of_quiet (by simp [Text.join])
  | cons s parts ih =>
      obtain ⟨hs, hparts⟩ := List.forall_mem_cons.mp h
      cases parts with
      | nil => exact hs
      | cons s' parts =>
          exact (hs.text (.of_quiet (by decide))).text (ih hparts)

/-- A semicolon after such a text ends a statement. -/
theorem pieces_append {s : String} (h : Closed s.toList) (rest : String) :
    pieces (s ++ ";" ++ rest) = s :: pieces rest := by
  have hcut : piecesFrom .outside [] (s.toList ++ ';' :: rest.toList)
      = s.toList :: piecesFrom .outside [] rest.toList := by
    rw [h, piecesFrom, if_pos ⟨rfl, rfl⟩, List.append_nil, List.reverse_reverse]
  have htext : (s ++ ";" ++ rest).toList = s.toList ++ ';' :: rest.toList := by
    rw [String.toList_append, String.toList_append, List.append_assoc]
    rfl
  rw [pieces, htext, hcut, List.map_cons, String.ofList_toList]
  rfl

/-! ## Literals -/

/-- What is taken as a string is closed by its last character. -/
theorem exists_of_takeString {cs s after : List Char} (h : takeString cs = some (s, after)) :
    ∃ taken, cs = taken ++ after ∧ ∀ piece rest,
      piecesFrom .inside piece (taken ++ rest)
        = piecesFrom .outside (taken.reverse ++ piece) rest := by
  induction cs using takeString.induct generalizing s with
  | case1 => cases h
  | case2 c cs ih =>
      rw [takeString, Option.map_eq_some_iff] at h
      obtain ⟨⟨s', after'⟩, hs, heq⟩ := h
      cases heq
      obtain ⟨taken, rfl, htaken⟩ := ih hs
      refine ⟨'\\' :: c :: taken, rfl, fun piece rest => ?_⟩
      -- whatever stands after a backslash counts for nothing
      have hcut : piecesFrom .inside piece ('\\' :: c :: (taken ++ rest))
          = piecesFrom .inside (c :: '\\' :: piece) (taken ++ rest) := rfl
      rw [List.cons_append, List.cons_append, hcut, htaken]
      simp
  | case3 cs ih =>
      rw [takeString, Option.map_eq_some_iff] at h
      obtain ⟨⟨s', after'⟩, hs, heq⟩ := h
      cases heq
      obtain ⟨taken, rfl, htaken⟩ := ih hs
      refine ⟨'\'' :: '\'' :: taken, rfl, fun piece rest => ?_⟩
      -- between the two apostrophes no string is open, but nothing stands there
      have hcut : piecesFrom .inside piece ('\'' :: '\'' :: (taken ++ rest))
          = piecesFrom .inside ('\'' :: '\'' :: piece) (taken ++ rest) := rfl
      rw [List.cons_append, List.cons_append, hcut, htaken]
      simp
  | case4 cs hnext =>
      rw [takeString.eq_4 _ hnext] at h
      obtain ⟨rfl, rfl⟩ := Prod.mk.inj (Option.some.inj h)
      exact ⟨['\''], rfl, fun piece rest => rfl⟩
  | case5 c cs hslash hquotes hclosed ih =>
      rw [takeString.eq_5 _ _ hslash hquotes hclosed, Option.map_eq_some_iff] at h
      obtain ⟨⟨s', after'⟩, hs, heq⟩ := h
      cases heq
      have hc : c ≠ '\\' := by
        rintro rfl
        cases cs with
        | nil => cases hs
        | cons d ds => exact hslash d ds rfl rfl
      obtain ⟨taken, rfl, htaken⟩ := ih hs
      refine ⟨c :: taken, rfl, fun piece rest => ?_⟩
      have hmode : Mode.next .inside c = .inside := by
        rw [Mode.next, if_neg hclosed, if_neg hc]
      rw [List.cons_append, piecesFrom, if_neg (by simp), hmode, htaken]
      simp

theorem takeSign_spec (cs : List Char) :
    cs = (takeSign cs).1 ++ (takeSign cs).2 ∧ ∀ c ∈ (takeSign cs).1, isQuiet c = true := by
  cases cs with
  | nil => exact ⟨rfl, by simp [takeSign]⟩
  | cons c cs =>
      rw [takeSign]
      split
      · rename_i hsign
        refine ⟨rfl, fun d hd => ?_⟩
        obtain rfl := List.mem_singleton.mp hd
        rcases hsign with rfl | rfl
        · rfl
        · rfl
      · exact ⟨rfl, by simp⟩

theorem takeDigits_spec (cs : List Char) :
    cs = (takeDigits cs).1 ++ (takeDigits cs).2 ∧ ∀ c ∈ (takeDigits cs).1, isQuiet c = true := by
  refine ⟨List.takeWhile_append_dropWhile.symm, fun c hc => ?_⟩
  exact isQuiet_of_class (by decide) (by decide) (List.mem_takeWhile_imp hc)

theorem takeFraction_spec (cs : List Char) :
    cs = (takeFraction cs).1 ++ (takeFraction cs).2
      ∧ ∀ c ∈ (takeFraction cs).1, isQuiet c = true := by
  cases cs with
  | nil => exact ⟨rfl, by simp [takeFraction]⟩
  | cons c cs =>
      obtain ⟨hcs, hdigits⟩ := takeDigits_spec cs
      rw [takeFraction]
      split
      · rename_i hpoint
        subst hpoint
        exact ⟨congrArg ('.' :: ·) hcs, List.forall_mem_cons.mpr ⟨rfl, hdigits⟩⟩
      · exact ⟨rfl, by simp⟩

theorem takeExponent_spec (cs : List Char) :
    cs = (takeExponent cs).1 ++ (takeExponent cs).2
      ∧ ∀ c ∈ (takeExponent cs).1, isQuiet c = true := by
  cases cs with
  | nil => exact ⟨rfl, by simp [takeExponent]⟩
  | cons c cs =>
      obtain ⟨hsign, hsigns⟩ := takeSign_spec cs
      obtain ⟨hcs, hdigits⟩ := takeDigits_spec (takeSign cs).2
      rw [takeExponent]
      split
      · rename_i hmark
        constructor
        · change c :: cs = c :: ((takeSign cs).1 ++ _ ++ _)
          rw [List.append_assoc, ← hcs, ← hsign]
        · have hc : isQuiet c = true := by
            rcases hmark.1 with rfl | rfl
            · rfl
            · rfl
          refine List.forall_mem_cons.mpr ⟨hc, fun d hd => ?_⟩
          rcases List.mem_append.mp hd with hd | hd
          · exact hsigns d hd
          · exact hdigits d hd
      · exact ⟨rfl, by simp⟩

theorem exists_of_takeNumber? {cs n after : List Char} (h : takeNumber? cs = some (n, after)) :
    ∃ taken, cs = taken ++ after ∧ Closed taken := by
  obtain ⟨hsign, hsigns⟩ := takeSign_spec cs
  obtain ⟨hwhole, hwholes⟩ := takeDigits_spec (takeSign cs).2
  obtain ⟨hfraction, hfractions⟩ := takeFraction_spec (takeDigits (takeSign cs).2).2
  obtain ⟨hexponent, hexponents⟩ :=
    takeExponent_spec (takeFraction (takeDigits (takeSign cs).2).2).2
  rw [takeNumber?] at h
  split at h
  · cases h
  · obtain ⟨rfl, rfl⟩ := Prod.mk.inj (Option.some.inj h)
    refine ⟨_, ?_, ((Closed.of_quiet hsigns).append (.of_quiet hwholes)).append
      (.of_quiet hfractions) |>.append (.of_quiet hexponents)⟩
    rw [List.append_assoc, List.append_assoc, List.append_assoc, ← hexponent, ← hfraction, ← hwhole,
      ← hsign]

theorem exists_of_takeNull? {cs after : List Char} (h : takeNull? cs = some after) :
    ∃ taken, cs = taken ++ after ∧ Closed taken := by
  match cs, h with
  | a :: b :: c :: d :: rest, h =>
      rw [takeNull?] at h
      split at h
      · rename_i hword
        obtain rfl := Option.some.inj h
        refine ⟨[a, b, c, d], rfl, .of_quiet fun e he => ?_⟩
        have hletter : e.toLower ∈ ['n', 'u', 'l', 'l'] := hword ▸ List.mem_map_of_mem he
        refine isQuiet_of_class (p := fun c => decide (c.toLower ∈ ['n', 'u', 'l', 'l']))
          (by decide) (by decide) ?_
        exact decide_eq_true hletter
      · cases h

theorem exists_of_takeDatum {cs after : List Char} {d : Datum}
    (h : takeDatum cs = some (d, after)) :
    ∃ taken, cs = taken ++ after ∧ Closed taken := by
  unfold takeDatum at h
  split at h
  · rename_i inside
    obtain ⟨⟨s, after'⟩, hs, heq⟩ := Option.map_eq_some_iff.mp h
    cases heq
    obtain ⟨taken, rfl, htaken⟩ := exists_of_takeString hs
    refine ⟨'\'' :: taken, rfl, fun piece rest => ?_⟩
    have hopen : piecesFrom .outside piece ('\'' :: (taken ++ rest))
        = piecesFrom .inside ('\'' :: piece) (taken ++ rest) := rfl
    rw [List.cons_append, hopen, htaken]
    simp
  · split at h
    · rename_i hnull
      cases h
      exact exists_of_takeNull? hnull
    · obtain ⟨⟨n, after'⟩, hn, heq⟩ := Option.map_eq_some_iff.mp h
      cases heq
      exact exists_of_takeNumber? hn

theorem exists_gap (cs : List Char) : ∃ gap, cs = gap ++ skipGap cs ∧ Closed gap := by
  refine ⟨cs.takeWhile isGap, List.takeWhile_append_dropWhile.symm, .of_quiet fun c hc => ?_⟩
  exact isQuiet_of_class (by decide) (by decide) (List.mem_takeWhile_imp hc)

/-- **A literal ends no statement** and leaves no string open. -/
theorem Closed.literal {s : String} (h : IsLiteral s) : Closed s.toList := by
  obtain ⟨d, h⟩ := h
  unfold datum? at h
  split at h
  · rename_i d' after hdatum
    split at h
    · rename_i hafter
      obtain ⟨before, hbefore, hclosed⟩ := exists_gap s.toList
      obtain ⟨taken, htaken, hclosed'⟩ := exists_of_takeDatum hdatum
      obtain ⟨gap, hgap, hclosed''⟩ := exists_gap after
      rw [hafter, List.append_nil] at hgap
      rw [hbefore, htaken, hgap]
      exact hclosed.append (hclosed'.append hclosed'')
    · cases h
  · cases h

end Tablekeep.Sql
