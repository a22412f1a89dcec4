import Tablekeep.Digest.Report
import Tablekeep.Proofs.Backup.Insertion
import Tablekeep.Proofs.Backup.Instants

/-!
# What a restored value adds to a digest

A digest is taken of canonical texts, so a value may come back changed as long as its
canonical text stays. A moment loses the parts of its second, but only its day counts. A
truth value may come back as any value that is as true. A text is the one kind of value that
can come back with another canonical text: blanks at the end are trimmed before characters
are dropped, and so a blank that stood before dropped characters is at the end of what comes
back, and is trimmed there. `Settled` says that this does not happen.

What is stored for a literal is left to the server, within the limits of `Stored`.
-/

namespace Tablekeep.Digest

open Backup Calendar

/-! ## What a server stores -/

/-- A column of the kind may hold the value after a literal with this meaning was put into it. For a
truth value a server answers with any value that is as true. -/
def Stored (kind : ValueKind) (d : Sql.Datum) (v : Value) : Prop :=
  match kind, d with
  | _, .null => v = .null
  | .text, .text s => v = .text s
  | .integer, .number n => ∃ i, v = .int i ∧ Text.decimalInt i = n
  | .boolean, .number n => v ≠ .null ∧ (v.isTrue = true ↔ n ≠ "0")
  | .timestamp, .text s => ∃ m, v = .moment m ∧ m.offset = none ∧ Moment.ofText s = .ok m
  | _, _ => False

/-- The column may hold the value after the literal was put into it. -/
def LeftBy (c : Column) (l : String) (v : Value) : Prop :=
  ∃ d, Sql.datum? l = some d ∧ Stored c.kind d v

theorem leftBy_null {c : Column} {v : Value} : LeftBy c "null" v ↔ v = .null := by
  have hnull : Sql.datum? "null" = some .null := by decide
  have hstored : ∀ kind, Stored kind .null v ↔ v = .null := by
    intro kind
    cases kind <;> exact Iff.rfl
  constructor
  · rintro ⟨d, hd, hv⟩
    rw [hnull, Option.some.injEq] at hd
    subst hd
    exact (hstored _).mp hv
  · exact fun hv => ⟨_, hnull, (hstored _).mpr hv⟩

/-! ## What a value adds -/

/-- What a value adds to a digest. Null adds nothing. -/
def share (kind : ValueKind) (v : Value) : String :=
  if v = .null then "" else canonicalText kind v

/-- The second text is no longer than the first, and it is the same under the condition. -/
structure Shrinks (same : Prop) (text text' : String) : Prop where
  le : text'.length ≤ text.length
  eq_iff : text' = text ↔ same

theorem Shrinks.refl (text : String) : Shrinks True text text :=
  ⟨Nat.le_refl _, iff_of_true rfl trivial⟩

theorem Shrinks.congr {p q : Prop} {a b : String} (h : Shrinks p a b) (hpq : p ↔ q) :
    Shrinks q a b :=
  ⟨h.le, h.eq_iff.trans hpq⟩

/-- As nothing gets longer, texts next to each other cannot make up for each other. -/
theorem Shrinks.append {p q : Prop} {a a' b b' : String} (ha : Shrinks p a a')
    (hb : Shrinks q b b') : Shrinks (p ∧ q) (a ++ b) (a' ++ b') := by
  refine ⟨?_, ?_⟩
  · rw [String.length_append, String.length_append]
    exact Nat.add_le_add ha.le hb.le
  · rw [← ha.eq_iff, ← hb.eq_iff]
    constructor
    · intro h
      have hlength := congrArg String.length h
      rw [String.length_append, String.length_append] at hlength
      have hle := ha.le
      have hle' := hb.le
      have hlist : a'.toList ++ b'.toList = a.toList ++ b.toList := by
        rw [← String.toList_append, ← String.toList_append, h]
      have hsame : a'.toList.length = a.toList.length := by
        rw [String.length_toList, String.length_toList]
        omega
      obtain ⟨hfirst, hsecond⟩ := List.append_inj hlist hsame
      exact ⟨String.toList_inj.mp hfirst, String.toList_inj.mp hsecond⟩
    · rintro ⟨rfl, rfl⟩
      rfl

/-! ## Texts -/

/-- No blank is at the end of the text once its end was trimmed and characters were dropped. -/
def Settled (s : String) : Prop :=
  Text.trimEnd (kept (Text.trimEnd s)) = kept (Text.trimEnd s)

instance (s : String) : Decidable (Settled s) :=
  inferInstanceAs (Decidable (Text.trimEnd _ = _))

/-- What is not dropped is written. -/
theorem flatMap_escapeChar_eq_nil {cs : List Char} (h : ∀ c ∈ cs, isDropped c = false)
    (hnil : cs.flatMap escapeChar = []) : cs = [] := by
  cases cs with
  | nil => rfl
  | cons c cs =>
      have hc := (List.forall_mem_cons.mp h).1
      rw [List.flatMap_cons, List.append_eq_nil_iff] at hnil
      rcases escapeChar_cases c with ⟨-, -, hescape⟩ | ⟨-, body, hescape, -⟩ | ⟨hdropped, -⟩
      · rw [hescape] at hnil
        cases hnil.1
      · rw [hescape] at hnil
        cases hnil.1
      · rw [hc] at hdropped
        cases hdropped

theorem exists_trimEnd_append (s : String) : ∃ blanks, s = Text.trimEnd s ++ blanks := by
  refine ⟨String.ofList (s.toList.reverse.takeWhile Text.isBlank).reverse, ?_⟩
  rw [Text.trimEnd, Text.dropBlanksEnd, ← String.ofList_append, ← List.reverse_append,
    List.takeWhile_append_dropWhile, List.reverse_reverse, String.ofList_toList]

theorem mem_of_mem_trimEnd {s : String} {c : Char} (h : c ∈ (Text.trimEnd s).toList) :
    c ∈ s.toList := by
  obtain ⟨blanks, hs⟩ := exists_trimEnd_append s
  rw [hs, String.toList_append]
  exact List.mem_append_left _ h

/-- **The canonical text of a restored text is the same if and only if the text is settled**; else
it is shorter. -/
theorem shrinks_text (s : String) :
    Shrinks (Settled s) (escape (Text.trimEnd s))
      (escape (Text.trimEnd (kept (Text.trimEnd s)))) := by
  generalize hk : kept (Text.trimEnd s) = k
  have hkept : ∀ c ∈ k.toList, isDropped c = false := by
    intro c hc
    rw [← hk, kept, String.toList_ofList, List.mem_filter] at hc
    simpa using hc.2
  obtain ⟨blanks, hblanks⟩ := exists_trimEnd_append k
  have hsplit : (escape k).toList
      = (escape (Text.trimEnd k)).toList ++ blanks.toList.flatMap escapeChar := by
    rw [escape, escape, String.toList_ofList, String.toList_ofList, ← List.flatMap_append,
      ← String.toList_append, ← hblanks]
  have hlength := congrArg List.length hsplit
  rw [List.length_append, String.length_toList, String.length_toList] at hlength
  rw [← escape_kept (Text.trimEnd s), hk]
  refine ⟨by omega, fun heq => ?_, fun hsettled => ?_⟩
  · -- what was trimmed is not written, so it is nothing
    rw [heq] at hlength
    have hnil : blanks.toList.flatMap escapeChar = [] :=
      List.length_eq_zero_iff.mp (by omega)
    have hempty : blanks.toList = [] := by
      refine flatMap_escapeChar_eq_nil (fun c hc => hkept c ?_) hnil
      rw [hblanks, String.toList_append]
      exact List.mem_append_right _ hc
    rw [Settled, hk]
    conv_rhs => rw [hblanks]
    rw [← String.toList_inj, String.toList_append, hempty, List.append_nil]
  · rw [Settled, hk] at hsettled
    rw [hsettled]

/-! ## Numbers and moments -/

theorem takeDigits_digits {ds : List Char} (h : ∀ c ∈ ds, Text.isDigit c = true) :
    Sql.takeDigits ds = (ds, []) := by
  rw [Sql.takeDigits, List.takeWhile_eq_self_iff.mpr h, List.dropWhile_eq_nil_iff.mpr h]

theorem takeNumber?_digits {sign ds : List Char} (hsign : sign = [] ∨ sign = ['-'])
    (h : ∀ c ∈ ds, Text.isDigit c = true) (hne : ds ≠ []) :
    Sql.takeNumber? (sign ++ ds) = some (sign ++ ds, []) := by
  have htake : Sql.takeSign (sign ++ ds) = (sign, ds) := by
    rcases hsign with rfl | rfl
    · obtain ⟨d, ds, rfl⟩ := List.exists_cons_of_ne_nil hne
      have hd := (List.forall_mem_cons.mp h).1
      have hnosign : ¬ (d = '+' ∨ d = '-') := by
        rintro (rfl | rfl)
        · cases hd
        · cases hd
      rw [List.nil_append, Sql.takeSign, if_neg hnosign]
    · rfl
  simp only [Sql.takeNumber?, htake, takeDigits_digits h, Sql.takeFraction, Sql.takeExponent, hne,
    false_and, ↓reduceIte, List.append_nil]

/-- A digit begins neither a string nor the word for null, and it is no blank. -/
theorem isDigit_first {c : Char} (h : Text.isDigit c = true) :
    Sql.isGap c = false ∧ c ≠ '\'' ∧ c.toLower ≠ 'n' := by
  have hall : ∀ c ∈ "0123456789".toList,
      Sql.isGap c = false ∧ c ≠ '\'' ∧ c.toLower ≠ 'n' := by decide
  exact hall c (Plain.mem_digits_of_isDigit h)

/-- A whole number is a literal, and it denotes itself. -/
theorem datum?_decimalInt (n : Int) :
    Sql.datum? (Text.decimalInt n) = some (.number (Text.decimalInt n)) := by
  obtain ⟨sign, ds, htext, hsign, hdigits, hne⟩ : ∃ sign ds, (Text.decimalInt n).toList = sign ++ ds
      ∧ (sign = [] ∨ sign = ['-']) ∧ (∀ c ∈ ds, Text.isDigit c = true) ∧ ds ≠ [] := by
    have hdigits : ∀ c ∈ Nat.toDigits 10 n.natAbs, Text.isDigit c = true := fun c hc =>
      Plain.isDigit_of_mem_toDigits hc
    unfold Text.decimalInt
    split
    · refine ⟨['-'], _, ?_, .inr rfl, hdigits, Nat.toDigits_ne_nil⟩
      rw [String.toList_append, Text.decimal, String.toList_ofList, String.toList_ofList]
    · refine ⟨[], _, ?_, .inl rfl, hdigits, Nat.toDigits_ne_nil⟩
      rw [Text.decimal, String.toList_ofList, List.nil_append]
  obtain ⟨c, cs, hcons⟩ := List.exists_cons_of_ne_nil (List.append_ne_nil_of_right_ne_nil sign hne)
  have hfirst : Sql.isGap c = false ∧ c ≠ '\'' ∧ c.toLower ≠ 'n' := by
    rcases hsign with rfl | rfl
    · exact isDigit_first
        (hdigits c (by rw [← List.nil_append ds, hcons]; exact List.mem_cons_self ..))
    · obtain ⟨rfl, -⟩ := List.cons.inj hcons
      decide
  have hnumber := takeNumber?_digits hsign hdigits hne
  have hopens : ∀ inside, sign ++ ds = '\'' :: inside → False := fun inside heq =>
    hfirst.2.1 (List.cons.inj (hcons.symm.trans heq)).1
  -- neither a sign nor a digit is the first letter of the word for null
  have hnull : Sql.takeNull? (sign ++ ds) = none := by
    rw [hcons]
    rcases cs with _ | ⟨_, _ | ⟨_, _ | ⟨_, rest⟩⟩⟩
    · rfl
    · rfl
    · rfl
    · rw [Sql.takeNull?, if_neg]
      intro hword
      exact hfirst.2.2 (List.cons.inj hword).1
  have hgap : Sql.skipGap (sign ++ ds) = sign ++ ds := by
    rw [hcons, Sql.skipGap, List.dropWhile_cons, hfirst.1]
    rfl
  rw [Sql.datum?, htext, hgap, Sql.takeDatum.eq_2 _ hopens, hnull, hnumber, ← htext]
  exact congrArg (fun s => some (Sql.Datum.number s)) String.ofList_toList

/-- The clock `zone` is ahead of universal time by whole seconds, and by less than a day. -/
structure ClockOffset (zone : Int) : Prop where
  lt : zone.natAbs < dayMicros
  seconds : (secondMicros : Int) ∣ zone

/-- A moment on such a clock is restored as its own stamp. -/
theorem stampAt_restoredTicks {zone : Int} (hzone : ClockOffset zone) {m : Moment}
    (hoffset : m.offset = none) (hd : m.date.isValid = true) (ht : m.time.Valid) :
    stampAt (restoredTicks (some zone) (some zone) m) = m.toStamp := by
  have hticks : restoredTicks (some zone) (some zone) m = m.toSecond.ticks :=
    Moment.wholeSeconds_instant hoffset ht hzone.seconds
  have hshown := Moment.ofTicks_ticks (m := m.toSecond) hd (Moment.toSecond_valid ht) none
  rw [hticks, ← toStamp_of_ofTicks hshown]
  rfl

/-! ## Values -/

/-- The value is of the type that its kind asks for, and a backup can hold it: a text of characters
that may stand in a document, or a moment whose year has four digits, in universal time, too. -/
def Portable (zone : Int) (kind : ValueKind) (v : Value) : Prop :=
  match kind with
  | .text => ∃ s, v = .text s ∧ Documentable s
  | .integer => ∃ n, v = .int n
  | .boolean => ∃ b, v = .bool b
  | .timestamp => ∃ m u, v = .moment m ∧ m.offset = none ∧ m.date.isValid = true ∧ m.time.Valid
      ∧ 1000 ≤ m.date.year ∧ m.toUniversal (some zone) = .ok u ∧ 1000 ≤ u.date.year
  | _ => False

/-- The value is no text that comes back with another canonical text. -/
def SettledValue (v : Value) : Prop :=
  ∀ s, v = .text s → Settled s

section Values

variable {zone : Int} {c : Column} {v : Value}

theorem Portable.restorable {kind : ValueKind} (h : Portable zone kind v) :
    Restorable (some zone) (some zone) kind v := by
  cases kind with
  | text =>
      obtain ⟨s, rfl, hs⟩ := h
      exact fun c hc hkept => hs c (mem_of_mem_trimEnd hc) hkept
  | integer =>
      obtain ⟨n, rfl⟩ := h
      exact .inl rfl
  | boolean => trivial
  | timestamp =>
      obtain ⟨m, u, rfl, hoffset, hd, ht, hyear, hu, huyear⟩ := h
      have hticks := ticks_toUniversal hu
      rw [hoffset, Option.none_or, Option.getD_some] at hticks
      obtain ⟨huoffset, -, -, hof⟩ := Moment.toUniversal_spec hu
      obtain ⟨hpos, hlt⟩ := Moment.range_of_ofTicks hof
      have hback : u.toZone (some zone) = .ok ⟨m.date, m.time, some zone⟩ := by
        rw [Moment.toZone_of_universal huoffset hpos hlt, Option.getD_some, hticks,
          Int.sub_add_cancel]
        exact Moment.ofTicks_ticks hd ht _
      exact ⟨m, u, _, rfl, hu, huyear, hback⟩
  | single | decimal | binary => exact h.elim

/-- The literal leaves something behind, and whatever it leaves adds the same to a digest as the
value if the value is settled, and less if it is not. -/
structure Returns (c : Column) (l : String) (v : Value) : Prop where
  exists_leftBy : ∃ w, LeftBy c l w
  shrinks : ∀ w, LeftBy c l w → Shrinks (SettledValue v) (share c.kind v) (share c.kind w)

/-- Of values that are no texts all has to come back. -/
theorem Returns.of_same {l : String} {d : Sql.Datum} (hl : Sql.datum? l = some d)
    (hv : ∀ s, v ≠ .text s) (hw : ∃ w, Stored c.kind d w)
    (h : ∀ w, Stored c.kind d w → share c.kind w = share c.kind v) : Returns c l v := by
  obtain ⟨w, hw⟩ := hw
  refine ⟨⟨w, d, hl, hw⟩, fun w' ⟨d', hd', hw'⟩ => ?_⟩
  rw [hl, Option.some.injEq] at hd'
  subst hd'
  have hsettled : SettledValue v ↔ True := iff_of_true (fun s hs => absurd hs (hv s)) trivial
  rw [h w' hw']
  exact (Shrinks.refl _).congr hsettled.symm

theorem returns_text (hkind : c.kind = .text) (s : String) :
    Returns c (restoredLiteral (some zone) (some zone) c (.text s)) (.text s) := by
  have hl : restoredLiteral (some zone) (some zone) c (.text s)
      = keptLiteral c (fun s => inApostrophes (doubleQuotes s)) s := by
    unfold restoredLiteral
    rw [hkind]
    rfl
  have hsettled : Settled s ↔ SettledValue (.text s) :=
    ⟨fun h s' hs' => by cases hs'; exact h, fun h => h s rfl⟩
  have hshrinks := (shrinks_text s).congr hsettled
  have hshare : ∀ s, share c.kind (.text s) = escape (Text.trimEnd s) := fun s => by
    rw [hkind]
    rfl
  rw [hl, keptLiteral]
  split
  · -- nothing is kept, and null adds nothing either
    rename_i hnothing
    rw [Bool.and_eq_true, String.isEmpty_iff] at hnothing
    refine ⟨⟨.null, leftBy_null.mpr rfl⟩, fun w hw => ?_⟩
    obtain rfl := leftBy_null.mp hw
    rw [hnothing.1] at hshrinks
    rw [hshare]
    exact hshrinks
  · have htext := datum?_doubleQuotes (kept (Text.trimEnd s))
    refine ⟨⟨.text _, _, htext, by rw [hkind]; rfl⟩, ?_⟩
    rintro w ⟨d, hd, hw⟩
    rw [htext, Option.some.injEq] at hd
    subst hd
    rw [hkind] at hw
    obtain rfl : w = .text _ := hw
    rw [hshare, hshare]
    exact hshrinks

theorem returns_integer (hkind : c.kind = .integer) (n : Int) :
    Returns c (restoredLiteral (some zone) (some zone) c (.int n)) (.int n) := by
  have hl : restoredLiteral (some zone) (some zone) c (.int n) = Text.decimalInt n := by
    unfold restoredLiteral
    rw [hkind]
    rfl
  rw [hl]
  refine .of_same (datum?_decimalInt n) (by simp) ?_ ?_
  · rw [hkind]
    exact ⟨.int n, n, rfl, rfl⟩
  · rw [hkind]
    rintro w ⟨i, rfl, hi⟩
    rw [share, share, if_neg (by simp), if_neg (by simp)]
    unfold canonicalText
    simp only [Value.display, hi]

theorem returns_boolean (hkind : c.kind = .boolean) (b : Bool) :
    Returns c (restoredLiteral (some zone) (some zone) c (.bool b)) (.bool b) := by
  have hl : restoredLiteral (some zone) (some zone) c (.bool b) = if b then "1" else "0" := by
    unfold restoredLiteral
    rw [hkind]
    rfl
  have hd : Sql.datum? (if b then "1" else "0") = some (.number (if b then "1" else "0")) := by
    cases b <;> decide
  have htrue : ((if b then "1" else "0") ≠ "0") ↔ b = true := by cases b <;> decide
  rw [hl]
  refine .of_same hd (by simp) ?_ ?_
  · rw [hkind]
    exact ⟨.bool b, by simp, htrue.symm⟩
  · rw [hkind]
    rintro w ⟨hnull, hw⟩
    have hsame : w.isTrue = b := by
      rw [Bool.eq_iff_iff, hw, htrue]
    have hb : (Value.bool b).isTrue = b := rfl
    rw [share, share, if_neg hnull, if_neg (by simp)]
    unfold canonicalText
    simp only [hsame, hb]

theorem returns_timestamp (hzone : ClockOffset zone) (hkind : c.kind = .timestamp) {m : Moment}
    (hoffset : m.offset = none) (hd : m.date.isValid = true) (ht : m.time.Valid)
    (hyear : 1000 ≤ m.date.year) :
    Returns c (restoredLiteral (some zone) (some zone) c (.moment m)) (.moment m) := by
  have hl : restoredLiteral (some zone) (some zone) c (.moment m) = inApostrophes m.toStamp := by
    unfold restoredLiteral
    simp only [hkind, stampAt_restoredTicks hzone hoffset hd ht]
  have hread := ofText_toStamp hd hyear ht
  rw [hl]
  refine .of_same (datum?_plain (plain_toStamp m)) (by simp) ?_ ?_
  · rw [hkind]
    exact ⟨_, _, rfl, rfl, hread⟩
  · rw [hkind]
    rintro w ⟨m', rfl, -, hm'⟩
    rw [hread, Except.ok.injEq] at hm'
    subst hm'
    rfl

/-- **A portable value returns**, up to what trimming does to a text. -/
theorem returns_restoredLiteral (hzone : ClockOffset zone) (h : Portable zone c.kind v) :
    Returns c (restoredLiteral (some zone) (some zone) c v) v := by
  cases hkind : c.kind with
  | text =>
      rw [hkind] at h
      obtain ⟨s, rfl, -⟩ := h
      exact returns_text hkind s
  | integer =>
      rw [hkind] at h
      obtain ⟨n, rfl⟩ := h
      exact returns_integer hkind n
  | boolean =>
      rw [hkind] at h
      obtain ⟨b, rfl⟩ := h
      exact returns_boolean hkind b
  | timestamp =>
      rw [hkind] at h
      obtain ⟨m, -, rfl, hoffset, hd, ht, hyear, -⟩ := h
      exact returns_timestamp hzone hkind hoffset hd ht hyear
  | single | decimal | binary =>
      rw [hkind] at h
      exact h.elim

end Values

end Tablekeep.Digest
