import Tablekeep.Proofs.Backup.Plain
import Tablekeep.Proofs.Script.Openings
import Tablekeep.Proofs.Text.Percent
import Tablekeep.Proofs.Text.Words
import Tablekeep.Server.Address

/-!
# Addresses are read again

An address is read from its front: the scheme up to the colon, the user up to the next, the
password up to the at sign, the host up to a colon or a slash, the port up to a slash, the rest is
the database. A part comes back as long as it does not hold the mark that ends it. `Spelled` is an
address in parts as they stand in the text, `Spelled.Clean` says this of each of them, and
`ofText_text` reads them.

The parts that are written by `toText` are coded, and coding leaves none of the marks in them. So
for every user, password and database the text of an address is read as the address again.
-/

namespace Tablekeep.Server

/-! ## Numbers -/

namespace Address

/-- A digit is no blank and no mark. -/
theorem isDigit_plain {c : Char} (h : Text.isDigit c = true) :
    Text.isBlank c = false ∧ c ≠ '-' ∧ c ≠ '+' ∧ c ≠ '_' ∧ c ≠ '/' ∧ c ≠ '?' := by
  have hall : ∀ c ∈ "0123456789".toList,
      Text.isBlank c = false ∧ c ≠ '-' ∧ c ≠ '+' ∧ c ≠ '_' ∧ c ≠ '/' ∧ c ≠ '?' := by decide
  exact hall c (Backup.Plain.mem_digits_of_isDigit h)

/-- Nothing but digits, and at least one of them. -/
structure IsNumeral (cs : List Char) : Prop where
  nonempty : cs ≠ []
  digits : ∀ c ∈ cs, Text.isDigit c = true

theorem isNumeral_toDigits (n : Nat) : IsNumeral (Nat.toDigits 10 n) :=
  ⟨Nat.toDigits_ne_nil, fun _ hc => Backup.Plain.isDigit_of_mem_toDigits hc⟩

theorem ofDigits_toDigits (n : Nat) : Text.ofDigits (Nat.toDigits 10 n) = n :=
  Nat.ofDigitChars_toDigits (by decide) (by decide)

theorem grouped?_numeral {cs : List Char} (h : IsNumeral cs) :
    grouped? cs = some (Text.ofDigits cs) := by
  have hdecimal : Text.decimal? cs = some (Text.ofDigits cs) := by
    rw [Text.decimal?, if_neg (by simpa using h.nonempty), if_pos (List.all_eq_true.mpr h.digits)]
  have hmark : '_' ∉ cs := fun hmem => (isDigit_plain (h.digits _ hmem)).2.2.2.1 rfl
  have hfilter : cs.filter (· ≠ '_') = cs := by
    refine List.filter_eq_self.mpr fun c hc => decide_eq_true ?_
    exact (isDigit_plain (h.digits c hc)).2.2.2.1
  rw [grouped?, Text.piecesFrom_of_not_mem hmark, hfilter, List.reverse_nil, List.nil_append]
  simp [hdecimal]

/-- A number has no blanks to be trimmed, with or without a sign. -/
theorem trim_numeral {cs : List Char} (h : IsNumeral cs) {sign : List Char}
    (hsign : ∀ c ∈ sign, Text.isBlank c = false) :
    Text.trim (String.ofList (sign ++ cs)) = String.ofList (sign ++ cs) := by
  have hword : Text.IsWord (String.ofList (sign ++ cs)) := by
    refine ⟨by simp [h.nonempty], fun c hc => ?_⟩
    rw [String.toList_ofList, List.mem_append] at hc
    exact hc.elim (hsign c) fun hc => (isDigit_plain (h.digits c hc)).1
  have htrim := Text.trim_before hword [] (List.forall_mem_nil _)
  rwa [List.nil_append, String.ofList_toList] at htrim

theorem port?_numeral {cs : List Char} (h : IsNumeral cs) :
    port? (String.ofList cs) = some (Text.ofDigits cs : Int) := by
  have htrim := trim_numeral h (List.forall_mem_nil _)
  rw [List.nil_append] at htrim
  rw [port?, htrim, String.toList_ofList]
  split
  · exact absurd rfl (isDigit_plain (h.digits '-' List.mem_cons_self)).2.1
  · exact absurd rfl (isDigit_plain (h.digits '+' List.mem_cons_self)).2.2.1
  · rw [grouped?_numeral h]
    rfl

theorem mem_decimalInt {n : Int} {c : Char} (h : c ∈ (Text.decimalInt n).toList) :
    c = '-' ∨ Text.isDigit c = true := by
  have hdigits : ∀ d ∈ (Text.decimal n.natAbs).toList, Text.isDigit d = true := by
    rw [Text.decimal, String.toList_ofList]
    exact (isNumeral_toDigits _).digits
  unfold Text.decimalInt at h
  split at h
  · rw [String.toList_append, List.mem_append] at h
    exact h.imp (fun h => by simpa using h) (hdigits c)
  · exact .inr (hdigits c h)

/-- **A number is read as the port that it writes.** -/
theorem port?_decimalInt (n : Int) : port? (Text.decimalInt n) = some n := by
  have hnumeral := isNumeral_toDigits n.natAbs
  unfold Text.decimalInt
  split
  · rename_i hneg
    have htext : "-" ++ Text.decimal n.natAbs
        = String.ofList (['-'] ++ Nat.toDigits 10 n.natAbs) := by
      rw [String.ofList_append]
      rfl
    have hsign : ∀ c ∈ ['-'], Text.isBlank c = false := by decide
    rw [port?, htext, trim_numeral hnumeral hsign, String.toList_ofList, List.singleton_append]
    simp only [grouped?_numeral hnumeral, ofDigits_toDigits]
    change some (-(n.natAbs : Int)) = some n
    rw [Int.ofNat_natAbs_of_nonpos (Int.le_of_lt hneg), Int.neg_neg]
  · rename_i hpos
    rw [Text.decimal, port?_numeral hnumeral, ofDigits_toDigits,
      Int.natAbs_of_nonneg (Int.not_lt.mp hpos)]

/-- A port is there when its text is a number, and there is none without a text. -/
theorem portOf_numeral {cs : List Char} (h : IsNumeral cs) :
    portOf (some cs) = .ok (some (Text.ofDigits cs : Int)) := by
  obtain ⟨c, rest, rfl⟩ := List.exists_cons_of_ne_nil h.nonempty
  rw [portOf, port?_numeral h]
  nofun

theorem portOf_decimalInt (port : Option Int) :
    portOf (port.map fun n => (Text.decimalInt n).toList) = .ok port := by
  cases port with
  | none => rfl
  | some n =>
      obtain ⟨c, rest, hcs⟩ := List.exists_cons_of_ne_nil (Backup.decimalInt_ne_nil n)
      rw [Option.map_some, hcs, portOf, ← hcs, String.ofList_toList, port?_decimalInt]
      nofun

/-! ## Parts -/

/-- What stands before the first character that does not belong to it is taken off a text. -/
theorem span_stop {p : Char → Bool} {cs rest : List Char} (hcs : ∀ c ∈ cs, p c = true)
    (hrest : ∀ c ∈ rest.head?, p c = false) :
    (cs ++ rest).takeWhile p = cs ∧ (cs ++ rest).dropWhile p = rest := by
  rw [List.takeWhile_append_of_pos hcs, List.dropWhile_append_of_pos hcs]
  cases rest with
  | nil => simp
  | cons c rest =>
      have hc : p c = false := hrest c rfl
      simp [hc]

/-- A text that can be a scheme. -/
structure IsScheme (cs : List Char) : Prop where
  nonempty : cs ≠ []
  chars : ∀ c ∈ cs, isSchemeChar c = true

/-- A text that can be a host and holds no colon. -/
structure IsHost (cs : List Char) : Prop where
  nonempty : cs ≠ []
  marks : ∀ c ∈ cs, c ≠ '/' ∧ c ≠ ':' ∧ c ≠ '?' ∧ c ≠ '['

theorem takeScheme?_append {scheme : List Char} (h : IsScheme scheme) (rest : List Char) :
    takeScheme? (scheme ++ "://".toList ++ rest) = some (scheme, rest) := by
  have hstop : ∀ c ∈ ("://".toList ++ rest).head?, isSchemeChar c = false := by
    rintro _ ⟨⟩
    decide
  obtain ⟨htake, hdrop⟩ := span_stop h.chars hstop
  rw [takeScheme?, List.append_assoc, htake, hdrop]
  obtain ⟨c, cs, rfl⟩ := List.exists_cons_of_ne_nil h.nonempty
  rfl

theorem takeUser_append {user password : List Char} (huser : ∀ c ∈ user, c ≠ ':' ∧ c ≠ '/')
    (hpassword : '@' ∉ password) (rest : List Char) :
    takeUser (user ++ ':' :: (password ++ '@' :: rest)) = (some user, some password, rest) := by
  have hword : ∀ c ∈ user, (!(c == ':' || c == '/')) = true := by
    intro c hc
    simp [huser c hc]
  have hcolon : ∀ c ∈ (':' :: (password ++ '@' :: rest)).head?,
      (!(c == ':' || c == '/')) = false := by
    rintro _ ⟨⟩
    rfl
  obtain ⟨htake, hdrop⟩ := span_stop hword hcolon
  have hinside : ∀ c ∈ password, decide (c ≠ '@') = true := by
    intro c hc
    refine decide_eq_true ?_
    rintro rfl
    exact hpassword hc
  have hat : ∀ c ∈ ('@' :: rest).head?, decide (c ≠ '@') = false := by
    rintro _ ⟨⟩
    rfl
  obtain ⟨htakeIn, hdropIn⟩ := span_stop hinside hat
  simp only [takeUser, htake, hdrop, hdropIn, htakeIn]

theorem takeHost_append {host : List Char} (h : IsHost host) {rest : List Char}
    (hrest : ∀ c ∈ rest.head?, c = '/' ∨ c = ':' ∨ c = '?') :
    takeHost (host ++ rest) = (some host, rest) := by
  have hchars : ∀ c ∈ host, (c != '/' && c != ':' && c != '?') = true := by
    intro c hc
    simp [h.marks c hc]
  have hstop : ∀ c ∈ rest.head?, (c != '/' && c != ':' && c != '?') = false := by
    intro c hc
    rcases hrest c hc with rfl | rfl | rfl <;> rfl
  obtain ⟨htake, hdrop⟩ := span_stop hchars hstop
  have hbracket : ∀ more, host ++ rest ≠ '[' :: more := by
    obtain ⟨c, cs, rfl⟩ := List.exists_cons_of_ne_nil h.nonempty
    intro more heq
    exact (h.marks c List.mem_cons_self).2.2.2 (List.cons.inj heq).1
  unfold takeHost
  dsimp only
  rw [htake, hdrop]
  split
  · rename_i heq
    exact absurd heq (hbracket _)
  · split
    · exact absurd rfl h.nonempty
    · rfl

/-- A part with its mark in front, if it is there. -/
def marked (mark : Char) : Option (List Char) → List Char
  | none => []
  | some part => mark :: part

theorem mem_head?_marked {mark c : Char} {part : Option (List Char)} {rest : List Char}
    (h : c ∈ (marked mark part ++ rest).head?) : c = mark ∨ c ∈ rest.head? := by
  cases part with
  | none => exact .inr h
  | some cs =>
      cases h
      exact .inl rfl

theorem takeAfter_marked {mark : Char} {ends : Char → Bool} {part : Option (List Char)}
    {rest : List Char} (hpart : ∀ cs, part = some cs → ∀ c ∈ cs, ends c = false)
    (hrest : ∀ c ∈ rest.head?, ends c = true ∧ c ≠ mark) :
    takeAfter mark ends (marked mark part ++ rest) = (part, rest) := by
  cases part with
  | none =>
      rw [marked, List.nil_append]
      cases rest with
      | nil => rfl
      | cons c rest => rw [takeAfter, if_neg (hrest c rfl).2]
  | some cs =>
      have hinside : ∀ c ∈ cs, (!ends c) = true := by
        intro c hc
        simp [hpart cs rfl c hc]
      have hstop : ∀ c ∈ rest.head?, (!ends c) = false := by
        intro c hc
        simp [(hrest c hc).1]
      obtain ⟨htake, hdrop⟩ := span_stop hinside hstop
      rw [marked, List.cons_append, takeAfter, if_pos rfl, htake, hdrop]

/-! ## Spelling -/

/-- The parts of an address with a user, a password and a host, as they stand in a text. -/
structure Spelled where
  scheme : List Char
  user : List Char
  password : List Char
  host : List Char
  port : Option (List Char)
  database : Option (List Char)

namespace Spelled

/-- What follows the two slashes. -/
def rest (a : Spelled) : List Char :=
  a.user ++ ':' :: (a.password ++ '@'
    :: (a.host ++ (marked ':' a.port ++ (marked '/' a.database ++ []))))

/-- The text with the parts. -/
def text (a : Spelled) : String :=
  String.ofList (a.scheme ++ "://".toList ++ a.rest)

/-- No part holds a mark that ends it. -/
structure Clean (a : Spelled) : Prop where
  scheme : IsScheme a.scheme
  user : ∀ c ∈ a.user, c ≠ ':' ∧ c ≠ '/'
  password : '@' ∉ a.password
  host : IsHost a.host
  port : ∀ cs, a.port = some cs → ∀ c ∈ cs, c ≠ '/' ∧ c ≠ '?'
  database : ∀ cs, a.database = some cs → '?' ∉ cs

/-- The address with the parts and this port. -/
def address (a : Spelled) (port : Option Int) : Address where
  scheme := String.ofList a.scheme
  user := some (Text.Percent.decode (String.ofList a.user))
  password := some (Text.Percent.decode (String.ofList a.password))
  host := some (String.ofList a.host)
  port := port
  database := a.database.map fun cs => Text.Percent.decode (String.ofList cs)
  options := []

/-- **An address is read part by part** when no part holds the mark that ends it. -/
theorem ofText_text {a : Spelled} (h : a.Clean) {port : Option Int}
    (hport : portOf a.port = .ok port) : ofText a.text = .ok (a.address port) := by
  -- a part is ended by the mark of the next one that is there, so they are read from the last
  have hdatabase : takeAfter '/' (· == '?') (marked '/' a.database ++ []) = (a.database, []) := by
    refine takeAfter_marked (fun cs hcs c hc => beq_eq_false_iff_ne.mpr ?_) nofun
    rintro rfl
    exact h.database cs hcs hc
  have hportTake : takeAfter ':' (fun c => c == '/' || c == '?')
      (marked ':' a.port ++ (marked '/' a.database ++ []))
        = (a.port, marked '/' a.database ++ []) := by
    refine takeAfter_marked (fun cs hcs c hc => by simp [h.port cs hcs c hc]) fun c hc => ?_
    rcases mem_head?_marked hc with rfl | hc
    · decide
    · cases hc
  have hhost : takeHost (a.host ++ (marked ':' a.port ++ (marked '/' a.database ++ [])))
      = (some a.host, marked ':' a.port ++ (marked '/' a.database ++ [])) := by
    refine takeHost_append h.host fun c hc => ?_
    rcases mem_head?_marked hc with hcolon | hc
    · exact .inr (.inl hcolon)
    · rcases mem_head?_marked hc with hslash | hc
      · exact .inl hslash
      · cases hc
  have hscheme : takeScheme? a.text.toList = some (a.scheme, a.rest) := by
    rw [text, String.toList_ofList]
    exact takeScheme?_append h.scheme a.rest
  have huser : takeUser a.rest = (some a.user, some a.password,
      a.host ++ (marked ':' a.port ++ (marked '/' a.database ++ []))) :=
    takeUser_append h.user h.password _
  unfold ofText
  simp only [hscheme, huser, hhost, hportTake, hdatabase, hport]
  rfl

end Spelled

/-! ## Addresses that were written -/

/-- An address with a user, a password and a host, and without options. -/
structure Complete (a : Address) : Prop where
  scheme : IsScheme a.scheme.toList
  user : a.user ≠ none
  password : a.password ≠ none
  host : ∃ host, a.host = some host ∧ IsHost host.toList
  options : a.options = []

/-- The parts as they are written, where `coded` writes the name of the database. -/
def spelled (a : Address) (coded : String → String) : Spelled where
  scheme := a.scheme.toList
  user := (Text.Percent.encode userSafe (a.user.getD "")).toList
  password := (Text.Percent.encode userSafe (a.password.getD "")).toList
  host := (a.host.getD "").toList
  port := a.port.map fun n => (Text.decimalInt n).toList
  database := a.database.map fun d => (coded d).toList

/-- In a user and in a password no mark is left by their coding. -/
theorem not_mem_encode_userSafe {c : Char} (h : c ∈ [':', '/', '@']) (s : String) :
    c ∉ (Text.Percent.encode userSafe s).toList := by
  have hall : ∀ c ∈ [':', '/', '@'],
      Text.Percent.isUnreserved c = false ∧ c ∉ userSafe ∧ c ≠ '%' := by decide
  obtain ⟨hreserved, hsafe, hpercent⟩ := hall c h
  exact Text.Percent.not_mem_encode hreserved hsafe hpercent s

/-- Without a colon in it the host needs no brackets. -/
theorem contains_colon {host : String} (h : IsHost host.toList) :
    Text.contains host ":" = false := by
  have hnone : ∀ cs : List Char, (∀ c ∈ cs, c ≠ ':') → Text.occursIn [':'] cs = false := by
    intro cs hcs
    induction cs with
    | nil => rfl
    | cons c cs ih =>
        obtain ⟨hc, hcs⟩ := List.forall_mem_cons.mp hcs
        rw [Text.occursIn, ih hcs, Bool.or_false]
        simp [Text.isStart, List.isPrefixOf, Ne.symm hc]
  exact hnone _ fun c hc => (h.marks c hc).2.1

section Complete

variable {a : Address}

theorem Complete.toText_eq (h : a.Complete) :
    a.toText = (a.spelled (Text.Percent.encode databaseSafe)).text := by
  obtain ⟨scheme, user, password, host, port, database, options⟩ := a
  obtain ⟨-, huser, hpassword, ⟨host, rfl, hhost⟩, rfl⟩ := h
  obtain ⟨user, rfl⟩ := Option.ne_none_iff_exists'.mp huser
  obtain ⟨password, rfl⟩ := Option.ne_none_iff_exists'.mp hpassword
  rw [← String.toList_inj, Spelled.text, String.toList_ofList]
  cases port <;> cases database <;>
    simp [toText, userText, hostText, optionsText, contains_colon hhost, spelled, Spelled.rest,
      marked]

theorem Complete.clean (h : a.Complete) :
    (a.spelled (Text.Percent.encode databaseSafe)).Clean := by
  refine ⟨h.scheme, fun c hc => ?_, ?_, ?_, fun cs hcs c hc => ?_, fun cs hcs => ?_⟩
  · dsimp only [spelled] at hc
    exact ⟨ne_of_mem_of_not_mem hc (not_mem_encode_userSafe (by decide) _),
      ne_of_mem_of_not_mem hc (not_mem_encode_userSafe (by decide) _)⟩
  · dsimp only [spelled]
    exact not_mem_encode_userSafe (by decide) _
  · obtain ⟨host, hhost, h⟩ := h.host
    rw [spelled, hhost]
    exact h
  · obtain ⟨n, -, rfl⟩ := Option.map_eq_some_iff.mp hcs
    rcases mem_decimalInt hc with rfl | hdigit
    · decide
    · exact (isDigit_plain hdigit).2.2.2.2
  · obtain ⟨d, -, rfl⟩ := Option.map_eq_some_iff.mp hcs
    exact Text.Percent.not_mem_encode (by decide) (by decide) (by decide) d

theorem Complete.address_eq (h : a.Complete) :
    (a.spelled (Text.Percent.encode databaseSafe)).address a.port = a := by
  obtain ⟨scheme, user, password, host, port, database, options⟩ := a
  obtain ⟨-, huser, hpassword, ⟨host, rfl, hhost⟩, rfl⟩ := h
  obtain ⟨user, rfl⟩ := Option.ne_none_iff_exists'.mp huser
  obtain ⟨password, rfl⟩ := Option.ne_none_iff_exists'.mp hpassword
  have huserSafe : '%' ∉ userSafe := by decide
  have hdatabaseSafe : '%' ∉ databaseSafe := by decide
  cases database <;>
    simp [Spelled.address, spelled, Text.Percent.decode_encode, huserSafe, hdatabaseSafe]

/-- **The text of an address is read as the address.** -/
theorem ofText_toText (h : a.Complete) : ofText a.toText = .ok a := by
  rw [h.toText_eq, Spelled.ofText_text h.clean (portOf_decimalInt a.port), h.address_eq]

end Complete

end Address

/-! ## Drivers -/

/-- The scheme with a driver, where it names none. -/
def driverOf (scheme : String) : String :=
  if scheme = "mysql" then "mysql+aiomysql"
  else if scheme = "mssql" then "mssql+aioodbc" else scheme

/-- **The driver goes into the scheme**, and nothing else of an address changes. -/
theorem withDriver_append {scheme : String} (h : ':' ∉ scheme.toList) (rest : String) :
    withDriver (scheme ++ "://" ++ rest) = driverOf scheme ++ "://" ++ rest := by
  have hbegins (name : String) (hname : ':' ∉ name.toList) :
      Text.beginsWith (scheme ++ "://" ++ rest) (name ++ "://") = decide (scheme = name) := by
    rw [Bool.eq_iff_iff, Text.beginsWith_iff, decide_eq_true_iff]
    constructor
    · -- up to the first colon both texts are the same
      rintro ⟨more, hmore⟩
      have hboth : name ++ ("://" ++ String.ofList more) = scheme ++ ("://" ++ rest) := by
        rw [← String.toList_inj]
        simpa using hmore
      have hstop {s : String} (hs : ':' ∉ s.toList) : ∀ c ∈ s.toList, (c == ':') = false :=
        fun c hc => beq_eq_false_iff_ne.mpr (ne_of_mem_of_not_mem hc hs)
      have hmark (more : String) : ("://" ++ more).toList.head?.any (· == ':') = true := by
        rw [String.toList_append]
        rfl
      exact (Text.append_inj_of_stop (hstop hname) (hstop h) (hmark _) (hmark _) hboth).1.symm
    · rintro rfl
      exact ⟨rest.toList, (String.toList_append ..).symm⟩
  have hdrop (name : String) :
      String.ofList ((name ++ "://" ++ rest).toList.drop (name ++ "://").length) = rest := by
    rw [String.toList_append, ← String.length_toList, List.drop_left, String.ofList_toList]
  have hschemes : driverSchemes = [("mysql" ++ "://", "mysql+aiomysql" ++ "://"),
      ("mssql" ++ "://", "mssql+aioodbc" ++ "://")] := rfl
  rw [withDriver, hschemes, driverOf]
  simp only [List.find?_cons, List.find?_nil, hbegins "mysql" (by decide),
    hbegins "mssql" (by decide)]
  by_cases h1 : scheme = "mysql"
  · subst h1
    simp only [decide_true, ↓reduceIte, hdrop]
  · by_cases h2 : scheme = "mssql"
    · subst h2
      simp only [h1, decide_true, decide_false, ↓reduceIte, hdrop]
    · simp only [h1, h2, decide_false, ↓reduceIte]

theorem Address.isScheme_driverOf {scheme : String} (h : IsScheme scheme.toList) :
    IsScheme (driverOf scheme).toList := by
  unfold driverOf
  split
  · exact ⟨by decide, by decide⟩
  split
  · exact ⟨by decide, by decide⟩
  · exact h

end Tablekeep.Server
