import Tablekeep.Proofs.Command.Attempt
import Tablekeep.Proofs.Server.Addressing

/-!
# Where a connection goes

A password comes from a profile into an address, is read out of it again, written into another one
with the name of the database, and read once more where the connection is made. On this way it is
coded twice, each time for other characters. What it says must not matter for where the connection
goes: a colon, a slash or an at sign in it is no mark of the address.

`Place` is what a profile says of a server besides the password. The placeholder of the password is
the only one in the address of a plain place (`serverUrl_eq`), and coding leaves no mark of an
address in what is put there. So the parts are read as they were given, and the rest is that an
address that is written is read again. How addresses are read and written is left open; whatever is
done to the letters of a password on the way, it has to be lawful.
-/

namespace Tablekeep

open Server

/-! ## The placeholder -/

namespace Config

section Replace

variable {first : Char} {part image : List Char}

/-- What does not hold the first character of a part is no place where it begins. -/
theorem replaceFrom_append {cs : List Char} (h : first ∉ cs) (rest : List Char) :
    replaceFrom (first :: part) image 0 (cs ++ rest)
      = cs ++ replaceFrom (first :: part) image 0 rest := by
  induction cs with
  | nil => rfl
  | cons c cs ih =>
      obtain ⟨hc, hcs⟩ := List.ne_and_not_mem_of_not_mem_cons h
      have hprefix : (first :: part).isPrefixOf (c :: (cs ++ rest)) = false := by
        simp [List.isPrefixOf, hc]
      rw [List.cons_append, replaceFrom, hprefix, if_neg Bool.false_ne_true, ih hcs,
        List.cons_append]

theorem replaceFrom_skip (cs rest : List Char) :
    replaceFrom part image cs.length (cs ++ rest) = replaceFrom part image 0 rest := by
  induction cs with
  | nil => rfl
  | cons c cs ih => rw [List.length_cons, List.cons_append, replaceFrom, ih]

/-- The part itself is replaced. -/
theorem replaceFrom_part (rest : List Char) :
    replaceFrom (first :: part) image 0 (first :: part ++ rest)
      = image ++ replaceFrom (first :: part) image 0 rest := by
  have hprefix : (first :: part).isPrefixOf (first :: (part ++ rest)) = true :=
    List.isPrefixOf_iff_prefix.mpr (List.prefix_append (first :: part) rest)
  rw [List.cons_append, replaceFrom, if_pos hprefix, List.length_cons, Nat.add_sub_cancel,
    replaceFrom_skip]

/-- A part that stands in one place is replaced there. -/
theorem replaceFrom_once {before after : List Char} (hbefore : first ∉ before)
    (hafter : first ∉ after) :
    replaceFrom (first :: part) image 0 (before ++ (first :: part ++ after))
      = before ++ (image ++ after) := by
  have hrest : replaceFrom (first :: part) image 0 after = after := by
    rw [← List.append_nil after, replaceFrom_append hafter, replaceFrom]
  rw [replaceFrom_append hbefore, replaceFrom_part, hrest]

end Replace

/-! ## Places -/

/-- What an address says of a server besides the password. -/
structure Place where
  scheme : String
  user : String
  host : String
  /-- The digits of the port. -/
  port : Option String

namespace Place

/-- The address in a profile. -/
def url (p : Place) : String :=
  p.scheme ++ "://" ++ p.user ++ ":" ++ passwordPlaceholder ++ "@" ++ p.host
    ++ (p.port.map (":" ++ ·)).getD ""

/-- The server that is named by the address, without the password. -/
def server (p : Place) : Address where
  scheme := p.scheme
  user := some p.user
  password := none
  host := some p.host
  port := p.port.map fun digits => (Text.ofDigits digits.toList : Int)
  database := none
  options := []

/-- Where a connection to a database of the server goes, and who makes it. -/
def address (p : Place) (database : String) : Address :=
  { p.server with scheme := driverOf p.scheme, database := some database }

/-- Nothing in the place has to be coded. -/
structure Plain (p : Place) : Prop where
  scheme : p.scheme ≠ "" ∧ ∀ c ∈ p.scheme.toList, isPlainChar c = true
  user : ∀ c ∈ p.user.toList, isPlainChar c = true
  host : Address.IsPlainHost p.host.toList
  port : ∀ digits, p.port = some digits → Address.IsNumeral digits.toList

/-- The parts of the address with a text for the password. -/
def spelled (p : Place) (password : List Char) : Address.Spelled where
  scheme := p.scheme.toList
  user := p.user.toList
  password := password
  host := p.host.toList
  port := p.port.map String.toList
  database := none

end Place

variable {place : Place} {p : Profile} {password : String}

/-- The bracket that opens the placeholder stands in no other part of the address. -/
theorem Place.Plain.bracket (h : place.Plain) :
    '[' ∉ place.scheme.toList ∧ '[' ∉ place.user.toList ∧ '[' ∉ place.host.toList
      ∧ ∀ digits, place.port = some digits → '[' ∉ digits.toList := by
  have hplain {s : String} (hs : ∀ c ∈ s.toList, isPlainChar c = true) : '[' ∉ s.toList :=
    fun hmem => ne_of_isPlainChar (hs _ hmem) (by decide) rfl
  refine ⟨hplain h.scheme.2, hplain h.user, hplain h.host.chars, fun digits hdigits hmem => ?_⟩
  have hdigit := (h.port digits hdigits).digits _ hmem
  revert hdigit
  decide

theorem Place.Plain.isScheme (h : place.Plain)
    (hscheme : ∀ c ∈ place.scheme.toList, Address.isSchemeChar c = true) :
    Address.IsScheme place.scheme.toList :=
  ⟨by simpa using h.scheme.1, hscheme⟩

/-- The password is put where the placeholder is, and nowhere else. -/
theorem serverUrl_eq (h : place.Plain) (hurl : p.url = place.url)
    (hpassword : p.password = some password) (hne : password ≠ "") :
    p.serverUrl = (place.spelled (Text.Percent.encode [] password).toList).text := by
  obtain ⟨hscheme, huser, hhost, hport⟩ := h.bracket
  obtain ⟨scheme, user, host, port⟩ := place
  -- the placeholder begins with the only bracket in the address
  have hplaceholder : passwordPlaceholder.toList = '[' :: "YOUR-PASSWORD]".toList := rfl
  have hbefore : '[' ∉ scheme.toList ++ "://".toList ++ user.toList ++ [':'] := by
    simp [hscheme, huser]
  have hafter : '[' ∉ '@' :: (host.toList ++ Address.marked ':' (port.map String.toList)) := by
    cases port with
    | none => simp [hhost, Address.marked]
    | some digits => simp [hhost, hport digits rfl, Address.marked]
  have hchars : p.url.toList = scheme.toList ++ "://".toList ++ user.toList ++ [':']
      ++ ('[' :: "YOUR-PASSWORD]".toList
        ++ '@' :: (host.toList ++ Address.marked ':' (port.map String.toList))) := by
    rw [hurl]
    cases port <;> simp [Place.url, passwordPlaceholder, Address.marked]
  rw [Profile.serverUrl, hpassword]
  dsimp only
  rw [if_neg (by simpa using hne), hplaceholder, hchars, replaceFrom_once hbefore hafter]
  simp [Place.spelled, Address.Spelled.text, Address.Spelled.rest, Address.marked]

/-- The parts are plain, whatever the password is. -/
theorem Place.Plain.spelled (h : place.Plain)
    (hscheme : ∀ c ∈ place.scheme.toList, Address.isSchemeChar c = true) (password : String) :
    (place.spelled (Text.Percent.encode [] password).toList).Plain := by
  refine ⟨h.isScheme hscheme, fun c hc => ?_, ?_, h.host, fun cs hcs => ?_⟩
  · have hplain := h.user c hc
    exact ⟨ne_of_isPlainChar hplain (by decide), ne_of_isPlainChar hplain (by decide),
      ne_of_isPlainChar hplain (by decide)⟩
  · dsimp only [Place.spelled]
    exact Text.Percent.not_mem_encode (by decide) (by decide) (by decide) password
  · obtain ⟨digits, hdigits, rfl⟩ := Option.map_eq_some_iff.mp hcs
    exact h.port digits hdigits

section Lawful

variable {A : Addressing} {coded : String → String}

/-- **The address of a profile is read as the server with the password.** -/
theorem read_serverUrl (hA : A.Lawful coded) (h : place.Plain)
    (hscheme : ∀ c ∈ place.scheme.toList, Address.isSchemeChar c = true)
    (hurl : p.url = place.url) (hpassword : p.password = some password) (hne : password ≠ "") :
    A.read p.serverUrl = .ok { place.server with password := some password } := by
  have huser : '%' ∉ place.user.toList :=
    fun hmem => ne_of_isPlainChar (h.user _ hmem) (by decide) rfl
  rw [serverUrl_eq h hurl hpassword hne, hA.reads _ none (h.spelled hscheme password) nofun rfl]
  simp [Place.spelled, Place.server, Text.Percent.decode_encode,
    Text.Percent.decode_of_not_mem huser, Function.comp_def]

/-- So the address of a database is that of the server with the name of the database. -/
theorem databaseUrl_eq (hA : A.Lawful coded) (h : place.Plain)
    (hscheme : ∀ c ∈ place.scheme.toList, Address.isSchemeChar c = true)
    (hurl : p.url = place.url) (hpassword : p.password = some password) (hne : password ≠ "")
    {database : String} (hdatabase : isAll database = false) :
    p.databaseUrl (some database) A
      = .ok (A.write { place.server with
        password := some password
        database := some database }) := by
  have hmeant : p.databaseFor (some database) = database := by
    rw [Profile.databaseFor, hdatabase, if_neg Bool.false_ne_true]
  rw [Profile.databaseUrl, read_serverUrl hA h hscheme hurl hpassword hne, hmeant]
  exact congrArg (fun a => Except.ok (A.write a))
    (hA.replaces { place.server with password := some password } database)

/-- With a password and a database the address is there in full. -/
theorem Place.Plain.address (h : place.Plain)
    (hscheme : ∀ c ∈ place.scheme.toList, Address.isSchemeChar c = true)
    (password : String) {database : String} (hname : IsDatabaseName database) :
    { place.server with
      password := some password
      database := some database : Address }.Plain := by
  refine ⟨h.isScheme hscheme, ⟨place.user, rfl, h.user⟩, Option.some_ne_none password,
    ⟨place.host, rfl, h.host⟩, fun n hn => ?_, ⟨database, rfl, hname⟩, rfl⟩
  obtain ⟨digits, -, rfl⟩ := Option.map_eq_some_iff.mp hn
  exact Int.natCast_nonneg _

end Lawful

end Config

namespace Command

/-- A connection to the database of this name on the server goes there, with the password of the
profile. -/
def Reaches (A : Addressing) (σ : Type) (place : Config.Place) (database : String) : Prop :=
  ∀ (s : Config.Settings) (server : String) (p : Config.Profile) (password : String)
    (w : Workspace (Network σ)), p.url = place.url → p.password = some password → password ≠ "" →
    s.server server = .ok p →
      ∃ c, ((connect s server (some database) A).on w).1 = .ok c
        ∧ A.read c.url = .ok { place.address database with password := some password }

/-- Two addresses name the same user, host, port and database, and differ in nothing but the
password. -/
def SamePlace (A : Addressing) (url other : String) : Prop :=
  ∃ a b, A.read url = .ok a ∧ A.read other = .ok b
    ∧ { a with password := none } = { b with password := none }

variable {A : Addressing} {coded : String → String}

theorem reaches_of_plain (σ : Type) (hA : A.Lawful coded) {place : Config.Place}
    {database : String} (h : place.Plain)
    (hscheme : ∀ c ∈ place.scheme.toList, Address.isSchemeChar c = true)
    (hname : IsDatabaseName database) (hdatabase : Config.isAll database = false) :
    Reaches A σ place database := by
  intro s server p password w hurl hpassword hne hserver
  have haddress := Config.databaseUrl_eq hA h hscheme hurl hpassword hne hdatabase
  obtain ⟨w₁, -, hrun⟩ := connect_on hserver haddress w
  rw [hrun, Work.on_ask]
  exact ⟨_, rfl, hA.read_withDriver (h.address hscheme password hname)⟩

/-- **A password cannot change where a connection goes.** Let addresses be read and written in any
lawful way. Then every connection to a database of a plain place goes to the database of this name
on the server, with the user and the port of the profile and with the password; and with another
password it goes to the same place. -/
theorem connect_reaches (σ : Type) (hA : A.Lawful coded) {place : Config.Place}
    {database : String} (h : place.Plain)
    (hscheme : ∀ c ∈ place.scheme.toList, Address.isSchemeChar c = true)
    (hname : IsDatabaseName database) (hdatabase : Config.isAll database = false) :
    Reaches A σ place database
      ∧ ∀ (s t : Config.Settings) (server : String) (p : Config.Profile) (password other : String)
        (w v : Workspace (Network σ)), p.url = place.url → password ≠ "" → other ≠ "" →
        s.server server = .ok { p with password := some password } →
        t.server server = .ok { p with password := some other } →
          ∃ c d, ((connect s server (some database) A).on w).1 = .ok c
            ∧ ((connect t server (some database) A).on v).1 = .ok d
            ∧ SamePlace A c.url d.url := by
  have hreaches := reaches_of_plain σ hA h hscheme hname hdatabase
  refine ⟨hreaches, fun s t server p password other w v hurl hne hother hs ht => ?_⟩
  obtain ⟨c, hc, hfirst⟩ :=
    hreaches s server { p with password := some password } password w hurl rfl hne hs
  obtain ⟨d, hd, hsecond⟩ :=
    hreaches t server { p with password := some other } other v hurl rfl hother ht
  exact ⟨c, d, hc, hd, _, _, hfirst, hsecond, rfl⟩

/-- A password with every mark of an address in it is the password at the server. -/
theorem connect_reaches_marks :
    let place : Config.Place := ⟨"mysql", "root", "db", some "3306"⟩
    let password := "p@ss/:?#% +é"
    let p : Config.Profile := ⟨place.url, "mysql", "", some password⟩
    let s : Config.Settings := ⟨[("local", p)], "repository"⟩
    let w : Workspace (Network Unit) := ⟨⟨[], []⟩, [], ⟨(), 0, []⟩⟩
    Addressing.standard.Lawful (Text.Percent.encode Address.databaseSafe)
      ∧ place.Plain ∧ (∀ c ∈ place.scheme.toList, Address.isSchemeChar c = true)
      ∧ IsDatabaseName "shop" ∧ Config.isAll "shop" = false
      ∧ ∃ c, ((connect s "local" (some "shop")).on w).1 = .ok c
        ∧ Address.ofText c.url = .ok ⟨"mysql+aiomysql", some "root", some password, some "db",
          some 3306, some "shop", []⟩ := by
  intro place password p s w
  have hplace : place.Plain := by
    refine ⟨by decide, by decide, ⟨by decide, by decide⟩, ?_⟩
    rintro _ ⟨⟩
    exact ⟨by decide, by decide⟩
  have hscheme : ∀ c ∈ place.scheme.toList, Address.isSchemeChar c = true := by decide
  have hname : IsDatabaseName "shop" := ⟨by decide, by decide⟩
  have hdatabase : Config.isAll "shop" = false := by decide
  refine ⟨Addressing.standard_lawful, hplace, hscheme, hname, hdatabase, ?_⟩
  exact (connect_reaches Unit Addressing.standard_lawful hplace hscheme hname hdatabase).1
    s "local" p password w rfl rfl (by decide) rfl

/-- The name for all databases is taken in every letter case, and then the connection goes to
another database. A hyphen can be in no scheme, and then there is no connection. -/
theorem connect_elsewhere :
    let place : Config.Place := ⟨"mysql", "root", "h", none⟩
    let hyphenated : Config.Place := ⟨"my-sql", "root", "h", none⟩
    Addressing.standard.Lawful (Text.Percent.encode Address.databaseSafe)
      ∧ place.Plain ∧ IsDatabaseName "ALL" ∧ "ALL" ≠ Config.allDatabases
      ∧ ¬ Reaches .standard Unit place "ALL"
      ∧ hyphenated.Plain ∧ IsDatabaseName "shop"
      ∧ ¬ Reaches .standard Unit hyphenated "shop" := by
  intro place hyphenated
  have hplain (scheme : String) (hne : scheme ≠ "")
      (hchars : ∀ c ∈ scheme.toList, isPlainChar c = true) :
      (⟨scheme, "root", "h", none⟩ : Config.Place).Plain := by
    have hroot : ∀ c ∈ "root".toList, isPlainChar c = true := by decide
    have hhost : Address.IsPlainHost "h".toList := ⟨by decide, by decide⟩
    exact ⟨⟨hne, hchars⟩, hroot, hhost, nofun⟩
  let w : Workspace (Network Unit) := ⟨⟨[], []⟩, [], ⟨(), 0, []⟩⟩
  refine ⟨Addressing.standard_lawful, hplain _ (by decide) (by decide), ⟨by decide, by decide⟩,
    by decide, fun h => ?_, hplain _ (by decide) (by decide), ⟨by decide, by decide⟩,
    fun h => ?_⟩
  · let p : Config.Profile := ⟨place.url, "mysql", "", some "p"⟩
    let s : Config.Settings := ⟨[("local", p)], "repository"⟩
    have hrun : ((connect s "local" (some "ALL")).on w).1
        = .ok ⟨0, "mysql+aiomysql://root:p@h/mysql", .mysql⟩ := by decide +kernel
    obtain ⟨c, hc, haddress⟩ := h s "local" p "p" w rfl rfl (by decide) rfl
    cases hrun.symm.trans hc
    revert haddress
    dsimp only [Addressing.standard]
    decide +kernel
  · let p : Config.Profile := ⟨hyphenated.url, "mysql", "", some "p"⟩
    let s : Config.Settings := ⟨[("local", p)], "repository"⟩
    have hrun : ((connect s "local" (some "shop")).on w).1 = .error (.address .noScheme) := by
      decide +kernel
    obtain ⟨c, hc, -⟩ := h s "local" p "p" w rfl rfl (by decide) rfl
    cases hrun.symm.trans hc

end Command

end Tablekeep
