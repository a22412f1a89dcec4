import Tablekeep.Proofs.Calendar.Stamps
import Tablekeep.Proofs.Files.Change
import Tablekeep.Proofs.Files.Path
import Tablekeep.Repository.Archive

/-!
# The latest archive

The archive of a database on a day bears the name of both, and from such a name the day is read
back: `archiveDay?` knows the names of `archiveName` and no others. So the dated archives of a
database are the files in the repository that bear these names, one for each day, and the one with
the greatest day is found, in whatever order they are listed.
-/

namespace Tablekeep

open Calendar

/-! ## Days in names -/

namespace Calendar

theorem toList_decimalWide_four {n : Nat} (h : n < 10000) :
    (Text.decimalWide 4 n).toList = fourDigits n := by
  by_cases hfour : 1000 ≤ n
  · have hdigits := toList_decimal_four hfour h
    rw [Text.decimal, String.toList_ofList] at hdigits
    rw [Text.decimalWide, String.toList_ofList, hdigits]
    rfl
  · rw [Text.decimalWide, String.toList_ofList, fourDigits, show n / 1000 = 0 by omega]
    by_cases hthree : 100 ≤ n
    · rw [Nat.toDigits_of_base_le (by decide) (by omega),
        Nat.toDigits_of_base_le (by decide) (show 10 ≤ n / 10 by omega),
        Nat.toDigits_of_lt_base (show n / 10 / 10 < 10 by omega),
        show n / 100 % 10 = n / 10 / 10 by omega]
      rfl
    · rw [show n / 100 % 10 = 0 by omega]
      by_cases htwo : 10 ≤ n
      · rw [Nat.toDigits_of_base_le (by decide) htwo,
          Nat.toDigits_of_lt_base (show n / 10 < 10 by omega), show n / 10 % 10 = n / 10 by omega]
        rfl
      · rw [Nat.toDigits_of_lt_base (by omega), show n / 10 % 10 = 0 by omega,
          Nat.mod_eq_of_lt (by omega)]
        rfl

/-- A day is written in ten characters. -/
theorem toList_toText {d : Date} (h : d.isValid = true) : d.toText.toList = dayChars d := by
  obtain ⟨-, hyear, -, hmonth, -, hday⟩ := Date.isValid_iff.mp h
  have hdays := daysInMonth_le d.year d.month
  have hhyphen : "-".toList = ['-'] := rfl
  simp only [Date.toText, String.toList_append, hhyphen,
    toList_decimalWide_four (show d.year < 10000 by omega),
    toList_decimalWide_two (show d.month < 100 by omega),
    toList_decimalWide_two (show d.day < 100 by omega), dayChars]
  simp

/-- A year of four digits is written as it is. -/
theorem toStamp_eq_toText {d : Date} (h : d.isValid = true) (hyear : 1000 ≤ d.year) :
    d.toStamp = d.toText := by
  obtain ⟨-, hlast, -⟩ := Date.isValid_iff.mp h
  have hfour : Text.decimal d.year = Text.decimalWide 4 d.year := by
    rw [← String.toList_inj, toList_decimal_four hyear (by omega),
      toList_decimalWide_four (by omega)]
  rw [Date.toStamp, Date.toText, hfour]

theorem digit_of_isDigit {c : Char} (h : Text.isDigit c = true) :
    ∃ d < 10, c = d.digitChar ∧ Text.digitValue c = d := by
  obtain ⟨hzero, hnine⟩ := Bool.and_eq_true_iff.mp h
  have hle : 48 ≤ c.toNat := of_decide_eq_true hzero
  have hge : c.toNat ≤ 57 := of_decide_eq_true hnine
  have hchars : ∀ d < 10, Char.ofNat (48 + d) = d.digitChar := by decide
  refine ⟨c.toNat - 48, by omega, ?_, rfl⟩
  rw [← hchars _ (by omega), Nat.add_sub_cancel' hle, Char.ofNat_toNat]

/-- The number with the digits. -/
def ofDigitList (ds : List Nat) : Nat :=
  ds.foldl (fun n d => 10 * n + d) 0

theorem digits_of_all_isDigit {cs : List Char} (h : cs.all Text.isDigit = true) :
    ∃ ds : List Nat, (∀ d ∈ ds, d < 10) ∧ cs = ds.map Nat.digitChar := by
  induction cs with
  | nil => exact ⟨[], List.forall_mem_nil _, rfl⟩
  | cons c cs ih =>
      obtain ⟨hc, hcs⟩ := Bool.and_eq_true_iff.mp (List.all_cons ▸ h)
      obtain ⟨d, hd, rfl, -⟩ := digit_of_isDigit hc
      obtain ⟨ds, hds, rfl⟩ := ih hcs
      exact ⟨d :: ds, List.forall_mem_cons.mpr ⟨hd, hds⟩, rfl⟩

theorem decimal?_digits (ds : List Nat) (hne : ds ≠ []) (h : ∀ d ∈ ds, d < 10) :
    Text.decimal? (ds.map Nat.digitChar) = some (ofDigitList ds) := by
  have hall : (ds.map Nat.digitChar).all Text.isDigit = true := by
    rw [List.all_map, List.all_eq_true]
    exact fun d hd => (digitChar_spec d (h d hd)).1
  have hvalues (start : Nat) : (ds.map Nat.digitChar).foldl
      (fun n c => 10 * n + Text.digitValue c) start = ds.foldl (fun n d => 10 * n + d) start := by
    rw [List.foldl_map]
    refine List.foldl_ext _ _ _ fun n d hd => ?_
    rw [(digitChar_spec d (h d hd)).2.1]
  rw [Text.decimal?, if_neg (by simpa using hne), if_pos hall, Text.ofDigits, hvalues]
  rfl

theorem digits_of_decimal? {cs : List Char} {n : Nat} (h : Text.decimal? cs = some n) :
    ∃ ds : List Nat, (∀ d ∈ ds, d < 10) ∧ cs = ds.map Nat.digitChar ∧ n = ofDigitList ds := by
  have hall : cs ≠ [] ∧ cs.all Text.isDigit = true := by
    unfold Text.decimal? at h
    split at h
    · cases h
    · rename_i hne
      split at h
      · rename_i hall
        exact ⟨by simpa using hne, hall⟩
      · cases h
  obtain ⟨hne, hall⟩ := hall
  obtain ⟨ds, hds, rfl⟩ := digits_of_all_isDigit hall
  rw [decimal?_digits ds (by simpa using hne) hds] at h
  exact ⟨ds, hds, rfl, (Option.some.inj h).symm⟩

/-- Two digits are read as the number that they write, -/
theorem decimal?_two_eq_some_iff {a b : Char} {n : Nat} :
    Text.decimal? [a, b] = some n ↔ n < 100 ∧ [a, b] = twoDigits n := by
  constructor
  · intro h
    obtain ⟨ds, hds, hchars, rfl⟩ := digits_of_decimal? h
    rcases ds with _ | ⟨i, _ | ⟨j, _ | ⟨_, _⟩⟩⟩
    case cons.cons.nil =>
      simp only [List.mem_cons, List.not_mem_nil, or_false, forall_eq_or_imp, forall_eq] at hds
      have hvalue : ofDigitList [i, j] = 10 * i + j := by simp [ofDigitList]
      rw [hvalue, hchars, twoDigits, show (10 * i + j) / 10 = i by omega,
        show (10 * i + j) % 10 = j by omega]
      exact ⟨by omega, rfl⟩
    all_goals exact absurd (congrArg List.length hchars) (by simp)
  · rintro ⟨h, heq⟩
    have hvalue : ofDigitList [n / 10, n % 10] = n := by
      simp only [ofDigitList, List.foldl_cons, List.foldl_nil]
      omega
    have hread := decimal?_digits [n / 10, n % 10] (by simp) (by simp; omega)
    rw [hvalue] at hread
    rw [heq]
    exact hread

/-- and so are four. -/
theorem decimal?_four_eq_some_iff {a b c d : Char} {n : Nat} :
    Text.decimal? [a, b, c, d] = some n ↔ n < 10000 ∧ [a, b, c, d] = fourDigits n := by
  constructor
  · intro h
    obtain ⟨ds, hds, hchars, rfl⟩ := digits_of_decimal? h
    rcases ds with _ | ⟨i, _ | ⟨j, _ | ⟨k, _ | ⟨l, _ | ⟨_, _⟩⟩⟩⟩⟩
    case cons.cons.cons.cons.nil =>
      simp only [List.mem_cons, List.not_mem_nil, or_false, forall_eq_or_imp, forall_eq] at hds
      have hvalue : ofDigitList [i, j, k, l] = 1000 * i + 100 * j + 10 * k + l := by
        simp only [ofDigitList, List.foldl_cons, List.foldl_nil]
        omega
      generalize hn : 1000 * i + 100 * j + 10 * k + l = n at hvalue
      rw [hvalue, hchars, fourDigits, show n / 1000 = i by omega,
        show n / 100 % 10 = j by omega, show n / 10 % 10 = k by omega, show n % 10 = l by omega]
      exact ⟨by omega, rfl⟩
    all_goals exact absurd (congrArg List.length hchars) (by simp)
  · rintro ⟨h, heq⟩
    have hvalue : ofDigitList [n / 1000, n / 100 % 10, n / 10 % 10, n % 10] = n := by
      simp only [ofDigitList, List.foldl_cons, List.foldl_nil]
      omega
    have hread := decimal?_digits [n / 1000, n / 100 % 10, n / 10 % 10, n % 10] (by simp)
      (by simp; omega)
    rw [hvalue] at hread
    rw [heq]
    exact hread

end Calendar

/-! ## Names of archives -/

namespace Repository

open Files

theorem writtenDay?_eq_some_iff {cs : List Char} {day : Date} :
    writtenDay? cs = some day ↔ day.isValid = true ∧ cs = dayChars day := by
  constructor
  · intro h
    unfold writtenDay? at h
    split at h
    · rename_i a b c d e f g h'
      obtain ⟨year, hyear, h⟩ := Option.bind_eq_some_iff.mp h
      obtain ⟨month, hmonth, h⟩ := Option.bind_eq_some_iff.mp h
      obtain ⟨number, hnumber, h⟩ := Option.bind_eq_some_iff.mp h
      dsimp only at h
      split at h
      · rename_i hvalid
        obtain rfl := Option.some.inj h
        refine ⟨hvalid, ?_⟩
        rw [dayChars, ← (decimal?_four_eq_some_iff.mp hyear).2,
          ← (decimal?_two_eq_some_iff.mp hmonth).2, ← (decimal?_two_eq_some_iff.mp hnumber).2]
        rfl
      · cases h
    · cases h
  · rintro ⟨hvalid, rfl⟩
    obtain ⟨-, hyear, -, hmonth, -, hday⟩ := Date.isValid_iff.mp hvalid
    have hdays := daysInMonth_le day.year day.month
    have hread : writtenDay? (dayChars day) = (do
        let read : Date := ⟨← Text.decimal? (fourDigits day.year),
          ← Text.decimal? (twoDigits day.month), ← Text.decimal? (twoDigits day.day)⟩
        if read.isValid then some read else none) := rfl
    rw [hread, fourDigits, decimal?_four_eq_some_iff.mpr ⟨show day.year < 10000 by omega, rfl⟩,
      twoDigits, decimal?_two_eq_some_iff.mpr ⟨show day.month < 100 by omega, rfl⟩,
      twoDigits, decimal?_two_eq_some_iff.mpr ⟨show day.day < 100 by omega, rfl⟩]
    exact if_pos hvalid

/-- The name of the archive of a database on a day. -/
def archiveName (database : String) (day : Date) : String :=
  database ++ "-" ++ day.toText ++ archiveSuffix

theorem toList_archiveName (database : String) {day : Date} (h : day.isValid = true) :
    (archiveName database day).toList
      = database.toList ++ ['-'] ++ dayChars day ++ archiveSuffix.toList := by
  simp only [archiveName, String.toList_append, toList_toText h]
  rfl

/-- **The day is read back from the name**, and from no other name. -/
theorem archiveDay?_eq_some_iff {database name : String} {day : Date} :
    archiveDay? database name = some day
      ↔ day.isValid = true ∧ name = archiveName database day := by
  unfold archiveDay?
  constructor
  · intro h
    dsimp only at h
    split at h
    · rename_i hname
      obtain ⟨hvalid, hday⟩ := writtenDay?_eq_some_iff.mp h
      rw [hday, ← toList_archiveName database hvalid, String.toList_inj] at hname
      exact ⟨hvalid, hname⟩
    · cases h
  · rintro ⟨hvalid, rfl⟩
    have hday : ((archiveName database day).toList.drop (database.toList ++ ['-']).length).take 10
        = dayChars day := by
      rw [toList_archiveName database hvalid, List.append_assoc _ (dayChars day), List.drop_left,
        ← length_dayChars day, List.take_left]
    dsimp only
    rw [hday, if_pos (toList_archiveName database hvalid)]
    exact writtenDay?_eq_some_iff.mpr ⟨hvalid, rfl⟩

theorem archiveName_injective {database : String} {day day' : Date} (h : day.isValid = true)
    (heq : archiveName database day = archiveName database day') (h' : day'.isValid = true) :
    day = day' := by
  have hread : archiveDay? database (archiveName database day) = some day :=
    archiveDay?_eq_some_iff.mpr ⟨h, rfl⟩
  rw [archiveDay?_eq_some_iff.mpr ⟨h', heq⟩] at hread
  exact (Option.some.inj hread).symm

theorem slash_not_mem_dayChars {day : Date} (h : day.isValid = true) : '/' ∉ dayChars day := by
  obtain ⟨-, hyear, -, hmonth, -, hday⟩ := Date.isValid_iff.mp h
  have hdays := daysInMonth_le day.year day.month
  have hdigit : ∀ d < 10, '/' ≠ d.digitChar := by decide
  simp only [dayChars, fourDigits, twoDigits, List.mem_append, List.mem_cons, List.not_mem_nil,
    or_false, not_or]
  refine ⟨⟨?_, ?_, ?_, ?_⟩, by decide, ⟨?_, ?_⟩, by decide, ?_, ?_⟩
  all_goals exact hdigit _ (by omega)

/-- What is written beside the name of a database is a name if that is. -/
theorem isName_dated {database : String} (hslash : '/' ∉ database.toList) {day : Date}
    (h : day.isValid = true) {suffix : String} (hsuffix : '/' ∉ suffix.toList) :
    Path.IsName (database ++ "-" ++ day.toText ++ suffix)
      ∧ database ++ "-" ++ day.toText ++ suffix ≠ ".." := by
  have hchars : (database ++ "-" ++ day.toText ++ suffix).toList
      = database.toList ++ ['-'] ++ dayChars day ++ suffix.toList := by
    simp only [String.toList_append, toList_toText h]
    rfl
  have hlong : ∀ short : String, short.toList.length < 3 →
      database ++ "-" ++ day.toText ++ suffix ≠ short := by
    rintro short hshort rfl
    rw [hchars] at hshort
    simp only [List.length_append, length_dayChars] at hshort
    omega
  refine ⟨⟨?_, hlong "" (by decide), hlong "." (by decide)⟩, hlong ".." (by decide)⟩
  rw [hchars]
  simp only [List.mem_append, List.mem_singleton, not_or]
  exact ⟨⟨⟨hslash, by decide⟩, slash_not_mem_dayChars h⟩, hsuffix⟩

/-! ## The latest archive -/

theorem foldl_later_mem (a : Calendar.Date × Path) (rest : List (Calendar.Date × Path)) :
    rest.foldl later a ∈ a :: rest := by
  induction rest generalizing a with
  | nil => exact List.mem_singleton_self a
  | cons b rest ih =>
      rw [List.foldl_cons]
      rcases List.mem_cons.mp (ih (later a b)) with hmem | hmem
      · rw [hmem, later]
        split
        · exact List.mem_cons_of_mem _ (List.mem_cons_self ..)
        · exact List.mem_cons_self ..
      · exact List.mem_cons_of_mem _ (List.mem_cons_of_mem _ hmem)

theorem le_foldl_later (a : Date × Path) (rest : List (Date × Path)) :
    ∀ dated ∈ a :: rest, dated.1.number ≤ (rest.foldl later a).1.number := by
  induction rest generalizing a with
  | nil => exact List.forall_mem_singleton.mpr (Nat.le_refl _)
  | cons b rest ih =>
      have hlater : a.1.number ≤ (later a b).1.number ∧ b.1.number ≤ (later a b).1.number := by
        unfold later
        split
        · rename_i hlt
          exact ⟨Nat.le_of_lt hlt, Nat.le_refl _⟩
        · rename_i hle
          exact ⟨Nat.le_refl _, Nat.le_of_not_lt hle⟩
      obtain ⟨hbest, hrest⟩ := List.forall_mem_cons.mp (ih (later a b))
      exact List.forall_mem_cons.mpr ⟨Nat.le_trans hlater.1 hbest,
        List.forall_mem_cons.mpr ⟨Nat.le_trans hlater.2 hbest, hrest⟩⟩

theorem isName_archiveName {database : String} (hslash : '/' ∉ database.toList) {day : Date}
    (h : day.isValid = true) :
    Path.IsName (archiveName database day) ∧ archiveName database day ≠ ".." :=
  isName_dated hslash h (by decide)

variable {t : FileTree} {repository path : Path} {database : String}

theorem mem_datedArchives {day : Date} (h : (day, path) ∈ datedArchives t repository database) :
    day.isValid = true ∧ path = repository.child (archiveName database day)
      ∧ t.isFile path = true := by
  obtain ⟨name, -, hname⟩ := List.mem_filterMap.mp h
  dsimp only at hname
  split at hname
  · rename_i read hread
    split at hname
    · rename_i hfile
      obtain ⟨rfl, rfl⟩ := Prod.mk.inj (Option.some.inj hname)
      obtain ⟨hvalid, rfl⟩ := archiveDay?_eq_some_iff.mp hread
      exact ⟨hvalid, rfl, hfile⟩
    · cases hname
  · cases hname

/-- What is found is one of the dated archives, and its day is the greatest of all. -/
theorem latestArchive?_mem (h : latestArchive? t repository database = some path) :
    ∃ day, (day, path) ∈ datedArchives t repository database
      ∧ ∀ dated ∈ datedArchives t repository database, dated.1.number ≤ day.number := by
  unfold latestArchive? at h
  split at h
  · cases h
  · rename_i a rest hdated
    obtain rfl := Option.some.inj h
    have hmem := foldl_later_mem a rest
    have hgreatest := le_foldl_later a rest
    rw [← hdated] at hmem hgreatest
    exact ⟨_, hmem, hgreatest⟩

/-- The latest archive bears the name of the database and a day. -/
theorem latestArchive?_named (h : latestArchive? t repository database = some path) :
    ∃ day : Date, day.isValid = true ∧ path = repository.child (archiveName database day) := by
  obtain ⟨day, hmem, -⟩ := latestArchive?_mem h
  obtain ⟨hvalid, hpath, -⟩ := mem_datedArchives hmem
  exact ⟨day, hvalid, hpath⟩

/-- An archive in the repository is among the dated ones, since it is listed. -/
theorem mem_datedArchives_of_isFile (hslash : '/' ∉ database.toList) {day : Date}
    (hvalid : day.isValid = true)
    (hfile : t.isFile (repository.child (archiveName database day)) = true) :
    (day, repository.child (archiveName database day))
      ∈ datedArchives t repository database := by
  obtain ⟨hname, hdots⟩ := isName_archiveName hslash hvalid
  obtain ⟨last, content, hplace, hnode⟩ := FileTree.isFile_iff.mp hfile
  rw [Path.child_of_isName repository hname, FileTree.place_snoc_eq_ok_iff hdots] at hplace
  obtain ⟨place, hplace, -, rfl⟩ := hplace
  refine List.mem_filterMap.mpr ⟨_, FileTree.mem_namesIn hplace hnode, ?_⟩
  dsimp only
  rw [archiveDay?_eq_some_iff.mpr ⟨hvalid, rfl⟩]
  dsimp only
  rw [if_pos hfile]

/-- **The latest archive is found**, and nothing else: the file that bears the name of the database
and the greatest day of all that do. -/
theorem latestArchive?_eq_some_iff (hslash : '/' ∉ database.toList) :
    latestArchive? t repository database = some path
      ↔ ∃ day, day.isValid = true ∧ path = repository.child (archiveName database day)
        ∧ t.isFile path = true
        ∧ ∀ other, other.isValid = true →
          t.isFile (repository.child (archiveName database other)) = true →
          other.number ≤ day.number := by
  constructor
  · intro h
    obtain ⟨day, hmem, hgreatest⟩ := latestArchive?_mem h
    obtain ⟨hvalid, hpath, hfile⟩ := mem_datedArchives hmem
    refine ⟨day, hvalid, hpath, hfile, fun other hother hothers => ?_⟩
    exact hgreatest (other, _) (mem_datedArchives_of_isFile hslash hother hothers)
  · rintro ⟨day, hvalid, rfl, hfile, hgreatest⟩
    have hmem := mem_datedArchives_of_isFile hslash hvalid hfile
    cases hlatest : latestArchive? t repository database with
    | none =>
        unfold latestArchive? at hlatest
        split at hlatest
        · rename_i hdated
          rw [hdated] at hmem
          cases hmem
        · cases hlatest
    | some latest =>
        obtain ⟨found, hfound, hlast⟩ := latestArchive?_mem hlatest
        obtain ⟨hvalid', rfl, hfile'⟩ := mem_datedArchives hfound
        have hle := hlast (day, _) hmem
        have hge := hgreatest found hvalid' hfile'
        -- there is one day with the number, and one path with the day
        rw [Date.number_injective hvalid' hvalid (Nat.le_antisymm hge hle)]

end Repository

end Tablekeep
