import Tablekeep.Proofs.Repository.Latest

/-!
# Which archive is the latest

A repository may hold anything: archives of other databases, names that only look like dates,
directories that bear the name of an archive. `IsArchive` says which of the names are archives of a
database, and of which day. It asks for nothing but the name and that it is the name of a file, so
that what is listed beside it does not matter.

The day takes up the end of the name, and it is as long as every other day. So a name tells the
database as well as the day, even if one database is named like the beginning of another, or ends
in what looks like a date; and on one day a database has one archive at most. That is why there is a
newest archive as soon as there is one at all, and only one.
-/

namespace Tablekeep.Repository

open Calendar Files

/-- The name is that of a file in the repository, and it is the name of the database, the day in
digits and the ending of archives. -/
structure IsArchive (t : FileTree) (repository : Path) (database : String) (day : Date)
    (name : String) : Prop where
  listed : name ∈ t.namesIn repository
  file : t.isFile (repository.child name) = true
  valid : day.isValid = true
  spelled : name.toList = database.toList ++ '-' :: (dayChars day ++ ['.', 'z', 'i', 'p'])

/-- The archive of the greatest day: any other is of an earlier one. -/
structure IsNewest (t : FileTree) (repository : Path) (database : String) (day : Date)
    (name : String) : Prop where
  archive : IsArchive t repository database day name
  greatest : ∀ other others, IsArchive t repository database other others →
    others = name ∨ other.Before day

/-- The same names are in the repository, in any order, and the same of them are files. -/
structure SameListing (t u : FileTree) (repository : Path) : Prop where
  names : ∀ name, name ∈ t.namesIn repository ↔ name ∈ u.namesIn repository
  files : ∀ name ∈ t.namesIn repository,
    t.isFile (repository.child name) = u.isFile (repository.child name)

variable {t u : FileTree} {repository path : Path} {database other name : String} {day day' : Date}

/-! ## Names -/

theorem spelled_iff (h : day.isValid = true) :
    name.toList = database.toList ++ '-' :: (dayChars day ++ ['.', 'z', 'i', 'p'])
      ↔ name = archiveName database day := by
  have hsuffix : archiveSuffix.toList = ['.', 'z', 'i', 'p'] := rfl
  rw [← String.toList_inj, toList_archiveName database h, hsuffix, List.append_assoc,
    List.append_assoc, List.singleton_append]

/-- **A name is that of one database and one day.** The days in two spellings are equally long, so
what stands before them is the same. -/
theorem IsArchive.eq_of_name (h : IsArchive t repository database day name)
    (h' : IsArchive u repository other day' name) : database = other ∧ day = day' := by
  have hspelled := h.spelled.symm.trans h'.spelled
  have hlength : ('-' :: (dayChars day ++ ['.', 'z', 'i', 'p'])).length
      = ('-' :: (dayChars day' ++ ['.', 'z', 'i', 'p'])).length := by
    simp only [List.length_cons, List.length_append, length_dayChars]
  obtain ⟨hdatabase, -⟩ := List.append_inj' hspelled hlength
  obtain rfl := String.toList_inj.mp hdatabase
  have hname := (spelled_iff h.valid).mp h.spelled
  have hname' := (spelled_iff h'.valid).mp h'.spelled
  exact ⟨rfl, archiveName_injective h.valid (hname.symm.trans hname') h'.valid⟩

/-- A database has one archive on a day. -/
theorem IsArchive.name_eq {name' : String} (h : IsArchive t repository database day name)
    (h' : IsArchive t repository database day name') : name = name' :=
  String.toList_inj.mp (h.spelled.trans h'.spelled.symm)

theorem IsArchive.congr (hsame : SameListing t u repository) :
    IsArchive t repository database day name ↔ IsArchive u repository database day name := by
  constructor
  · intro h
    exact ⟨(hsame.names name).mp h.listed, hsame.files name h.listed ▸ h.file, h.valid, h.spelled⟩
  · intro h
    have hlisted := (hsame.names name).mpr h.listed
    exact ⟨hlisted, (hsame.files name hlisted).trans h.file, h.valid, h.spelled⟩

/-! ## The newest -/

theorem mem_datedArchives_iff :
    (day, path) ∈ datedArchives t repository database
      ↔ ∃ name, IsArchive t repository database day name ∧ path = repository.child name := by
  constructor
  · intro h
    obtain ⟨name, hlisted, hname⟩ := List.mem_filterMap.mp h
    dsimp only at hname
    split at hname
    · rename_i read hread
      split at hname
      · rename_i hfile
        obtain ⟨rfl, rfl⟩ := Prod.mk.inj (Option.some.inj hname)
        obtain ⟨hvalid, hspelled⟩ := archiveDay?_eq_some_iff.mp hread
        exact ⟨name, ⟨hlisted, hfile, hvalid, (spelled_iff hvalid).mpr hspelled⟩, rfl⟩
      · cases hname
    · cases hname
  · rintro ⟨name, h, rfl⟩
    refine List.mem_filterMap.mpr ⟨name, h.listed, ?_⟩
    dsimp only
    rw [archiveDay?_eq_some_iff.mpr ⟨h.valid, (spelled_iff h.valid).mp h.spelled⟩]
    exact if_pos h.file

theorem latestArchive?_eq_none_iff :
    latestArchive? t repository database = none ↔ datedArchives t repository database = [] := by
  unfold latestArchive?
  split
  · rename_i hdated
    simp [hdated]
  · rename_i hdated
    simp [hdated]

/-- There is one newest archive at most. -/
theorem IsNewest.eq {name' : String} (h : IsNewest t repository database day name)
    (h' : IsNewest t repository database day' name') : day = day' ∧ name = name' := by
  have hname : name = name' := by
    rcases h'.greatest day name h.archive with heq | hlt
    · exact heq
    · rcases h.greatest day' name' h'.archive with heq | hgt
      · exact heq.symm
      · -- each of the days would be before the other
        have hlt := Date.number_lt_of_before h.archive.valid h'.archive.valid hlt
        have hgt := Date.number_lt_of_before h'.archive.valid h.archive.valid hgt
        exact absurd hlt (Nat.lt_asymm hgt)
  subst hname
  exact ⟨(h.archive.eq_of_name h'.archive).2, rfl⟩

theorem exists_newest_of_latestArchive? (h : latestArchive? t repository database = some path) :
    ∃ day name, IsNewest t repository database day name ∧ path = repository.child name := by
  obtain ⟨day, hmem, hgreatest⟩ := latestArchive?_mem h
  obtain ⟨name, harchive, rfl⟩ := mem_datedArchives_iff.mp hmem
  refine ⟨day, name, ⟨harchive, fun other others hother => ?_⟩, rfl⟩
  have hle := hgreatest _ (mem_datedArchives_iff.mpr ⟨others, hother, rfl⟩)
  rcases Nat.lt_or_eq_of_le hle with hlt | heq
  · exact .inr ((Date.number_lt_iff hother.valid harchive.valid).mp hlt)
  · obtain rfl := Date.number_injective hother.valid harchive.valid heq
    exact .inl (hother.name_eq harchive)

theorem latestArchive?_eq_some_iff_newest :
    latestArchive? t repository database = some path
      ↔ ∃ day name, IsNewest t repository database day name ∧ path = repository.child name := by
  refine ⟨exists_newest_of_latestArchive?, ?_⟩
  rintro ⟨day, name, hnewest, rfl⟩
  have hmem := mem_datedArchives_iff.mpr ⟨name, hnewest.archive, rfl⟩
  cases hlatest : latestArchive? t repository database with
  | none =>
      rw [latestArchive?_eq_none_iff.mp hlatest] at hmem
      cases hmem
  | some found =>
      obtain ⟨day', name', hnewest', rfl⟩ := exists_newest_of_latestArchive? hlatest
      obtain ⟨-, rfl⟩ := hnewest.eq hnewest'
      rfl

/-- **The newest archive is found, and nothing else.** Nothing is found exactly if no file bears the
name of the database and a day. Otherwise it is the file with the greatest day; there is one such
file, however the names are listed; and no file is an archive of two databases. -/
theorem latestArchive?_newest (t : FileTree) (repository : Path) (database : String) :
    (latestArchive? t repository database = none
        ↔ ¬ ∃ day name, IsArchive t repository database day name)
      ∧ (∀ path, latestArchive? t repository database = some path
        ↔ ∃ day name, IsNewest t repository database day name ∧ path = repository.child name)
      ∧ (∀ day name day' name', IsNewest t repository database day name →
        IsNewest t repository database day' name' → day = day' ∧ name = name')
      ∧ (∀ u, SameListing t u repository →
        latestArchive? u repository database = latestArchive? t repository database)
      ∧ ∀ day other day' name, IsArchive t repository database day name →
        IsArchive t repository other day' name → database = other := by
  have hsome {u : FileTree} {path : Path} := @latestArchive?_eq_some_iff_newest u repository path
    database
  refine ⟨?_, fun path => hsome, fun _ _ _ _ h h' => h.eq h', fun u hsame => ?_,
    fun _ _ _ _ h h' => (h.eq_of_name h').1⟩
  · rw [latestArchive?_eq_none_iff, List.eq_nil_iff_forall_not_mem]
    constructor
    · rintro hnone ⟨day, name, h⟩
      exact hnone (day, _) (mem_datedArchives_iff.mpr ⟨name, h, rfl⟩)
    · rintro hnone ⟨day, path⟩ hmem
      obtain ⟨name, h, -⟩ := mem_datedArchives_iff.mp hmem
      exact hnone ⟨day, name, h⟩
  · have hnewest (day : Date) (name : String) :
        IsNewest u repository database day name ↔ IsNewest t repository database day name := by
      constructor
      · intro h
        exact ⟨(IsArchive.congr hsame).mpr h.archive, fun other others hother =>
          h.greatest other others ((IsArchive.congr hsame).mp hother)⟩
      · intro h
        exact ⟨(IsArchive.congr hsame).mp h.archive, fun other others hother =>
          h.greatest other others ((IsArchive.congr hsame).mpr hother)⟩
    refine Option.ext fun path => ?_
    simp only [hsome, hnewest]

/-- Beside the archives of a shop there are one of an older shop, a directory with the name of an
archive, a day that is not in the calendar, and a day in other digits than these. -/
theorem latestArchive?_newest_shop :
    let file : Node := .file (.archive [])
    let nodes : List (Place × Node) := [(["r"], .directory), (["r", "shop-2023-12-31.zip"], file),
      (["r", "shop-old-2025-01-01.zip"], file), (["r", "shop-2024-03-01.zip"], file),
      (["r", "shop-2024-04-01.zip"], .directory), (["r", "shop-2024-02-30.zip"], file),
      (["r", "shop-\u0662\u0660\u0662\u0665-01-01.zip"], file)]
    let t : FileTree := ⟨nodes, []⟩
    let u : FileTree := ⟨nodes.reverse, []⟩
    let r := Path.ofText "r"
    let latest := Path.ofText "r/shop-2024-03-01.zip"
    (SameListing t u r ∧ latestArchive? u r "shop" = some latest)
      ∧ (∃ day name, IsNewest t r "shop" day name ∧ latest = r.child name)
      ∧ (∀ day name, ¬ IsArchive t r "shop-" day name)
      ∧ IsArchive t r "shop-old" ⟨2025, 1, 1⟩ "shop-old-2025-01-01.zip"
      ∧ ∀ day, ¬ IsArchive t r "shop" day "shop-old-2025-01-01.zip" := by
  intro file nodes t u r latest
  have hsame : SameListing t u r := by
    have hperm : (t.namesIn r).Perm (u.namesIn r) := by decide +kernel
    exact ⟨fun name => hperm.mem_iff, by decide +kernel⟩
  have holder : IsArchive t r "shop-old" ⟨2025, 1, 1⟩ "shop-old-2025-01-01.zip" :=
    ⟨by decide +kernel, by decide +kernel, by decide, by decide⟩
  have hlatest : latestArchive? t r "shop" = some latest := by decide +kernel
  have hnone : latestArchive? t r "shop-" = none := by decide +kernel
  obtain ⟨-, hsome, -, horder, hone⟩ := latestArchive?_newest t r "shop"
  refine ⟨⟨hsame, (horder u hsame).trans hlatest⟩, (hsome latest).mp hlatest, fun day name h => ?_,
    holder, fun day h => ?_⟩
  · exact (latestArchive?_newest t r "shop-").1.mp hnone ⟨day, name, h⟩
  · exact absurd (hone _ _ _ _ h holder) (by decide)

end Tablekeep.Repository
