import AdapterReport.Tool.Executable

/-!
# Finding programs

`FileTree.lookup_put`: what stands at a path is what was put there last.
`Executable.find_of_standard`: every standard program is found by its name.
-/

namespace AdapterReport

namespace FileTree

variable {full key : List EntryName} {e : Entry} {entries : List (List EntryName × Entry)}

theorem lookup_replace_of_ne (hkey : key ≠ full) :
    (entries.map fun old => if old.1 = full then (full, e) else old).lookup key =
      entries.lookup key := by
  induction entries with
  | nil => rfl
  | cons old rest ih =>
    obtain ⟨path, entry⟩ := old
    rw [List.map_cons, List.lookup_cons]
    by_cases hpath : path = full
    · rw [if_pos hpath, hpath, List.lookup_cons, beq_eq_false_iff_ne.mpr hkey, ih]
    · rw [if_neg hpath, List.lookup_cons, ih]

theorem lookup_replace_self (h : (entries.lookup full).isSome = true) :
    (entries.map fun old => if old.1 = full then (full, e) else old).lookup full = some e := by
  induction entries with
  | nil => nomatch h
  | cons old rest ih =>
    obtain ⟨path, entry⟩ := old
    rw [List.map_cons]
    by_cases hpath : path = full
    · simp [hpath]
    · have hne : (full == path) = false := beq_eq_false_iff_ne.mpr (Ne.symm hpath)
      rw [if_neg hpath, List.lookup_cons, hne]
      rw [List.lookup_cons, hne] at h
      exact ih h

/-- What stands at a path is what was put there last. -/
theorem lookup_put (t : FileTree) (full key : List EntryName) (e : Entry) :
    (t.put full e).entries.lookup key = if key = full then some e else t.entries.lookup key := by
  unfold put
  by_cases hkey : key = full
  · subst hkey
    rw [if_pos rfl]
    split
    · rename_i hold
      exact lookup_replace_self hold
    · rename_i hnew
      rw [List.lookup_append, Option.not_isSome_iff_eq_none.mp hnew]
      simp
  · rw [if_neg hkey]
    split
    · exact lookup_replace_of_ne hkey
    · have hlast : [(full, e)].lookup key = none := by
        rw [List.lookup_cons, beq_eq_false_iff_ne.mpr hkey]
        rfl
      rw [List.lookup_append, hlast, Option.or_none]

theorem lookup_foldl_put (entries : List (List EntryName × Entry)) (t : FileTree)
    (key : List EntryName) :
    (entries.foldl (fun t e => t.put e.1 e.2) t).entries.lookup key =
      (entries.reverse.lookup key).or (t.entries.lookup key) := by
  induction entries generalizing t with
  | nil => rfl
  | cons first rest ih =>
    obtain ⟨path, e⟩ := first
    rw [List.foldl_cons, ih, lookup_put, List.reverse_cons, List.lookup_append, Option.or_assoc,
      List.lookup_cons]
    by_cases hkey : key = path
    · simp [hkey]
    · simp [hkey, beq_eq_false_iff_ne.mpr hkey]

end FileTree

namespace Executable

open FileTree

/-- What was put into the files of the host, the last entry first. -/
def entries : List (List EntryName × Entry) :=
  descriptors.reverse ++ (((fullPath "proc/self/cwd", .link (pathTo (fullPath "home/user"))) ::
    standardEntries ++ directoriesTo (fullPath "home/user")) : List _).reverse

theorem entryAt_files {full : List EntryName} (h : full ≠ []) :
    files.entry? full = entries.lookup full := by
  unfold entry?
  rw [if_neg (by simpa using h), files, lookup_foldl_put, blank, lookup_foldl_put,
    entries, List.lookup_append]
  exact congrArg _ Option.or_none

def usr : EntryName := Text.Utf8.encode "usr"

def bin : EntryName := Text.Utf8.encode "bin"

theorem lookup_directories :
    entries.lookup [usr] = some .directory ∧ entries.lookup [usr, bin] = some .directory := by
  decide +kernel

theorem lookup_program : ∀ name ∈ standardPrograms,
    programPlace name = [usr, bin, Text.Utf8.encode name] ∧
      entries.lookup [usr, bin, Text.Utf8.encode name] = some (.file programContent) := by
  decide +kernel

/-- The path of a program is one that can be looked up, and the way is three names. -/
theorem steps_program : ∀ name ∈ standardPrograms,
    let path := Text.Utf8.encode ("/usr/bin/" ++ name)
    path.contains 0 = false ∧ path.isEmpty = false ∧ ¬ 4095 < path.length ∧
      Path.isAbsolute path = true ∧ (Text.Utf8.encode name).length ≤ longestName ∧
      steps path = [.name usr, .name bin, .name (Text.Utf8.encode name)] := by
  decide +kernel

theorem walk_name {fuel links : Nat} {place : List EntryName} {n : EntryName} {rest : List Step}
    {e : Entry} (hplace : files.entry? place = some .directory)
    (hentry : files.entry? (place ++ [n]) = some e) (hlink : ∀ target, e ≠ .link target)
    (hlength : n.length ≤ longestName) :
    files.walk .target (fuel + 1) links place (.name n :: rest) =
      files.walk .target fuel links (place ++ [n]) rest := by
  rw [walk, hplace]
  simp only [hentry, Nat.not_lt.mpr hlength]
  cases e with
  | link target => exact absurd rfl (hlink target)
  | _ => simp

theorem resolve_program {name : String} (h : name ∈ standardPrograms) :
    files.resolve .target (Text.Utf8.encode ("/usr/bin/" ++ name)) =
      .ok (.found (programPlace name)) := by
  obtain ⟨hzero, hempty, hlength, habsolute, hname, hsteps⟩ := steps_program name h
  obtain ⟨hplace, hprogram⟩ := lookup_program name h
  have hnames : usr.length ≤ longestName ∧ bin.length ≤ longestName := by decide +kernel
  have hroot : files.entry? [] = some .directory := rfl
  have husr : files.entry? [usr] = some .directory :=
    (entryAt_files (List.cons_ne_nil _ _)).trans lookup_directories.1
  have hbin : files.entry? [usr, bin] = some .directory :=
    (entryAt_files (List.cons_ne_nil _ _)).trans lookup_directories.2
  have hfile : files.entry? [usr, bin, Text.Utf8.encode name] = some (.file programContent) :=
    (entryAt_files (List.cons_ne_nil _ _)).trans hprogram
  have hwalk : files.walk .target maxSteps maxLinks []
      [.name usr, .name bin, .name (Text.Utf8.encode name)] =
        .ok (.found [usr, bin, Text.Utf8.encode name]) := by
    calc files.walk .target (maxSteps - 4 + 4) maxLinks [] _
      _ = files.walk .target (maxSteps - 4 + 3) maxLinks [usr] _ :=
        walk_name hroot husr nofun hnames.1
      _ = files.walk .target (maxSteps - 4 + 2) maxLinks [usr, bin] _ :=
        walk_name husr hbin nofun hnames.2
      _ = files.walk .target (maxSteps - 4 + 1) maxLinks _ [] := walk_name hbin hfile nofun hname
  rw [resolve, hzero, hempty, if_neg Bool.false_ne_true, if_neg Bool.false_ne_true, if_neg hlength,
    habsolute, if_pos rfl, hsteps, hplace, hwalk]

/-- **Every standard program is found** by its name. -/
theorem find_of_standard {name : String} (h : name ∈ standardPrograms) : find name = .ok name := by
  have hname : ∀ name ∈ standardPrograms, name.toList.contains '/' = false ∧
      ¬ longestName < (Text.Utf8.encode name).length ∧ ["", ".", ".."].contains name = false ∧
      standardPrograms.find? (fun other => programPlace other == programPlace name) =
        some name := by
    decide +kernel
  obtain ⟨hslash, hlength, hdots, hfound⟩ := hname name h
  rw [find, hslash, if_neg Bool.false_ne_true, atName, if_neg hlength, hdots,
    if_neg Bool.false_ne_true, atPath, resolve_program h]
  simp only [hfound]

end Executable

end AdapterReport
