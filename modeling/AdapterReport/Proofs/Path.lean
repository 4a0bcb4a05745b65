import AdapterReport.Proofs.Text.Lines
import AdapterReport.Path

/-!
# The last component of a path and its extension

* `getLast?_components_iff`: what `components` ends in is the last component that names something,
  which only separators and single dots follow (`LastComponent`).
* `nameExtension?_eq_some_iff`: a name is cut at its last dot, unless it begins with that dot.
* `extension?_eq_some_iff`: both together (`HasExtension`). What a path begins with does not matter
  to the extension of a name at its end (`hasExtension_append`).
-/

namespace AdapterReport.Path

/-- Components that name nothing. -/
def Idle (c : List Char) : Prop :=
  c = [] ∨ c = ['.']

instance (c : List Char) : Decidable (Idle c) :=
  inferInstanceAs (Decidable (_ ∨ _))

/-- What may stand before a component. -/
def Leads (front : List Char) : Prop :=
  front = [] ∨ ∃ directory, front = directory ++ ['/']

/-- The last component of a path that names something. What follows it is made of `/` and `/.`. -/
def LastComponent (path name : List Char) : Prop :=
  ∃ (front : List Char) (idle : List (List Char)),
    path = front ++ name ++ idle.flatMap ('/' :: ·) ∧ Leads front ∧ '/' ∉ name ∧ ¬ Idle name ∧
      ∀ c ∈ idle, Idle c

/-- The last component of the path is a stem, a dot and this extension, and not two dots. -/
def HasExtension (path ext : List Char) : Prop :=
  ∃ stem, LastComponent path (stem ++ '.' :: ext) ∧ stem ++ '.' :: ext ≠ ['.', '.'] ∧
    stem ≠ [] ∧ '.' ∉ ext

variable {path name ext stem : List Char}

/-! ## The last component -/

theorem not_mem_of_idle {c : List Char} (h : Idle c) : '/' ∉ c := by
  rcases h with rfl | rfl
  · exact List.not_mem_nil
  · decide

theorem components_eq (path : List Char) :
    components path = (Text.splitOn '/' path).filter fun c => !decide (Idle c) := by
  refine List.filter_congr fun c _ => ?_
  rw [Bool.eq_iff_iff, Bool.not_eq_true', decide_eq_false_iff_not]
  simp [Idle, PathAlphabet.dot]

theorem exists_splitOn_append {front : List Char} (h : Leads front) (s : List Char) :
    ∃ before, Text.splitOn '/' (front ++ s) = before ++ Text.splitOn '/' s := by
  rcases h with rfl | ⟨directory, rfl⟩
  · exact ⟨[], rfl⟩
  · refine ⟨Text.splitOn '/' directory, ?_⟩
    rw [List.append_assoc, List.singleton_append, Text.splitOn_append]

theorem eq_of_splitOn {before after : List (List Char)}
    (h : Text.splitOn '/' path = before ++ name :: after) :
    ∃ front, Leads front ∧ path = front ++ name ++ after.flatMap ('/' :: ·) := by
  -- with a separator in front, the path is all its pieces with one in front of each
  have hpath : before.flatMap ('/' :: ·) ++ ('/' :: name ++ after.flatMap ('/' :: ·)) =
      '/' :: path := by
    rw [← Text.flatMap_splitOn path, h, List.flatMap_append, List.flatMap_cons]
  cases before with
  | nil => exact ⟨[], .inl rfl, (List.cons.inj hpath).2.symm⟩
  | cons first before =>
    refine ⟨first ++ before.flatMap ('/' :: ·) ++ ['/'], .inr ⟨_, rfl⟩, ?_⟩
    rw [List.flatMap_cons, List.cons_append, List.cons_append] at hpath
    rw [← (List.cons.inj hpath).2]
    simp

theorem getLast?_components_iff :
    (components path).getLast? = some name ↔ LastComponent path name := by
  rw [List.getLast?_eq_some_iff, components_eq]
  constructor
  · rintro ⟨earlier, h⟩
    obtain ⟨before, rest, hsplit, -, hrest⟩ := List.filter_eq_append_iff.mp h
    obtain ⟨skipped, idle, rfl, -, hname, hidle⟩ := List.filter_eq_cons_iff.mp hrest
    rw [← List.append_assoc] at hsplit
    have hmem : name ∈ Text.splitOn '/' path := by simp [hsplit]
    obtain ⟨front, hfront, hpath⟩ := eq_of_splitOn hsplit
    refine ⟨front, idle, hpath, hfront, Text.not_mem_of_mem_splitOn hmem, by simpa using hname, ?_⟩
    intro c hc
    simpa using List.filter_eq_nil_iff.mp hidle c hc
  · rintro ⟨front, idle, rfl, hfront, hslash, hname, hidle⟩
    have hnone : idle.filter (fun c => !decide (Idle c)) = [] :=
      List.filter_eq_nil_iff.mpr fun c hc => by simp [hidle c hc]
    obtain ⟨before, hsplit⟩ := exists_splitOn_append hfront (name ++ idle.flatMap ('/' :: ·))
    refine ⟨before.filter fun c => !decide (Idle c), ?_⟩
    rw [List.append_assoc, hsplit,
      Text.splitOn_flatMap hslash fun c hc => not_mem_of_idle (hidle c hc), List.filter_append,
      List.filter_cons_of_pos (by simp [hname]), hnone]

theorem fileName?_eq_some_iff :
    fileName? path = some name ↔ LastComponent path name ∧ name ≠ ['.', '.'] := by
  unfold fileName?
  rw [Option.bind_eq_bind, Option.bind_eq_some_iff]
  constructor
  · rintro ⟨last, hlast, hname⟩
    split at hname
    · cases hname
    · next hne =>
      cases hname
      exact ⟨getLast?_components_iff.mp hlast, fun he => hne (beq_iff_eq.mpr he)⟩
  · rintro ⟨hlast, hne⟩
    exact ⟨name, getLast?_components_iff.mpr hlast, if_neg fun he => hne (beq_iff_eq.mp he)⟩

/-! ## The extension of a name -/

theorem nameExtension?_last_dot (h : '.' ∉ ext) :
    nameExtension? (stem ++ '.' :: ext) = if stem = [] then none else some ext := by
  have hrev : (stem ++ '.' :: ext).reverse = ext.reverse ++ '.' :: stem.reverse := by simp
  have hext : '.' ∉ ext.reverse := fun hmem => h (List.mem_reverse.mp hmem)
  have htake : (ext.reverse ++ '.' :: stem.reverse).takeWhile (!· == '.') = ext.reverse :=
    Text.takeWhile_separator hext
  have hdrop : (ext.reverse ++ '.' :: stem.reverse).dropWhile (!· == '.') = '.' :: stem.reverse :=
    Text.dropWhile_separator hext
  show (if _ then _ else _) = _
  simp only [PathAlphabet.dot, hrev, htake, hdrop]
  simp

theorem nameExtension?_of_not_mem (h : '.' ∉ name) : nameExtension? name = none := by
  have hdrop : name.reverse.dropWhile (!· == '.') = [] :=
    Text.dropWhile_of_not_mem fun hmem => h (List.mem_reverse.mp hmem)
  show (if _ then _ else _) = _
  simp only [PathAlphabet.dot, hdrop]
  rfl

theorem exists_last {c : Char} {s : List Char} (h : c ∈ s) :
    ∃ front back, s = front ++ c :: back ∧ c ∉ back := by
  obtain ⟨back, front, hs, hback⟩ := List.eq_append_cons_of_mem (List.mem_reverse.mpr h)
  refine ⟨front.reverse, back.reverse, ?_, fun hmem => hback (List.mem_reverse.mp hmem)⟩
  rw [← s.reverse_reverse, hs]
  simp

theorem nameExtension?_eq_some_iff :
    nameExtension? name = some ext ↔ ∃ stem, name = stem ++ '.' :: ext ∧ stem ≠ [] ∧ '.' ∉ ext := by
  constructor
  · intro h
    by_cases hdot : '.' ∈ name
    · obtain ⟨stem, back, rfl, hback⟩ := exists_last hdot
      rw [nameExtension?_last_dot hback] at h
      split at h
      · cases h
      · next hstem =>
        cases h
        exact ⟨stem, rfl, hstem, hback⟩
    · rw [nameExtension?_of_not_mem hdot] at h
      cases h
  · rintro ⟨stem, rfl, hstem, hext⟩
    rw [nameExtension?_last_dot hext, if_neg hstem]

/-! ## The extension of a path -/

theorem extension?_eq_some_iff : extension? path = some ext ↔ HasExtension path ext := by
  unfold extension? HasExtension
  rw [Option.bind_eq_some_iff]
  constructor
  · rintro ⟨name, hname, hext⟩
    obtain ⟨stem, rfl, hstem, hdot⟩ := nameExtension?_eq_some_iff.mp hext
    obtain ⟨hlast, hne⟩ := fileName?_eq_some_iff.mp hname
    exact ⟨stem, hlast, hne, hstem, hdot⟩
  · rintro ⟨stem, hlast, hne, hstem, hdot⟩
    exact ⟨_, fileName?_eq_some_iff.mpr ⟨hlast, hne⟩,
      nameExtension?_eq_some_iff.mpr ⟨stem, rfl, hstem, hdot⟩⟩

theorem exists_leads (s : List Char) :
    ∃ front base, s = front ++ base ∧ Leads front ∧ '/' ∉ base := by
  by_cases h : '/' ∈ s
  · obtain ⟨directory, base, rfl, hbase⟩ := exists_last h
    exact ⟨directory ++ ['/'], base, by simp, .inr ⟨directory, rfl⟩, hbase⟩
  · exact ⟨[], s, rfl, .inl rfl, h⟩

/-- What stands in front becomes directories and the beginning of the stem. -/
theorem hasExtension_append (s : List Char) (hstem : stem ≠ []) (hslash : '/' ∉ stem ++ '.' :: ext)
    (hext : ext ≠ []) (hdot : '.' ∉ ext) : HasExtension (s ++ (stem ++ '.' :: ext)) ext := by
  obtain ⟨front, base, rfl, hfront, hbase⟩ := exists_leads s
  have hlong : 2 < (base ++ stem ++ '.' :: ext).length := by
    have := List.length_pos_iff.mpr hstem
    have := List.length_pos_iff.mpr hext
    simp only [List.length_append, List.length_cons]
    omega
  have hlast :
      LastComponent (front ++ base ++ (stem ++ '.' :: ext)) (base ++ stem ++ '.' :: ext) := by
    refine ⟨front, [], by simp, hfront, ?_, ?_, fun _ hc => absurd hc List.not_mem_nil⟩
    · rw [List.append_assoc, List.mem_append, not_or]
      exact ⟨hbase, hslash⟩
    · rintro (he | he) <;> simp [he] at hlong
  refine ⟨base ++ stem, hlast, ?_, List.append_ne_nil_of_right_ne_nil _ hstem, hdot⟩
  intro he
  simp [he] at hlong

end AdapterReport.Path
