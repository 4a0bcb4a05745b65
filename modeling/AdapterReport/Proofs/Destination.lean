import AdapterReport.Destination
import AdapterReport.Proofs.Path
import AdapterReport.Proofs.Text.Digits

/-!
# Where a report goes, and in which format

`Destination.resolution`: a path that is given is kept, one is made up where only a flag is given,
and a flag decides the format before the path does.

* `Format.ofPath?_eq_some_iff`: a path suggests a format by the extension of its last component.
* `extension?_reportFileName`: a name that is made up ends in the extension of the format, after a
  time without dots and slashes (`not_mem_stamp`), whatever the prefix and the host are. So it
  suggests its own format or none (`ofPath?_reportFileName`).
* `given`: `-` counts as no path, and suggests no format (`bind_given`).
* `AskedFor`, `resolve_askedFor`: how flags and path decide, under any name that may be made up.
-/

namespace AdapterReport

/-! ## The format that a path suggests -/

/-- The extension of the path is one of the words, in letters of either case. -/
def ExtensionIn (words : List String) (path : String) : Prop :=
  ∃ ext, Path.HasExtension path.toList ext ∧ String.ofList (ext.map Char.toLower) ∈ words

namespace Format

/-- The extensions that suggest a format. -/
def words : Format → List String
  | .json => ["json"]
  | .html => ["html", "htm"]
  | .text | .minimal => []

theorem ofPath?_eq_some_iff {path : String} {f : Format} :
    ofPath? path = some f ↔ ExtensionIn f.words path := by
  unfold ofPath? ExtensionIn
  rw [Option.bind_eq_bind, Option.bind_eq_some_iff]
  refine exists_congr fun ext => and_congr Path.extension?_eq_some_iff ?_
  rw [Text.lowerLatin, String.toList_ofList]
  -- from here on only the lowered extension counts, which each format compares with its own words
  generalize String.ofList (ext.map Char.toLower) = word
  split <;> cases f <;> simp_all [words]

example : ofPath? "reports.d/.old/Host.Json/." = some .json := by decide

theorem ofPath?_eq_none_iff {path : String} :
    ofPath? path = none ↔ ¬ ExtensionIn ["json"] path ∧ ¬ ExtensionIn ["html", "htm"] path := by
  constructor
  · intro h
    refine ⟨fun hjson => ?_, fun hhtml => ?_⟩
    · rw [ofPath?_eq_some_iff (f := .json) |>.mpr hjson] at h
      cases h
    · rw [ofPath?_eq_some_iff (f := .html) |>.mpr hhtml] at h
      cases h
  · rintro ⟨hjson, hhtml⟩
    rw [Option.eq_none_iff_forall_ne_some]
    intro f hf
    have hext := ofPath?_eq_some_iff.mp hf
    cases f with
    | json => exact hjson hext
    | html => exact hhtml hext
    | text | minimal =>
      obtain ⟨ext, -, hmem⟩ := hext
      cases hmem

end Format

/-! ## Names that are made up -/

theorem not_mem_stamp {c : Char} (hdigit : c.isDigit = false) (hminus : c ≠ '-') (hplus : c ≠ '+')
    (moment : Moment) : c ∉ moment.stamp.toList := by
  have hpadded (width n : Nat) : c ∉ (Text.decimalPadded width n).toList := fun hmem => by
    rw [Text.isDigit_of_mem_decimalPadded hmem] at hdigit
    cases hdigit
  have hyear (year : Int) : c ∉ (Moment.yearText year).toList := by
    rw [Moment.yearText, String.toList_append, List.mem_append, not_or]
    refine ⟨?_, hpadded _ _⟩
    split
    · simpa using hminus
    · split
      · simpa using hplus
      · exact List.not_mem_nil
  unfold Moment.stamp
  refine Text.not_mem_intercalate (by simpa using hminus) ?_
  simp only [List.forall_mem_cons]
  exact ⟨hyear _, hpadded _ _, hpadded _ _, hpadded _ _, hpadded _ _, hpadded _ _, nofun⟩

theorem extension?_reportFileName (start hostname : String) (moment : Moment) (format : Format) :
    Path.extension? (reportFileName start hostname moment format).toList =
      some format.extension.toList := by
  have hslash : '/' ∉ moment.stamp.toList := not_mem_stamp (by decide) (by decide) (by decide) _
  have hname : (reportFileName start hostname moment format).toList =
      (start ++ "-" ++ hostname).toList ++
        ('-' :: moment.stamp.toList ++ '.' :: format.extension.toList) := by
    simp [reportFileName]
  rw [hname, Path.extension?_eq_some_iff]
  refine Path.hasExtension_append _ (List.cons_ne_nil _ _) ?_ ?_ ?_
  · rw [List.mem_append, List.mem_cons, not_or, not_or]
    refine ⟨⟨by decide, hslash⟩, ?_⟩
    cases format <;> decide
  · cases format <;> decide
  · cases format <;> decide

/-- The format that the extension of a format suggests. -/
def Format.suggested? : Format → Option Format
  | .json => some .json
  | .html => some .html
  | .text | .minimal => none

theorem Format.eq_of_suggested? {f guess : Format} (h : f.suggested? = some guess) : guess = f := by
  cases f <;> cases h <;> rfl

theorem ofPath?_reportFileName (start hostname : String) (moment : Moment) (format : Format) :
    Format.ofPath? (reportFileName start hostname moment format) = format.suggested? := by
  unfold Format.ofPath?
  rw [extension?_reportFileName]
  cases format <;> decide

/-! ## The destination -/

namespace Destination

/-- The path that is asked for. -/
def given (path : Option String) : Option String :=
  path.filter (· != standardOutput)

theorem given_eq_some_iff {path : Option String} {p : String} :
    given path = some p ↔ path = some p ∧ p ≠ "-" := by
  rw [given, Option.filter_eq_some_iff, bne_iff_ne]
  rfl

theorem given_eq_none_iff {path : Option String} :
    given path = none ↔ path = none ∨ path = some "-" := by
  rw [given, Option.filter_eq_none_iff]
  cases path with
  | none => simp
  | some p => simp [standardOutput]

theorem bind_given (path : Option String) :
    (given path).bind Format.ofPath? = path.bind Format.ofPath? := by
  cases path with
  | none => rfl
  | some p =>
    by_cases hp : p = "-"
    · subst hp
      decide
    · rw [given_eq_some_iff.mpr ⟨rfl, hp⟩]

/-- What the flags and the path ask for. `name` is the name of a file that is made up. -/
structure AskedFor (json minimal : Bool) (path : Option String) (name : Format → String)
    (d : Destination) : Prop where
  kept : ∀ p, path = some p → p ≠ "-" → d.path = some p
  standard : d.path = none ↔ json = false ∧ minimal = false ∧ (path = none ∨ path = some "-")
  madeUp : json = true ∨ minimal = true → path = none ∨ path = some "-" →
    d.path = some (name d.format)
  format : d.format = if json then .json else if minimal then .minimal else
    (path.bind Format.ofPath?).getD .text

theorem askedFormat_eq_none_iff {json minimal : Bool} :
    askedFormat json minimal = none ↔ json = false ∧ minimal = false := by
  cases json <;> cases minimal <;> decide

theorem resolve_askedFor (json minimal : Bool) (path : Option String)
    (filePrefix hostname : String) (moment : Moment) :
    AskedFor json minimal path (reportFileName filePrefix hostname moment)
      (resolve json minimal path filePrefix hostname moment) := by
  have hpath : (resolve json minimal path filePrefix hostname moment).path =
      (given path).or
        ((askedFormat json minimal).map (reportFileName filePrefix hostname moment)) := rfl
  have hformat : (resolve json minimal path filePrefix hostname moment).format =
      ((askedFormat json minimal).or (path.bind Format.ofPath?)).getD .text := by
    rw [← bind_given]
    rfl
  -- `hpath` says where `given path` comes before the flags, `hformat` where it comes after them
  refine ⟨fun p hp hne => ?_, ?_, fun hflag hnone => ?_, ?_⟩
  · rw [hpath, given_eq_some_iff.mpr ⟨hp, hne⟩, Option.some_or]
  · rw [hpath, Option.or_eq_none_iff, Option.map_eq_none_iff, askedFormat_eq_none_iff,
      given_eq_none_iff, and_comm, and_assoc]
  · obtain ⟨f, hf⟩ : ∃ f, askedFormat json minimal = some f := by
      rw [← Option.ne_none_iff_exists', ne_eq, askedFormat_eq_none_iff]
      rintro ⟨rfl, rfl⟩
      simp at hflag
    rw [hpath, hformat, given_eq_none_iff.mpr hnone, hf]
    rfl
  · rw [hformat]
    cases json with
    | true => rfl
    | false => cases minimal <;> rfl

/-- **Where a report goes, and in which format**: the flags and the path are followed, a path
suggests a format by its extension alone, and a name that is made up suggests its own format or
none. -/
theorem resolution (json minimal : Bool) (path : Option String) (filePrefix hostname : String)
    (moment : Moment) :
    AskedFor json minimal path (reportFileName filePrefix hostname moment)
        (resolve json minimal path filePrefix hostname moment) ∧
      (∀ p, Format.ofPath? p = some .json ↔ ExtensionIn ["json"] p) ∧
      (∀ p, Format.ofPath? p = some .html ↔ ExtensionIn ["html", "htm"] p) ∧
      (∀ p, Format.ofPath? p = none ↔
        ¬ ExtensionIn ["json"] p ∧ ¬ ExtensionIn ["html", "htm"] p) ∧
      Format.ofPath? (reportFileName filePrefix hostname moment .json) = some .json ∧
      Format.ofPath? (reportFileName filePrefix hostname moment .minimal) = none ∧
      ∀ f guess, Format.ofPath? (reportFileName filePrefix hostname moment f) = some guess →
        guess = f := by
  refine ⟨resolve_askedFor .., fun p => Format.ofPath?_eq_some_iff,
    fun p => Format.ofPath?_eq_some_iff, fun p => Format.ofPath?_eq_none_iff,
    ofPath?_reportFileName .., ofPath?_reportFileName .., fun f guess h => ?_⟩
  rw [ofPath?_reportFileName] at h
  exact f.eq_of_suggested? h

end Destination

end AdapterReport
