import AdapterReport.Proofs.Host.Interfaces
import AdapterReport.Proofs.Text.Blank
import AdapterReport.Proofs.Text.Lines

/-!
# The description of the distribution

`description_in_line`: the description is the first text behind `Description:` that is not blank, on
whatever line it stands. So it is the value in the first line, except where this value is blank and
a later line is not (`Overrun`); then the later line is taken for it (`overrun_release`).

* `firstLine?_eq`: the characters from the first one on that is not blank, up to the end of their
  line, are the first line that is not blank.
* `FirstValue`, `description?_of_firstValue`: the value in the first line and what follows it.
-/

namespace AdapterReport

open Text

/-! ## The first line that is not blank -/

/-- The characters from the first one on that is not blank, up to the end of their line. -/
def firstText (s : List Char) : List Char :=
  dropBlanksEnd ((dropBlanks s).takeWhile (· != '\n'))

section
variable {a s : List Char}

theorem firstText_of_blank (h : AllBlank a) (s : List Char) : firstText (a ++ s) = firstText s := by
  rw [firstText, dropBlanks_append_of_blank h, firstText]

theorem firstText_of_not_blank (h : ¬ AllBlank a) (hline : '\n' ∉ a)
    (hs : ∀ c, s.head? = some c → c = '\n') : firstText (a ++ s) = trimmed a := by
  have hrun : ∀ c ∈ dropBlanks a, (c != '\n') = true :=
    bne_of_not_mem fun hmem => hline (List.dropWhile_sublist _ |>.mem hmem)
  have hstop : ∀ c, s.head? = some c → (c != '\n') = false := by
    intro c hc
    rw [hs c hc]
    rfl
  rw [firstText, dropBlanks_append_of_not_blank h, takeWhile_run hrun hstop, trimmed]

end

/-- The first of some lines that is not blank, without the blanks at its ends. -/
def firstOf? (lines : List (List Char)) : Option String :=
  ((lines.map String.ofList).map trim).find? fun line => !line.isEmpty

theorem firstLine?_eq_firstOf? (text : String) :
    firstLine? text = firstOf? (lineChars text.toList) :=
  rfl

theorem firstOf?_cons (line : List Char) (lines : List (List Char)) :
    firstOf? (line :: lines) =
      if (trimmed line).isEmpty then firstOf? lines else some (String.ofList (trimmed line)) := by
  have hempty : (String.ofList (trimmed line)).isEmpty = (trimmed line).isEmpty := by
    rw [Bool.eq_iff_iff, String.isEmpty_iff, List.isEmpty_iff, ← String.toList_eq_nil_iff,
      String.toList_ofList]
  unfold firstOf?
  rw [List.map_cons, List.map_cons, List.find?_cons, trim_ofList, hempty]
  cases (trimmed line).isEmpty <;> rfl

theorem trimmed_withoutReturn (line : List Char) : trimmed (withoutReturn line) = trimmed line := by
  rcases withoutReturn_cases line with heq | heq
  · rw [← heq]
  · conv => rhs; rw [heq, trimmed_append_return]

theorem firstOf?_lineChars (s : List Char) :
    firstOf? (lineChars s) =
      if (firstText s).isEmpty then none else some (String.ofList (firstText s)) := by
  induction s using pieces_induction '\n' with
  | last a ha =>
    have hlines : firstOf? (lineChars a) =
        if (trimmed a).isEmpty then none else some (String.ofList (trimmed a)) := by
      rw [lineChars_last ha]
      cases a with
      | nil => rfl
      | cons c a => exact firstOf?_cons (c :: a) []
    rw [hlines]
    by_cases hblank : AllBlank a
    · have hfirst := firstText_of_blank hblank []
      rw [List.append_nil] at hfirst
      rw [hfirst, trimmed_eq_nil_iff.mpr hblank]
      rfl
    · have hfirst := firstText_of_not_blank hblank ha (s := []) nofun
      rw [List.append_nil] at hfirst
      rw [hfirst]
  | piece a s ha ih =>
    rw [lineChars_line ha, firstOf?_cons, trimmed_withoutReturn]
    by_cases hblank : AllBlank a
    · have hfeed : AllBlank (a ++ ['\n']) :=
        allBlank_append.mpr ⟨hblank, by simp [AllBlank, isBlank]⟩
      rw [trimmed_eq_nil_iff.mpr hblank, List.append_cons, firstText_of_blank hfeed, ih]
      rfl
    · have hfirst : firstText (a ++ '\n' :: s) = trimmed a := by
        refine firstText_of_not_blank hblank ha fun c hc => ?_
        cases hc
        rfl
      have hne : (trimmed a).isEmpty = false := by
        rw [List.isEmpty_eq_false_iff]
        exact fun hnil => hblank (trimmed_eq_nil_iff.mp hnil)
      rw [hfirst, hne]
      rfl

theorem firstLine?_eq (text : String) :
    firstLine? text = if (firstText text.toList).isEmpty then none
      else some (String.ofList (firstText text.toList)) :=
  (firstLine?_eq_firstOf? text).trans (firstOf?_lineChars text.toList)

theorem firstLine?_of_not_blank {value : String} {later : String} (h : ¬ AllBlank value.toList)
    (hline : '\n' ∉ value.toList) (hlater : ∀ c, later.toList.head? = some c → c = '\n') :
    firstLine? (value ++ later) = some (trim value) := by
  have hne : (trimmed value.toList).isEmpty = false := by
    rw [List.isEmpty_eq_false_iff]
    exact fun hnil => h (trimmed_eq_nil_iff.mp hnil)
  rw [firstLine?_eq, String.toList_append, firstText_of_not_blank h hline hlater, hne, trim_eq]
  rfl

theorem firstLine?_of_blank {value : String} (h : AllBlank value.toList) (later : String) :
    firstLine? (value ++ later) = firstLine? later := by
  rw [firstLine?_eq, String.toList_append, firstText_of_blank h, firstLine?_eq]

theorem firstText_eq_nil_iff {s : List Char} : firstText s = [] ↔ AllBlank s := by
  rw [firstText, dropBlanksEnd_eq_nil_iff, ← dropBlanks_eq_nil_iff (s := s)]
  constructor
  · intro h
    -- what the blanks end with is in the line, and no blank
    by_contra hne
    obtain ⟨c, rest, hc⟩ := List.exists_cons_of_ne_nil hne
    have hblank : isBlank c = false := not_isBlank_of_dropBlanks (s := s) (by rw [hc]; rfl)
    have hfeed : (c != '\n') = true := by
      rw [bne_iff_ne]
      rintro rfl
      exact absurd hblank (by decide)
    rw [hc, List.takeWhile_cons_of_pos (p := (· != '\n')) hfeed] at h
    rw [h c List.mem_cons_self] at hblank
    cases hblank
  · intro h
    rw [h]
    exact nofun

theorem firstLine?_eq_none_iff {text : String} :
    firstLine? text = none ↔ AllBlank text.toList := by
  rw [firstLine?_eq, ← firstText_eq_nil_iff]
  by_cases h : firstText text.toList = [] <;> simp [h]

/-! ## Behind the label -/

/-- What the description stands behind. -/
def label : String := "Description:"

theorem description?_label (rest : String) : description? (label ++ rest) = firstLine? rest := by
  have hprefix : "Description:".toList.isPrefixOf (label ++ rest).toList = true := by
    rw [List.isPrefixOf_iff_prefix, String.toList_append]
    exact List.prefix_append _ _
  have hdrop : (label ++ rest).toList.drop "Description:".length = rest.toList := by
    rw [String.toList_append]
    exact List.drop_left
  have htext : firstText rest.toList =
      dropBlanksEnd ((dropBlanks rest.toList).takeWhile (· != '\n')) := rfl
  rw [description?, if_pos hprefix, hdrop, firstLine?_eq, htext]

theorem description?_of_no_label {text : String} (h : ∀ rest, text ≠ label ++ rest) :
    description? text = none := by
  refine if_neg fun hprefix => ?_
  obtain ⟨rest, hrest⟩ := List.isPrefixOf_iff_prefix.mp hprefix
  refine h (String.ofList rest) ?_
  rw [← String.toList_inj, String.toList_append, String.toList_ofList]
  exact hrest.symm

/-- The first line of the text is the label and this value; the rest begins with the line feed. -/
structure FirstValue (text value later : String) : Prop where
  text_eq : text = label ++ value ++ later
  oneLine : '\n' ∉ value.toList
  later_begins : ∀ c, later.toList.head? = some c → c = '\n'

section
variable {text value later d : String}

theorem FirstValue.value_eq (h : FirstValue text value later) :
    value.toList = (text.toList.drop label.length).takeWhile (· != '\n') := by
  obtain ⟨rfl, hline, hlater⟩ := h
  have hdrop :
      (label ++ value ++ later).toList.drop label.length = value.toList ++ later.toList := by
    rw [String.append_assoc, String.toList_append, String.toList_append]
    exact List.drop_left
  have hstop : ∀ c, later.toList.head? = some c → (c != '\n') = false := by
    intro c hc
    rw [hlater c hc]
    rfl
  rw [hdrop, takeWhile_run (bne_of_not_mem hline) hstop]

theorem FirstValue.unique {value' later' : String} (h : FirstValue text value later)
    (h' : FirstValue text value' later') : value = value' ∧ later = later' := by
  have hvalue : value = value' := by
    rw [← String.toList_inj, h.value_eq, h'.value_eq]
  refine ⟨hvalue, ?_⟩
  have htext := h.text_eq.symm.trans h'.text_eq
  rwa [hvalue, String.append_right_inj] at htext

theorem exists_firstValue (rest : String) :
    ∃ value later, FirstValue (label ++ rest) value later := by
  refine ⟨String.ofList (rest.toList.takeWhile (· != '\n')),
    String.ofList (rest.toList.dropWhile (· != '\n')), ?_, ?_, fun c hc => ?_⟩
  · rw [String.append_assoc, ← String.ofList_append, List.takeWhile_append_dropWhile,
      String.ofList_toList]
  · rw [String.toList_ofList]
    intro hmem
    exact absurd (List.mem_takeWhile_imp hmem) (by decide)
  · rw [String.toList_ofList] at hc
    have hnot := List.head?_dropWhile_not (· != '\n') rest.toList
    rw [hc] at hnot
    simpa using hnot

theorem description?_of_firstValue (h : FirstValue text value later) :
    (¬ AllBlank value.toList → description? text = some (trim value)) ∧
      (AllBlank value.toList → description? text = firstLine? later) := by
  obtain ⟨rfl, hline, hlater⟩ := h
  rw [String.append_assoc, description?_label]
  exact ⟨fun hblank => firstLine?_of_not_blank hblank hline hlater,
    fun hblank => firstLine?_of_blank hblank later⟩

/-! ## The value in the first line -/

/-- The first line of the text is the label and a value that is not blank, and this is the value
without the blanks at its ends. -/
def DescribedBy (text d : String) : Prop :=
  ∃ value later, FirstValue text value later ∧ ¬ AllBlank value.toList ∧ trim value = d

/-- The first line of the text is the label and nothing but blanks, and a later line is not
blank. -/
def Overrun (text : String) : Prop :=
  ∃ value later, FirstValue text value later ∧ AllBlank value.toList ∧ ¬ AllBlank later.toList

theorem description?_of_overrun (h : Overrun text) :
    (∃ d, description? text = some d) ∧ ∀ d, ¬ DescribedBy text d := by
  obtain ⟨value, later, hfirst, hblank, hlater⟩ := h
  refine ⟨Option.ne_none_iff_exists'.mp ?_, ?_⟩
  · rw [(description?_of_firstValue hfirst).2 hblank]
    exact mt firstLine?_eq_none_iff.mp hlater
  · rintro d ⟨value', later', hfirst', hblank', -⟩
    rw [(hfirst'.unique hfirst).1] at hblank'
    exact hblank' hblank

theorem description?_of_not_overrun (h : ¬ Overrun text) :
    description? text = some d ↔ DescribedBy text d := by
  by_cases hlabel : ∃ rest, text = label ++ rest
  · obtain ⟨rest, rfl⟩ := hlabel
    obtain ⟨value, later, hfirst⟩ := exists_firstValue rest
    obtain ⟨hpresent, habsent⟩ := description?_of_firstValue hfirst
    by_cases hblank : AllBlank value.toList
    · have hlater : AllBlank later.toList := by
        by_contra hlater
        exact h ⟨value, later, hfirst, hblank, hlater⟩
      rw [habsent hblank, firstLine?_eq_none_iff.mpr hlater]
      refine ⟨nofun, ?_⟩
      rintro ⟨value', later', hfirst', hblank', -⟩
      rw [(hfirst'.unique hfirst).1] at hblank'
      exact absurd hblank hblank'
    · rw [hpresent hblank, Option.some.injEq]
      refine ⟨fun hd => ⟨value, later, hfirst, hblank, hd⟩, ?_⟩
      rintro ⟨value', later', hfirst', -, hd⟩
      rw [← hd, (hfirst'.unique hfirst).1]
  · rw [description?_of_no_label fun rest he => hlabel ⟨rest, he⟩]
    refine ⟨nofun, ?_⟩
    rintro ⟨value, later, hfirst, -, -⟩
    exact absurd ⟨value ++ later, hfirst.text_eq.trans String.append_assoc⟩ hlabel

end

/-- What the files of a host say about its distribution. -/
def Host.distributionFile? (h : Host) (roots : Roots) : Option String :=
  (h.releaseLine? roots).or
    ((h.text? (Host.below (Text.Utf8.encode roots.etc) "debian_version")).map fun version =>
      "Debian " ++ trim version)

theorem Host.distribution?_eq (h : Host) (roots : Roots) :
    h.distribution? roots =
      (description? (h.output "lsb_release" ["-d"])).or (h.distributionFile? roots) :=
  Option.or_assoc

/-- **The description** is the first line behind the label that is not blank. It is the value in the
label's own line exactly if that value is not blank or all later lines are. Then the files of the
host are asked exactly if that value is blank or there is no label. -/
theorem description_in_line (text : String) :
    (∀ d, description? text = some d ↔ ∃ rest, text = label ++ rest ∧ FirstLine rest d) ∧
    ((∀ d, description? text = some d ↔ DescribedBy text d) ↔ ¬ Overrun text) ∧
    ∀ (h : Host) (roots : Roots), h.output "lsb_release" ["-d"] = text → ¬ Overrun text →
      (∀ d, DescribedBy text d → h.distribution? roots = some d) ∧
        ((∀ d, ¬ DescribedBy text d) → h.distribution? roots = h.distributionFile? roots) := by
  refine ⟨fun d => ?_, ⟨fun hline hover => ?_, fun hover d => description?_of_not_overrun hover⟩,
    fun h roots htext hover => ?_⟩
  · by_cases hlabel : ∃ rest, text = label ++ rest
    · obtain ⟨rest, rfl⟩ := hlabel
      rw [description?_label, firstLine?_eq_some_iff]
      refine ⟨fun hd => ⟨rest, rfl, hd⟩, ?_⟩
      rintro ⟨rest', heq, hd⟩
      rwa [(String.append_right_inj label).mp heq]
    · rw [description?_of_no_label fun rest he => hlabel ⟨rest, he⟩]
      exact ⟨nofun, fun ⟨rest, he, _⟩ => absurd ⟨rest, he⟩ hlabel⟩
  · obtain ⟨⟨d, hd⟩, hnone⟩ := description?_of_overrun hover
    exact hnone d ((hline d).mp hd)
  · rw [h.distribution?_eq, htext]
    refine ⟨fun d hd => ?_, fun hnone => ?_⟩
    · rw [(description?_of_not_overrun hover).mpr hd]
      rfl
    · have habsent : description? text = none := by
        rw [Option.eq_none_iff_forall_ne_some]
        exact fun d hd => hnone d ((description?_of_not_overrun hover).mp hd)
      rw [habsent, Option.none_or]

/-- Behind a label without a value the next line is taken for the description, whatever the files
of the host say. -/
theorem overrun_release :
    let text := "Description:\nRelease:\t22.04\n"
    (∀ d, ¬ DescribedBy text d) ∧ description? text = some "Release:\t22.04" ∧
      ∀ (h : Host) (roots : Roots), h.output "lsb_release" ["-d"] = text →
        h.distribution? roots = some "Release:\t22.04" := by
  intro text
  have hfirst : FirstValue text "" "\nRelease:\t22.04\n" :=
    ⟨by decide, List.not_mem_nil, fun c hc => (Option.some.inj hc).symm⟩
  have hdescription : description? text = some "Release:\t22.04" := by decide
  refine ⟨?_, hdescription, fun h roots htext => ?_⟩
  · rintro d ⟨value, later, hvalue, hblank, -⟩
    rw [(hvalue.unique hfirst).1] at hblank
    exact hblank nofun
  · rw [h.distribution?_eq, htext, hdescription]
    rfl

end AdapterReport
