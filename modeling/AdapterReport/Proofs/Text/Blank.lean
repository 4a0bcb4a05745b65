import Mathlib.Data.List.DropRight
import AdapterReport.Text.Blank

/-!
# Texts without the blanks at their ends

What `trim` leaves of a text stands in it between two runs of blanks (`eq_blanks_trimmed`), neither
begins nor ends with a blank (`not_isBlank_head`, `not_isBlank_last`), and is nothing exactly if the
text has nothing but blanks (`trim_eq_empty_iff`). Blanks at an end make no difference
(`trimmed_append_blank`, `dropBlanks_append_of_blank`).
-/

namespace AdapterReport.Text

/-- Every character is a blank. -/
def AllBlank (s : List Char) : Prop :=
  ∀ c ∈ s, isBlank c = true

/-- The characters between the blanks at the two ends. -/
def trimmed (s : List Char) : List Char :=
  dropBlanksEnd (dropBlanks s)

variable {s t : List Char} {c : Char}

theorem trim_eq (s : String) : trim s = String.ofList (trimmed s.toList) := rfl

theorem toList_trim (s : String) : (trim s).toList = trimmed s.toList := by
  rw [trim_eq, String.toList_ofList]

theorem trim_ofList (s : List Char) : trim (String.ofList s) = String.ofList (trimmed s) := by
  rw [trim_eq, String.toList_ofList]

theorem dropBlanksEnd_eq (s : List Char) : dropBlanksEnd s = s.rdropWhile isBlank := rfl

/-! ## Runs of blanks -/

theorem dropBlanks_append_of_blank (h : AllBlank s) (t : List Char) :
    dropBlanks (s ++ t) = dropBlanks t :=
  List.dropWhile_append_of_pos h

theorem dropBlanks_eq_nil_iff : dropBlanks s = [] ↔ AllBlank s :=
  List.dropWhile_eq_nil_iff

theorem dropBlanks_append_of_not_blank (h : ¬ AllBlank s) (t : List Char) :
    dropBlanks (s ++ t) = dropBlanks s ++ t := by
  have hne : (s.dropWhile isBlank).isEmpty = false := by
    rw [List.isEmpty_eq_false_iff]
    exact fun hnil => h (dropBlanks_eq_nil_iff.mp hnil)
  rw [dropBlanks, List.dropWhile_append, hne]
  rfl

theorem not_isBlank_of_dropBlanks (h : (dropBlanks s).head? = some c) : isBlank c = false := by
  have hnot := List.head?_dropWhile_not isBlank s
  rw [show (s.dropWhile isBlank).head? = some c from h] at hnot
  exact hnot

theorem dropBlanksEnd_eq_nil_iff : dropBlanksEnd s = [] ↔ AllBlank s :=
  List.rdropWhile_eq_nil_iff

theorem dropBlanksEnd_append_blank (h : AllBlank t) (s : List Char) :
    dropBlanksEnd (s ++ t) = dropBlanksEnd s := by
  unfold dropBlanksEnd
  rw [List.reverse_append, List.dropWhile_append_of_pos fun c hc => h c (List.mem_reverse.mp hc)]

theorem allBlank_append : AllBlank (s ++ t) ↔ AllBlank s ∧ AllBlank t :=
  List.forall_mem_append

/-! ## What is left -/

theorem trimmed_append_blank (h : AllBlank t) (s : List Char) : trimmed (s ++ t) = trimmed s := by
  unfold trimmed
  by_cases hs : AllBlank s
  · rw [dropBlanks_append_of_blank hs, dropBlanks_eq_nil_iff.mpr h, dropBlanks_eq_nil_iff.mpr hs]
  · rw [dropBlanks_append_of_not_blank hs, dropBlanksEnd_append_blank h]

/-- A carriage return goes with the blanks. -/
theorem trimmed_append_return (s : List Char) : trimmed (s ++ ['\r']) = trimmed s := by
  refine trimmed_append_blank ?_ s
  simp [AllBlank, isBlank]

theorem eq_blanks_trimmed (s : List Char) :
    ∃ front back, AllBlank front ∧ AllBlank back ∧ s = front ++ trimmed s ++ back := by
  refine ⟨s.takeWhile isBlank, (dropBlanks s).rtakeWhile isBlank,
    fun c hc => List.mem_takeWhile_imp hc, fun c hc => List.mem_rtakeWhile_imp hc, ?_⟩
  rw [trimmed, dropBlanksEnd_eq, List.append_assoc, List.rdropWhile_append_rtakeWhile]
  exact List.takeWhile_append_dropWhile.symm

theorem trimmed_eq_nil_iff : trimmed s = [] ↔ AllBlank s := by
  constructor
  · intro h
    obtain ⟨front, back, hfront, hback, hs⟩ := eq_blanks_trimmed s
    rw [hs, h, List.append_nil]
    exact allBlank_append.mpr ⟨hfront, hback⟩
  · intro h
    rw [trimmed, dropBlanks_eq_nil_iff.mpr h]
    rfl

theorem trim_eq_empty_iff (s : String) : trim s = "" ↔ AllBlank s.toList := by
  rw [← trimmed_eq_nil_iff, ← toList_trim, String.toList_eq_nil_iff]

theorem mem_of_mem_trimmed (h : c ∈ trimmed s) : c ∈ s := by
  obtain ⟨front, back, -, -, hs⟩ := eq_blanks_trimmed s
  rw [hs]
  exact List.mem_append_left _ (List.mem_append_right _ h)

/-- No character that is not a blank gets lost. -/
theorem count_trimmed (hc : isBlank c = false) (s : List Char) :
    (trimmed s).count c = s.count c := by
  have hzero {blanks : List Char} (h : AllBlank blanks) : blanks.count c = 0 := by
    refine List.count_eq_zero.mpr fun hmem => ?_
    rw [h c hmem] at hc
    cases hc
  obtain ⟨front, back, hfront, hback, hs⟩ := eq_blanks_trimmed s
  have hcount := congrArg (List.count c) hs
  rw [List.count_append, List.count_append, hzero hfront, hzero hback] at hcount
  omega

theorem not_isBlank_last (h : (trimmed s).getLast? = some c) : isBlank c = false := by
  have hne : (dropBlanks s).rdropWhile isBlank ≠ [] := by
    intro hnil
    rw [trimmed, dropBlanksEnd_eq, hnil] at h
    cases h
  have hlast := List.rdropWhile_last_not isBlank (dropBlanks s) hne
  rw [trimmed, dropBlanksEnd_eq, List.getLast?_eq_some_getLast hne] at h
  rwa [Option.some.inj h, Bool.not_eq_true] at hlast

theorem not_isBlank_head (h : (trimmed s).head? = some c) : isBlank c = false := by
  -- the first character that is left is the first one behind the blanks in front
  obtain ⟨back, hback⟩ : trimmed s <+: dropBlanks s := List.rdropWhile_prefix isBlank _
  refine not_isBlank_of_dropBlanks (s := s) ?_
  rw [← hback, List.head?_append, h]
  rfl

end AdapterReport.Text
