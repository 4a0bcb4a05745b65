import AdapterReport.Format
import AdapterReport.Proofs.Calendar.Order
import AdapterReport.Proofs.Text.ByteOrder
import AdapterReport.Proofs.Text.Digits

/-!
# Names of files in the order of time

`names_in_order`: the names of the files of one host are, byte for byte, in the order of the seconds
in which the reports are made, and differ where the seconds do.

The time in a name is a list of padded numbers that goes by the second on the local clock alone
(`toList_stamp`). The first numbers in which two such lists differ are in order (`firstLess_stamp`),
so the texts are (`stamp_ahead`), whatever stands around them.
-/

namespace AdapterReport

namespace Moment

variable {a b m : Moment}

/-- A moment whose year has four digits; no fraction is worth more than one leap second. -/
structure FourDigit (m : Moment) : Prop where
  year_nonneg : 0 ≤ m.date.year
  year_le : m.date.year ≤ 9999
  leap_le : m.leap ≤ 1

/-- The date of a minute of the local clock. -/
def dateOfMinute (minute : Int) : Date :=
  Date.ofDays (minute / 1440)

/-- The numbers of a time of the local clock, from the year to the second, each with the number of
its digits behind the first one. -/
def stampNumbers (second : Int) : List (Nat × Nat) :=
  let minute := second / 61
  let date := dateOfMinute minute
  [(3, date.year.toNat), (1, date.month), (1, date.day), (1, (minute / 60 % 24).toNat),
    (1, (minute % 60).toNat), (1, (second % 61).toNat)]

theorem wholeSecond_div (h : m.leap ≤ 1) : m.wholeSecond / 61 = m.localSeconds / 60 := by
  unfold wholeSecond
  omega

theorem wholeSecond_mod (h : m.leap ≤ 1) :
    m.wholeSecond % 61 = m.localSeconds % 60 + m.leap := by
  unfold wholeSecond
  omega

theorem date_eq (h : m.leap ≤ 1) : m.date = dateOfMinute (m.wholeSecond / 61) := by
  rw [dateOfMinute, wholeSecond_div h, date, localDays, Int.ediv_ediv_of_nonneg (by decide)]
  rfl

theorem yearText_fourDigit {year : Int} (hlo : 0 ≤ year) (hhi : year ≤ 9999) :
    yearText year = Text.decimalPadded 4 year.toNat := by
  have habs : year.natAbs = year.toNat := by omega
  rw [yearText, if_neg (by omega), if_neg (by omega), String.empty_append, habs]

/-- The time in a name goes by the second on the local clock. -/
theorem toList_stamp (h : m.FourDigit) :
    m.stamp.toList = ['-'].intercalate (Text.numbers (stampNumbers m.wholeSecond)) := by
  obtain ⟨hlo, hhi, hleap⟩ := h
  have hhour : m.timeOfDay.hour = (m.wholeSecond / 61 / 60 % 24).toNat := by
    rw [wholeSecond_div hleap]
    show (m.localSeconds % 86400).toNat / 3600 = _
    omega
  have hminute : m.timeOfDay.minute = (m.wholeSecond / 61 % 60).toNat := by
    rw [wholeSecond_div hleap]
    show (m.localSeconds % 86400).toNat / 60 % 60 = _
    omega
  have hsecond : m.timeOfDay.second = (m.wholeSecond % 61).toNat := by
    rw [wholeSecond_mod hleap]
    show (m.localSeconds % 86400).toNat % 60 + m.leap = _
    omega
  rw [stamp, String.toList_intercalate, yearText_fourDigit hlo hhi, hhour, hminute, hsecond,
    date_eq hleap]
  rfl

/-- The first numbers in which two times differ are in the order of the times. -/
theorem firstLess_stamp {s t : Int} (h : s < t)
    (hlo : 0 ≤ (dateOfMinute (s / 61)).year) (hhi : (dateOfMinute (t / 61)).year ≤ 9999) :
    Text.FirstLess (stampNumbers s) (stampNumbers t) := by
  have hbounds := Date.ofDays_bounds (t / 61 / 1440)
  -- either the date decides, or the hour does, or the minute, or the second
  have hcases : s / 61 / 1440 < t / 61 / 1440 ∨ s / 61 / 1440 = t / 61 / 1440 ∧
      (s / 61 / 60 % 24 < t / 61 / 60 % 24 ∨ s / 61 / 60 % 24 = t / 61 / 60 % 24 ∧
        (s / 61 % 60 < t / 61 % 60 ∨ s / 61 % 60 = t / 61 % 60 ∧ s % 61 < t % 61)) := by
    omega
  simp only [stampNumbers, dateOfMinute] at hlo hhi ⊢
  rcases hcases with hday | ⟨hday, htime⟩
  · rcases Date.before_ofDays hday with hyear | ⟨hyear, hmonth | ⟨hmonth, hdate⟩⟩
    · exact .here (by omega) (by show _ < 10000; omega)
    · rw [hyear]
      exact .later (.here hmonth (by show _ < 100; omega))
    · rw [hyear, hmonth]
      exact .later (.later (.here hdate (by show _ < 100; omega)))
  · rw [hday]
    refine .later (.later (.later ?_))
    rcases htime with hhour | ⟨hhour, hminute | ⟨hminute, hsecond⟩⟩
    · exact .here (by omega) (by show _ < 100; omega)
    · rw [hhour]
      exact .later (.here (by omega) (by show _ < 100; omega))
    · rw [hhour, hminute]
      exact .later (.later (.here (by omega) (by show _ < 100; omega)))

/-- A later second has a later text, whatever follows. -/
theorem stamp_ahead (ha : a.FourDigit) (hb : b.FourDigit) (h : a.wholeSecond < b.wholeSecond) :
    Text.Ahead a.stamp.toList b.stamp.toList := by
  rw [toList_stamp ha, toList_stamp hb]
  refine Text.ahead_intercalate (firstLess_stamp h ?_ ?_)
  · rw [← date_eq ha.leap_le]
    exact ha.year_nonneg
  · rw [← date_eq hb.leap_le]
    exact hb.year_le

end Moment

/-! ## Names of files -/

/-- The bytes of the name of a report's file. -/
def nameBytes (start hostname : String) (format : Format) (m : Moment) : List UInt8 :=
  Text.Utf8.encode (reportFileName start hostname m format)

section
variable {a b : Moment} (start hostname : String) (format : Format)

theorem nameBytes_lt (ha : a.FourDigit) (hb : b.FourDigit) (h : a.wholeSecond < b.wholeSecond) :
    nameBytes start hostname format a < nameBytes start hostname format b := by
  rw [nameBytes, nameBytes, Text.Utf8.encode_lt_iff, String.lt_iff]
  simp only [reportFileName, String.toList_append, List.append_assoc]
  iterate 4 refine List.append_left_lt ?_
  exact Moment.stamp_ahead ha hb h _ _

theorem nameBytes_eq (ha : a.FourDigit) (hb : b.FourDigit) (h : a.wholeSecond = b.wholeSecond) :
    nameBytes start hostname format a = nameBytes start hostname format b := by
  have hstamp : a.stamp = b.stamp := String.toList_inj.mp (by
    rw [Moment.toList_stamp ha, Moment.toList_stamp hb, h])
  rw [nameBytes, nameBytes, reportFileName, reportFileName, hstamp]

theorem nameBytes_lt_iff (ha : a.FourDigit) (hb : b.FourDigit) :
    nameBytes start hostname format a < nameBytes start hostname format b ↔
      a.wholeSecond < b.wholeSecond := by
  refine ⟨fun h => ?_, nameBytes_lt start hostname format ha hb⟩
  rcases Int.lt_trichotomy a.wholeSecond b.wholeSecond with hlt | heq | hgt
  · exact hlt
  · rw [nameBytes_eq start hostname format ha hb heq] at h
    exact absurd h (List.lt_irrefl _)
  · exact absurd h (List.lt_asymm (nameBytes_lt start hostname format hb ha hgt))

theorem nameBytes_eq_iff (ha : a.FourDigit) (hb : b.FourDigit) :
    nameBytes start hostname format a = nameBytes start hostname format b ↔
      a.wholeSecond = b.wholeSecond := by
  refine ⟨fun h => ?_, nameBytes_eq start hostname format ha hb⟩
  rcases Int.lt_trichotomy a.wholeSecond b.wholeSecond with hlt | heq | hgt
  · have hless := nameBytes_lt start hostname format ha hb hlt
    rw [h] at hless
    exact absurd hless (List.lt_irrefl _)
  · exact heq
  · have hless := nameBytes_lt start hostname format hb ha hgt
    rw [h] at hless
    exact absurd hless (List.lt_irrefl _)

end

/-- **Names of files are in the order of time**, byte for byte, and differ where the seconds on the
local clock do. With leap seconds at the ends of minutes these are the seconds in time; with others
a later name is at least never the lesser one. -/
theorem names_in_order (start hostname : String) (format : Format) {a b : Moment}
    (hzone : a.offset = b.offset) (ha : a.FourDigit) (hb : b.FourDigit) :
    (nameBytes start hostname format a < nameBytes start hostname format b ↔
      a.wholeSecond < b.wholeSecond) ∧
    (nameBytes start hostname format a = nameBytes start hostname format b ↔
      a.wholeSecond = b.wholeSecond) ∧
    (a.EndsMinute → b.EndsMinute →
      (nameBytes start hostname format a < nameBytes start hostname format b ↔
        a.SecondBefore b) ∧
      (nameBytes start hostname format a = nameBytes start hostname format b ↔
        a.SameSecond b)) ∧
    (a.SecondBefore b →
      ¬ nameBytes start hostname format b < nameBytes start hostname format a) := by
  have hlt := nameBytes_lt_iff start hostname format ha hb
  have heq := nameBytes_eq_iff start hostname format ha hb
  refine ⟨hlt, heq, fun hendA hendB => ⟨?_, ?_⟩, fun hbefore => ?_⟩
  · rw [hlt, Moment.wholeSecond_lt_iff hzone ha.leap_le hb.leap_le hendA hendB]
  · rw [heq, Moment.wholeSecond_eq_iff hzone ha.leap_le hb.leap_le hendA hendB]
  · rw [nameBytes_lt_iff start hostname format hb ha, Int.not_lt]
    exact Moment.wholeSecond_le hzone ha.leap_le hbefore

/-- The leap second at the end of 2016, in a zone one hour ahead, and the second behind it. -/
theorem names_in_order_leap :
    let leap : Moment := ⟨1483228799, 1500000000, 3600⟩
    let next : Moment := ⟨1483228800, 0, 3600⟩
    leap.offset = next.offset ∧ leap.FourDigit ∧ next.FourDigit ∧
      leap.EndsMinute ∧ next.EndsMinute ∧ leap.SecondBefore next ∧
      nameBytes "sfreport" "node1" .json leap < nameBytes "sfreport" "node1" .json next := by
  intro leap next
  have hzone : leap.offset = next.offset := rfl
  have hleap : leap.FourDigit := ⟨by decide, by decide, by decide⟩
  have hnext : next.FourDigit := ⟨by decide, by decide, by decide⟩
  have hend : leap.EndsMinute := fun _ => by decide
  have hendNext : next.EndsMinute := fun h => absurd h (by decide)
  have hbefore : leap.SecondBefore next := .inl (by decide)
  obtain ⟨-, -, hsecond, -⟩ := names_in_order "sfreport" "node1" .json hzone hleap hnext
  exact ⟨hzone, hleap, hnext, hend, hendNext, hbefore, (hsecond hend hendNext).1.mpr hbefore⟩

end AdapterReport
