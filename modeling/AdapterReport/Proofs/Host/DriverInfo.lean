import AdapterReport.Host.ToolText
import AdapterReport.Proofs.Text.Blank
import AdapterReport.Proofs.Text.Lines

/-!
# What a driver says of itself

`DriverInfo.last_value_wins`: each fact is the value in the last line that gives one for its key.

* `Gives`: the lines that give a fact. One more line replaces the facts that it gives and no others
  (`get_addLine`), so a text is read as its last such lines (`get_ofText`).
* `ofText_eq_pieces`: carriage returns at the ends of lines do not matter. From this come the laws
  for two texts one after the other and for other line endings.
-/

namespace AdapterReport.DriverInfo

open Text

/-! ## Facts and their lines -/

/-- The facts that a driver gives. -/
inductive Key where
  | driver
  | version
  | firmwareVersion
  | busInfo
  deriving DecidableEq

/-- What stands before the colon in a line of this fact. -/
def Key.word : Key → String
  | .driver => "driver"
  | .version => "version"
  | .firmwareVersion => "firmware-version"
  | .busInfo => "bus-info"

/-- The fact with this key. -/
def get (info : DriverInfo) : Key → Option String
  | .driver => info.driver
  | .version => info.version
  | .firmwareVersion => info.firmwareVersion
  | .busInfo => info.busInfo

/-- The line has the key before its first colon, and behind it this value, which is not blank. -/
def Gives (key : Key) (line value : String) : Prop :=
  ∃ front behind, line = front ++ ":" ++ behind ∧ ':' ∉ front.toList ∧ trim front = key.word ∧
    ¬ AllBlank behind.toList ∧ trim behind = value

/-- What the line gives for a key. -/
def given (key : Key) (line : String) : Option String :=
  match splitAtFirst ':' line.toList with
  | none => none
  | some (front, behind) =>
    let value := trim (String.ofList behind)
    if trim (String.ofList front) = key.word ∧ value ≠ "" then some value else none

theorem given_eq_some_iff (key : Key) (line value : String) :
    given key line = some value ↔ Gives key line value := by
  constructor
  · intro h
    unfold given at h
    rcases hsplit : splitAtFirst ':' line.toList with _ | ⟨front, behind⟩
    · rw [hsplit] at h
      cases h
    · rw [hsplit] at h
      obtain ⟨hline, hfront⟩ := splitAtFirst_eq_some_iff.mp hsplit
      obtain ⟨⟨hkey, hne⟩, hvalue⟩ := Option.ite_none_right_eq_some.mp h
      refine ⟨String.ofList front, String.ofList behind, ?_, ?_, hkey, ?_, Option.some.inj hvalue⟩
      · rw [← String.toList_inj, hline]
        simp
      · rwa [String.toList_ofList]
      · rwa [ne_eq, trim_eq_empty_iff] at hne
  · rintro ⟨front, behind, rfl, hfront, hkey, hblank, rfl⟩
    have hchars : (front ++ ":" ++ behind).toList = front.toList ++ ':' :: behind.toList := by simp
    have hne : trim behind ≠ "" := fun he => hblank ((trim_eq_empty_iff behind).mp he)
    unfold given
    rw [hchars, splitAtFirst_piece hfront]
    simp only [String.ofList_toList]
    exact if_pos ⟨hkey, hne⟩

/-- A line replaces the facts that it gives, and no others. -/
theorem get_addLine (key : Key) (info : DriverInfo) (line : String) :
    (info.addLine line).get key = (given key line).or (info.get key) := by
  unfold addLine given
  rcases splitAtFirst ':' line.toList with _ | ⟨front, behind⟩
  · rfl
  dsimp only
  by_cases hblank : trim (String.ofList behind) = ""
  · simp [hblank]
  have hempty : (trim (String.ofList behind)).isEmpty = false := by
    rwa [String.isEmpty_eq_false_iff]
  rw [hempty, if_neg Bool.false_ne_true]
  -- the words of the four keys differ, so one of the five cases of the line fits each key
  split <;> cases key <;> simp_all [Key.word, get]

theorem get_blank (key : Key) : blank.get key = none := by
  cases key <;> rfl

/-! ## Texts -/

theorem get_ofText (key : Key) (text : String) :
    (ofText text).get key = lastGiven (given key) (lines text) := by
  have h := get_foldl (fun info => info.get key) (get_addLine key) (lines text) blank
  rwa [get_blank, Option.or_none] at h

theorem addLine_return (info : DriverInfo) (line : List Char) :
    info.addLine (String.ofList (line ++ ['\r'])) = info.addLine (String.ofList line) := by
  unfold addLine
  rw [String.toList_ofList, String.toList_ofList]
  by_cases hcolon : ':' ∈ line
  · obtain ⟨front, behind, rfl, hfront⟩ := List.eq_append_cons_of_mem hcolon
    have hvalue : trim (String.ofList (behind ++ ['\r'])) = trim (String.ofList behind) := by
      rw [trim_ofList, trim_ofList, trimmed_append_return]
    rw [List.append_assoc, List.cons_append, splitAtFirst_piece hfront, splitAtFirst_piece hfront]
    simp only [hvalue]
  · have hcolon' : ':' ∉ line ++ ['\r'] := by simpa using hcolon
    rw [splitAtFirst_of_not_mem hcolon, splitAtFirst_of_not_mem hcolon']

theorem ofText_eq_pieces (text : String) :
    ofText text = ((splitOn '\n' text.toList).map String.ofList).foldl addLine blank :=
  foldl_lines addLine_return (fun _ => rfl) text.toList blank

theorem get_append (key : Key) (a b : String) :
    (ofText (a ++ "\n" ++ b)).get key = ((ofText b).get key).or ((ofText a).get key) := by
  have hchars : (a ++ "\n" ++ b).toList = a.toList ++ '\n' :: b.toList := by simp
  have hrun (lines : List String) (info : DriverInfo) :
      (lines.foldl addLine info).get key = (lastGiven (given key) lines).or (info.get key) :=
    get_foldl (fun info => info.get key) (get_addLine key) lines info
  rw [ofText_eq_pieces, ofText_eq_pieces, ofText_eq_pieces, hchars, splitOn_append, List.map_append,
    List.foldl_append, hrun, hrun _ blank, hrun _ blank, get_blank, Option.or_none, Option.or_none]

theorem ofText_withReturns (text : String) :
    ofText (String.ofList (withReturns text.toList)) = ofText text := by
  rw [ofText_eq_pieces, ofText_eq_pieces, String.toList_ofList, foldl_withReturns addLine_return]

/-! ## Values -/

/-- The text is there, is in one line, and has no blank at its ends. -/
structure Tidy (value : String) : Prop where
  ne_empty : value ≠ ""
  oneLine : '\n' ∉ value.toList
  begins : ∀ c, value.toList.head? = some c → isBlank c = false
  ends : ∀ c, value.toList.getLast? = some c → isBlank c = false

section
variable {key : Key} {line value : String}

theorem Gives.tidy (h : Gives key line value) (hline : '\n' ∉ line.toList) : Tidy value := by
  obtain ⟨front, behind, rfl, -, -, hblank, rfl⟩ := h
  refine ⟨fun he => hblank ((trim_eq_empty_iff behind).mp he), ?_, ?_, ?_⟩
  · rw [toList_trim]
    intro hmem
    rw [String.toList_append] at hline
    exact hline (List.mem_append_right _ (mem_of_mem_trimmed hmem))
  · rw [toList_trim]
    exact fun c => not_isBlank_head
  · rw [toList_trim]
    exact fun c => not_isBlank_last

/-- Only the first colon is not a part of the value. -/
theorem Gives.count_colon (h : Gives key line value) :
    line.toList.count ':' = value.toList.count ':' + 1 := by
  obtain ⟨front, behind, rfl, hfront, -, -, rfl⟩ := h
  have hcolon : isBlank ':' = false := by decide
  rw [toList_trim, count_trimmed hcolon]
  simp [List.count_eq_zero.mpr hfront, Nat.add_comm]

end

/-- **The last value wins.** Each fact is the value in the last line that gives one for its key, and
is missing if no line does. A value is whole, with its own colons. Of two texts one after the other
the second one's facts count, and the first one's where it has none; lines that give nothing change
nothing. Line endings with carriage returns make no difference. -/
theorem last_value_wins (text : String) :
    (∀ key value, (ofText text).get key = some value ↔ LastOf (Gives key) (lines text) value) ∧
    (∀ key, (ofText text).get key = none ↔
      ∀ line ∈ lines text, ∀ value, ¬ Gives key line value) ∧
    (∀ key value, (ofText text).get key = some value → Tidy value ∧
      ∃ line ∈ lines text, Gives key line value ∧
        line.toList.count ':' = value.toList.count ':' + 1) ∧
    (∀ later key, (ofText (text ++ "\n" ++ later)).get key =
      ((ofText later).get key).or ((ofText text).get key)) ∧
    (∀ later key, (∀ line ∈ lines later, ∀ value, ¬ Gives key line value) →
      (ofText (text ++ "\n" ++ later)).get key = (ofText text).get key) ∧
    ofText (String.ofList (withReturns text.toList)) = ofText text := by
  have hsome (key : Key) (value : String) :
      (ofText text).get key = some value ↔ LastOf (Gives key) (lines text) value := by
    rw [get_ofText]
    exact lastGiven_eq_some_iff (given_eq_some_iff key)
  have hnone (text : String) (key : Key) : (ofText text).get key = none ↔
      ∀ line ∈ lines text, ∀ value, ¬ Gives key line value := by
    rw [get_ofText]
    exact lastGiven_eq_none_iff (given_eq_some_iff key)
  refine ⟨hsome, hnone text, fun key value h => ?_, fun later key => get_append key text later,
    fun later key h => ?_, ofText_withReturns text⟩
  · obtain ⟨earlier, line, rest, hlines, hgives, -⟩ := (hsome key value).mp h
    have hline : line ∈ lines text := by simp [hlines]
    exact ⟨hgives.tidy (not_mem_of_mem_lines hline), line, hline, hgives, hgives.count_colon⟩
  · rw [get_append, (hnone later key).mpr h, Option.none_or]

end AdapterReport.DriverInfo
