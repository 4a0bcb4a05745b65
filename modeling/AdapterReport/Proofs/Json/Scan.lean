import AdapterReport.Json.Printer
import AdapterReport.Json.Token
import AdapterReport.Proofs.Text.Digits

/-!
# Scanning printed strings and numbers

A printed string is scanned up to its closing quote and no further, whatever its characters are
(`scanText_escaped`), and spells the text that was printed (`text_textScan`). A printed integer is
scanned up to what delimits it (`scanNumber_integer`), and an integer of 64 bits has its own value
(`value_numberScan`).
-/

namespace AdapterReport.Json

variable {c : Char} {rest : List Char}

/-! ## Strings -/

/-- The characters that have an escape of their own. -/
def shortEscapes : List Char :=
  ['\x22', '\\', '\x08', '\x09', '\n', '\x0c', '\x0d']

/-- What a reader finds of one printed character: a control character without an escape of its own
is given by its number. -/
def printedUnit (c : Char) : TextUnit :=
  if c ∉ shortEscapes ∧ c.toNat < 0x20 then .code c.toNat else .char c

/-- What a reader finds of a printed string. -/
def textScan (s : String) : TextScan :=
  ⟨s.toList.map printedUnit, none⟩

/-- The characters of a printed string between its quotes. -/
def escaped (s : List Char) : List Char :=
  s.flatMap fun c => (escapeChar c).toList

theorem toList_quote (s : String) :
    (quote s).toList = '\x22' :: (escaped s.toList ++ ['\x22']) := by
  have hjoin (cs : List Char) : (String.join (cs.map escapeChar)).toList = escaped cs := by
    induction cs with
    | nil => rfl
    | cons c cs ih => rw [List.map_cons, String.join_cons, String.toList_append, ih]; rfl
  simp [quote, hjoin]

/-- The four digits of a control character are read as its number. -/
theorem hexPadded_control {n : Nat} (h : n < 0x20) :
    ∃ a b c d, (Text.hexPadded 4 n).toList = [a, b, c, d] ∧ hexCode? a b c d = some n := by
  let digit (n i : Nat) : Char := (Text.hexPadded 4 n).toList.getD i ' '
  have hall : ∀ n : Fin 0x20,
      (Text.hexPadded 4 n).toList = [digit n 0, digit n 1, digit n 2, digit n 3] ∧
        hexCode? (digit n 0) (digit n 1) (digit n 2) (digit n 3) = some n.val := by decide
  exact ⟨_, _, _, _, hall ⟨n, h⟩⟩

theorem scanText_simple {e : Char} (he : simpleEscape? e = some c) (hu : e ≠ 'u') :
    scanText ('\\' :: e :: rest) = ((scanText rest).1.cons (.char c), (scanText rest).2) := by
  rw [scanText.eq_5 e rest (fun _ _ _ _ _ h _ => hu h) hu, he]

theorem scanText_code {a b c d : Char} {n : Nat} (h : hexCode? a b c d = some n) :
    scanText ('\\' :: 'u' :: a :: b :: c :: d :: rest) =
      ((scanText rest).1.cons (.code n), (scanText rest).2) := by
  rw [scanText.eq_2, h]

theorem scanText_plain (hslash : c ≠ '\\') (hquote : c ≠ '\x22') (hcontrol : ¬ c.toNat < 0x20) :
    scanText (c :: rest) = ((scanText rest).1.cons (.char c), (scanText rest).2) := by
  rw [scanText.eq_6 c rest (fun _ _ _ _ _ h _ => hslash h) (fun _ h _ => hslash h)
    (fun h _ => hslash h) (fun _ _ h _ => hslash h), if_neg hquote, if_neg hcontrol]

theorem escapeChar_short (h : c ∈ shortEscapes) :
    ∃ e, (escapeChar c).toList = ['\\', e] ∧ simpleEscape? e = some c ∧ e ≠ 'u' := by
  let letter (c : Char) : Char := (escapeChar c).toList.getD 1 ' '
  have hall : shortEscapes.all fun c => (escapeChar c).toList == ['\\', letter c] &&
      simpleEscape? (letter c) == some c && letter c != 'u' := by decide
  have hc := List.all_eq_true.mp hall c h
  simp only [Bool.and_eq_true, beq_iff_eq, bne_iff_ne] at hc
  exact ⟨letter c, hc.1.1, hc.1.2, hc.2⟩

theorem escapeChar_of_not_short (h : c ∉ shortEscapes) :
    escapeChar c =
      if c.toNat < 0x20 then "\\u" ++ Text.hexPadded 4 c.toNat else String.singleton c := by
  simp only [shortEscapes, List.mem_cons, List.not_mem_nil, or_false, not_or] at h
  simp [escapeChar, h]

/-- A printed character is scanned as one unit. -/
theorem scanText_escapeChar (c : Char) (rest : List Char) :
    scanText ((escapeChar c).toList ++ rest) =
      ((scanText rest).1.cons (printedUnit c), (scanText rest).2) := by
  by_cases hshort : c ∈ shortEscapes
  · obtain ⟨e, hchars, he, hu⟩ := escapeChar_short hshort
    have hunit : printedUnit c = .char c := if_neg (by simp [hshort])
    rw [hunit, hchars]
    exact scanText_simple he hu
  · rw [escapeChar_of_not_short hshort]
    by_cases hcontrol : c.toNat < 0x20
    · obtain ⟨a, b, c', d, hdigits, hcode⟩ := hexPadded_control hcontrol
      have hunit : printedUnit c = .code c.toNat := if_pos (by simp [hshort, hcontrol])
      rw [hunit, if_pos hcontrol, String.toList_append, hdigits]
      exact scanText_code hcode
    · have hunit : printedUnit c = .char c := if_neg (by simp [hcontrol])
      have hslash : c ≠ '\\' := fun h => hshort (h ▸ by decide)
      have hquote : c ≠ '\x22' := fun h => hshort (h ▸ by decide)
      rw [hunit, if_neg hcontrol, String.toList_singleton]
      exact scanText_plain hslash hquote hcontrol

/-- **A printed string** is scanned up to its closing quote, whatever its characters are. -/
theorem scanText_escaped (s : String) (rest : List Char) :
    scanText (escaped s.toList ++ '\x22' :: rest) = (textScan s, rest) := by
  have hchars (cs : List Char) :
      scanText (escaped cs ++ '\x22' :: rest) = (⟨cs.map printedUnit, none⟩, rest) := by
    induction cs with
    | nil => rfl
    | cons c cs ih =>
      rw [escaped, List.flatMap_cons, List.append_assoc, scanText_escapeChar, ← escaped, ih]
      rfl
  exact hchars s.toList

theorem joinUnits_printedUnit (c : Char) (units : List TextUnit) :
    joinUnits none (printedUnit c :: units) = (joinUnits none units).map (c :: ·) := by
  unfold printedUnit
  split
  · rename_i h
    have hlt := h.2
    have htrail : isTrailHalf c.toNat = false := by simp [isTrailHalf]; omega
    have hlead : isLeadHalf c.toNat = false := by simp [isLeadHalf]; omega
    rw [joinUnits.eq_def]
    simp only [htrail, hlead, Bool.false_eq_true, if_false, Char.ofNat_toNat]
  · rfl

/-- **A printed string** spells the text that was printed. -/
theorem text_textScan (s : String) : (textScan s).text = .ok s := by
  have hchars (cs : List Char) : joinUnits none (cs.map printedUnit) = .ok cs := by
    induction cs with
    | nil => rfl
    | cons c cs ih => rw [List.map_cons, joinUnits_printedUnit, ih]; rfl
  rw [TextScan.text, textScan, hchars, Except.map, String.ofList_toList]

/-! ## Numbers -/

/-- Nothing at the front of the text goes on with a number. -/
def Delimited (rest : List Char) : Prop :=
  ∀ c ∈ rest.head?, c.isDigit = false ∧ c ≠ '.' ∧ c ≠ 'e' ∧ c ≠ 'E'

/-- What a reader finds of a printed integer. -/
def numberScan (n : Int) : NumberScan :=
  ⟨integerValue (n < 0) (Nat.toDigits 10 n.natAbs), none⟩

theorem scanDigits_toDigits (negative : Bool) (n : Nat) (h : Delimited rest) :
    scanDigits negative (Nat.toDigits 10 n ++ rest) =
      (⟨integerValue negative (Nat.toDigits 10 n), none⟩, rest) := by
  have hdigits : ∀ c ∈ Nat.toDigits 10 n, c.isDigit = true := fun c hc =>
    Nat.isDigit_of_mem_toDigits (by decide) (by decide) hc
  have htake : rest.takeWhile Char.isDigit = [] ∧ rest.dropWhile Char.isDigit = rest := by
    cases rest with
    | nil => exact ⟨rfl, rfl⟩
    | cons c rest =>
      have hc := (h c rfl).1
      exact ⟨List.takeWhile_cons_of_neg (by simp [hc]), List.dropWhile_cons_of_neg (by simp [hc])⟩
  have hempty : (Nat.toDigits 10 n).isEmpty = false := by
    rw [List.isEmpty_eq_false_iff]
    exact Nat.toDigits_ne_nil
  have hzero : (decide ((Nat.toDigits 10 n).head? = some '0') &&
      decide (1 < (Nat.toDigits 10 n).length)) = false := by
    by_cases hhead : (Nat.toDigits 10 n).head? = some '0'
    · simp [Text.length_of_head?_zero n hhead]
    · simp [hhead]
  unfold scanDigits
  rw [List.takeWhile_append_of_pos hdigits, List.dropWhile_append_of_pos hdigits, htake.1,
    htake.2, List.append_nil]
  simp only [hempty, hzero, Bool.false_eq_true, if_false]
  unfold scanAfterDigits
  split
  · exact absurd rfl (h _ rfl).2.1
  · exact absurd rfl (h _ rfl).2.2.1
  · exact absurd rfl (h _ rfl).2.2.2
  · rfl

/-- **A printed integer** is scanned up to what delimits it. -/
theorem scanNumber_integer (n : Int) (h : Delimited rest) :
    scanNumber ((integer n).toList ++ rest) = (numberScan n, rest) := by
  cases n with
  | ofNat m =>
    have hhead : ∀ s, Nat.toDigits 10 m ++ rest ≠ '-' :: s := by
      intro s heq
      obtain ⟨d, ds, hd⟩ := List.exists_cons_of_ne_nil (Nat.toDigits_ne_nil (n := m) (b := 10))
      rw [hd] at heq
      have hdigit : d.isDigit = true :=
        Nat.isDigit_of_mem_toDigits (b := 10) (n := m) (by decide) (by decide) (by simp [hd])
      rw [(List.cons.inj heq).1] at hdigit
      cases hdigit
    have hscan : scanNumber (Nat.toDigits 10 m ++ rest) =
        scanDigits false (Nat.toDigits 10 m ++ rest) := by
      unfold scanNumber
      split
      · rename_i heq
        exact absurd heq (hhead _)
      · rfl
    rw [integer, String.toList_ofList, hscan, scanDigits_toDigits false m h]
    rfl
  | negSucc m =>
    have hchars : (integer (.negSucc m)).toList ++ rest =
        '-' :: (Nat.toDigits 10 (m + 1) ++ rest) := by
      simp [integer]
    have hneg : decide (Int.negSucc m < 0) = true := decide_eq_true (Int.negSucc_lt_zero m)
    rw [hchars, scanNumber, scanDigits_toDigits true (m + 1) h, numberScan, hneg]
    rfl

/-- The integer has 64 bits, with a sign below zero and without one above. -/
def FitsWord (n : Int) : Prop :=
  -(UInt64.size / 2 : Nat) ≤ n ∧ n < UInt64.size

theorem fitsWord_toInt (n : Int64) : FitsWord n.toInt := by
  have hlow := n.le_toInt
  have hhigh := n.toInt_lt
  have hsize : (UInt64.size : Int) = 2 ^ 64 ∧ ((UInt64.size / 2 : Nat) : Int) = 2 ^ 63 := by
    decide
  unfold FitsWord
  omega

theorem fitsWord_of_lt {n : Nat} (h : n < UInt64.size) : FitsWord n := by
  unfold FitsWord
  omega

/-- **A printed integer of 64 bits** has its own value. -/
theorem value_numberScan {n : Int} (h : FitsWord n) : (numberScan n).value = .ok (.int n) := by
  unfold FitsWord at h
  show integerValue (n < 0) (Nat.toDigits 10 n.natAbs) = _
  unfold integerValue
  rw [Text.natOfDigits_toDigits]
  have hsize : ¬ UInt64.size ≤ n.natAbs := by
    have : UInt64.size / 2 < UInt64.size := by decide
    omega
  rw [if_neg hsize]
  by_cases hneg : n < 0
  · have hsign : ¬ (!decide (n < 0)) = true := by rw [decide_eq_true hneg]; decide
    have hfits : ¬ (decide (n.natAbs = 0) || decide (UInt64.size / 2 < n.natAbs)) = true := by
      rw [Bool.or_eq_true, decide_eq_true_eq, decide_eq_true_eq]
      omega
    have habs : -(n.natAbs : Int) = n := by omega
    rw [if_neg hsign, if_neg hfits, habs]
  · have hsign : (!decide (n < 0)) = true := by rw [decide_eq_false hneg]; decide
    have habs : (n.natAbs : Int) = n := by omega
    rw [if_pos hsign, habs]

end AdapterReport.Json
