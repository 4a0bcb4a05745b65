import AdapterReport.Text.Utf8

/-!
# Text and its bytes

The bytes of a text are well formed and read back as that text (`decode?_encode`), so nothing is
lost between what an encoder gives and what a sink takes.

A character has one to four bytes. The first one tells how many follow and which second bytes would
be a longer form than needed, a surrogate or above U+10FFFF (`ofByte_three`, `ofByte_four`); the
others add six bits each.
-/

namespace AdapterReport.Text.Utf8

variable {read : List (Option Char)} {v low high : Nat}

/-! ## First bytes -/

theorem toNat_ofNat {n : Nat} (h : n < 256) : (UInt8.ofNat n).toNat = n :=
  UInt8.toNat_ofNat_of_lt' h

theorem ofByte_one (hv : v < 128) : Lead.ofByte (UInt8.ofNat v) = .single (Char.ofNat v) := by
  simp only [Lead.ofByte, toNat_ofNat (Nat.lt_trans hv (by decide)), hv, if_true]

theorem ofByte_two {a : Nat} (hlow : 2 ≤ a) (hhigh : a < 32) :
    Lead.ofByte (UInt8.ofNat (a + 192)) = .begins ⟨1, 0x80, 0xBF, a⟩ := by
  have hbyte : (UInt8.ofNat (a + 192)).toNat = a + 192 := toNat_ofNat (by omega)
  have hsmall : ¬ a + 192 < 0x80 ∧ ¬ a + 192 < 0xC2 ∧ a + 192 < 0xE0 := by omega
  simp only [Lead.ofByte, hbyte, hsmall, if_true, if_false, Nat.add_sub_cancel]

theorem ofByte_three : ∀ a : Nat, a < 16 →
    Lead.ofByte (UInt8.ofNat (a + 224)) =
      .begins ⟨2, if a = 0 then 0xA0 else 0x80, if a = 13 then 0x9F else 0xBF, a⟩
  | 0, _ | 1, _ | 2, _ | 3, _ | 4, _ | 5, _ | 6, _ | 7, _ | 8, _ | 9, _ | 10, _ | 11, _ | 12, _
  | 13, _ | 14, _ | 15, _ => rfl
  | _ + 16, h => absurd h (by omega)

theorem ofByte_four : ∀ a : Nat, a < 5 →
    Lead.ofByte (UInt8.ofNat (a + 240)) =
      .begins ⟨3, if a = 0 then 0x90 else 0x80, if a = 4 then 0x8F else 0xBF, a⟩
  | 0, _ | 1, _ | 2, _ | 3, _ | 4, _ => rfl
  | _ + 5, h => absurd h (by omega)

/-! ## Further bytes -/

/-- A byte that holds the six lowest bits of `v`. -/
def tailByte (v : Nat) : UInt8 :=
  UInt8.ofNat (v % 64 + 128)

theorem toNat_tailByte (v : Nat) : (tailByte v).toNat = v % 64 + 128 :=
  toNat_ofNat (by omega)

/-- A further byte adds its bits to those in front of it. -/
theorem bits_tailByte (v : Nat) : v / 64 * 64 + ((tailByte v).toNat - 0x80) = v := by
  rw [toNat_tailByte]
  omega

theorem tailByte_within (hlow : low ≤ v % 64 + 128) (hhigh : v % 64 + 128 ≤ high) :
    (low ≤ (tailByte v).toNat && (tailByte v).toNat ≤ high) = true := by
  rw [toNat_tailByte, decide_eq_true hlow, decide_eq_true hhigh]
  rfl

/-- With its last byte a character is complete. -/
theorem step_last (hlow : low ≤ v % 64 + 128) (hhigh : v % 64 + 128 ≤ high) :
    Progress.step ⟨some ⟨1, low, high, v / 64⟩, read⟩ (tailByte v) =
      ⟨none, some (Char.ofNat v) :: read⟩ := by
  have hstep : Progress.step ⟨some ⟨1, low, high, v / 64⟩, read⟩ (tailByte v) =
      ⟨none, some (Char.ofNat (v / 64 * 64 + ((tailByte v).toNat - 0x80))) :: read⟩ :=
    if_pos (tailByte_within hlow hhigh)
  rw [hstep, bits_tailByte]

theorem step_more {n : Nat} (hlow : low ≤ v % 64 + 128) (hhigh : v % 64 + 128 ≤ high) :
    Progress.step ⟨some ⟨n + 2, low, high, v / 64⟩, read⟩ (tailByte v) =
      ⟨some ⟨n + 1, 0x80, 0xBF, v⟩, read⟩ := by
  have hstep : Progress.step ⟨some ⟨n + 2, low, high, v / 64⟩, read⟩ (tailByte v) =
      ⟨some ⟨n + 1, 0x80, 0xBF, v / 64 * 64 + ((tailByte v).toNat - 0x80)⟩, read⟩ :=
    if_pos (tailByte_within hlow hhigh)
  rw [hstep, bits_tailByte]

/-! ## Characters and texts -/

/-- The number of a character is no surrogate. -/
theorem toNat_range (c : Char) : c.toNat < 0xD800 ∨ 0xDFFF < c.toNat ∧ c.toNat < 0x110000 :=
  c.valid

/-- The bytes of a character: the first one holds the bits above those of the others. -/
theorem encodeChar_eq (c : Char) :
    String.utf8EncodeChar c =
      if c.toNat ≤ 0x7F then [UInt8.ofNat c.toNat]
      else if c.toNat ≤ 0x7FF then [UInt8.ofNat (c.toNat / 64 + 192), tailByte c.toNat]
      else if c.toNat ≤ 0xFFFF then
        [UInt8.ofNat (c.toNat / 64 / 64 + 224), tailByte (c.toNat / 64), tailByte c.toNat]
      else [UInt8.ofNat (c.toNat / 64 / 64 / 64 + 240), tailByte (c.toNat / 64 / 64),
        tailByte (c.toNat / 64), tailByte c.toNat] := by
  have hrange := toNat_range c
  have hsix : c.toNat / 64 / 64 = c.toNat / 4096 := by omega
  have hsixteen : c.toNat / 4096 / 64 = c.toNat / 262144 := by omega
  have hval : c.val.toNat = c.toNat := rfl
  simp only [String.utf8EncodeChar, hval, tailByte, hsix, hsixteen]
  split
  · rfl
  · split
    · rw [Nat.mod_eq_of_lt (a := c.toNat / 64) (by omega)]
    · split
      · rw [Nat.mod_eq_of_lt (a := c.toNat / 4096) (by omega)]
      · rw [Nat.mod_eq_of_lt (a := c.toNat / 262144) (by omega)]

/-- **A character is read back from its bytes.** -/
theorem foldl_step_encodeChar (c : Char) (read : List (Option Char)) :
    (String.utf8EncodeChar c).foldl Progress.step ⟨none, read⟩ = ⟨none, some c :: read⟩ := by
  have hfirst (byte : UInt8) : Progress.step ⟨none, read⟩ byte = .start read byte := rfl
  have hrange := toNat_range c
  have hc : Char.ofNat c.toNat = c := Char.ofNat_toNat c
  rw [encodeChar_eq]
  generalize c.toNat = v at hrange hc
  split
  · rw [List.foldl_cons, hfirst, Progress.start, ofByte_one (by omega), hc]
    rfl
  · split
    · rw [List.foldl_cons, hfirst, Progress.start, ofByte_two (by omega) (by omega)]
      show Progress.step ⟨some ⟨1, 0x80, 0xBF, v / 64⟩, read⟩ (tailByte v) = _
      rw [step_last (by omega) (by omega), hc]
    · split
      · rw [List.foldl_cons, hfirst, Progress.start, ofByte_three _ (by omega)]
        show Progress.step (Progress.step ⟨some ⟨2, _, _, v / 64 / 64⟩, read⟩ _) (tailByte v) = _
        rw [step_more (n := 0) (by split <;> omega) (by split <;> omega),
          step_last (by omega) (by omega), hc]
      · rw [List.foldl_cons, hfirst, Progress.start, ofByte_four _ (by omega)]
        show Progress.step (Progress.step (Progress.step
          ⟨some ⟨3, _, _, v / 64 / 64 / 64⟩, read⟩ _) _) (tailByte v) = _
        rw [step_more (n := 1) (by split <;> omega) (by split <;> omega),
          step_more (n := 0) (by omega) (by omega), step_last (by omega) (by omega), hc]

theorem parts_encode (s : String) : parts (encode s) = s.toList.map some := by
  have hchars (cs : List Char) (read : List (Option Char)) :
      (cs.flatMap String.utf8EncodeChar).foldl Progress.step ⟨none, read⟩ =
        ⟨none, (cs.map some).reverse ++ read⟩ := by
    induction cs generalizing read with
    | nil => rfl
    | cons c cs ih =>
      rw [List.flatMap_cons, List.foldl_append, foldl_step_encodeChar, ih]
      simp
  rw [parts, encode, hchars, Progress.finish]
  simp

/-- **The bytes of a text read back as that text.** -/
theorem decode?_encode (s : String) : decode? (encode s) = some s := by
  have hall (cs : List Char) : (cs.map some).mapM id = some cs := by
    induction cs with
    | nil => rfl
    | cons c cs ih => rw [List.map_cons, List.mapM_cons, ih]; rfl
  rw [decode?, parts_encode, hall, Option.map_some, String.ofList_toList]

end AdapterReport.Text.Utf8
