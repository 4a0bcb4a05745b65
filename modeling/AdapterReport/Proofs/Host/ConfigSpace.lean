import AdapterReport.Host.ConfigSpace

/-!
# Reading a configuration space

A read gives exactly the bytes that it asks for, or nothing, and a field is the number of its bytes.

* `checkedAdd_eq`: two words have a sum unless it is too large for a word.
* `read_eq`: a read is a part of the buffer, if that part ends in the buffer.
* `field_eq`: a field is the number of its bytes, each taken from its own place.
* `reads_exact`: reads and fields at all offsets, those next to the largest word included.
-/

namespace AdapterReport

/-! ## Sums of words -/

variable {a b : UInt64}

theorem toNat_add_of_lt (h : a.toNat + b.toNat < UInt64.size) :
    (a + b).toNat = a.toNat + b.toNat := by
  rw [UInt64.toNat_add]
  exact Nat.mod_eq_of_lt h

/-- A sum is less than its first part exactly if it is too large for a word. -/
theorem add_lt_iff : a + b < a ↔ UInt64.size ≤ a.toNat + b.toNat := by
  have ha := a.toNat_lt
  have hb := b.toNat_lt
  have hsize : UInt64.size = 18446744073709551616 := rfl
  rw [UInt64.lt_iff_toNat_lt, UInt64.toNat_add]
  omega

/-- **The checked sum** of two words is their sum, or nothing if no word has that number. -/
theorem checkedAdd_eq (a b : UInt64) :
    checkedAdd a b = if a.toNat + b.toNat < UInt64.size then some (a + b) else none := by
  unfold checkedAdd
  by_cases h : a.toNat + b.toNat < UInt64.size
  · rw [if_pos h, if_neg (mt add_lt_iff.mp (by omega))]
  · rw [if_neg h, if_pos (add_lt_iff.mpr (by omega))]

namespace ConfigSpace

/-! ## Places of a buffer -/

/-- The byte at a place, zero where there is none. -/
def byteAt (c : ConfigSpace) (place : Nat) : Nat :=
  (c.bytes.getD place 0).toNat

theorem byteAt_lt (c : ConfigSpace) (place : Nat) : c.byteAt place < 256 :=
  (c.bytes.getD place 0).toNat_lt

/-- A part of a buffer, each byte taken from its own place. -/
theorem take_drop_eq_map {bytes : List UInt8} {start count : Nat}
    (h : start + count ≤ bytes.length) :
    (bytes.drop start).take count = (List.range count).map fun i => bytes.getD (start + i) 0 := by
  apply List.ext_getElem?
  intro i
  by_cases hi : i < count
  · have hplace : start + i < bytes.length := by omega
    simp [List.getElem?_take_of_lt hi, hi, hplace]
  · rw [List.getElem?_take, if_neg hi]
    simp [hi]

variable {c : ConfigSpace}

theorem tryRead_eq_ok_iff {offset length : UInt64} {bytes : List UInt8} :
    c.tryRead offset length = .ok bytes ↔ c.read offset length = some bytes := by
  unfold tryRead
  cases c.read offset length with
  | none => simp
  | some found => simp

/-! ## Ends that are words -/

/-- A read whose end is a word is a part of the buffer, if that part ends in the buffer. -/
theorem read_eq_of_word {offset length : UInt64}
    (hword : offset.toNat + length.toNat < UInt64.size) :
    c.read offset length =
      if offset.toNat + length.toNat ≤ c.bytes.length then
        some ((c.bytes.drop offset.toNat).take length.toNat)
      else none := by
  have hstop := toNat_add_of_lt hword
  have hstart : offset ≤ offset + length := by
    rw [UInt64.le_iff_toNat_le, hstop]
    omega
  rw [read, checkedAdd_eq, if_pos hword]
  show c.slice offset (offset + length) = _
  rw [slice, hstop]
  by_cases hin : offset.toNat + length.toNat ≤ c.bytes.length
  · rw [if_pos ⟨hstart, hin⟩, if_pos hin, List.drop_take, Nat.add_sub_cancel_left]
  · rw [if_neg fun h => hin h.2, if_neg hin]

/-- A field is the number of its bytes, each taken from its own place, if a read gives them. -/
theorem field_of_read {offset length : UInt64}
    (hread : c.read offset length =
      if offset.toNat + length.toNat ≤ c.bytes.length then
        some ((c.bytes.drop offset.toNat).take length.toNat)
      else none) :
    c.field offset length =
      if offset.toNat + length.toNat ≤ c.bytes.length then
        littleEndian ((List.range length.toNat).map fun i => c.bytes.getD (offset.toNat + i) 0)
      else 0 := by
  rw [field, hread]
  split
  · rename_i hin
    rw [take_drop_eq_map hin]
    rfl
  · rfl

/-- A field of one byte is the number of this byte. -/
theorem u8_of_field {offset : UInt64}
    (hfield : c.field offset 1 =
      if offset.toNat + 1 ≤ c.bytes.length then c.byteAt offset.toNat else 0) :
    (c.u8 offset).toNat =
      if offset.toNat + 1 ≤ c.bytes.length then c.byteAt offset.toNat else 0 := by
  have h₀ := c.byteAt_lt offset.toNat
  have hlt : c.field offset 1 < UInt8.size := by
    rw [hfield]
    split <;> exact Nat.lt_of_le_of_lt (by omega) h₀
  rw [u8, UInt8.toNat_ofNat_of_lt' hlt, hfield]

/-- A field of two bytes is the number of these bytes. -/
theorem u16_of_field {offset : UInt64}
    (hfield : c.field offset 2 =
      if offset.toNat + 2 ≤ c.bytes.length then
        c.byteAt offset.toNat + 256 * c.byteAt (offset.toNat + 1)
      else 0) :
    (c.u16 offset).toNat =
      if offset.toNat + 2 ≤ c.bytes.length then
        c.byteAt offset.toNat + 256 * c.byteAt (offset.toNat + 1)
      else 0 := by
  have h₀ := c.byteAt_lt offset.toNat
  have h₁ := c.byteAt_lt (offset.toNat + 1)
  have hlt : c.field offset 2 < UInt16.size := by
    rw [hfield]
    show _ < 65536
    split <;> omega
  rw [u16, UInt16.toNat_ofNat_of_lt' hlt, hfield]

-- the places of every buffer can be counted by a word
variable (hsize : c.bytes.length < UInt64.size)
include hsize

/-! ## Reads -/

/-- **A read** is the part of the buffer that was asked for, if this ends in the buffer. -/
theorem read_eq (offset length : UInt64) :
    c.read offset length =
      if offset.toNat + length.toNat ≤ c.bytes.length then
        some ((c.bytes.drop offset.toNat).take length.toNat)
      else none := by
  by_cases hword : offset.toNat + length.toNat < UInt64.size
  · exact read_eq_of_word hword
  · -- no buffer reaches that far
    rw [read, checkedAdd_eq, if_neg hword, if_neg (by omega)]
    rfl

theorem read_isSome_iff (offset length : UInt64) :
    (c.read offset length).isSome ↔ offset.toNat + length.toNat ≤ c.bytes.length := by
  rw [read_eq hsize]
  split <;> simp_all

/-- The bytes of a read stand in the buffer from the offset on. -/
theorem read_bytes {offset length : UInt64} {bytes : List UInt8}
    (h : c.read offset length = some bytes) :
    bytes.length = length.toNat ∧
      ∀ i < length.toNat, bytes[i]? = c.bytes[offset.toNat + i]? := by
  rw [read_eq hsize] at h
  obtain ⟨hin, hbytes⟩ := Option.ite_none_right_eq_some.mp h
  cases hbytes
  refine ⟨?_, fun i hi => ?_⟩
  · rw [List.length_take, List.length_drop]
    omega
  · rw [List.getElem?_take_of_lt hi, List.getElem?_drop]

theorem tryRead_of_short {offset length : UInt64}
    (h : ¬ offset.toNat + length.toNat ≤ c.bytes.length) :
    c.tryRead offset length =
      .error (.shortBuffer offset.toNat length.toNat c.bytes.length) := by
  rw [tryRead, read_eq hsize, if_neg h]

/-! ## Fields -/

/-- **A field** is the number of its bytes, and zero if one of them is missing. -/
theorem field_eq (offset length : UInt64) :
    c.field offset length =
      if offset.toNat + length.toNat ≤ c.bytes.length then
        littleEndian ((List.range length.toNat).map fun i => c.bytes.getD (offset.toNat + i) 0)
      else 0 :=
  field_of_read (read_eq hsize offset length)

/-- A field of one byte. -/
theorem u8_eq (offset : UInt64) :
    (c.u8 offset).toNat =
      if offset.toNat + 1 ≤ c.bytes.length then c.byteAt offset.toNat else 0 :=
  u8_of_field (field_eq hsize offset 1)

/-- A field of two bytes. -/
theorem u16_eq (offset : UInt64) :
    (c.u16 offset).toNat =
      if offset.toNat + 2 ≤ c.bytes.length then
        c.byteAt offset.toNat + 256 * c.byteAt (offset.toNat + 1)
      else 0 :=
  u16_of_field (field_eq hsize offset 2)

/-- A field of four bytes. -/
theorem u32_eq (offset : UInt64) :
    (c.u32 offset).toNat =
      if offset.toNat + 4 ≤ c.bytes.length then
        c.byteAt offset.toNat + 256 * c.byteAt (offset.toNat + 1) +
          65536 * c.byteAt (offset.toNat + 2) + 16777216 * c.byteAt (offset.toNat + 3)
      else 0 := by
  have hfield : c.field offset 4 =
      if offset.toNat + 4 ≤ c.bytes.length then
        c.byteAt offset.toNat + 256 * (c.byteAt (offset.toNat + 1) +
          256 * (c.byteAt (offset.toNat + 2) + 256 * c.byteAt (offset.toNat + 3)))
      else 0 := field_eq hsize offset 4
  have h₀ := c.byteAt_lt offset.toNat
  have h₁ := c.byteAt_lt (offset.toNat + 1)
  have h₂ := c.byteAt_lt (offset.toNat + 2)
  have h₃ := c.byteAt_lt (offset.toNat + 3)
  have hlt : c.field offset 4 < UInt32.size := by
    rw [hfield]
    show _ < 4294967296
    split <;> omega
  rw [u32, UInt32.toNat_ofNat_of_lt' hlt, hfield]
  split <;> omega

/-- A field of four bytes is two fields of two. -/
theorem u32_eq_u16 {offset : UInt64} (h : offset.toNat + 4 ≤ c.bytes.length) :
    (c.u32 offset).toNat = (c.u16 offset).toNat + 65536 * (c.u16 (offset + 2)).toNat := by
  have hnext : (offset + 2).toNat = offset.toNat + 2 :=
    toNat_add_of_lt (Nat.lt_of_le_of_lt (by show _ + 2 ≤ _; omega) hsize)
  have hlast : offset.toNat + 2 + 1 = offset.toNat + 3 := rfl
  rw [u32_eq hsize, u16_eq hsize, u16_eq hsize, hnext, hlast, if_pos h, if_pos (by omega),
    if_pos (by omega)]
  omega

end ConfigSpace

/-! ## All offsets -/

/-- **Reads are exact.** In a buffer whose places a word can count, a read gives something exactly
if it ends in the buffer, and then the bytes that stand there; `tryRead` says what was missing
otherwise. A field is the number of its bytes, and zero if one of them is missing. -/
theorem ConfigSpace.reads_exact (c : ConfigSpace) (hsize : c.bytes.length < UInt64.size)
    (offset length : UInt64) :
    ((c.read offset length).isSome ↔ offset.toNat + length.toNat ≤ c.bytes.length) ∧
    (∀ bytes, c.read offset length = some bytes → bytes.length = length.toNat ∧
      ∀ i < length.toNat, bytes[i]? = c.bytes[offset.toNat + i]?) ∧
    (∀ bytes, c.tryRead offset length = .ok bytes ↔ c.read offset length = some bytes) ∧
    (¬ offset.toNat + length.toNat ≤ c.bytes.length → c.tryRead offset length =
      .error (.shortBuffer offset.toNat length.toNat c.bytes.length)) ∧
    (c.u8 offset).toNat =
      (if offset.toNat + 1 ≤ c.bytes.length then c.byteAt offset.toNat else 0) ∧
    (c.u16 offset).toNat =
      (if offset.toNat + 2 ≤ c.bytes.length then
        c.byteAt offset.toNat + 256 * c.byteAt (offset.toNat + 1)
      else 0) ∧
    (c.u32 offset).toNat =
      (if offset.toNat + 4 ≤ c.bytes.length then
        c.byteAt offset.toNat + 256 * c.byteAt (offset.toNat + 1) +
          65536 * c.byteAt (offset.toNat + 2) + 16777216 * c.byteAt (offset.toNat + 3)
      else 0) ∧
    (offset.toNat + 4 ≤ c.bytes.length →
      (c.u32 offset).toNat = (c.u16 offset).toNat + 65536 * (c.u16 (offset + 2)).toNat) :=
  ⟨read_isSome_iff hsize offset length, fun _ => read_bytes hsize, fun _ => tryRead_eq_ok_iff,
    tryRead_of_short hsize, u8_eq hsize offset, u16_eq hsize offset, u32_eq hsize offset,
    u32_eq_u16 hsize⟩

/-- A read from the last place that a word can name finds nothing, and neither does a field. -/
theorem ConfigSpace.reads_exact_last :
    let c : ConfigSpace := ⟨[0x24, 0x19, 0x03]⟩
    let last : UInt64 := 0xFFFFFFFFFFFFFFFF
    c.bytes.length < UInt64.size ∧ c.read last 2 = none ∧
      c.tryRead last 2 = .error (.shortBuffer 18446744073709551615 2 3) ∧
      (c.u16 last).toNat = 0 := by
  intro c last
  have hsize : c.bytes.length < UInt64.size := by decide
  obtain ⟨hread, -, -, herror, -, hfield, -⟩ := reads_exact c hsize last 2
  have hshort : ¬ last.toNat + (2 : UInt64).toNat ≤ c.bytes.length := by decide
  refine ⟨hsize, ?_, herror hshort, hfield⟩
  exact Option.not_isSome_iff_eq_none.mp (mt hread.mp hshort)

end AdapterReport
