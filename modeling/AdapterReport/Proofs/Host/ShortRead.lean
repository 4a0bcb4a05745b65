import AdapterReport.Proofs.Host.ConfigSpace

/-!
# Short reads of a configuration space

A user without rights reads only the beginning of a configuration space, and a read may end
anywhere. What a function is taken for then is never wrong, only less:

* `ConfigSpace.field_of_short`: a field of a beginning is the field of the whole, or zero if it
  does not end in the beginning. A field that is cut in two is zero as well, so no number is made
  of a part of another one.
* `Device.Within`: what a device shows of another one, with zero for each number that is missing.
* `PciFunction.short_read`: from how many bytes on which parts of a function are the ones of the
  whole.
-/

namespace AdapterReport

/-! ## Fields of a beginning -/

namespace ConfigSpace

variable {short full : ConfigSpace} {offset length : UInt64}

theorem field_of_short (h : short.bytes <+: full.bytes)
    (hword : offset.toNat + length.toNat < UInt64.size) :
    short.field offset length =
      if offset.toNat + length.toNat ≤ short.bytes.length then full.field offset length else 0 := by
  rw [field, read_eq_of_word hword]
  split
  · rename_i hin
    have hfull : offset.toNat + length.toNat ≤ full.bytes.length := Nat.le_trans hin h.length_le
    obtain ⟨rest, hrest⟩ := h
    rw [field, read_eq_of_word hword, if_pos hfull, ← hrest,
      List.drop_append_of_le_length (by omega),
      List.take_append_of_le_length (by rw [List.length_drop]; omega)]
  · rfl

variable (h : short.bytes <+: full.bytes)
include h

theorem u8_of_short (hword : offset.toNat + 1 < UInt64.size) :
    short.u8 offset = if offset.toNat + 1 ≤ short.bytes.length then full.u8 offset else 0 := by
  rw [u8, field_of_short h hword]
  show UInt8.ofNat (if offset.toNat + 1 ≤ short.bytes.length then _ else 0) = _
  split <;> rfl

theorem u16_of_short (hword : offset.toNat + 2 < UInt64.size) :
    short.u16 offset = if offset.toNat + 2 ≤ short.bytes.length then full.u16 offset else 0 := by
  rw [u16, field_of_short h hword]
  show UInt16.ofNat (if offset.toNat + 2 ≤ short.bytes.length then _ else 0) = _
  split <;> rfl

/-- A number of two bytes is never put together from a part of its bytes. -/
theorem u16_same_or_zero (hword : offset.toNat + 2 < UInt64.size) :
    short.u16 offset = full.u16 offset ∨ short.u16 offset = 0 := by
  rw [u16_of_short h hword]
  split
  · exact .inl rfl
  · exact .inr rfl

theorem u8_same_or_zero (hword : offset.toNat + 1 < UInt64.size) :
    short.u8 offset = full.u8 offset ∨ short.u8 offset = 0 := by
  rw [u8_of_short h hword]
  split
  · exact .inl rfl
  · exact .inr rfl

theorem u16_same (hword : offset.toNat + 2 < UInt64.size)
    (hin : offset.toNat + 2 ≤ short.bytes.length) : short.u16 offset = full.u16 offset := by
  rw [u16_of_short h hword, if_pos hin]

theorem u8_same (hword : offset.toNat + 1 < UInt64.size)
    (hin : offset.toNat + 1 ≤ short.bytes.length) : short.u8 offset = full.u8 offset := by
  rw [u8_of_short h hword, if_pos hin]

end ConfigSpace

/-! ## What a function is taken for -/

/-- Each number of `d` is the one of `e` or zero, and both have the same address. -/
structure Device.Within (d e : Device) : Prop where
  address : d.address = e.address
  vendorId : d.vendorId = e.vendorId ∨ d.vendorId = 0
  deviceId : d.deviceId = e.deviceId ∨ d.deviceId = 0
  revision : d.revision = e.revision ∨ d.revision = 0
  subsystemVendorId : d.subsystemVendorId = e.subsystemVendorId ∨ d.subsystemVendorId = 0
  subsystemId : d.subsystemId = e.subsystemId ∨ d.subsystemId = 0

namespace PciFunction

open ConfigSpace (u8_same u8_same_or_zero u16_same u16_same_or_zero)

theorem isSolarflare_iff {f : PciFunction} :
    f.isSolarflare = true ↔
      f.config.vendorId = solarflareVendor ∨
        f.config.vendorId = xilinxVendor ∧ f.config.deviceClass = ethernetClass := by
  simp only [isSolarflare, Bool.or_eq_true, Bool.and_eq_true, beq_iff_eq]

variable {short full : PciFunction}

theorem isSolarflare_congr (hvendor : short.config.vendorId = full.config.vendorId)
    (hclass : short.config.deviceClass = full.config.deviceClass) :
    short.isSolarflare = full.isSolarflare := by
  rw [isSolarflare, isSolarflare, hvendor, hclass]

variable (h : short.config.bytes <+: full.config.bytes)
include h

theorem vendorId_of_ne_zero (hne : short.config.vendorId ≠ 0) :
    short.config.vendorId = full.config.vendorId :=
  (u16_same_or_zero h (by decide)).resolve_right hne

theorem deviceClass_of_ne_zero (hne : short.config.deviceClass ≠ 0) :
    short.config.deviceClass = full.config.deviceClass :=
  (u16_same_or_zero h (by decide)).resolve_right hne

/-- What is selected by a beginning is selected by the whole: neither vendor is zero, and the class
is not zero either. -/
theorem isSolarflare_of_short (hs : short.isSolarflare = true) : full.isSolarflare = true := by
  rw [isSolarflare_iff] at hs ⊢
  rcases hs with hvendor | ⟨hvendor, hclass⟩
  · have hsame := vendorId_of_ne_zero h (by rw [hvendor]; decide)
    exact .inl (hsame ▸ hvendor)
  · have hsame := vendorId_of_ne_zero h (by rw [hvendor]; decide)
    have hsame' := deviceClass_of_ne_zero h (by rw [hclass]; decide)
    exact .inr ⟨hsame ▸ hvendor, hsame' ▸ hclass⟩

theorem device_within (haddress : short.address = full.address) :
    short.device.Within full.device where
  address := haddress
  vendorId := u16_same_or_zero h (by decide)
  deviceId := u16_same_or_zero h (by decide)
  revision := u8_same_or_zero h (by decide)
  subsystemVendorId := u16_same_or_zero h (by decide)
  subsystemId := u16_same_or_zero h (by decide)

/-- The last number of a device ends at the 48th byte. -/
theorem device_of_short (haddress : short.address = full.address)
    (hlength : 48 ≤ short.config.bytes.length) : short.device = full.device := by
  have hin {n : Nat} (hn : n ≤ 48) : n ≤ short.config.bytes.length := Nat.le_trans hn hlength
  rw [device, device, Device.mk.injEq]
  exact ⟨haddress, u16_same h (by decide) (hin (by decide)),
    u16_same h (by decide) (hin (by decide)), u8_same h (by decide) (hin (by decide)),
    u16_same h (by decide) (hin (by decide)), u16_same h (by decide) (hin (by decide))⟩

end PciFunction

/-- **A short read never makes a function look like another one.** Each of its numbers is the right
one or zero, and a function is selected only if it would be with all of its bytes. The selection is
the same from the end of the class on, for Solarflare's own functions from the end of the vendor on,
and 48 bytes show the whole device. -/
theorem PciFunction.short_read (address : String) {part whole : List UInt8} (h : part <+: whole) :
    let short : PciFunction := ⟨address, ⟨part⟩⟩
    let full : PciFunction := ⟨address, ⟨whole⟩⟩
    short.device.Within full.device ∧
    (short.config.deviceClass = full.config.deviceClass ∨ short.config.deviceClass = 0) ∧
    (short.isSolarflare = true → full.isSolarflare = true) ∧
    (12 ≤ part.length → short.isSolarflare = full.isSolarflare) ∧
    (2 ≤ part.length → full.config.vendorId = 0x1924 →
      short.isSolarflare = full.isSolarflare) ∧
    (48 ≤ part.length → short.device = full.device) := by
  intro short full
  have h : short.config.bytes <+: full.config.bytes := h
  have hvendor (hlength : 2 ≤ part.length) : short.config.vendorId = full.config.vendorId :=
    ConfigSpace.u16_same h (by decide) hlength
  refine ⟨device_within h rfl, ConfigSpace.u16_same_or_zero h (by decide),
    isSolarflare_of_short h, fun hlength => ?_, fun hlength hown => ?_, device_of_short h rfl⟩
  · exact isSolarflare_congr (hvendor (by omega)) (ConfigSpace.u16_same h (by decide) hlength)
  · -- the vendor alone decides, so the class need not be there
    have hshort : short.isSolarflare = true :=
      isSolarflare_iff.mpr (.inl ((hvendor hlength).trans hown))
    rw [hshort, isSolarflare_of_short h hshort]

/-- Eight bytes of one of Solarflare's functions: it is selected with its own device number, and its
revision, which stands in the ninth byte, is missing. -/
theorem PciFunction.short_read_eight_bytes :
    let whole : List UInt8 := [0x24, 0x19, 0x03, 0x0B, 0, 0, 0, 0, 0x02, 0, 0x00, 0x02]
    let short : PciFunction := ⟨"0000:05:00.1", ⟨whole.take 8⟩⟩
    let full : PciFunction := ⟨"0000:05:00.1", ⟨whole⟩⟩
    whole.take 8 <+: whole ∧ 2 ≤ (whole.take 8).length ∧ full.config.vendorId = 0x1924 ∧
      short.isSolarflare = full.isSolarflare ∧ short.device.Within full.device ∧
      short.device.deviceId = 0x0B03 ∧ short.device.revision = 0 ∧ full.device.revision = 2 := by
  intro whole short full
  have h : whole.take 8 <+: whole := List.take_prefix 8 whole
  have hlength : 2 ≤ (whole.take 8).length := by decide
  have hown : full.config.vendorId = 0x1924 := by decide
  obtain ⟨hwithin, -, -, -, hsame, -⟩ := short_read "0000:05:00.1" h
  exact ⟨h, hlength, hown, hsame hlength hown, hwithin, by decide, by decide, by decide⟩

/-- Half of the class of a network controller of Xilinx counts as no class at all. -/
example :
    let whole : List UInt8 := [0xEE, 0x10, 0x00, 0x01, 0, 0, 0, 0, 0x02, 0, 0x00, 0x02]
    PciFunction.isSolarflare ⟨"", ⟨whole⟩⟩ = true ∧
      PciFunction.isSolarflare ⟨"", ⟨whole.take 11⟩⟩ = false := by decide

end AdapterReport
