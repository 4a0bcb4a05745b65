import AdapterReport.Proofs.Host.Listing
import AdapterReport.Proofs.Host.ShortRead

/-!
# The functions of the bus

`Host.bus_scan`: a host has one function for each name in the directory of devices that looks like
an address and whose configuration space can be read, in the order of the addresses. The devices of
a report are those that `PciFunction.Wanted` selects, with numbers taken from their own bytes.

* `PciFunction.isAddress_iff`: what looks like an address.
* `Host.function?_eq_some_iff`: what one name of the directory gives.
* `Host.mem_functions_iff`, `Host.ascending_functions`: all functions and their order. A function
  depends on its own name and bytes only, so the order of the directory makes no difference, nor
  does a neighbour that cannot be read (`Host.functions_filter_eq`).
-/

namespace AdapterReport

open Text.Utf8 (encode decodeLossy_encode)

/-! ## Numbers of a configuration space -/

namespace ConfigSpace

/-- The number of two bytes from a place on, zero if the space ends in front of their end. -/
def wordAt (c : ConfigSpace) (place : Nat) : Nat :=
  if place + 2 ≤ c.bytes.length then c.byteAt place + 256 * c.byteAt (place + 1) else 0

theorem toNat_u16 (c : ConfigSpace) {offset : UInt64} (h : offset.toNat + 2 < UInt64.size) :
    (c.u16 offset).toNat = c.wordAt offset.toNat :=
  u16_of_field (field_of_read (read_eq_of_word h))

theorem toNat_u8 (c : ConfigSpace) {offset : UInt64} (h : offset.toNat + 1 < UInt64.size) :
    (c.u8 offset).toNat =
      if offset.toNat + 1 ≤ c.bytes.length then c.byteAt offset.toNat else 0 :=
  u8_of_field (field_of_read (read_eq_of_word h))

end ConfigSpace

/-- `d` has the address of `f` and the numbers that stand in the bytes of `f`. -/
structure Device.ReadFrom (d : Device) (f : PciFunction) : Prop where
  address : d.address = f.address
  vendorId : d.vendorId.toNat = f.config.wordAt 0x00
  deviceId : d.deviceId.toNat = f.config.wordAt 0x02
  revision : d.revision.toNat = if 9 ≤ f.config.bytes.length then f.config.byteAt 0x08 else 0
  subsystemVendorId : d.subsystemVendorId.toNat = f.config.wordAt 0x2C
  subsystemId : d.subsystemId.toNat = f.config.wordAt 0x2E

namespace PciFunction

theorem device_readFrom (f : PciFunction) : f.device.ReadFrom f where
  address := rfl
  vendorId := f.config.toNat_u16 (by decide)
  deviceId := f.config.toNat_u16 (by decide)
  revision := f.config.toNat_u8 (by decide)
  subsystemVendorId := f.config.toNat_u16 (by decide)
  subsystemId := f.config.toNat_u16 (by decide)

/-- The functions of a report: those of Solarflare, and the Ethernet controllers of Xilinx. -/
def Wanted (f : PciFunction) : Prop :=
  f.config.wordAt 0x00 = 0x1924 ∨ f.config.wordAt 0x00 = 0x10EE ∧ f.config.wordAt 0x0A = 0x0200

instance (f : PciFunction) : Decidable f.Wanted :=
  inferInstanceAs (Decidable (_ ∨ _ ∧ _))

theorem isSolarflare_eq (f : PciFunction) : f.isSolarflare = decide f.Wanted := by
  have hvendor : f.config.vendorId.toNat = f.config.wordAt 0x00 := f.config.toNat_u16 (by decide)
  have hclass : f.config.deviceClass.toNat = f.config.wordAt 0x0A := f.config.toNat_u16 (by decide)
  refine Bool.eq_iff_iff.mpr ?_
  rw [decide_eq_true_eq, isSolarflare_iff, Wanted, ← hvendor, ← hclass, ← UInt16.toNat_inj,
    ← UInt16.toNat_inj, ← UInt16.toNat_inj]
  rfl

/-- Four hexadecimal digits in lower case, a colon and anything. -/
def LooksLikeAddress (name : String) : Prop :=
  ∃ digits rest, name.toList = digits ++ ':' :: rest ∧ digits.length = 4 ∧
    ∀ c ∈ digits, c ∈ "0123456789abcdef".toList

theorem mem_hexDigits_iff (c : Char) :
    c ∈ "0123456789abcdef".toList ↔ '0' ≤ c ∧ c ≤ '9' ∨ 'a' ≤ c ∧ c ≤ 'f' := by
  constructor
  · intro h
    have hdigits : ("0123456789abcdef".toList.all fun c =>
        '0' ≤ c ∧ c ≤ '9' ∨ 'a' ≤ c ∧ c ≤ 'f') = true := by decide
    exact of_decide_eq_true (List.all_eq_true.mp hdigits c h)
  · intro h
    have hnumbers : ∀ n < 103, 48 ≤ n ∧ n ≤ 57 ∨ 97 ≤ n ∧ n ≤ 102 →
        Char.ofNat n ∈ "0123456789abcdef".toList := by decide
    have hrange : 48 ≤ c.toNat ∧ c.toNat ≤ 57 ∨ 97 ≤ c.toNat ∧ c.toNat ≤ 102 := h
    have hmem := hnumbers c.toNat (by omega) hrange
    rwa [Char.ofNat_toNat] at hmem

theorem isAddress_iff {name : String} : isAddress name = true ↔ LooksLikeAddress name := by
  have hall (digits : List Char) :
      (digits.all fun x => ('0' ≤ x && x ≤ '9') || ('a' ≤ x && x ≤ 'f')) = true ↔
        ∀ c ∈ digits, c ∈ "0123456789abcdef".toList := by
    simp only [mem_hexDigits_iff, List.all_eq_true, Bool.or_eq_true, Bool.and_eq_true,
      decide_eq_true_eq]
  constructor
  · intro h
    unfold isAddress at h
    split at h
    · rename_i a b c d rest hname
      exact ⟨[a, b, c, d], rest, hname, rfl, (hall _).mp h⟩
    · cases h
  · rintro ⟨digits, rest, hname, hlength, hdigits⟩
    match digits, hlength with
    | [a, b, c, d], _ =>
      rw [isAddress, hname]
      exact (hall _).mpr hdigits

end PciFunction

/-! ## The directory of devices -/

namespace Host

/-- The directory of the devices on the bus. -/
def devicesDirectory (roots : Roots) : List UInt8 :=
  below (encode roots.sysfs) "bus/pci/devices"

/-- Where the configuration space of a function lies. -/
def configPath (roots : Roots) (name : String) : List UInt8 :=
  below (Path.join (devicesDirectory roots) (encode name)) "config"

section
variable {h : Host} {roots : Roots} {f : PciFunction}

theorem function?_eq_some_iff {name : String} :
    h.function? (devicesDirectory roots) (encode name) = some f ↔
      f.address = name ∧ PciFunction.LooksLikeAddress name ∧
        h.content (configPath roots name) = some f.config.bytes := by
  unfold function? configPath
  rw [decodeLossy_encode]
  dsimp only
  split
  · rename_i haddress
    rw [Option.map_eq_some_iff]
    constructor
    · rintro ⟨bytes, hbytes, rfl⟩
      exact ⟨rfl, PciFunction.isAddress_iff.mp haddress, hbytes⟩
    · rintro ⟨rfl, -, hbytes⟩
      exact ⟨f.config.bytes, hbytes, rfl⟩
  · rename_i haddress
    refine ⟨nofun, fun hf => absurd (PciFunction.isAddress_iff.mpr hf.2.1) haddress⟩

variable {listing : Option (List String)}

theorem functions_eq (hlist : h.list (devicesDirectory roots) = listing.map (·.map encode)) :
    h.functions roots =
      ((listing.getD []).filterMap fun name =>
        h.function? (devicesDirectory roots) (encode name)).mergeSort
          fun a b => a.address ≤ b.address := by
  have hnames : (h.list (devicesDirectory roots)).getD [] = (listing.getD []).map encode := by
    rw [hlist]
    cases listing <;> rfl
  show (((h.list (devicesDirectory roots)).getD []).filterMap
    (h.function? (devicesDirectory roots))).mergeSort (fun a b => a.address ≤ b.address) = _
  rw [hnames, List.filterMap_map]
  rfl

variable (hlist : h.list (devicesDirectory roots) = listing.map (·.map encode))
include hlist

theorem mem_functions_iff :
    f ∈ h.functions roots ↔
      f.address ∈ listing.getD [] ∧ PciFunction.LooksLikeAddress f.address ∧
        h.content (configPath roots f.address) = some f.config.bytes := by
  rw [functions_eq hlist, List.mem_mergeSort, List.mem_filterMap]
  constructor
  · rintro ⟨name, hname, hf⟩
    obtain ⟨rfl, hlooks, hbytes⟩ := function?_eq_some_iff.mp hf
    exact ⟨hname, hlooks, hbytes⟩
  · rintro ⟨hname, hlooks, hbytes⟩
    exact ⟨f.address, hname, function?_eq_some_iff.mpr ⟨rfl, hlooks, hbytes⟩⟩

theorem ascending_functions (hdistinct : (listing.getD []).Nodup) :
    Ascending PciFunction.address (h.functions roots) := by
  rw [functions_eq hlist]
  refine ascending_mergeSort (nodup_filterMap hdistinct fun name f hf => ?_)
  exact (function?_eq_some_iff.mp hf).1

/-- Among some of the names, another host with the same names and bytes has the same functions. -/
theorem functions_filter_eq {h' : Host} {listing' : Option (List String)}
    (hlist' : h'.list (devicesDirectory roots) = listing'.map (·.map encode))
    (hdistinct : (listing.getD []).Nodup) (hdistinct' : (listing'.getD []).Nodup)
    {p : String → Bool} (hnames : ∀ name, name ∈ listing'.getD [] ↔ name ∈ listing.getD [])
    (hbytes : ∀ name ∈ listing.getD [], p name = true →
      h'.content (configPath roots name) = h.content (configPath roots name)) :
    ((h'.functions roots).filter fun f => p f.address) =
      (h.functions roots).filter fun f => p f.address := by
  refine Ascending.eq ((ascending_functions hlist' hdistinct').filter _)
    ((ascending_functions hlist hdistinct).filter _) fun f => ?_
  rw [List.mem_filter, List.mem_filter, mem_functions_iff hlist', mem_functions_iff hlist, hnames]
  refine and_congr_left fun hp => and_congr_right fun hname => and_congr_right fun _ => ?_
  rw [hbytes f.address hname hp]

end

theorem devices_eq (h : Host) (roots : Roots) :
    h.devices roots =
      ((h.functions roots).filter fun f => decide f.Wanted).map PciFunction.device := by
  have hwanted : PciFunction.isSolarflare = fun f => decide f.Wanted :=
    funext PciFunction.isSolarflare_eq
  rw [devices, hwanted]

/-- No two devices of a host have the same address. -/
theorem nodup_devices {h : Host} {roots : Roots} {listing : Option (List String)}
    (hlist : h.list (devicesDirectory roots) = listing.map (·.map encode))
    (hdistinct : (listing.getD []).Nodup) : ((h.devices roots).map (·.address)).Nodup := by
  rw [h.devices_eq, List.map_map]
  exact List.pairwise_map.mpr ((ascending_functions hlist hdistinct).filter _).name_ne

/-! ## All functions -/

/-- **The functions of the bus**: one for each name in the directory that looks like an address and
whose configuration space can be read, with the bytes of its own file, by address. The devices are
the functions that are wanted, with the numbers of their own bytes. Neither the order of the
directory nor a neighbour that cannot be read makes a difference, and without the directory there is
nothing. -/
theorem bus_scan (h : Host) (roots : Roots) (listing : Option (List String))
    (hlist : h.list (devicesDirectory roots) = listing.map (·.map encode))
    (hdistinct : (listing.getD []).Nodup) :
    Ascending PciFunction.address (h.functions roots) ∧
    (∀ f, f ∈ h.functions roots ↔
      f.address ∈ listing.getD [] ∧ PciFunction.LooksLikeAddress f.address ∧
        h.content (configPath roots f.address) = some f.config.bytes) ∧
    h.devices roots =
      ((h.functions roots).filter fun f => decide f.Wanted).map PciFunction.device ∧
    (∀ f ∈ h.functions roots, f.device.ReadFrom f) ∧
    (∀ (h' : Host) (names : List String), names.Perm (listing.getD []) →
      h'.list (devicesDirectory roots) = some (names.map encode) →
      (∀ name ∈ names,
        h'.content (configPath roots name) = h.content (configPath roots name)) →
      h'.functions roots = h.functions roots ∧ h'.devices roots = h.devices roots) ∧
    (∀ (h' : Host) (name : String),
      h'.list (devicesDirectory roots) = h.list (devicesDirectory roots) →
      (∀ other ∈ listing.getD [], other ≠ name →
        h'.content (configPath roots other) = h.content (configPath roots other)) →
      ((h'.functions roots).filter fun f => f.address != name) =
        (h.functions roots).filter fun f => f.address != name) ∧
    (listing = none → h.functions roots = [] ∧ h.devices roots = []) := by
  refine ⟨ascending_functions hlist hdistinct, fun f => mem_functions_iff hlist, h.devices_eq roots,
    fun f _ => f.device_readFrom, fun h' names hperm hlist' hbytes => ?_,
    fun h' name hsame hbytes => ?_, fun hnone => ?_⟩
  · have hlist' : h'.list (devicesDirectory roots) = (some names).map (·.map encode) := hlist'
    have hfunctions := functions_filter_eq (p := fun _ => true) hlist hlist' hdistinct
      (hperm.nodup_iff.mpr hdistinct) (fun _ => hperm.mem_iff)
      fun name hname _ => hbytes name (hperm.mem_iff.mpr hname)
    have hall (l : List PciFunction) : (l.filter fun _ => true) = l :=
      List.filter_eq_self.mpr fun _ _ => rfl
    rw [hall, hall] at hfunctions
    rw [h'.devices_eq, h.devices_eq, hfunctions]
    exact ⟨rfl, rfl⟩
  · exact functions_filter_eq (p := fun other => other != name) hlist (hsame.trans hlist)
      hdistinct hdistinct (fun _ => Iff.rfl)
      fun other hmem hne => hbytes other hmem (bne_iff_ne.mp hne)
  · subst hnone
    have hempty : h.functions roots = [] :=
      List.eq_nil_iff_forall_not_mem.mpr fun f hf =>
        absurd ((mem_functions_iff hlist).mp hf).1 List.not_mem_nil
    rw [h.devices_eq, hempty]
    exact ⟨rfl, rfl⟩

/-- A directory that lists a later function first, and between the two a name that is no address and
a function whose space cannot be read. -/
theorem bus_scan_unsorted :
    let roots := Roots.default
    let names := ["0000:02:00.0", "pci0000:00", "0000:03:00.0", "0000:01:00.1"]
    let first : PciFunction := ⟨"0000:01:00.1", ⟨[0x24, 0x19, 0x03, 0x0B]⟩⟩
    let second : PciFunction := ⟨"0000:02:00.0", ⟨[0x86, 0x80]⟩⟩
    let h : Host := {
      kernel := none
      list := fun path =>
        if path = devicesDirectory roots then some (names.map encode) else none
      content := fun path =>
        ([first, second].find? fun f => configPath roots f.address == path).map (·.config.bytes)
      target := fun _ => none
      output := fun _ _ => "" }
    h.list (devicesDirectory roots) = (some names).map (·.map encode) ∧ names.Nodup ∧
      h.functions roots = [first, second] ∧ h.devices roots = [first.device] := by
  intro roots names first second h
  have hlist : h.list (devicesDirectory roots) = (some names).map (·.map encode) := by decide
  have hdistinct : names.Nodup := by decide
  have hread : names.map (fun name => h.content (configPath roots name)) =
      [some second.config.bytes, none, none, some first.config.bytes] := by decide
  simp only [names, List.map_cons, List.map_nil, List.cons.injEq] at hread
  obtain ⟨hsecond, hother, hmissing, hfirst, -⟩ := hread
  obtain ⟨hascending, hmem, hdevices, -⟩ := bus_scan h roots (some names) hlist hdistinct
  have hfunctions : h.functions roots = [first, second] := by
    refine hascending.eq (ascending_iff.mpr (by decide)) fun f => (hmem f).trans ⟨?_, fun hf => ?_⟩
    · obtain ⟨address, ⟨bytes⟩⟩ := f
      rintro ⟨hname, -, hbytes⟩
      have hbytes : h.content (configPath roots address) = some bytes := hbytes
      simp only [names, Option.getD_some, List.mem_cons, List.not_mem_nil, or_false] at hname
      rcases hname with rfl | rfl | rfl | rfl
      · cases hsecond.symm.trans hbytes
        exact List.mem_cons_of_mem _ List.mem_cons_self
      · cases hother.symm.trans hbytes
      · cases hmissing.symm.trans hbytes
      · cases hfirst.symm.trans hbytes
        exact List.mem_cons_self
    · simp only [List.mem_cons, List.not_mem_nil, or_false] at hf
      rcases hf with rfl | rfl
      · exact ⟨by decide, PciFunction.isAddress_iff.mp (by decide), hfirst⟩
      · exact ⟨by decide, PciFunction.isAddress_iff.mp (by decide), hsecond⟩
  refine ⟨hlist, hdistinct, hfunctions, ?_⟩
  rw [hdevices, hfunctions]
  decide

end Host

end AdapterReport
