import AdapterReport.Table.Basic

/-!
# Devices

What identifies one function of a device on the PCI bus, and the table of such devices.
-/

namespace AdapterReport

/-- The identification of one PCI function. -/
structure Device where
  /-- Its address on the bus, such as `0000:01:00.0`. -/
  address : String
  vendorId : UInt16
  deviceId : UInt16
  revision : UInt8
  subsystemVendorId : UInt16
  subsystemId : UInt16
  deriving DecidableEq

namespace Device

/-- Vendor and device in four digits each. -/
def deviceIdText (d : Device) : String :=
  Text.hexPadded 4 d.vendorId.toNat ++ ":" ++ Text.hexPadded 4 d.deviceId.toNat

/-- The revision in two digits. -/
def revisionText (d : Device) : String :=
  Text.hexPadded 2 d.revision.toNat

/-- Subsystem vendor and subsystem in four digits each. -/
def subsystemIdText (d : Device) : String :=
  Text.hexPadded 4 d.subsystemVendorId.toNat ++ ":" ++ Text.hexPadded 4 d.subsystemId.toNat

/-- A device as a JSON value. -/
def toJson (d : Device) : Json :=
  .object [
    ("address", .text d.address),
    ("vendor_id", .number d.vendorId.toNat),
    ("device_id", .number d.deviceId.toNat),
    ("revision", .number d.revision.toNat),
    ("subsystem_vendor_id", .number d.subsystemVendorId.toNat),
    ("subsystem_id", .number d.subsystemId.toNat)]

/-- A number of 16 bits. -/
def uint16? (n : Int) : Option UInt16 :=
  if 0 ≤ n && n < UInt16.size then some (UInt16.ofNat n.toNat) else none

/-- A number of 8 bits. -/
def uint8? (n : Int) : Option UInt8 :=
  if 0 ≤ n && n < UInt8.size then some (UInt8.ofNat n.toNat) else none

open Json.Reader in
/-- The fields of a device. -/
def fields : List (RecordField Device) :=
  [.of .required "address" text fun x d => { d with address := x },
    .of .required "vendor_id" (integer uint16?) fun x d => { d with vendorId := x },
    .of .required "device_id" (integer uint16?) fun x d => { d with deviceId := x },
    .of .required "revision" (integer uint8?) fun x d => { d with revision := x },
    .of .required "subsystem_vendor_id" (integer uint16?) fun x d =>
      { d with subsystemVendorId := x },
    .of .required "subsystem_id" (integer uint16?) fun x d => { d with subsystemId := x }]

/-- Reads a device. -/
def reader : Json.Reader Device :=
  Json.Reader.record fields ⟨"", 0, 0, 0, 0, 0⟩

/-- The attributes of the table of devices. -/
def attributes : List String :=
  ["address", "device_id", "revision", "subsystem_id"]

/-- A device as a row of that table. -/
def row (d : Device) : Row :=
  .ofList [("address", .text d.address), ("device_id", .text d.deviceIdText),
    ("revision", .text d.revisionText), ("subsystem_id", .text d.subsystemIdText)]

/-- The table of devices, one column each. -/
def table (devices : List Device) : Table :=
  { Table.titled "AMD Solarflare PCI devices" attributes with
    id := some "pci_device_sfc"
    orientation := .vertical
    rows := devices.map row }

end Device

end AdapterReport
