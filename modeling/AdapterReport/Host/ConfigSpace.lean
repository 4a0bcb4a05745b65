import AdapterReport.Facts.Device
import AdapterReport.Failure

/-!
# PCI configuration space

A snapshot of a function's configuration space. Reading past its end gives nothing, and a field that
lies past the end, even in part, counts as zero: a user without rights sees only the beginning.
-/

namespace AdapterReport

/-- The sum of two words, if it is a word itself: a sum that has wrapped around is less than either
of its parts. -/
def checkedAdd (a b : UInt64) : Option UInt64 :=
  if a + b < a then none else some (a + b)

/-- The bytes of a configuration space. -/
structure ConfigSpace where
  bytes : List UInt8
  deriving DecidableEq

namespace ConfigSpace

/-- The bytes from `start` up to `stop`, if these are places of the buffer in this order. -/
def slice (c : ConfigSpace) (start stop : UInt64) : Option (List UInt8) :=
  if start ≤ stop ∧ stop.toNat ≤ c.bytes.length then
    some ((c.bytes.take stop.toNat).drop start.toNat)
  else none

/-- Exactly `length` bytes from `offset` on, if all of them are there. -/
def read (c : ConfigSpace) (offset length : UInt64) : Option (List UInt8) := do
  let stop ← checkedAdd offset length
  c.slice offset stop

/-- The same as `read`, with the reason if there is nothing. -/
def tryRead (c : ConfigSpace) (offset length : UInt64) : Except Failure (List UInt8) :=
  match c.read offset length with
  | some bytes => .ok bytes
  | none => .error (.shortBuffer offset.toNat length.toNat c.bytes.length)

/-- The number whose least significant byte comes first. -/
def littleEndian : List UInt8 → Nat
  | [] => 0
  | b :: bytes => b.toNat + 256 * littleEndian bytes

/-- The number of `length` bytes at `offset`, zero if one of them is missing. -/
def field (c : ConfigSpace) (offset length : UInt64) : Nat :=
  ((c.read offset length).map littleEndian).getD 0

/-- The number of one byte at `offset`. -/
def u8 (c : ConfigSpace) (offset : UInt64) : UInt8 :=
  UInt8.ofNat (c.field offset 1)

/-- The number of two bytes at `offset`. -/
def u16 (c : ConfigSpace) (offset : UInt64) : UInt16 :=
  UInt16.ofNat (c.field offset 2)

/-- The number of four bytes at `offset`. -/
def u32 (c : ConfigSpace) (offset : UInt64) : UInt32 :=
  UInt32.ofNat (c.field offset 4)

/-- The vendor of the function. -/
def vendorId (c : ConfigSpace) : UInt16 := c.u16 0x00

/-- The device that the function is a part of. -/
def deviceId (c : ConfigSpace) : UInt16 := c.u16 0x02

/-- The revision of the device. -/
def revision (c : ConfigSpace) : UInt8 := c.u8 0x08

/-- The base class and the subclass of the device. -/
def deviceClass (c : ConfigSpace) : UInt16 := c.u16 0x0A

/-- The vendor of the subsystem. -/
def subsystemVendorId (c : ConfigSpace) : UInt16 := c.u16 0x2C

/-- The subsystem. -/
def subsystemId (c : ConfigSpace) : UInt16 := c.u16 0x2E

end ConfigSpace

/-- A PCI function and its configuration space. -/
structure PciFunction where
  /-- Its address on the bus. -/
  address : String
  config : ConfigSpace
  deriving DecidableEq

namespace PciFunction

/-- The vendor number of Solarflare. -/
def solarflareVendor : UInt16 := 0x1924

/-- The vendor number of Xilinx, whose network controllers may descend from Solarflare's. -/
def xilinxVendor : UInt16 := 0x10EE

/-- The class of Ethernet controllers. -/
def ethernetClass : UInt16 := 0x0200

/-- Whether the function is one of Solarflare, or an Ethernet controller of Xilinx. -/
def isSolarflare (f : PciFunction) : Bool :=
  f.config.vendorId == solarflareVendor
    || (f.config.vendorId == xilinxVendor && f.config.deviceClass == ethernetClass)

/-- What identifies the function. -/
def device (f : PciFunction) : Device where
  address := f.address
  vendorId := f.config.vendorId
  deviceId := f.config.deviceId
  revision := f.config.revision
  subsystemVendorId := f.config.subsystemVendorId
  subsystemId := f.config.subsystemId

/-- Whether a name begins with four hexadecimal digits in lower case and a colon. -/
def isAddress (name : String) : Bool :=
  match name.toList with
  | a :: b :: c :: d :: ':' :: _ =>
    [a, b, c, d].all fun x => ('0' ≤ x && x ≤ '9') || ('a' ≤ x && x ≤ 'f')
  | _ => false

end PciFunction

end AdapterReport
