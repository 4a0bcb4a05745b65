import AdapterReport.Facts.Device
import AdapterReport.Facts.Interface

/-!
# The inventory

One flat row for each network interface, joined with the device at its bus address.
-/

namespace AdapterReport.Inventory

/-- The attributes of the inventory. -/
def attributes : List String :=
  ["name", "device_id", "revision", "subsys_id", "driver", "pci_address", "driver_version",
    "controller_version", "mac_address"]

/-- The first device at the bus address of an interface. -/
def device? (devices : List Device) (i : Interface) : Option Device :=
  i.busInfo.bind fun bus => devices.find? (·.address == bus)

/-- An interface as a row of the inventory. Without a device its three cells stay absent. -/
def row (devices : List Device) (i : Interface) : Row :=
  let device := device? devices i
  .ofList [("name", .text i.name),
    ("device_id", .ofText? (device.map Device.deviceIdText)),
    ("revision", .ofText? (device.map Device.revisionText)),
    ("subsys_id", .ofText? (device.map Device.subsystemIdText)),
    ("driver", .text i.driver),
    ("pci_address", .ofText? i.busInfo),
    ("driver_version", .ofText? i.driverVersion),
    ("controller_version", .ofText? i.firmwareVersion),
    ("mac_address", .ofText? i.macAddress)]

/-- The inventory under a title of its own. -/
def table (title : String) (interfaces : List Interface) (devices : List Device) : Table :=
  { Table.titled title attributes with
    id := some "inventory"
    rows := interfaces.map (row devices) }

end AdapterReport.Inventory
