import AdapterReport.Table.Basic

/-!
# Network interfaces

What is known about one network interface and its driver, and the table of such interfaces.
-/

namespace AdapterReport

/-- A network interface. -/
structure Interface where
  name : String
  /-- The driver that it is bound to. -/
  driver : String
  /-- The bus address of the device below it. -/
  busInfo : Option String
  driverVersion : Option String
  /-- The firmware version of the controller. -/
  firmwareVersion : Option String
  macAddress : Option String
  deriving DecidableEq

namespace Interface

/-- An interface as a JSON value. -/
def toJson (i : Interface) : Json :=
  .object [
    ("name", .text i.name),
    ("driver", .text i.driver),
    ("bus_info", Json.ofText? i.busInfo),
    ("driver_version", Json.ofText? i.driverVersion),
    ("firmware_version", Json.ofText? i.firmwareVersion),
    ("mac_address", Json.ofText? i.macAddress)]

open Json.Reader in
/-- The fields of an interface. -/
def fields : List (RecordField Interface) :=
  [.of .required "name" text fun x i => { i with name := x },
    .of .required "driver" text fun x i => { i with driver := x },
    .of .nullable "bus_info" (nullable text) fun x i => { i with busInfo := x },
    .of .nullable "driver_version" (nullable text) fun x i => { i with driverVersion := x },
    .of .nullable "firmware_version" (nullable text) fun x i => { i with firmwareVersion := x },
    .of .nullable "mac_address" (nullable text) fun x i => { i with macAddress := x }]

/-- Reads an interface. -/
def reader : Json.Reader Interface :=
  Json.Reader.record fields ⟨"", "", none, none, none, none⟩

/-- The attributes of the table of interfaces. -/
def attributes : List String :=
  ["name", "address", "driver_version", "controller_version"]

/-- An interface as a row of that table. -/
def row (i : Interface) : Row :=
  .ofList [("name", .text i.name), ("address", .ofText? i.busInfo),
    ("driver_version", .ofText? i.driverVersion),
    ("controller_version", .ofText? i.firmwareVersion)]

/-- The table of interfaces, one line each. -/
def table (interfaces : List Interface) : Table :=
  { Table.titled "Network interfaces for AMD Solarflare adapters" attributes with
    id := some "network_interfaces"
    rows := interfaces.map row }

end Interface

end AdapterReport
