import AdapterReport.Facts.Inventory
import AdapterReport.Proofs.Host.Functions
import AdapterReport.Proofs.Table.Layout

/-!
# The inventory and the other tables

`Inventory.join`: a row of the inventory says of its interface what the table of interfaces says in
the same row, and of its device what the table of devices says of the first device at the bus
address of the interface. The cells of the device are absent exactly if there is no such device.

* `Table.cellAt?`: the cell of a table in a row and under one of its attributes.
* `Inventory.interfaceColumns`, `Inventory.deviceColumns`: the columns of the inventory, and what
  they are called in the other tables.
* `Inventory.JoinsAt`, `Inventory.device?_of_joinsAt`: where the device of an interface stands.
* `Inventory.device?_of_perm`: devices with distinct addresses may stand in any order.
-/

namespace AdapterReport

/-! ## Rows by their cells -/

/-- The cell of a row under one of the attributes of its table. -/
def Table.cellAt? (t : Table) (row : Nat) (name : String) : Option Cell :=
  if name ∈ t.attributes then t.rows[row]?.map (·.get name) else none

theorem Table.cellAt?_of_rows {α : Type} {t : Table} {facts : List α} {toRow : α → Row}
    {name : String} (hrows : t.rows = facts.map toRow) (hname : name ∈ t.attributes) (row : Nat) :
    t.cellAt? row name = facts[row]?.map fun fact => (toRow fact).get name := by
  rw [cellAt?, if_pos hname, hrows, List.getElem?_map, Option.map_map]
  rfl

theorem Cell.ofText?_eq_absent_iff {o : Option String} : Cell.ofText? o = .absent ↔ o = none := by
  cases o with
  | none => exact iff_of_true rfl rfl
  | some s => exact iff_of_false nofun nofun

theorem Interface.row_cells (i : Interface) :
    attributes.map (row i).get =
      [.text i.name, .ofText? i.busInfo, .ofText? i.driverVersion, .ofText? i.firmwareVersion] :=
  Row.map_get_ofList (by decide : attributes.Nodup)

theorem Device.row_cells (d : Device) :
    attributes.map (row d).get =
      [.text d.address, .text d.deviceIdText, .text d.revisionText, .text d.subsystemIdText] :=
  Row.map_get_ofList (by decide : attributes.Nodup)

namespace Inventory

variable {devices devices' : List Device} {i : Interface} {d : Device}

theorem row_cells (devices : List Device) (i : Interface) :
    attributes.map (row devices i).get =
      [.text i.name, .ofText? ((device? devices i).map Device.deviceIdText),
        .ofText? ((device? devices i).map Device.revisionText),
        .ofText? ((device? devices i).map Device.subsystemIdText), .text i.driver,
        .ofText? i.busInfo, .ofText? i.driverVersion, .ofText? i.firmwareVersion,
        .ofText? i.macAddress] :=
  Row.map_get_ofList (by decide : attributes.Nodup)

/-- The columns that the table of interfaces has as well, and their names there. -/
def interfaceColumns : List (String × String) :=
  [("name", "name"), ("pci_address", "address"), ("driver_version", "driver_version"),
    ("controller_version", "controller_version")]

/-- The columns that the table of devices has as well, and their names there. -/
def deviceColumns : List (String × String) :=
  [("device_id", "device_id"), ("revision", "revision"), ("subsys_id", "subsystem_id")]

theorem get_interfaceColumns (devices : List Device) (i : Interface) :
    ∀ c ∈ interfaceColumns, (row devices i).get c.1 = (Interface.row i).get c.2 := by
  have hrow := row_cells devices i
  have hinterface := i.row_cells
  simp only [attributes, Interface.attributes, List.map_cons, List.map_nil, List.cons.injEq]
    at hrow hinterface
  simp [interfaceColumns, hrow, hinterface]

theorem get_deviceColumns (h : device? devices i = some d) :
    ∀ c ∈ deviceColumns, (row devices i).get c.1 = (Device.row d).get c.2 := by
  have hrow := row_cells devices i
  have hdevice := d.row_cells
  simp only [attributes, Device.attributes, List.map_cons, List.map_nil, List.cons.injEq, h,
    Option.map_some, Cell.ofText?] at hrow hdevice
  simp [deviceColumns, hrow, hdevice]

theorem get_deviceColumns_eq_absent_iff (devices : List Device) (i : Interface) :
    ∀ c ∈ deviceColumns, (row devices i).get c.1 = .absent ↔ device? devices i = none := by
  have hrow := row_cells devices i
  simp only [attributes, List.map_cons, List.map_nil, List.cons.injEq] at hrow
  simp [deviceColumns, hrow, Cell.ofText?_eq_absent_iff]

/-! ## The device of an interface -/

/-- The device at `place` is the first one at the bus address of the interface. -/
def JoinsAt (devices : List Device) (i : Interface) (place : Nat) : Prop :=
  ∃ d, devices[place]? = some d ∧ i.busInfo = some d.address ∧
    ∀ earlier < place, ∀ e, devices[earlier]? = some e → e.address ≠ d.address

theorem device?_of_joinsAt {place : Nat} (h : JoinsAt devices i place) :
    ∃ d, devices[place]? = some d ∧ device? devices i = some d := by
  obtain ⟨d, hplace, hbus, hfirst⟩ := h
  obtain ⟨hlt, hd⟩ := List.getElem?_eq_some_iff.mp hplace
  refine ⟨d, hplace, ?_⟩
  rw [device?, hbus]
  refine List.find?_eq_some_iff_getElem.mpr
    ⟨beq_self_eq_true _, place, hlt, hd, fun earlier he => ?_⟩
  have hne := hfirst earlier he _ (List.getElem?_eq_getElem (Nat.lt_trans he hlt))
  simpa using hne

theorem device?_eq_none_iff :
    device? devices i = none ↔
      i.busInfo = none ∨ ∀ d ∈ devices, i.busInfo ≠ some d.address := by
  unfold device?
  cases i.busInfo with
  | none => simp
  | some bus =>
    simp only [Option.bind_some, List.find?_eq_none, beq_iff_eq, reduceCtorEq, false_or, ne_eq,
      Option.some.injEq]
    exact forall₂_congr fun d _ => not_congr eq_comm

/-- Among devices with distinct addresses the address tells which one is found. -/
theorem device?_eq_some_iff (hdistinct : (devices.map (·.address)).Nodup) :
    device? devices i = some d ↔ d ∈ devices ∧ i.busInfo = some d.address := by
  unfold device?
  constructor
  · intro h
    obtain ⟨bus, hbus, hd⟩ := Option.bind_eq_some_iff.mp h
    have haddress : d.address = bus := by simpa using List.find?_some hd
    exact ⟨List.mem_of_find?_eq_some hd, haddress ▸ hbus⟩
  · rintro ⟨hd, hbus⟩
    rw [hbus]
    obtain ⟨before, after, rfl⟩ := List.append_of_mem hd
    refine List.find?_eq_some_iff_append.mpr
      ⟨beq_self_eq_true _, before, after, rfl, fun e he => ?_⟩
    rw [List.map_append, List.map_cons, List.nodup_append] at hdistinct
    have hne := hdistinct.2.2 _ (List.mem_map_of_mem he) _ List.mem_cons_self
    simpa using hne

theorem device?_of_perm (hdistinct : (devices.map (·.address)).Nodup)
    (hperm : devices.Perm devices') : device? devices' i = device? devices i := by
  have hdistinct' := (hperm.map Device.address).nodup_iff.mp hdistinct
  refine Option.ext fun d => ?_
  rw [device?_eq_some_iff hdistinct', device?_eq_some_iff hdistinct, hperm.mem_iff]

/-! ## The table against the others -/

/-- **The inventory and the other tables**: one row for each interface in its order, which says of
the interface what the table of interfaces says in that row. Of the device it says what the table of
devices says of the first one at the bus address of the interface, and nothing exactly if there is
none. Devices with distinct addresses, such as those of a host, may stand in any order. -/
theorem join (title : String) (interfaces : List Interface) (devices : List Device) :
    let t := table title interfaces devices
    t.rows.length = interfaces.length ∧
    (∀ row < interfaces.length, ∀ c ∈ interfaceColumns, ∃ cell,
      t.cellAt? row c.1 = some cell ∧
        (Interface.table interfaces).cellAt? row c.2 = some cell) ∧
    (∀ row i, interfaces[row]? = some i →
      (∀ place, JoinsAt devices i place → ∀ c ∈ deviceColumns, ∃ cell,
        t.cellAt? row c.1 = some cell ∧
          (Device.table devices).cellAt? place c.2 = some cell) ∧
      ∀ c ∈ deviceColumns, t.cellAt? row c.1 = some .absent ↔
        i.busInfo = none ∨ ∀ d ∈ devices, i.busInfo ≠ some d.address) ∧
    ((devices.map (·.address)).Nodup →
      ∀ devices', devices.Perm devices' → table title interfaces devices' = t) ∧
    ∀ (h : Host) (roots : Roots) (listing : Option (List String)),
      h.list (Host.devicesDirectory roots) = listing.map (·.map Text.Utf8.encode) →
      (listing.getD []).Nodup → ((h.devices roots).map (·.address)).Nodup := by
  intro t
  have hcell (row : Nat) (name : String) (hname : name ∈ attributes) :
      t.cellAt? row name = interfaces[row]?.map fun i => (Inventory.row devices i).get name :=
    Table.cellAt?_of_rows rfl hname row
  have hcolumns : (∀ c ∈ interfaceColumns, c.1 ∈ attributes ∧ c.2 ∈ Interface.attributes) ∧
      ∀ c ∈ deviceColumns, c.1 ∈ attributes ∧ c.2 ∈ Device.attributes := by decide
  refine ⟨List.length_map _, fun row hrow c hc => ?_, fun row i hi => ⟨?_, fun c hc => ?_⟩,
    fun hdistinct devices' hperm => ?_, fun h roots listing => Host.nodup_devices⟩
  · obtain ⟨hleft, hright⟩ := hcolumns.1 c hc
    have hi := List.getElem?_eq_getElem hrow
    refine ⟨_, ?_, (Table.cellAt?_of_rows rfl hright row).trans (congrArg _ hi)⟩
    rw [hcell row c.1 hleft, hi, Option.map_some, get_interfaceColumns devices _ c hc]
  · intro place hjoins c hc
    obtain ⟨hleft, hright⟩ := hcolumns.2 c hc
    obtain ⟨d, hplace, hd⟩ := device?_of_joinsAt hjoins
    refine ⟨_, ?_, (Table.cellAt?_of_rows rfl hright place).trans (congrArg _ hplace)⟩
    rw [hcell row c.1 hleft, hi, Option.map_some, get_deviceColumns hd c hc]
  · rw [hcell row c.1 (hcolumns.2 c hc).1, hi, Option.map_some, Option.some.injEq,
      get_deviceColumns_eq_absent_iff devices i c hc, device?_eq_none_iff]
  · have hrow : Inventory.row devices' = Inventory.row devices := by
      funext i
      unfold row
      rw [device?_of_perm hdistinct hperm]
    show table title interfaces devices' = table title interfaces devices
    rw [table, table, hrow]

end Inventory

end AdapterReport
