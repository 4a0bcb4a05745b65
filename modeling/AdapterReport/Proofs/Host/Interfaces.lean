import AdapterReport.Proofs.Host.Listing

/-!
# The interfaces of a host

`Host.interface_scan`: a host has one interface for each name in the directory of interfaces whose
driver is one of Solarflare's, in the order of the names, and each of its facts comes from the first
source that has it.

* `FirstLine`, `firstLine?_eq_some_iff`: what a tool says in its first line that is not blank.
* `DriverInfo.noBlank_ofText`: what a driver says of itself is never blank, since no line makes it
  so (`DriverInfo.NoBlank.addLine`).
* `Fallback`: a value from the first of several sources, `unknown` if none has one.
* `Interface.CollectedAt`, `Host.interface?_eq_some_iff`: an interface and its sources, by way of
  its facts as they are computed (`Host.collectedAt_iff`).
-/

namespace AdapterReport

open Text.Utf8 (encode decodeLossy decode?_eq_some_iff decodeLossy_eq_iff decodeLossy_encode
  decodeLossy_ne_empty encode_injective)

/-! ## What tools say -/

/-- `line` is the first line of the text that is not blank, without the blanks at its ends. -/
def FirstLine (text line : String) : Prop :=
  ∃ before found after, Text.lines text = before ++ found :: after ∧
    (∀ blank ∈ before, Text.trim blank = "") ∧ Text.trim found = line ∧ line ≠ ""

theorem not_isEmpty_iff {s : String} : (!s.isEmpty) = true ↔ s ≠ "" := by
  rw [Bool.not_eq_true', String.isEmpty_eq_false_iff]

theorem firstLine?_eq_some_iff {text line : String} :
    firstLine? text = some line ↔ FirstLine text line := by
  unfold firstLine? FirstLine
  rw [List.find?_eq_some_iff_append, not_isEmpty_iff]
  constructor
  · rintro ⟨hne, before, after, hlines, hbefore⟩
    obtain ⟨before, rest, htext, rfl, hrest⟩ := List.map_eq_append_iff.mp hlines
    obtain ⟨found, after, rfl, rfl, -⟩ := List.map_eq_cons_iff.mp hrest
    refine ⟨before, found, after, htext, fun blank hblank => ?_, rfl, hne⟩
    simpa using hbefore _ (List.mem_map_of_mem hblank)
  · rintro ⟨before, found, after, htext, hbefore, rfl, hne⟩
    refine ⟨hne, before.map Text.trim, after.map Text.trim, by rw [htext, List.map_append,
      List.map_cons], fun line hline => ?_⟩
    obtain ⟨blank, hblank, rfl⟩ := List.mem_map.mp hline
    rw [hbefore blank hblank]
    rfl

/-- What a driver says of itself is not blank. -/
structure DriverInfo.NoBlank (info : DriverInfo) : Prop where
  driver : info.driver ≠ some ""
  version : info.version ≠ some ""
  firmwareVersion : info.firmwareVersion ≠ some ""
  busInfo : info.busInfo ≠ some ""

/-- A line with a blank value changes nothing. -/
theorem DriverInfo.NoBlank.addLine {info : DriverInfo} (h : info.NoBlank) (line : String) :
    (info.addLine line).NoBlank := by
  unfold DriverInfo.addLine
  split
  · exact h
  rename_i key value _
  dsimp only
  split
  · exact h
  rename_i hne
  have hvalue : some (Text.trim (String.ofList value)) ≠ some "" := by
    intro heq
    rw [Option.some.inj heq] at hne
    exact hne rfl
  split
  · exact { h with driver := hvalue }
  · exact { h with version := hvalue }
  · exact { h with firmwareVersion := hvalue }
  · exact { h with busInfo := hvalue }
  · exact h

theorem DriverInfo.noBlank_ofText (text : String) : (DriverInfo.ofText text).NoBlank := by
  have hrun (lines : List String) : ∀ info : DriverInfo, info.NoBlank →
      (lines.foldl DriverInfo.addLine info).NoBlank := by
    induction lines with
    | nil => exact fun _ h => h
    | cons line lines ih => exact fun _ h => ih _ (h.addLine line)
  exact hrun _ _ ⟨nofun, nofun, nofun, nofun⟩

/-! ## Sources in turn -/

/-- The value of the first source that has one, `unknown` if none has. -/
inductive Fallback : List (String → Prop) → String → Prop
  | found {source : String → Prop} {rest : List (String → Prop)} {value : String} :
      source value → Fallback (source :: rest) value
  | next {source : String → Prop} {rest : List (String → Prop)} {value : String} :
      (∀ v, ¬ source v) → Fallback rest value → Fallback (source :: rest) value
  | unknown : Fallback [] "unknown"

theorem Fallback.ne_empty {sources : List (String → Prop)} {value : String}
    (h : Fallback sources value) (hsources : ∀ source ∈ sources, ¬ source "") : value ≠ "" := by
  induction h with
  | found hvalue =>
    rintro rfl
    exact hsources _ List.mem_cons_self hvalue
  | next _ _ ih => exact ih fun source hs => hsources source (List.mem_cons_of_mem _ hs)
  | unknown => decide

theorem fallback_nil (value : String) : Fallback [] value ↔ "unknown" = value := by
  constructor
  · rintro ⟨⟩
    rfl
  · rintro rfl
    exact .unknown

theorem fallback_cons (source : String → Prop) {rest : List (String → Prop)} {o : Option String}
    {other : String} (hsource : ∀ v, source v ↔ o = some v)
    (hrest : ∀ v, Fallback rest v ↔ other = v) (value : String) :
    Fallback (source :: rest) value ↔ o.getD other = value := by
  cases o with
  | none =>
    have hnone (v : String) : ¬ source v := fun hv => nomatch (hsource v).mp hv
    rw [Option.getD_none, ← hrest]
    constructor
    · rintro (hv | ⟨-, hv⟩)
      · exact absurd hv (hnone _)
      · exact hv
    · exact .next hnone
  | some v =>
    rw [Option.getD_some]
    constructor
    · rintro (hv | ⟨hnone, -⟩)
      · exact Option.some.inj ((hsource _).mp hv)
      · exact absurd ((hsource v).mpr rfl) (hnone v)
    · rintro rfl
      exact .found ((hsource v).mpr rfl)

theorem fallback_one (source : String → Prop) {o : Option String}
    (hsource : ∀ v, source v ↔ o = some v) (value : String) :
    Fallback [source] value ↔ o.getD "unknown" = value :=
  fallback_cons source hsource fallback_nil value

theorem fallback_two (source other : String → Prop) {o o' : Option String}
    (hsource : ∀ v, source v ↔ o = some v) (hother : ∀ v, other v ↔ o' = some v)
    (value : String) : Fallback [source, other] value ↔ (o.or o').getD "unknown" = value := by
  rw [Option.getD_or]
  exact fallback_cons source hsource (fallback_one other hother) value

/-- What is present and falls back is the value of the sources. -/
theorem exists_fallback_iff {sources : List (String → Prop)} {value : String}
    (h : ∀ v, Fallback sources v ↔ value = v) (o : Option String) :
    (∃ v, o = some v ∧ Fallback sources v) ↔ o = some value := by
  simp only [h]
  constructor
  · rintro ⟨v, ho, rfl⟩
    exact ho
  · exact fun ho => ⟨value, ho, rfl⟩

/-! ## Links -/

theorem Path.fileName?_ne_nil {path name : List UInt8} (h : Path.fileName? path = some name) :
    name ≠ [] := by
  obtain ⟨last, hlast, h⟩ := Option.bind_eq_some_iff.mp h
  split at h
  · cases h
  cases h
  have hmem := (List.mem_filter.mp (List.mem_of_getLast? hlast)).2
  rintro rfl
  cases hmem

namespace Host

variable {h : Host} {path : List UInt8}

/-- There is a symbolic link at `path`, and the last component of its target is `last`. -/
def LinksTo (h : Host) (path last : List UInt8) : Prop :=
  ∃ target, h.target path = some target ∧ Path.fileName? target = some last

theorem targetName?_eq_some_iff {name : String} :
    h.targetName? path = some name ↔ ∃ last, h.LinksTo path last ∧ decodeLossy last = name := by
  constructor
  · intro hname
    obtain ⟨target, htarget, hname⟩ := Option.bind_eq_some_iff.mp hname
    obtain ⟨last, hlast, hname⟩ := Option.bind_eq_some_iff.mp hname
    exact ⟨last, ⟨target, htarget, hlast⟩, Option.some.inj hname⟩
  · rintro ⟨last, ⟨target, htarget, hlast⟩, rfl⟩
    rw [targetName?, htarget]
    show (Path.fileName? target).bind _ = _
    rw [hlast]
    rfl

/-- A name without a replacement character is that of the link itself. -/
theorem targetName?_eq_some_iff_of_plain {name : String} (hname : '\uFFFD' ∉ name.toList) :
    h.targetName? path = some name ↔ h.LinksTo path (encode name) := by
  rw [targetName?_eq_some_iff]
  constructor
  · rintro ⟨last, hlast, heq⟩
    rwa [(decodeLossy_eq_iff hname).mp heq] at hlast
  · exact fun hlast => ⟨_, hlast, decodeLossy_encode name⟩

theorem not_targetName?_empty : h.targetName? path ≠ some "" := by
  intro hempty
  obtain ⟨last, ⟨target, -, hlast⟩, heq⟩ := targetName?_eq_some_iff.mp hempty
  exact decodeLossy_ne_empty (Path.fileName?_ne_nil hlast) heq

theorem text?_eq_some_iff {content : String} :
    h.text? path = some content ↔ h.content path = some (encode content) := by
  rw [text?, Option.bind_eq_some_iff]
  simp only [decode?_eq_some_iff]
  constructor
  · rintro ⟨bytes, hbytes, rfl⟩
    exact hbytes
  · exact fun hbytes => ⟨_, hbytes, rfl⟩

end Host

/-! ## One interface -/

/-- The drivers whose interfaces are shown. -/
def shownDrivers : List String := ["sfc", "sfc_ef100", "xilinx_efct"]

/-- An interface of a host, whose directory is `place`, with a source for each of its facts. -/
structure Interface.CollectedAt (i : Interface) (h : Host) (place : List UInt8) : Prop where
  driver : i.driver ∈ shownDrivers
  bound : h.LinksTo (Host.below place "device/driver") (encode i.driver)
  driverVersion : ∃ v, i.driverVersion = some v ∧
    Fallback [FirstLine (h.output "modinfo" ["-F", "version", i.driver]),
      fun v => (DriverInfo.ofText (h.output "ethtool" ["-i", i.name])).version = some v] v
  firmwareVersion : ∃ v, i.firmwareVersion = some v ∧
    Fallback [fun v =>
      (DriverInfo.ofText (h.output "ethtool" ["-i", i.name])).firmwareVersion = some v] v
  busInfo : ∃ v, i.busInfo = some v ∧
    Fallback [fun v => (DriverInfo.ofText (h.output "ethtool" ["-i", i.name])).busInfo = some v,
      fun v => ∃ last, h.LinksTo (Host.below place "device") last ∧ decodeLossy last = v] v
  macAddress : ∀ mac, i.macAddress = some mac ↔
    mac ≠ "" ∧ ∃ content, h.content (Host.below place "address") = some (encode content) ∧
      Text.trim content = mac

/-- No fact that has a stand-in is missing or empty. -/
theorem Interface.CollectedAt.present {i : Interface} {h : Host} {place : List UInt8}
    (hi : i.CollectedAt h place) :
    ∀ fact ∈ [i.driverVersion, i.firmwareVersion, i.busInfo], ∃ v, fact = some v ∧ v ≠ "" := by
  have hinfo := DriverInfo.noBlank_ofText (h.output "ethtool" ["-i", i.name])
  have hline (text : String) : ¬ FirstLine text "" := fun ⟨_, _, _, _, _, _, hne⟩ => hne rfl
  have hlink : ¬ ∃ last, h.LinksTo (Host.below place "device") last ∧ decodeLossy last = "" :=
    mt Host.targetName?_eq_some_iff.mpr Host.not_targetName?_empty
  obtain ⟨version, hversion, hversionFrom⟩ := hi.driverVersion
  obtain ⟨firmware, hfirmware, hfirmwareFrom⟩ := hi.firmwareVersion
  obtain ⟨bus, hbus, hbusFrom⟩ := hi.busInfo
  simp only [List.forall_mem_cons]
  refine ⟨⟨version, hversion, hversionFrom.ne_empty ?_⟩,
    ⟨firmware, hfirmware, hfirmwareFrom.ne_empty ?_⟩, ⟨bus, hbus, hbusFrom.ne_empty ?_⟩, nofun⟩
  · simp only [List.forall_mem_cons]
    exact ⟨hline _, hinfo.version, nofun⟩
  · simp only [List.forall_mem_cons]
    exact ⟨hinfo.firmwareVersion, nofun⟩
  · simp only [List.forall_mem_cons]
    exact ⟨hinfo.busInfo, hlink, nofun⟩

namespace Host

theorem contains_iff_mem_shownDrivers {driver : String} :
    solarflareDrivers.contains driver = true ↔ driver ∈ shownDrivers :=
  List.contains_iff_mem

theorem macAddress_eq_some_iff {h : Host} {place : List UInt8} {mac : String} :
    (((h.text? (below place "address")).map Text.trim).filter fun mac => !mac.isEmpty) =
        some mac ↔
      mac ≠ "" ∧ ∃ content, h.content (below place "address") = some (encode content) ∧
        Text.trim content = mac := by
  rw [Option.filter_eq_some_iff, not_isEmpty_iff, Option.map_eq_some_iff, and_comm]
  simp only [text?_eq_some_iff]

/-- What is collected of an interface, as it is computed. -/
theorem collectedAt_iff {h : Host} {place : List UInt8} {i : Interface} :
    i.CollectedAt h place ↔
      solarflareDrivers.contains i.driver = true ∧
      h.targetName? (below place "device/driver") = some i.driver ∧
      i.driverVersion = some (((firstLine? (h.output "modinfo" ["-F", "version", i.driver])).or
        (DriverInfo.ofText (h.output "ethtool" ["-i", i.name])).version).getD unknown) ∧
      i.firmwareVersion = some
        ((DriverInfo.ofText (h.output "ethtool" ["-i", i.name])).firmwareVersion.getD unknown) ∧
      i.busInfo = some (((DriverInfo.ofText (h.output "ethtool" ["-i", i.name])).busInfo.or
        (h.targetName? (below place "device"))).getD unknown) ∧
      i.macAddress =
        ((h.text? (below place "address")).map Text.trim).filter fun mac => !mac.isEmpty := by
  have hplain : ∀ driver ∈ shownDrivers, '\uFFFD' ∉ driver.toList := by decide
  have hversion := exists_fallback_iff
    (fallback_two (FirstLine (h.output "modinfo" ["-F", "version", i.driver]))
      (fun v => (DriverInfo.ofText (h.output "ethtool" ["-i", i.name])).version = some v)
      (fun _ => firstLine?_eq_some_iff.symm) fun _ => Iff.rfl) i.driverVersion
  have hfirmware := exists_fallback_iff
    (fallback_one
      (fun v => (DriverInfo.ofText (h.output "ethtool" ["-i", i.name])).firmwareVersion = some v)
      fun _ => Iff.rfl) i.firmwareVersion
  have hbus := exists_fallback_iff
    (fallback_two
      (fun v => (DriverInfo.ofText (h.output "ethtool" ["-i", i.name])).busInfo = some v)
      (fun v => ∃ last, h.LinksTo (below place "device") last ∧ decodeLossy last = v)
      (fun _ => Iff.rfl) fun _ => targetName?_eq_some_iff.symm) i.busInfo
  constructor
  · intro hi
    exact ⟨contains_iff_mem_shownDrivers.mpr hi.driver,
      (targetName?_eq_some_iff_of_plain (hplain _ hi.driver)).mpr hi.bound,
      hversion.mp hi.driverVersion, hfirmware.mp hi.firmwareVersion, hbus.mp hi.busInfo,
      Option.ext fun mac => (hi.macAddress mac).trans macAddress_eq_some_iff.symm⟩
  · rintro ⟨hcontains, hname, hversion', hfirmware', hbus', hmac⟩
    have hshown := contains_iff_mem_shownDrivers.mp hcontains
    exact ⟨hshown, (targetName?_eq_some_iff_of_plain (hplain _ hshown)).mp hname,
      hversion.mpr hversion', hfirmware.mpr hfirmware', hbus.mpr hbus',
      fun mac => hmac ▸ macAddress_eq_some_iff⟩

/-- **An interface that is read** has the facts of its sources, and only that one has. -/
theorem interface?_eq_some_iff {h : Host} {directory : List UInt8} {name : String}
    {i : Interface} :
    h.interface? directory name = some i ↔
      i.name = name ∧ i.CollectedAt h (below directory name) := by
  rw [collectedAt_iff]
  constructor
  · intro hread
    obtain ⟨driver, hname, hread⟩ := Option.bind_eq_some_iff.mp hread
    split at hread
    · rename_i hcontains
      cases hread
      exact ⟨rfl, hcontains, hname, rfl, rfl, rfl, rfl⟩
    · cases hread
  · rintro ⟨rfl, hcontains, hname, hversion, hfirmware, hbus, hmac⟩
    refine Option.bind_eq_some_iff.mpr ⟨i.driver, hname, (if_pos hcontains).trans ?_⟩
    refine congrArg some (Eq.symm ?_)
    cases i
    simp only [Interface.mk.injEq, true_and]
    exact ⟨hbus, hversion, hfirmware, hmac⟩

/-- What is read below a name does not depend on the directory's order. -/
theorem interface?_congr {h h' : Host} (hcontent : h'.content = h.content)
    (htarget : h'.target = h.target) (houtput : h'.output = h.output) :
    h'.interface? = h.interface? := by
  cases h
  cases h'
  cases hcontent
  cases htarget
  cases houtput
  rfl

/-! ## The directory of interfaces -/

/-- The directory of the interfaces. -/
def netDirectory (roots : Roots) : List UInt8 :=
  below (encode roots.sysfs) "class/net"

/-- The directory of one interface. -/
def interfacePlace (roots : Roots) (name : String) : List UInt8 :=
  below (netDirectory roots) name

section
variable {h : Host} {roots : Roots} {listing : Option (List String)} {i : Interface} {name : String}

theorem exists_interface?_iff :
    (∃ i, h.interface? (netDirectory roots) name = some i) ↔
      ∃ driver ∈ shownDrivers,
        h.LinksTo (below (interfacePlace roots name) "device/driver") (encode driver) := by
  constructor
  · rintro ⟨i, hi⟩
    obtain ⟨rfl, hi⟩ := interface?_eq_some_iff.mp hi
    exact ⟨i.driver, hi.driver, hi.bound⟩
  · rintro ⟨driver, hshown, hlink⟩
    have hname : h.targetName? (below (below (netDirectory roots) name) "device/driver") =
        some driver := targetName?_eq_some_iff.mpr ⟨_, hlink, decodeLossy_encode driver⟩
    refine Option.isSome_iff_exists.mp ?_
    unfold interface?
    dsimp only [Option.bind_eq_bind]
    rw [hname, Option.bind_some, if_pos (contains_iff_mem_shownDrivers.mpr hshown)]
    rfl

variable (hlist : h.list (netDirectory roots) = listing.map (·.map encode))
include hlist

theorem interfaces_eq :
    h.interfaces roots = ((listing.getD []).mergeSort fun a b => a ≤ b).filterMap
      (h.interface? (netDirectory roots)) := by
  have hnames : ((h.list (netDirectory roots)).getD []).map decodeLossy = listing.getD [] := by
    rw [hlist]
    cases listing with
    | none => rfl
    | some names =>
      show (names.map encode).map decodeLossy = names
      rw [List.map_map]
      exact (List.map_congr_left fun s _ => decodeLossy_encode s).trans (List.map_id names)
  show ((((h.list (netDirectory roots)).getD []).map decodeLossy).mergeSort
    fun a b => a ≤ b).filterMap (h.interface? (netDirectory roots)) = _
  rw [hnames]

theorem mem_interfaces_iff :
    i ∈ h.interfaces roots ↔
      i.name ∈ listing.getD [] ∧ h.interface? (netDirectory roots) i.name = some i := by
  rw [interfaces_eq hlist, List.mem_filterMap]
  simp only [List.mem_mergeSort]
  constructor
  · rintro ⟨name, hname, hi⟩
    obtain ⟨rfl, -⟩ := interface?_eq_some_iff.mp hi
    exact ⟨hname, hi⟩
  · rintro ⟨hname, hi⟩
    exact ⟨i.name, hname, hi⟩

theorem ascending_interfaces (hdistinct : (listing.getD []).Nodup) :
    Ascending Interface.name (h.interfaces roots) := by
  rw [interfaces_eq hlist]
  have hnames : Ascending (fun n => n) ((listing.getD []).mergeSort fun a b => a ≤ b) :=
    ascending_mergeSort (by rwa [List.map_id'])
  exact ascending_filterMap hnames fun name i hi => (interface?_eq_some_iff.mp hi).1

end

/-! ## All interfaces -/

/-- **The interfaces of a host**: one for each name in the directory whose driver is shown, by name,
with the facts of its first sources. The facts that have a stand-in are there and not empty, and
the order of the directory makes no difference. -/
theorem interface_scan (h : Host) (roots : Roots) (listing : Option (List String))
    (hlist : h.list (netDirectory roots) = listing.map (·.map encode))
    (hdistinct : (listing.getD []).Nodup) :
    Ascending Interface.name (h.interfaces roots) ∧
    (∀ i, i ∈ h.interfaces roots ↔
      i.name ∈ listing.getD [] ∧ i.CollectedAt h (interfacePlace roots i.name)) ∧
    (∀ name, (∃ i ∈ h.interfaces roots, i.name = name) ↔
      name ∈ listing.getD [] ∧ ∃ driver ∈ shownDrivers,
        h.LinksTo (below (interfacePlace roots name) "device/driver") (encode driver)) ∧
    (∀ i ∈ h.interfaces roots, ∀ fact ∈ [i.driverVersion, i.firmwareVersion, i.busInfo],
      ∃ v, fact = some v ∧ v ≠ "") ∧
    (∀ (h' : Host) (names : List String), names.Perm (listing.getD []) →
      h'.list (netDirectory roots) = some (names.map encode) →
      h'.content = h.content → h'.target = h.target → h'.output = h.output →
      h'.interfaces roots = h.interfaces roots) ∧
    (listing = none → h.interfaces roots = []) := by
  have hmem (i : Interface) : i ∈ h.interfaces roots ↔
      i.name ∈ listing.getD [] ∧ i.CollectedAt h (interfacePlace roots i.name) := by
    rw [mem_interfaces_iff hlist, interface?_eq_some_iff]
    exact and_congr_right fun _ => and_iff_right rfl
  refine ⟨ascending_interfaces hlist hdistinct, hmem, fun name => ?_,
    fun i hi => ((hmem i).mp hi).2.present,
    fun h' names hperm hlist' hcontent htarget houtput => ?_, fun hnone => ?_⟩
  · rw [← exists_interface?_iff]
    constructor
    · rintro ⟨i, hi, rfl⟩
      obtain ⟨hname, hread⟩ := (mem_interfaces_iff hlist).mp hi
      exact ⟨hname, i, hread⟩
    · rintro ⟨hname, i, hread⟩
      obtain ⟨rfl, -⟩ := interface?_eq_some_iff.mp hread
      exact ⟨i, (mem_interfaces_iff hlist).mpr ⟨hname, hread⟩, rfl⟩
  · have hlist' : h'.list (netDirectory roots) = (some names).map (·.map encode) := hlist'
    refine Ascending.eq (ascending_interfaces hlist' (hperm.nodup_iff.mpr hdistinct))
      (ascending_interfaces hlist hdistinct) fun i => ?_
    rw [mem_interfaces_iff hlist', mem_interfaces_iff hlist,
      interface?_congr hcontent htarget houtput]
    exact and_congr_left fun _ => hperm.mem_iff
  · subst hnone
    exact List.eq_nil_iff_forall_not_mem.mpr fun i hi =>
      absurd ((mem_interfaces_iff hlist).mp hi).1 List.not_mem_nil

/-- A directory with the loopback interface and one of Solarflare's, whose tools know its module
version and its bus address only. -/
theorem interface_scan_partial :
    let roots := Roots.default
    let names := ["lo", "eth0"]
    let h : Host := {
      kernel := none
      list := fun path => if path = netDirectory roots then some (names.map encode) else none
      content := fun path =>
        if path = below (interfacePlace roots "eth0") "address" then some (encode " \n") else none
      target := fun path =>
        if path = below (interfacePlace roots "eth0") "device/driver" then
          some (encode "../../bus/pci/drivers/sfc_ef100")
        else none
      output := fun tool _ =>
        if tool = "modinfo" then "\n 4.15 \n" else "version: 1\nbus-info: 0000:01:00.0\n" }
    let eth0 : Interface := {
      name := "eth0"
      driver := "sfc_ef100"
      busInfo := some "0000:01:00.0"
      driverVersion := some "4.15"
      firmwareVersion := some "unknown"
      macAddress := none }
    h.list (netDirectory roots) = (some names).map (·.map encode) ∧ names.Nodup ∧
      eth0 ∈ h.interfaces roots ∧ ∀ i ∈ h.interfaces roots, i.name ≠ "lo" := by
  intro roots names h eth0
  have hlist : h.list (netDirectory roots) = (some names).map (·.map encode) := by decide
  have hdistinct : names.Nodup := by decide
  obtain ⟨-, hmem, hnames, -⟩ := interface_scan h roots (some names) hlist hdistinct
  have hfirmware :
      (DriverInfo.ofText (h.output "ethtool" ["-i", "eth0"])).firmwareVersion = none := by decide
  have haddress : h.content (below (interfacePlace roots "eth0") "address") =
      some (encode " \n") := by decide
  have hcollected : eth0.CollectedAt h (interfacePlace roots "eth0") := {
    driver := by decide
    bound := ⟨encode "../../bus/pci/drivers/sfc_ef100", by decide, by decide⟩
    driverVersion := ⟨"4.15", rfl, .found ⟨[""], " 4.15 ", [], by decide, by decide, by decide,
      by decide⟩⟩
    firmwareVersion :=
      ⟨"unknown", rfl, .next (fun v hv => nomatch hfirmware.symm.trans hv) .unknown⟩
    busInfo := ⟨"0000:01:00.0", rfl, .found (by decide)⟩
    macAddress := fun mac => by
      refine ⟨nofun, ?_⟩
      rintro ⟨hne, content, hcontent, rfl⟩
      cases encode_injective (Option.some.inj (haddress.symm.trans hcontent))
      exact absurd (by decide) hne }
  refine ⟨hlist, hdistinct, (hmem eth0).mpr ⟨by decide, hcollected⟩, fun i hi hlo => ?_⟩
  obtain ⟨-, driver, -, target, htarget, -⟩ := (hnames "lo").mp ⟨i, hi, hlo⟩
  have hnone : h.target (below (interfacePlace roots "lo") "device/driver") = none := by decide
  exact nomatch hnone.symm.trans htarget

end Host

end AdapterReport
