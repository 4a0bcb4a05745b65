import AdapterReport.Host.Basic
import AdapterReport.Facts.Interface

/-!
# Collecting facts

The collectors ask the host and never fail: a source that is missing or makes no sense leaves its
fact out. Lists are sorted, so the order in which the host lists a directory does not matter.
-/

namespace AdapterReport.Host

variable (h : Host)

/-! ## Devices -/

/-- The function with this name in the directory of devices. -/
def function? (directory name : List UInt8) : Option PciFunction :=
  let address := Text.Utf8.decodeLossy name
  if PciFunction.isAddress address then
    (h.content (below (Path.join directory name) "config")).map fun bytes => ⟨address, ⟨bytes⟩⟩
  else none

/-- All functions of the bus by their addresses. -/
def functions (roots : Roots) : List PciFunction :=
  let directory := below (Text.Utf8.encode roots.sysfs) "bus/pci/devices"
  (((h.list directory).getD []).filterMap (h.function? directory)).mergeSort
    fun a b => a.address ≤ b.address

/-- The devices that the report is about. -/
def devices (roots : Roots) : List Device :=
  ((h.functions roots).filter PciFunction.isSolarflare).map PciFunction.device

/-! ## Interfaces -/

/-- The drivers whose interfaces the report is about. -/
def solarflareDrivers : List String :=
  ["sfc", "sfc_ef100", "xilinx_efct"]

/-- What is shown for a fact that no source has. -/
def unknown : String := "unknown"

/-- The interface of this name, if its driver is one that the report is about. -/
def interface? (directory : List UInt8) (name : String) : Option Interface := do
  let place := below directory name
  let driver ← h.targetName? (below place "device/driver")
  if solarflareDrivers.contains driver then
    let info := DriverInfo.ofText (h.output "ethtool" ["-i", name])
    let moduleVersion := firstLine? (h.output "modinfo" ["-F", "version", driver])
    let address := (h.text? (below place "address")).map Text.trim
    return {
      name := name
      driver := driver
      busInfo := some ((info.busInfo.or (h.targetName? (below place "device"))).getD unknown)
      driverVersion := some ((moduleVersion.or info.version).getD unknown)
      firmwareVersion := some (info.firmwareVersion.getD unknown)
      macAddress := address.filter fun mac => !mac.isEmpty }
  else none

/-- The interfaces that the report is about, by their names. -/
def interfaces (roots : Roots) : List Interface :=
  let directory := below (Text.Utf8.encode roots.sysfs) "class/net"
  let names := ((h.list directory).getD []).map Text.Utf8.decodeLossy
  (names.mergeSort fun a b => a ≤ b).filterMap (h.interface? directory)

/-! ## The system -/

/-- The order of names by their bytes. -/
def bytesLe (a b : List UInt8) : Bool :=
  !decide (b < a)

/-- The first line of the first release file, by its name. -/
def releaseLine? (roots : Roots) : Option String := do
  let directory := Text.Utf8.encode roots.etc
  let names ← h.list directory
  let isRelease (name : List UInt8) : Bool :=
    (Text.Utf8.decode? name).any fun s => "-release".toList.isSuffixOf s.toList
  let first ← ((names.filter isRelease).mergeSort bytesLe).head?
  let line ← (Text.lines (← h.text? (Path.join directory first))).head?
  if line.isEmpty then none else some line

/-- The name of the distribution: what the tool for it says, else a release file, else the version
of Debian. -/
def distribution? (roots : Roots) : Option String :=
  let debian := (h.text? (below (Text.Utf8.encode roots.etc) "debian_version")).map fun version =>
    "Debian " ++ Text.trim version
  ((description? (h.output "lsb_release" ["-d"])).or (h.releaseLine? roots)).or debian

/-- The summary of the host. -/
def summary (roots : Roots) : Summary :=
  let proc := Text.Utf8.encode roots.procfs
  let kernel := h.kernel.getD ⟨"", "", "", "", ""⟩
  { osName := kernel.name
    version := kernel.release ++ " " ++ kernel.version
    architecture := kernel.machine
    systemName := h.hostname
    kernelCommandLine :=
      ((h.text? (below proc "cmdline")).map Text.trim).filter fun line => !line.isEmpty
    distribution := h.distribution? roots
    memory := (h.text? (below proc "meminfo")).bind memory? }

/-- How long the host has been up, in the words of the tool for it. -/
def uptime : String :=
  Text.trim (h.output "uptime" [])

end AdapterReport.Host
