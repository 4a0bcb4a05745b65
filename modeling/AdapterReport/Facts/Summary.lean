import AdapterReport.Table.Basic

/-!
# The system summary

What is known about the host as a whole. Its JSON value always has all members; its table has a
line for each fact that is known.
-/

namespace AdapterReport

/-- Physical memory in megabytes. -/
structure Memory where
  totalMb : UInt64
  freeMb : UInt64
  deriving DecidableEq

/-- The identity and the resources of the host. -/
structure Summary where
  /-- The name of the kernel. -/
  osName : String
  /-- Release and version of the kernel. -/
  version : String
  architecture : String
  /-- The name of the host. -/
  systemName : String
  kernelCommandLine : Option String
  distribution : Option String
  memory : Option Memory
  deriving DecidableEq

namespace Memory

/-- Memory as a JSON value. -/
def toJson (m : Memory) : Json :=
  .object [("total_physical_mb", .number m.totalMb.toNat),
    ("free_physical_mb", .number m.freeMb.toNat)]

/-- A number of 64 bits. -/
def uint64? (n : Int) : Option UInt64 :=
  if 0 ≤ n && n < UInt64.size then some (UInt64.ofNat n.toNat) else none

open Json.Reader in
/-- The fields of memory. -/
def fields : List (RecordField Memory) :=
  [.of .required "total_physical_mb" (integer uint64?) fun x m => { m with totalMb := x },
    .of .required "free_physical_mb" (integer uint64?) fun x m => { m with freeMb := x }]

/-- Reads memory. -/
def reader : Json.Reader Memory :=
  Json.Reader.record fields ⟨0, 0⟩

/-- An amount with its unit. -/
def amount (mb : UInt64) : String :=
  Text.decimalPadded 1 mb.toNat ++ " MB"

end Memory

namespace Summary

/-- The title of the summary's section. -/
def title : String := "System Summary"

/-- The key of the summary's section. -/
def key : String := "system_summary"

/-- A summary of which nothing is known. -/
def blank : Summary :=
  ⟨"", "", "", "", none, none, none⟩

/-- A summary as a JSON value. -/
def toJson (s : Summary) : Json :=
  .object [
    ("os_name", .text s.osName),
    ("version", .text s.version),
    ("architecture", .text s.architecture),
    ("system_name", .text s.systemName),
    ("kernel_command_line", Json.ofText? s.kernelCommandLine),
    ("distribution", Json.ofText? s.distribution),
    ("memory", (s.memory.map Memory.toJson).getD .null)]

open Json.Reader in
/-- The fields of a summary. -/
def fields : List (RecordField Summary) :=
  [.of .required "os_name" text fun x s => { s with osName := x },
    .of .required "version" text fun x s => { s with version := x },
    .of .required "architecture" text fun x s => { s with architecture := x },
    .of .required "system_name" text fun x s => { s with systemName := x },
    .of .nullable "kernel_command_line" (nullable text) fun x s =>
      { s with kernelCommandLine := x },
    .of .nullable "distribution" (nullable text) fun x s => { s with distribution := x },
    .of .nullable "memory" (nullable Memory.reader) fun x s => { s with memory := x }]

/-- Reads a summary. -/
def reader : Json.Reader Summary :=
  Json.Reader.record fields blank

/-- The facts that are known, by the names of their lines. -/
def knownFacts (s : Summary) : List (String × String) :=
  [("OS Name", s.osName), ("Version", s.version), ("Architecture", s.architecture)]
    ++ (s.kernelCommandLine.map fun x => ("Kernel Command Line", x)).toList
    ++ (s.distribution.map fun x => ("Distribution", x)).toList
    ++ [("System Name", s.systemName)]
    ++ match s.memory with
      | none => []
      | some m => [("Total Physical Memory", Memory.amount m.totalMb),
          ("Free Physical Memory", Memory.amount m.freeMb)]

/-- A summary as a table of one column. -/
def table (s : Summary) : Table :=
  { Table.titled title (s.knownFacts.map (·.1)) with
    orientation := .vertical
    rows := [.ofList (s.knownFacts.map fun f => (f.1, .text f.2))] }

end Summary

end AdapterReport
