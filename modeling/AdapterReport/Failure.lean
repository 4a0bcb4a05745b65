import AdapterReport.Json.Reader
import AdapterReport.Text.Digits

/-!
# Failures

What can go wrong outside the making of the document: each failure has a number, a category, a
headline and a message, and ends the program with an exit status. Only a source or a binary field
that cannot be read leaves a report that is worth writing.
-/

namespace AdapterReport

/-- What a failure is about. -/
inductive Category where
  /-- A fact could not be collected. -/
  | collection
  /-- The report could not be written. -/
  | output
  /-- A binary field was cut short. -/
  | binary
  /-- Reading, writing and encoding in general. -/
  | io
  /-- The configuration. -/
  | config
  deriving DecidableEq

namespace Category

/-- All categories. -/
def all : List Category := [.collection, .output, .binary, .io, .config]

/-- The name of a category. -/
def name : Category → String
  | .collection => "collection"
  | .output => "output"
  | .binary => "binary"
  | .io => "io"
  | .config => "config"

/-- Reads the name of a category. -/
def reader : Json.Reader Category :=
  Json.Reader.variant fun s => all.find? (·.name == s)

end Category

/-- A failure. -/
inductive Failure where
  | config (text : String)
  | source (name reason : String)
  /-- The report's file cannot be opened. -/
  | sink (path reason : String)
  /-- Bytes are asked for that lie past the end of a buffer. -/
  | shortBuffer (offset length available : Nat)
  | io (reason : String)
  | json (reason : String)

/-- How the program ends. -/
inductive ExitStatus where
  /-- The report is written, or the version is shown. -/
  | clean
  /-- The report could not be written. -/
  | outputError
  /-- The arguments or the configuration are not valid. -/
  | argumentError
  deriving DecidableEq

namespace ExitStatus

/-- The number that the program ends with. -/
def code : ExitStatus → Nat
  | .clean => 0
  | .outputError => 1
  | .argumentError => 2

/-- The name of an exit status. -/
def name : ExitStatus → String
  | .clean => "OK_CLEAN"
  | .outputError => "ERR_OUTPUT"
  | .argumentError => "ERR_ARGS"

end ExitStatus

namespace Failure

/-- The number of a failure: tens for the kind, 60 for reading, writing and encoding. -/
def code : Failure → Nat
  | .config _ => 10
  | .source _ _ => 20
  | .sink _ _ => 30
  | .shortBuffer _ _ _ => 40
  | .io _ => 60
  | .json _ => 61

/-- What a failure is about. -/
def category : Failure → Category
  | .config _ => .config
  | .source _ _ => .collection
  | .sink _ _ => .output
  | .shortBuffer _ _ _ => .binary
  | .io _ | .json _ => .io

/-- Whether a report can go on after the failure. -/
def isRecoverable : Failure → Bool
  | .source _ _ | .shortBuffer _ _ _ => true
  | .config _ | .sink _ _ | .io _ | .json _ => false

/-- A failure in a few words. -/
def headline : Failure → String
  | .config _ => "Configuration Error"
  | .source _ _ => "Source Unavailable"
  | .sink _ _ => "No write permissions on output directory."
  | .shortBuffer _ _ _ => "Malformed Binary Input"
  | .io _ => "I/O Error"
  | .json _ => "JSON Error"

/-- A failure in full. -/
def message : Failure → String
  | .config text => "configuration error: " ++ text
  | .source name reason => "source unavailable: " ++ name ++ ": " ++ reason
  | .sink path reason => "cannot open output '" ++ path ++ "': " ++ reason
  | .shortBuffer offset length available =>
    "read of " ++ Text.decimalPadded 1 length ++ " bytes at offset 0x" ++ Text.hex offset
      ++ " exceeds buffer of " ++ Text.decimalPadded 1 available ++ " bytes"
  | .io reason => "I/O error: " ++ reason
  | .json reason => "JSON serialization error: " ++ reason

/-- How the program ends after the failure. -/
def exitStatus (f : Failure) : ExitStatus :=
  if f.category = .config then .argumentError else .outputError

end Failure

end AdapterReport
