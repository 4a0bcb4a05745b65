import AdapterReport.Format

/-!
# Where a report goes

A `Destination` is a format and a path, or standard output. A format that is asked for wins over the
one that the path suggests; without a path, a report in a format that is asked for goes to a file
whose name is made up from the host and the time.
-/

namespace AdapterReport

/-- The format of a report and the place where it goes. -/
structure Destination where
  format : Format
  /-- The path of a file; `none` means standard output. -/
  path : Option String
  deriving DecidableEq

namespace Destination

/-- The path that stands for standard output. -/
def standardOutput : String := "-"

/-- The format that flags ask for: the structured document before the inventory. -/
def askedFormat (json minimal : Bool) : Option Format :=
  if json then some .json else if minimal then some .minimal else none

/-- The destination that flags and an argument ask for. -/
def resolve (json minimal : Bool) (path : Option String) (filePrefix hostname : String)
    (moment : Moment) : Destination :=
  let path := path.filter (· != standardOutput)
  let asked := askedFormat json minimal
  { format := Format.resolve asked path
    path := path.or (asked.map (reportFileName filePrefix hostname moment)) }

/-- Whether the report goes to a file. -/
def isFile (d : Destination) : Bool :=
  d.path.isSome

/-- The name of the place in messages. -/
def display (d : Destination) : String :=
  d.path.getD "<stdout>"

end Destination

end AdapterReport
