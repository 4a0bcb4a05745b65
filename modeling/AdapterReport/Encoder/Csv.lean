import AdapterReport.Encoder.Basic

/-!
# Comma-separated values

The bare inventory: for each table its title, its attributes, its rows and an empty line. Nothing is
quoted, so a comma in a value moves the values behind it; readers of this format rely on it.
-/

namespace AdapterReport.Csv

/-- The values of a row, empty where there is none. -/
def rowLine (attributes : List String) (row : Row) : String :=
  ",".intercalate (attributes.map fun a => (row.get a).text?.getD "")

/-- The lines of a table, each written on its own. -/
def tableWrites (t : Table) : List String :=
  ["CSV:" ++ t.title ++ "\n", ",".intercalate t.attributes ++ "\n"]
    ++ t.rows.map (fun row => rowLine t.attributes row ++ "\n") ++ ["\n"]

/-- The encoder of comma-separated values. -/
def encoder : Encoder where
  format := .minimal
  headWrites _ := []
  headingWrites _ _ _ := []
  tableWrites := tableWrites
  footerWrites _ := []
  preformattedWrites _ _ := []
  tailWrites _ := []

end AdapterReport.Csv
