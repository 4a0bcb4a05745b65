import AdapterReport.Facts.Summary
import AdapterReport.Proofs.Table.Layout
import AdapterReport.Proofs.Text.Digits
import AdapterReport.Section

/-!
# The drawn summary

`Summary.drawn_whole`: the table of a summary shows what its JSON value has. Its lines stand in a
fixed order, a line is drawn exactly if the member that it goes with is not null, no line is drawn
from an absent cell, and summaries that are drawn alike are equal.

* `map_fst_knownFacts`: which lines there are goes by the three facts that may be missing alone
  (`lineNames`), so their order is settled by the cases of these.
* `lines_table`: the drawn lines are the known facts, so they determine them (`knownFacts_of_grid`).
* `lookup_knownFacts`: each fact is found again under the name of its line, an amount of memory by
  its digits (`Memory.amount_inj`).
-/

namespace AdapterReport

/-- An amount with its unit tells the number, up to the largest one. -/
theorem Memory.amount_inj {a b : UInt64} (h : amount a = amount b) : a = b := by
  have hdigits : Text.decimalPadded 1 a.toNat = Text.decimalPadded 1 b.toNat := by
    have hlist := congrArg String.toList h
    rw [amount, amount, String.toList_append, String.toList_append] at hlist
    exact String.toList_inj.mp (List.append_cancel_right hlist)
  have hnat := congrArg (fun s : String => Text.natOfDigits s.toList) hdigits
  simp only [Text.natOfDigits_decimalPadded_one] at hnat
  exact UInt64.toNat_inj.mp hnat

namespace Summary

variable {s t : Summary}

/-! ## The lines -/

/-- The names of the lines where the command line, the distribution and the memory are known or
not. -/
def lineNames (commandLine distribution memory : Bool) : List String :=
  ["OS Name", "Version", "Architecture"]
    ++ (if commandLine then ["Kernel Command Line"] else [])
    ++ (if distribution then ["Distribution"] else [])
    ++ ["System Name"]
    ++ if memory then ["Total Physical Memory", "Free Physical Memory"] else []

/-- All lines in their order, each with the key of the member that it goes with. -/
def lineKeys : List (String × String) :=
  [("OS Name", "os_name"), ("Version", "version"), ("Architecture", "architecture"),
    ("Kernel Command Line", "kernel_command_line"), ("Distribution", "distribution"),
    ("System Name", "system_name"), ("Total Physical Memory", "memory"),
    ("Free Physical Memory", "memory")]

theorem map_fst_knownFacts (s : Summary) :
    s.knownFacts.map (·.1) =
      lineNames s.kernelCommandLine.isSome s.distribution.isSome s.memory.isSome := by
  rcases s with ⟨_, _, _, _, commandLine, distribution, memory⟩
  cases commandLine <;> cases distribution <;> cases memory <;> rfl

theorem sublist_lineNames : ∀ commandLine distribution memory : Bool,
    (lineNames commandLine distribution memory).Sublist (lineKeys.map (·.1)) := by
  decide

theorem nodup_knownFacts (s : Summary) : (s.knownFacts.map (·.1)).Nodup := by
  rw [map_fst_knownFacts]
  exact (sublist_lineNames _ _ _).nodup (by decide)

/-! ## The members -/

/-- The keys of a summary in the document. -/
def memberKeys : List String :=
  ["os_name", "version", "architecture", "system_name", "kernel_command_line", "distribution",
    "memory"]

/-- The members of a summary in the document. -/
def members (s : Summary) : List (String × Json) :=
  [("os_name", .text s.osName), ("version", .text s.version),
    ("architecture", .text s.architecture), ("system_name", .text s.systemName),
    ("kernel_command_line", Json.ofText? s.kernelCommandLine),
    ("distribution", Json.ofText? s.distribution),
    ("memory", (s.memory.map Memory.toJson).getD .null)]

theorem toJson_ofSummary (s : Summary) : (Section.ofSummary s).toJson = .object s.members := rfl

theorem ofText?_eq_null_iff {o : Option String} : Json.ofText? o = .null ↔ o = none := by
  cases o <;> simp [Json.ofText?]

theorem memory_eq_null_iff {o : Option Memory} :
    (o.map Memory.toJson).getD .null = .null ↔ o = none := by
  cases o <;> simp [Memory.toJson]

/-- A line is drawn exactly if its member is not null. -/
theorem mem_knownFacts_iff (s : Summary) :
    ∀ line ∈ lineKeys, line.1 ∈ s.knownFacts.map (·.1) ↔
      s.members.lookup line.2 ≠ some .null := by
  rw [map_fst_knownFacts]
  rcases s with ⟨_, _, _, _, commandLine, distribution, memory⟩
  cases commandLine <;> cases distribution <;> cases memory <;>
    simp [lineKeys, lineNames, members, List.lookup_cons, Json.ofText?, Memory.toJson]

/-! ## The table -/

/-- The cells of the one row. -/
def cells (s : Summary) : List (String × Cell) :=
  s.knownFacts.map fun f => (f.1, .text f.2)

theorem map_fst_cells (s : Summary) : s.cells.map (·.1) = s.knownFacts.map (·.1) := by
  rw [cells, List.map_map]
  rfl

theorem get_cells {f : String × String} (h : f ∈ s.knownFacts) :
    (Row.ofList s.cells).get f.1 = .text f.2 := by
  refine Row.get_ofList_of_mem ?_ (List.mem_map_of_mem h)
  rw [map_fst_cells]
  exact nodup_knownFacts s

/-- The drawn lines are the known facts. -/
theorem lines_table (s : Summary) :
    s.table.grid.lines =
      s.knownFacts.map fun f => [.head f.1, .value (.text f.2)] := by
  have hattributes : s.table.attributes = s.knownFacts.map (·.1) := rfl
  have hrows : s.table.rows = [Row.ofList s.cells] := rfl
  rw [Table.lines_vertical rfl, hattributes, hrows, List.map_map]
  refine List.map_congr_left fun f hf => ?_
  rw [Function.comp_apply, List.map_singleton, get_cells hf]

theorem knownFacts_of_grid (h : s.table.grid = t.table.grid) : s.knownFacts = t.knownFacts := by
  have hlines := congrArg Grid.lines h
  rw [lines_table, lines_table] at hlines
  refine (List.map_inj_right fun f g hfg => ?_).mp hlines
  simp only [GridCell.head, GridCell.value, Cell.display, Cell.text?, List.cons.injEq,
    GridCell.mk.injEq] at hfg
  exact Prod.ext hfg.1.1 hfg.2.1.1

/-! ## Facts by the names of their lines -/

theorem lookup_knownFacts (s : Summary) :
    s.knownFacts.lookup "OS Name" = some s.osName ∧
      s.knownFacts.lookup "Version" = some s.version ∧
      s.knownFacts.lookup "Architecture" = some s.architecture ∧
      s.knownFacts.lookup "System Name" = some s.systemName ∧
      s.knownFacts.lookup "Kernel Command Line" = s.kernelCommandLine ∧
      s.knownFacts.lookup "Distribution" = s.distribution ∧
      s.knownFacts.lookup "Total Physical Memory" =
        s.memory.map (fun m => Memory.amount m.totalMb) ∧
      s.knownFacts.lookup "Free Physical Memory" =
        s.memory.map (fun m => Memory.amount m.freeMb) := by
  rcases s with ⟨_, _, _, _, commandLine, distribution, memory⟩
  cases commandLine <;> cases distribution <;> cases memory <;>
    simp [knownFacts, List.lookup_cons]

theorem memory_of_amounts {m n : Option Memory}
    (htotal : m.map (fun m => Memory.amount m.totalMb) =
      n.map (fun m => Memory.amount m.totalMb))
    (hfree : m.map (fun m => Memory.amount m.freeMb) =
      n.map (fun m => Memory.amount m.freeMb)) : m = n := by
  cases m with
  | none =>
    cases n with
    | none => rfl
    | some n => cases htotal
  | some m =>
    cases n with
    | none => cases htotal
    | some n =>
      have htotal : m.totalMb = n.totalMb := Memory.amount_inj (Option.some.inj htotal)
      have hfree : m.freeMb = n.freeMb := Memory.amount_inj (Option.some.inj hfree)
      cases m
      cases n
      simp_all

theorem eq_of_knownFacts (h : s.knownFacts = t.knownFacts) : s = t := by
  obtain ⟨hos, hversion, harchitecture, hsystem, hcommand, hdistribution, htotal, hfree⟩ :=
    lookup_knownFacts s
  obtain ⟨hos', hversion', harchitecture', hsystem', hcommand', hdistribution', htotal', hfree'⟩ :=
    lookup_knownFacts t
  rw [h] at hos hversion harchitecture hsystem hcommand hdistribution htotal hfree
  have hmemory : s.memory = t.memory :=
    memory_of_amounts (htotal.symm.trans htotal') (hfree.symm.trans hfree')
  cases s
  cases t
  simp_all

/-! ## The drawn summary -/

/-- The table shows what the members have: a line for every member that is not null, and a value in
every line. -/
structure Draws (members : List (String × Json)) (t : Table) : Prop where
  /-- The lines stand in the order of all lines. -/
  order : t.attributes.Sublist (lineKeys.map (·.1))
  distinct : t.attributes.Nodup
  occurs : ∀ line ∈ lineKeys, line.1 ∈ t.attributes ↔ members.lookup line.2 ≠ some .null
  oneRow : ∃ row, t.rows = [row] ∧ ∀ a ∈ t.attributes, row.get a ≠ .absent
  drawn : ∀ line ∈ t.grid.lines, ∃ a v, line = [.head a, .value (.text v)]

theorem draws (s : Summary) : Draws s.members s.table where
  order := by
    show (s.knownFacts.map (·.1)).Sublist _
    rw [map_fst_knownFacts]
    exact sublist_lineNames _ _ _
  distinct := nodup_knownFacts s
  occurs := mem_knownFacts_iff s
  oneRow := by
    refine ⟨Row.ofList s.cells, rfl, fun a ha => ?_⟩
    obtain ⟨f, hf, rfl⟩ := List.mem_map.mp ha
    rw [get_cells hf]
    exact fun h => nomatch h
  drawn := by
    intro line hline
    rw [lines_table] at hline
    obtain ⟨f, -, rfl⟩ := List.mem_map.mp hline
    exact ⟨f.1, f.2, rfl⟩

/-- **The drawn summary has all that the structured document has of it**: its lines go with the
members that are not null, which are the facts that are known, and equal tables, and even tables
that are only drawn alike, are of equal summaries. -/
theorem drawn_whole :
    (∀ s : Summary, ∃ members, (Section.ofSummary s).toJson = .object members ∧
      members.map (·.1) = memberKeys ∧ Draws members s.table ∧
      (members.lookup "kernel_command_line" ≠ some .null ↔ s.kernelCommandLine ≠ none) ∧
      (members.lookup "distribution" ≠ some .null ↔ s.distribution ≠ none) ∧
      (members.lookup "memory" ≠ some .null ↔ s.memory ≠ none)) ∧
    (∀ s t : Summary, s.table = t.table → s = t) ∧
    ∀ s t : Summary, s.table.grid = t.table.grid → s = t := by
  have hgrid (s t : Summary) (h : s.table.grid = t.table.grid) : s = t :=
    eq_of_knownFacts (knownFacts_of_grid h)
  refine ⟨fun s => ⟨s.members, toJson_ofSummary s, rfl, draws s, ?_, ?_, ?_⟩, fun s t h => ?_,
    hgrid⟩
  · show some (Json.ofText? s.kernelCommandLine) ≠ some .null ↔ _
    rw [ne_eq, Option.some_inj, ofText?_eq_null_iff]
  · show some (Json.ofText? s.distribution) ≠ some .null ↔ _
    rw [ne_eq, Option.some_inj, ofText?_eq_null_iff]
  · show some ((s.memory.map Memory.toJson).getD .null) ≠ some .null ↔ _
    rw [ne_eq, Option.some_inj, memory_eq_null_iff]
  · exact hgrid s t (by rw [h])

end Summary

end AdapterReport
