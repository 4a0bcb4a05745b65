import AdapterReport.Encoder.Csv
import AdapterReport.Proofs.Text.Lines

/-!
# Reading comma-separated values

Nothing is quoted, so a table can be read back only if its texts have no separator in them
(`Separable`). A `Sheet` is what a reader finds who splits a text at its line feeds and the lines
at their commas.

* `count_comma_rowLine`: the commas of a row stand between its values and in them.
* `ofText?_table`: a separable table with an attribute is read back.
* `table_decoded`: the lines of any table, and what a reader finds in them.
-/

namespace AdapterReport.Csv

/-! ## The reader -/

/-- What a reader finds of a table. -/
structure Sheet where
  title : String
  attributes : List String
  records : List (List String)
  deriving DecidableEq

/-- What stands between the separators of a text. -/
def parts (separator : Char) (s : String) : List String :=
  (s.split separator).toList.map (·.copy)

/-- The table in these lines: its title, its attributes, its records and an empty line, behind which
nothing stands. -/
def Sheet.ofLines? : List String → Option Sheet
  | first :: head :: rest =>
    match first.toList with
    | 'C' :: 'S' :: 'V' :: ':' :: title =>
      if rest.drop (rest.length - 2) = ["", ""] then
        some ⟨.ofList title, parts ',' head, (rest.take (rest.length - 2)).map (parts ',')⟩
      else none
    | _ => none
  | _ => none

/-- The table in a text. -/
def Sheet.ofText? (s : String) : Option Sheet :=
  Sheet.ofLines? (parts '\n' s)

/-! ## Lines and values -/

/-- The values of a row as they are written. -/
def values (attributes : List String) (row : Row) : List String :=
  attributes.map fun a => (row.get a).text?.getD ""

/-- The lines of a table. -/
def tableLines (t : Table) : List String :=
  ["CSV:" ++ t.title, ",".intercalate t.attributes] ++ t.rows.map (rowLine t.attributes) ++ [""]

theorem rowLine_eq (attributes : List String) (row : Row) :
    rowLine attributes row = ",".intercalate (values attributes row) :=
  rfl

theorem table_eq (t : Table) : encoder.table t = String.join ((tableLines t).map (· ++ "\n")) := by
  have hwrites : tableWrites t = (tableLines t).map (· ++ "\n") := by
    simp [tableWrites, tableLines]
  exact congrArg String.join hwrites

/-- Each separator stands between two of the blocks or in one of them. -/
theorem count_intercalate {sep : Char} (blocks : List (List Char)) :
    ([sep].intercalate blocks).count sep = blocks.length - 1 + blocks.flatten.count sep := by
  induction blocks with
  | nil => rfl
  | cons block blocks ih =>
    cases blocks with
    | nil => simp
    | cons next blocks =>
      have hflatten : (block :: next :: blocks).flatten = block ++ (next :: blocks).flatten :=
        List.flatten_cons
      have hlength : (block :: next :: blocks).length - 1 = (next :: blocks).length - 1 + 1 := rfl
      rw [List.intercalate_cons_cons, List.count_append, List.count_append, ih, hflatten, hlength,
        List.count_append, List.count_singleton_self]
      omega

/-- **The commas of a row** are one less than its attributes, and those in its values. -/
theorem count_comma_rowLine (attributes : List String) (row : Row) :
    (rowLine attributes row).toList.count ',' =
      (attributes.length - 1) + (String.join (values attributes row)).toList.count ',' := by
  have hlength : (values attributes row).length = attributes.length := List.length_map _
  rw [rowLine_eq, String.toList_intercalate, String.toList_join]
  show ([','].intercalate _).count ',' = _
  rw [count_intercalate, List.length_map, hlength, List.flatMap_def]

/-! ## Splitting -/

theorem parts_intercalate {separator : Char} {texts : List String} (hne : texts ≠ [])
    (h : ∀ s ∈ texts, separator ∉ s.toList) :
    parts separator ((String.singleton separator).intercalate texts) = texts := by
  rw [parts, String.toList_split_intercalate h, if_neg hne]

/-- Lines that each end in a line feed are lines with a line feed before every further one, and an
empty one behind them. -/
theorem join_lines (lines : List String) :
    String.join (lines.map (· ++ "\n")) = "\n".intercalate (lines ++ [""]) := by
  induction lines with
  | nil => rfl
  | cons line lines ih =>
    rw [List.map_cons, String.join_cons, ih, List.cons_append,
      String.intercalate_cons_of_ne_nil (by simp)]

theorem parts_lines {lines : List String} (h : ∀ s ∈ lines, '\n' ∉ s.toList) :
    parts '\n' (String.join (lines.map (· ++ "\n"))) = lines ++ [""] := by
  rw [join_lines]
  refine parts_intercalate (by simp) fun s hs => ?_
  rcases List.mem_append.mp hs with hline | hlast
  · exact h s hline
  · rw [List.mem_singleton.mp hlast]
    exact List.not_mem_nil

/-! ## Texts without separators -/

/-- Neither a comma nor a line feed stands in the text. -/
def Bare (s : String) : Prop :=
  ',' ∉ s.toList ∧ '\n' ∉ s.toList

/-- No text of the table has a separator in it; the title may have commas. -/
structure Separable (t : Table) : Prop where
  title : '\n' ∉ t.title.toList
  attributes : ∀ a ∈ t.attributes, Bare a
  cells : ∀ row ∈ t.rows, ∀ a ∈ t.attributes, ∀ s, row.get a = .text s → Bare s

/-- A number is written without separators. -/
theorem bare_integer (n : Int) : Bare (Json.integer n) := by
  have hdigits (m : Nat) {c : Char} (hc : c.isDigit = false) : c ∉ Nat.toDigits 10 m := fun hmem =>
    Bool.false_ne_true (hc.symm.trans (Nat.isDigit_of_mem_toDigits (by decide) (by decide) hmem))
  cases n with
  | ofNat m =>
    rw [Bare, Json.integer, String.toList_ofList]
    exact ⟨hdigits m (by decide), hdigits m (by decide)⟩
  | negSucc m =>
    simp only [Bare, Json.integer, String.toList_append, String.toList_ofList, List.mem_append,
      not_or]
    exact ⟨⟨by decide, hdigits _ (by decide)⟩, by decide, hdigits _ (by decide)⟩

theorem integer_ne_empty (n : Int) : Json.integer n ≠ "" := by
  intro h
  have hchars : (Json.integer n).toList = [] := by rw [h]; rfl
  cases n with
  | ofNat m =>
    rw [Json.integer, String.toList_ofList] at hchars
    exact Nat.toDigits_ne_nil hchars
  | negSucc m => simp [Json.integer] at hchars

/-- A value is written as nothing only if it is absent or an empty text. -/
theorem text?_getD_eq_empty_iff (c : Cell) : c.text?.getD "" = "" ↔ c = .absent ∨ c = .text "" := by
  cases c with
  | text s => simp [Cell.text?]
  | number n => simp [Cell.text?, integer_ne_empty]
  | absent => simp [Cell.text?]

variable {t : Table}

theorem Separable.values (h : Separable t) {row : Row} (hrow : row ∈ t.rows) :
    ∀ s ∈ values t.attributes row, Bare s := by
  intro s hs
  obtain ⟨a, ha, rfl⟩ := List.mem_map.mp hs
  cases hcell : row.get a with
  | text s => exact h.cells row hrow a ha s hcell
  | number n => exact bare_integer n.toInt
  | absent => exact ⟨List.not_mem_nil, List.not_mem_nil⟩

theorem Separable.tableLines (h : Separable t) : ∀ s ∈ tableLines t, '\n' ∉ s.toList := by
  simp only [Csv.tableLines, List.mem_append, List.mem_cons, List.mem_map, List.not_mem_nil,
    or_false]
  rintro s (((rfl | rfl) | ⟨row, hrow, rfl⟩) | rfl)
  · simpa using h.title
  · exact Text.not_mem_intercalate (by decide) fun a ha => (h.attributes a ha).2
  · exact Text.not_mem_intercalate (by decide) fun s hs => (h.values hrow s hs).2
  · exact List.not_mem_nil

/-! ## Reading a table back -/

/-- **A separable table with an attribute is read back**: its title, its attributes, and a record
for each row. -/
theorem ofText?_table (h : Separable t) (hne : t.attributes ≠ []) :
    Sheet.ofText? (encoder.table t) =
      some ⟨t.title, t.attributes, t.rows.map (values t.attributes)⟩ := by
  have hrecords : (t.rows.map (rowLine t.attributes)).map (parts ',') =
      t.rows.map (Csv.values t.attributes) := by
    rw [List.map_map]
    refine List.map_congr_left fun row hrow => ?_
    have hvalues : Csv.values t.attributes row ≠ [] := by simpa [Csv.values] using hne
    exact parts_intercalate hvalues fun s hs => (h.values hrow s hs).1
  have hhead : parts ',' (",".intercalate t.attributes) = t.attributes :=
    parts_intercalate hne fun a ha => (h.attributes a ha).1
  have hfirst : ("CSV:" ++ t.title).toList = 'C' :: 'S' :: 'V' :: ':' :: t.title.toList := by
    simp
  -- the last line feed ends the empty line
  have hlines : Csv.tableLines t ++ [""] = ("CSV:" ++ t.title) :: ",".intercalate t.attributes ::
      (t.rows.map (rowLine t.attributes) ++ ["", ""]) := by
    simp [Csv.tableLines]
  have hlength : (t.rows.map (rowLine t.attributes) ++ ["", ""]).length - 2 =
      (t.rows.map (rowLine t.attributes)).length := by
    simp
  rw [Sheet.ofText?, table_eq, parts_lines h.tableLines, hlines, Sheet.ofLines?]
  simp only [hfirst, hlength, List.drop_left, List.take_left, hrecords, hhead, if_true,
    String.ofList_toList]

/-- **A table in comma-separated values** has a line for its title, one for its attributes, one for
each row, and an empty one. A reader who splits the text at line feeds and commas gets the table
back, if no text of it has a separator; a value reads as empty exactly if it is absent or empty. -/
theorem table_decoded (t : Table) :
    encoder.table t = "CSV:" ++ t.title ++ "\n" ++ (",".intercalate t.attributes ++ "\n") ++
      String.join (t.rows.map fun row => rowLine t.attributes row ++ "\n") ++ "\n" ∧
    (∀ row ∈ t.rows, (rowLine t.attributes row).toList.count ',' =
      (t.attributes.length - 1) + (String.join (values t.attributes row)).toList.count ',') ∧
    (t.attributes ≠ [] → Separable t → Sheet.ofText? (encoder.table t) =
      some ⟨t.title, t.attributes, t.rows.map (values t.attributes)⟩) ∧
    ∀ row ∈ t.rows, ∀ a ∈ t.attributes,
      ((row.get a).text?.getD "" = "" ↔ row.get a = .absent ∨ row.get a = .text "") := by
  refine ⟨?_, fun row _ => count_comma_rowLine t.attributes row,
    fun hne h => ofText?_table h hne, fun row _ a _ => text?_getD_eq_empty_iff (row.get a)⟩
  show String.join (tableWrites t) = _
  simp [tableWrites, String.append_assoc]

/-- A record of one attribute whose value is absent is an empty line, and still a record. -/
theorem table_decoded_gaps :
    let t := { Table.titled "Ports, in use" ["name"] with
      rows := [.empty, .ofList [("name", .number (-7))], .ofList [("name", .text "")]] }
    t.attributes ≠ [] ∧ Separable t ∧ Sheet.ofText? (encoder.table t) =
      some ⟨"Ports, in use", ["name"], [[""], ["-7"], [""]]⟩ := by
  intro t
  have hne : t.attributes ≠ [] := by decide
  have hseparable : Separable t := by
    refine ⟨by decide, by simp [t, Table.titled, Bare], fun row hrow a ha s hs => ?_⟩
    have hname : a = "name" := List.mem_singleton.mp ha
    have hcells : ∀ row ∈ t.rows, row.get "name" ∈ [.absent, .number (-7), .text ""] := by
      simp only [t, List.forall_mem_cons]
      exact ⟨by decide, by decide, by decide, nofun⟩
    have hempty : s = "" := by simpa [hname ▸ hs] using hcells row hrow
    rw [hempty]
    exact ⟨List.not_mem_nil, List.not_mem_nil⟩
  exact ⟨hne, hseparable, (table_decoded t).2.2.1 hne hseparable⟩

end AdapterReport.Csv
