import AdapterReport.Proofs.Html.Elements

/-!
# The rows of a table

`tableRows?` finds the rows of the tables of a page, and in each of them the cells with their
attributes and what stands in them. `tableRows?_table`: the rows of a table are those of its grid,
with one note more where the table has no rows.
-/

namespace AdapterReport.Html

/-! ## The reader -/

/-- The rows of the tables of a page: for each the elements of its cells. -/
def tableRows? (page : String) : Option (List (List Element)) :=
  (tokens page).map fun ts =>
    (elementsFrom ["tr"] ts).map fun row => elementsFrom ["th", "td"] row.contents

/-! ## The elements of a table -/

/-- A cell of the grid as a reader finds it. -/
def cellElement (preformatted : Bool) (c : GridCell) : Element :=
  if c.isHead then ⟨"th", [], pieceTokens [.inserted c.text]⟩
  else ⟨"td", [], pieceTokens
    (if preformatted then element "pre" [.inserted c.text] else [.inserted c.text])⟩

/-- The note that a table has no rows as a reader finds it. -/
def noteElement (attributes : List Attribute) : Element :=
  ⟨"td", attributes.map Attribute.mark, pieceTokens (element "em" [.fixed noneFound])⟩

theorem finds_nil (names : List String) : Finds names [] [] :=
  fun _ => rfl

/-- The row of a line: its cells and something more. -/
def rowElement (cells extra : List Piece) : Element :=
  ⟨"tr", [], pieceTokens ([.fixed "\n"] ++ cells ++ extra ++ [.fixed "      "])⟩

theorem without_fixed {s : String} (names : List String) (h : lacks ['<'] s = true) :
    Without names [.fixed s] :=
  ⟨by rw [Proper, List.all_cons, Piece.proper, h]; rfl, rfl⟩

/-- Text of the template around pieces brings no element. -/
theorem Finds.framed {names : List String} {before after : String} {ps : List Piece}
    {es : List Element} (h : Finds names ps es) (hbefore : lacks ['<'] before = true)
    (hafter : lacks ['<'] after = true) :
    Finds names ([.fixed before] ++ ps ++ [.fixed after]) es := by
  have hframed := ((without_fixed names hbefore).finds.append h).append
    (without_fixed names hafter).finds
  rwa [List.nil_append, List.append_nil] at hframed

/-- An element of text alone has no element but itself. -/
theorem without_element {names : List String} {name : String} {ps : List Piece}
    (hname : name ∉ names) (hproper : Proper [tag name, .closeTag name])
    (h : Without names ps) : Without names (element name ps) := by
  rw [Proper, List.all_cons, List.all_cons, Bool.and_eq_true, Bool.and_eq_true] at hproper
  have hopen : Without names [tag name] :=
    ⟨by rw [Proper, List.all_cons, hproper.1]; rfl, by simp [Mark.isOf, hname]⟩
  have hclose : Without names [.closeTag name] :=
    ⟨by rw [Proper, List.all_cons, hproper.2.1]; rfl, by simp [Mark.isOf, hname]⟩
  exact (hopen.append h).append hclose

theorem finds_element {names : List String} {name : String} {ps : List Piece} (hname : name ∈ names)
    (hopen : (tag name).proper = true) (hend : Without [name] ps) (hinner : Without names ps) :
    Finds names (element name ps) [⟨name, [], pieceTokens ps⟩] :=
  elementsFrom_element hname hopen hend hinner

theorem finds_cell (preformatted : Bool) (c : GridCell) :
    Finds ["th", "td"] (cellPieces preformatted c) [cellElement preformatted c] := by
  have hcell : Finds ["th", "td"] (if c.isHead then element "th" [.inserted c.text]
      else element "td" (if preformatted then element "pre" [.inserted c.text]
        else [.inserted c.text])) [cellElement preformatted c] := by
    unfold cellElement
    split
    · exact finds_element (by decide) (by decide) (.inserted _ _) (.inserted _ _)
    · have hinner (names : List String) (h : "pre" ∉ names) :
          Without names (if preformatted then element "pre" [.inserted c.text]
            else [.inserted c.text]) := by
        split
        · exact without_element h (by decide) (.inserted _ _)
        · exact .inserted _ _
      exact finds_element (by decide) (by decide) (hinner _ (by decide)) (hinner _ (by decide))
  exact hcell.framed (by decide) (by decide)

theorem finds_note {attributes : List Attribute} (h : attributes.all (·.proper) = true) :
    Finds ["th", "td"] (nonePieces attributes) [noteElement attributes] := by
  have hinner (names : List String) (h : "em" ∉ names) :
      Without names (element "em" [.fixed noneFound]) :=
    without_element h (by decide) (without_fixed _ (by decide))
  have hopen : (Piece.openTag "td" attributes).proper = true := by
    rw [Piece.proper, h]
    decide
  exact elementsFrom_element (by decide) hopen (hinner _ (by decide)) (hinner _ (by decide))

theorem finds_line {cells extra : List Piece} (hc : Without ["tr"] cells)
    (he : Without ["tr"] extra) :
    Finds ["tr"] (linePieces cells extra) [rowElement cells extra] := by
  have hinner : Without ["tr"] ([.fixed "\n"] ++ cells ++ extra ++ [.fixed "      "]) :=
    (((without_fixed _ (by decide)).append hc).append he).append (without_fixed _ (by decide))
  have hline : Finds ["tr"] ([.fixed "      "] ++ element "tr" _ ++ [.fixed "\n"]) _ :=
    (finds_element (by decide) (by decide) hinner hinner).framed (by decide) (by decide)
  simpa [linePieces, element, rowElement] using hline

/-! ### Rows -/

theorem without_cell (preformatted : Bool) (c : GridCell) :
    Without ["tr"] (cellPieces preformatted c) where
  proper := (nested_cell preformatted c).proper
  absent := by
    unfold cellPieces
    cases c.isHead <;> cases preformatted <;> simp [element, Mark.isOf]

theorem without_notes (t : Table) : Without ["tr"] (firstLineNote t) := by
  refine ⟨(nested_firstLineNote t).proper, ?_⟩
  unfold firstLineNote
  split <;> simp [nonePieces, element, Mark.isOf]

/-- The note in the first line of a table as a reader finds it. -/
def firstNote (t : Table) : List Element :=
  if t.orientation = .vertical && t.isEmpty then [noteElement [span "rowspan" t.attributes.length]]
  else []

/-- The row below the lines of a table as a reader finds it. -/
def lastRow (t : Table) : List (List Element) :=
  if !t.isEmpty then []
  else if t.attributes.isEmpty then [[noteElement []]]
  else if t.orientation = .horizontal then [[noteElement [span "colspan" t.attributes.length]]]
  else []

/-- The lines of a table as a reader finds them, with a note in the first one if it has one. -/
def gridRows (t : Table) : List (List Element) :=
  let cells (line : List GridCell) := line.map (cellElement (t.valueStyle = .preformatted))
  match t.grid.lines with
  | [] => []
  | first :: rest => (cells first ++ firstNote t) :: rest.map cells

theorem proper_spans {name : String} (h : lacks ['=', '>'] name = true) (count : Nat) :
    [span name count].all (·.proper) = true := by
  rw [List.all_cons, proper_span h]
  rfl

theorem finds_firstLineNote (t : Table) : Finds ["th", "td"] (firstLineNote t) (firstNote t) := by
  unfold firstLineNote firstNote
  split
  · exact (finds_note (proper_spans (by decide) _)).framed (by decide) (by decide)
  · exact finds_nil _

/-- The cells of a row are those of its line and the note in it. -/
theorem elements_rowElement {cells extra : List Piece} {es fs : List Element}
    (hc : Finds ["th", "td"] cells es) (he : Finds ["th", "td"] extra fs) :
    elementsFrom ["th", "td"] (rowElement cells extra).contents = es ++ fs := by
  have hrow : Finds ["th", "td"] ([.fixed "\n"] ++ (cells ++ extra) ++ [.fixed "      "])
      (es ++ fs) :=
    (hc.append he).framed (by decide) (by decide)
  simpa [rowElement] using hrow.elements

theorem finds_lastNote (t : Table) :
    ∃ rows, Finds ["tr"] (lastNote t) rows ∧
      rows.map (fun row => elementsFrom ["th", "td"] row.contents) = lastRow t := by
  unfold lastNote lastRow
  split
  · exact ⟨[], finds_nil _, rfl⟩
  split
  · have hnote : Without ["tr"] (nonePieces []) := ⟨by decide, by decide⟩
    refine ⟨[⟨"tr", [], pieceTokens (nonePieces [])⟩], ?_, ?_⟩
    · have hline : Finds ["tr"] ([.fixed "      "] ++ element "tr" _ ++ [.fixed "\n"]) _ :=
        (finds_element (by decide) (by decide) hnote hnote).framed (by decide) (by decide)
      simpa [element] using hline
    · rw [List.map_singleton, (finds_note rfl).elements]
  split
  · have hspans : [span "colspan" t.attributes.length].all (·.proper) = true :=
      proper_spans (by decide) _
    have hcells : Finds ["th", "td"] ([.fixed "        "] ++
        nonePieces [span "colspan" t.attributes.length] ++ [.fixed "\n"]) _ :=
      (finds_note hspans).framed (by decide) (by decide)
    refine ⟨[rowElement _ []], finds_line ⟨?_, ?_⟩ ⟨rfl, rfl⟩, ?_⟩
    · exact (((Nested.fixed (by decide)).append (nested_none hspans)).append
        (.fixed (by decide))).proper
    · simp [nonePieces, element, Mark.isOf]
    · rw [List.map_singleton, elements_rowElement hcells (finds_nil _)]
      rfl
  · exact ⟨[], finds_nil _, rfl⟩

theorem finds_cells (preformatted : Bool) (line : List GridCell) :
    Finds ["th", "td"] (line.flatMap (cellPieces preformatted))
      (line.map (cellElement preformatted)) :=
  .flatMap (finds_cell preformatted) line

/-- **The rows of a table** are those of its grid, with a note if it has no rows. -/
theorem tableRows?_table (t : Table) :
    tableRows? (encoder.table t) = some (gridRows t ++ lastRow t) := by
  have hcells (line : List GridCell) :
      Without ["tr"] (line.flatMap (cellPieces (t.valueStyle = .preformatted))) :=
    .flatMap (without_cell _) line
  have hnil : Without ["tr"] [] := ⟨rfl, rfl⟩
  have hgrid : ∃ rows, Finds ["tr"] (gridPieces t) rows ∧
      rows.map (fun row => elementsFrom ["th", "td"] row.contents) = gridRows t := by
    unfold gridPieces gridRows
    cases t.grid.lines with
    | nil => exact ⟨[], finds_nil _, rfl⟩
    | cons first rest =>
      refine ⟨_, (finds_line (hcells first) (without_notes t)).append
        (.flatMap (fun line => finds_line (hcells line) hnil) rest), ?_⟩
      have hfirst := elements_rowElement (finds_cells (t.valueStyle = .preformatted) first)
        (finds_firstLineNote t)
      have hrest (line : List GridCell) := elements_rowElement
        (finds_cells (t.valueStyle = .preformatted) line) (finds_nil _)
      simp only [List.append_nil] at hrest
      simp [hfirst, hrest, Function.comp_def]
  obtain ⟨rows, hrows, hdrawn⟩ := hgrid
  obtain ⟨last, hlast, hlastRow⟩ := finds_lastNote t
  have hopen : Without ["tr"] [.fixed "    ",
      .openTag "table" [⟨"class", .double, [.fixed t.orientation.styleClass]⟩], .fixed "\n"] := by
    cases t.orientation <;> exact ⟨by decide, by decide⟩
  have hclose : Without ["tr"] [.fixed "    ", .closeTag "table", .fixed "\n"] :=
    ⟨by decide, by decide⟩
  have htable : Finds ["tr"] (tablePieces t) ([] ++ rows ++ last ++ []) :=
    ((hopen.finds.append hrows).append hlast).append hclose.finds
  have htokens : tokens (encoder.table t) = some (pieceTokens (tablePieces t)) :=
    tokens_render (nested_table t).proper
  rw [tableRows?, htokens, Option.map_some, htable.elements, ← hdrawn, ← hlastRow]
  simp

end AdapterReport.Html
