import AdapterReport.Proofs.Html.Entities
import AdapterReport.Proofs.Html.Rows
import AdapterReport.Proofs.Table.Layout

/-!
# The grid of a table on a page

`table_read_back`: a reader of the page finds the lines of the grid again, each cell with its text
and whether it is a head, whatever the cells show. The reader takes entities for the characters that
they stand for, and it leaves out the element around a preformatted value and the note that there
are no rows.
-/

namespace AdapterReport.Html

/-! ## The reader -/

/-- Tokens without a tag as a text; `none` if there is a tag. -/
def plainChars? : List Token → Option (List Char)
  | [] => some []
  | .char c :: rest => (plainChars? rest).map (c :: ·)
  | .tag _ :: _ => none

/-- What stands in the element with this name, if there is nothing else. -/
def unwrap? (name : String) : List Token → Option (List Token)
  | .tag text :: rest =>
    if text = name.toList ∧ rest.getLast? = some (elementEnd name) then some rest.dropLast else none
  | _ => none

/-- The cell says that there are no rows. -/
def Element.isNote (e : Element) : Bool :=
  (unwrap? "em" e.contents).bind plainChars? = some "none found".toList

/-- The cell of the grid that an element shows; the values of a preformatted table stand in an
element of their own. -/
def Element.gridCell? (preformatted : Bool) (e : Element) : Option GridCell := do
  let isHead := e.name = "th"
  let contents ← if preformatted ∧ ¬ isHead then unwrap? "pre" e.contents else some e.contents
  let text ← plainChars? contents
  return ⟨unescape (.ofList text), isHead⟩

/-- The lines of a table as a reader of the page finds them; a note is no cell, and a row of
nothing else is no line. -/
def readGrid? (preformatted : Bool) (page : String) : Option (List (List GridCell)) := do
  let rows ← tableRows? page
  let lines := (rows.map fun row => row.filter (!·.isNote)).filter (!·.isEmpty)
  lines.mapM fun line => line.mapM (·.gridCell? preformatted)

/-! ## Reading the grid -/

theorem plainChars?_chars (text : List Char) : plainChars? (text.map .char) = some text := by
  induction text with
  | nil => rfl
  | cons c text ih => rw [List.map_cons, plainChars?, ih]; rfl

theorem pieceTokens_inserted (s : String) :
    pieceTokens [.inserted s] = (escape s).toList.map .char := by
  simp [pieceTokens, Piece.tokens, Piece.mark?, Piece.text]

theorem unwrap?_element {name : String} {ps : List Piece} :
    unwrap? name (pieceTokens (element name ps)) = some (pieceTokens ps) := by
  have htokens : pieceTokens (element name ps) =
      .tag name.toList :: (pieceTokens ps ++ [elementEnd name]) := by
    rw [element, tag, List.cons_append, pieceTokens_tag rfl, pieceTokens_append, Mark.text]
    simp [pieceTokens, Piece.tokens, Piece.mark?, Mark.text, elementEnd]
  rw [htokens, unwrap?]
  simp

theorem unwrap?_inserted (name s : String) : unwrap? name (pieceTokens [.inserted s]) = none := by
  rw [pieceTokens_inserted]
  cases (escape s).toList <;> rfl

/-- **A cell is read back**, whatever its text. -/
theorem gridCell?_cellElement (preformatted : Bool) (c : GridCell) :
    (cellElement preformatted c).gridCell? preformatted = some c := by
  obtain ⟨text, isHead⟩ := c
  cases isHead <;> cases preformatted <;>
    simp [cellElement, Element.gridCell?, unwrap?_element, pieceTokens_inserted, plainChars?_chars,
      unescape_escape]

theorem unwrap?_pre (s : String) :
    unwrap? "em" (pieceTokens (element "pre" [.inserted s])) = none := by
  rw [element, tag, List.cons_append, pieceTokens_tag rfl, unwrap?, if_neg]
  exact fun h => absurd h.1 (by decide)

theorem isNote_cellElement (preformatted : Bool) (c : GridCell) :
    (cellElement preformatted c).isNote = false := by
  have hnone : unwrap? "em" (cellElement preformatted c).contents = none := by
    unfold cellElement
    split
    · simp only [unwrap?_inserted]
    · cases preformatted with
      | false => simp only [Bool.false_eq_true, if_false, unwrap?_inserted]
      | true => simp only [if_true, unwrap?_pre]
  simp [Element.isNote, hnone]

theorem isNote_noteElement (attributes : List Attribute) :
    (noteElement attributes).isNote = true := by
  rw [Element.isNote, noteElement, unwrap?_element]
  decide

theorem filter_cells (preformatted : Bool) (line : List GridCell) :
    (line.map (cellElement preformatted)).filter (!·.isNote) =
      line.map (cellElement preformatted) := by
  rw [List.filter_eq_self, List.forall_mem_map]
  intro c _
  rw [isNote_cellElement]
  rfl

theorem filter_firstNote (t : Table) : (firstNote t).filter (!·.isNote) = [] := by
  unfold firstNote
  split <;> simp [isNote_noteElement]

theorem filter_lastRow (t : Table) :
    ((lastRow t).map fun row => row.filter (!·.isNote)).filter (!·.isEmpty) = [] := by
  unfold lastRow
  split
  · rfl
  split
  · simp [isNote_noteElement]
  split <;> simp [isNote_noteElement]

theorem line_ne_nil {t : Table} {line : List GridCell} (h : line ∈ t.grid.lines) : line ≠ [] := by
  have hlength := Table.length_of_mem_lines h
  have hpos : 0 < t.attributes.length :=
    List.length_pos_iff.mpr (Table.attributes_ne_nil_of_mem h)
  rintro rfl
  rw [Table.columnCount] at hlength
  split at hlength <;> simp at hlength <;> omega

theorem map_filter_gridRows (t : Table) :
    (gridRows t).map (fun row => row.filter (!·.isNote)) =
      t.grid.lines.map fun line => line.map (cellElement (t.valueStyle = .preformatted)) := by
  unfold gridRows
  cases t.grid.lines with
  | nil => rfl
  | cons first rest => simp [filter_cells, filter_firstNote, Function.comp_def]

/-- Without its notes a table is the lines of its grid. -/
theorem filter_rows (t : Table) :
    ((gridRows t ++ lastRow t).map fun row => row.filter (!·.isNote)).filter (!·.isEmpty) =
      t.grid.lines.map fun line => line.map (cellElement (t.valueStyle = .preformatted)) := by
  rw [List.map_append, List.filter_append, filter_lastRow, List.append_nil, map_filter_gridRows,
    List.filter_eq_self, List.forall_mem_map]
  intro line hline
  simpa using line_ne_nil hline

theorem mapM_map_some {α β : Type} {f : β → Option α} {g : α → β} (h : ∀ a, f (g a) = some a)
    (xs : List α) : (xs.map g).mapM f = some xs := by
  have hpure : f ∘ g = fun a => pure (id a) := funext h
  rw [List.mapM_map, hpure, List.mapM_pure, List.map_id]
  rfl

theorem readGrid?_table (t : Table) :
    readGrid? (t.valueStyle = .preformatted) (encoder.table t) = some t.grid.lines := by
  rw [readGrid?, tableRows?_table]
  show List.mapM _ (((gridRows t ++ lastRow t).map fun row =>
    row.filter (!·.isNote)).filter (!·.isEmpty)) = _
  rw [filter_rows]
  exact mapM_map_some (mapM_map_some (gridCell?_cellElement _)) t.grid.lines

/-- **A table is read back** from its page as the lines of its grid, whatever its cells show. So
two tables of one direction and style look the same only if they draw the same grid. -/
theorem table_read_back (t : Table) :
    readGrid? (t.valueStyle = .preformatted) (encoder.table t) = some t.grid.lines ∧
    ∀ u : Table, u.orientation = t.orientation → u.valueStyle = t.valueStyle →
      encoder.table u = encoder.table t → u.grid = t.grid := by
  refine ⟨readGrid?_table t, fun u _ hstyle hpage => ?_⟩
  have hlines : some u.grid.lines = some t.grid.lines := by
    rw [← readGrid?_table u, ← readGrid?_table t, hstyle, hpage]
  exact congrArg Grid.mk (Option.some.inj hlines)

end AdapterReport.Html
