import AdapterReport.Proofs.Html.Parts

/-!
# What decides the tags of a page

`outline` is what a reader finds of the tags of a page when the ids inside values are blanked out.
It is found in the text alone: an id stands in the single quotes of a name, an id, a reference or a
call (`MarkAttribute.blank`).

* `blank_heading`, `blank_footer`: behind the blanking a heading depends on whether there is an id
  and on the folding, a footer on whether there is an id, and both on nothing else.
* `marks_table`: the tags of a table depend on its shape alone.
-/

namespace AdapterReport.Html

/-! ## Blanking -/

/-- The characters that do not stand between double quotes, and these quotes. -/
def outsideQuotes : Bool → List Char → List Char
  | _, [] => []
  | inside, c :: rest =>
    if c = '\x22' then c :: outsideQuotes (!inside) rest
    else if inside then outsideQuotes inside rest
    else c :: outsideQuotes inside rest

/-- The value of the attribute with this name, without the id in it. -/
def blankValue (name : String) (value : List Char) : List Char :=
  if name = "name" then []
  else if name = "id" then value.drop (value.length - 2)
  else if name = "href" then value.take 1
  else if name = "onclick" then outsideQuotes false value
  else value

/-- An attribute without the id in it; ids stand in single quotes. -/
def MarkAttribute.blank (a : MarkAttribute) : MarkAttribute :=
  if a.quote = some '\x27' then { a with value := .ofList (blankValue a.name a.value.toList) }
  else a

/-- A tag without the ids in it. -/
def Mark.blank : Mark → Mark
  | .opening name attributes => .opening name (attributes.map MarkAttribute.blank)
  | .declaration s => .declaration s
  | .closing name => .closing name

/-- What a reader finds of the tags of a page, without the ids. -/
def outline (page : String) : Option (List (Option Mark)) :=
  (tags page).map fun found => found.map fun tag => (readTag tag).map Mark.blank

/-- Pieces behind the blanking. -/
def blankMarks (pieces : List Piece) : List Mark :=
  (marks pieces).map Mark.blank

theorem outline_render {pieces : List Piece} (h : Proper pieces) :
    outline (render pieces) = some ((blankMarks pieces).map some) := by
  rw [outline, tags_render h, Option.map_some, List.map_map, blankMarks, List.map_map]
  refine congrArg some (List.map_congr_left fun k hk => ?_)
  simp only [Function.comp_apply, readTag_of_mem h hk, Option.map_some]

example : outline "<a name='x'>1</a>" = outline "<a name='y z'>2</a>" := by decide

theorem blankMarks_append (ps qs : List Piece) :
    blankMarks (ps ++ qs) = blankMarks ps ++ blankMarks qs := by
  rw [blankMarks, marks_append, List.map_append, blankMarks, blankMarks]

/-! ## The four places of an id -/

theorem outsideQuotes_true {text : List Char} (h : '\x22' ∉ text) (rest : List Char) :
    outsideQuotes true (text ++ '\x22' :: rest) = '\x22' :: outsideQuotes false rest := by
  induction text with
  | nil => rw [List.nil_append, outsideQuotes, if_pos rfl, Bool.not_true]
  | cons c text ih =>
    rw [List.mem_cons, not_or] at h
    rw [List.cons_append, outsideQuotes, if_neg (Ne.symm h.1), if_pos rfl, ih h.2]

theorem outsideQuotes_false {text : List Char} (h : '\x22' ∉ text) (rest : List Char) :
    outsideQuotes false (text ++ rest) = text ++ outsideQuotes false rest := by
  induction text with
  | nil => rfl
  | cons c text ih =>
    rw [List.mem_cons, not_or] at h
    rw [List.cons_append, outsideQuotes, if_neg (Ne.symm h.1), if_neg Bool.false_ne_true, ih h.2]
    rfl

/-- A call between whose double quotes only an id stands. -/
theorem outsideQuotes_call (id : String) {before after : List Char} (hb : '\x22' ∉ before)
    (ha : '\x22' ∉ after) :
    outsideQuotes false (before ++ '\x22' :: ((escape id).toList ++ '\x22' :: after)) =
      before ++ '\x22' :: '\x22' :: after := by
  have hid : '\x22' ∉ (escape id).toList := not_mem_of_lacks (lacks_escape id) (by decide)
  have hend := outsideQuotes_false ha []
  rw [List.append_nil, outsideQuotes, List.append_nil] at hend
  rw [outsideQuotes_false hb, outsideQuotes, if_pos rfl, Bool.not_false, outsideQuotes_true hid,
    hend]

theorem blank_single (name : String) (value : List ValuePart) :
    (Attribute.mark ⟨name, .single, value⟩).blank = ⟨name, some '\x27',
      .ofList (blankValue name (value.flatMap fun part => part.text.toList))⟩ := by
  simp [Attribute.mark, MarkAttribute.blank, Attribute.valueText, Quotes.quote?, List.flatMap_map]

theorem blank_name (id : String) :
    (Attribute.mark ⟨"name", .single, [.inserted id]⟩).blank = ⟨"name", some '\x27', ""⟩ := by
  rw [blank_single, blankValue, if_pos rfl]

/-- An id with two more characters behind it. -/
theorem blank_id (id : String) {more : String} (h : more.toList.length = 2) :
    (Attribute.mark ⟨"id", .single, [.inserted id, .fixed more]⟩).blank =
      ⟨"id", some '\x27', more⟩ := by
  have hvalue : [ValuePart.inserted id, .fixed more].flatMap (fun part => part.text.toList) =
      (escape id).toList ++ more.toList := by
    simp [ValuePart.text]
  have hlen : ((escape id).toList ++ more.toList).length - 2 = (escape id).toList.length := by
    rw [List.length_append, h, Nat.add_sub_cancel]
  rw [blank_single, hvalue, blankValue, if_neg (by decide), if_pos rfl, hlen, List.drop_left,
    String.ofList_toList]

theorem blank_reference (id : String) :
    (reference id).mark.blank = ⟨"href", some '\x27', "#"⟩ := by
  rw [reference, blank_single, blankValue, if_neg (by decide), if_neg (by decide), if_pos rfl]
  rfl

theorem blank_toggleCall (id : String) {after : String} (h : '\x22' ∉ after.toList) :
    (toggleCall id after).mark.blank = ⟨"onclick", some '\x27', "toggle(\"\");" ++ after⟩ := by
  have hvalue : [ValuePart.fixed "toggle(\"", .inserted id, .fixed ("\");" ++ after)].flatMap
      (fun part => part.text.toList) = "toggle(".toList ++ '\x22' :: ((escape id).toList ++
        '\x22' :: (");".toList ++ after.toList)) := by
    simp [ValuePart.text]
  have hafter : '\x22' ∉ ");".toList ++ after.toList := by
    rw [List.mem_append, not_or]
    exact ⟨by decide, h⟩
  rw [toggleCall, blank_single, hvalue, blankValue, if_neg (by decide), if_neg (by decide),
    if_neg (by decide), if_pos rfl, outsideQuotes_call id (by decide) hafter]
  simp [← String.toList_inj]

/-! ## Headings and footers -/

/-- Behind the blanking a heading depends on whether there is an id and on the folding. -/
theorem blank_heading {title title' : String} {id id' : Option String} (h : id.isSome = id'.isSome)
    (collapsed : Bool) :
    blankMarks (headingPieces title id collapsed) =
      blankMarks (headingPieces title' id' collapsed) := by
  cases id with
  | none =>
    cases id' with
    | none => rfl
    | some id' => cases h
  | some id =>
    cases id' with
    | none => cases h
    | some id' =>
      simp [blankMarks, headingPieces, Mark.blank, blank_name, blank_id, blank_reference,
        blank_toggleCall]

theorem blank_footer {id id' : Option String} (h : id.isSome = id'.isSome) :
    blankMarks (footerPieces id) = blankMarks (footerPieces id') := by
  cases id with
  | none =>
    cases id' with
    | none => rfl
    | some id' => cases h
  | some id =>
    cases id' with
    | none => cases h
    | some id' => simp [blankMarks, footerPieces, Mark.blank, blank_reference, blank_toggleCall]

/-! ## Tables -/

/-- What of a table decides its tags. -/
structure TableShape where
  attributes : Nat
  rows : Nat
  orientation : Orientation
  valueStyle : ValueStyle
  deriving DecidableEq

/-- The shape of a table: its dimensions and how it is drawn. -/
def tableShape (t : Table) : TableShape :=
  ⟨t.attributes.length, t.rows.length, t.orientation, t.valueStyle⟩

/-- The lines of a grid of this shape: which of their cells are heads. -/
def TableShape.heads (shape : TableShape) : List (List Bool) :=
  match shape.orientation with
  | .horizontal =>
    if shape.attributes = 0 then []
    else .replicate shape.attributes true ::
      .replicate shape.rows (.replicate shape.attributes false)
  | .vertical => .replicate shape.attributes (true :: .replicate shape.rows false)

theorem map_eq_replicate {α β : Type} {f : α → β} {b : β} (h : ∀ x, f x = b) (xs : List α) :
    xs.map f = .replicate xs.length b := by
  rw [funext h, List.map_const']

theorem heads_grid (t : Table) :
    t.grid.lines.map (·.map GridCell.isHead) = (tableShape t).heads := by
  have hvalues (row : Row) : (t.attributes.map fun a => GridCell.value (row.get a)).map
      GridCell.isHead = .replicate t.attributes.length false := by
    rw [List.map_map]
    exact map_eq_replicate (fun _ => rfl) t.attributes
  have hcolumn (a : String) : (GridCell.head a :: t.rows.map fun row => .value (row.get a)).map
      GridCell.isHead = true :: .replicate t.rows.length false := by
    rw [List.map_cons, List.map_map]
    exact congrArg (true :: ·) (map_eq_replicate (fun _ => rfl) t.rows)
  unfold Table.grid TableShape.heads tableShape
  cases t.orientation with
  | horizontal =>
    show t.horizontalLines.map _ = if t.attributes.length = 0 then _ else _
    unfold Table.horizontalLines
    cases ha : t.attributes with
    | nil => rfl
    | cons first rest =>
      rw [← ha, if_neg (by simp [ha]), if_neg (by simp [ha]), List.map_cons, List.map_map,
        List.map_map]
      exact congr (congrArg List.cons (map_eq_replicate (fun _ => rfl) t.attributes))
        (map_eq_replicate hvalues t.rows)
  | vertical =>
    show t.verticalLines.map _ = _
    rw [Table.verticalLines, List.map_map]
    exact map_eq_replicate hcolumn t.attributes

theorem marks_flatMap {α : Type} (f : α → List Piece) (xs : List α) :
    marks (xs.flatMap f) = xs.flatMap fun x => marks (f x) := by
  induction xs with
  | nil => rfl
  | cons x xs ih => rw [List.flatMap_cons, marks_append, ih, List.flatMap_cons]

/-- The tags of cells that are heads or not. -/
def cellMarks (preformatted : Bool) (heads : List Bool) : List Mark :=
  heads.flatMap fun isHead => marks (cellPieces preformatted ⟨"", isHead⟩)

theorem marks_cells (preformatted : Bool) (line : List GridCell) :
    marks (line.flatMap (cellPieces preformatted)) =
      cellMarks preformatted (line.map GridCell.isHead) := by
  have hcell (c : GridCell) :
      marks (cellPieces preformatted c) = marks (cellPieces preformatted ⟨"", c.isHead⟩) := by
    unfold cellPieces
    cases c.isHead <;> cases preformatted <;> rfl
  rw [marks_flatMap, cellMarks, List.flatMap_map]
  exact congrArg (List.flatMap · line) (funext hcell)

theorem marks_linePieces (cells extra : List Piece) :
    marks (linePieces cells extra) =
      .opening "tr" [] :: (marks cells ++ marks extra ++ [.closing "tr"]) := by
  simp [linePieces]

/-- The tags of lines of such cells, with a note in the first one. -/
def lineMarks (preformatted : Bool) (note : List Mark) : List (List Bool) → List Mark
  | [] => []
  | first :: rest =>
    .opening "tr" [] :: (cellMarks preformatted first ++ note ++ [.closing "tr"]) ++
      rest.flatMap fun line =>
        .opening "tr" [] :: (cellMarks preformatted line ++ [] ++ [.closing "tr"])

theorem marks_grid (t : Table) :
    marks (gridPieces t) =
      lineMarks (t.valueStyle = .preformatted) (marks (firstLineNote t)) (tableShape t).heads := by
  rw [← heads_grid]
  unfold gridPieces
  cases t.grid.lines with
  | nil => rfl
  | cons first rest =>
    rw [marks_append, marks_flatMap]
    simp only [marks_linePieces, marks_cells, marks_nil, lineMarks, List.map_cons, List.flatMap_map]

/-- The notes that a table has no rows depend on its shape. -/
theorem notes_of_shape {t t' : Table} (h : tableShape t = tableShape t') :
    firstLineNote t = firstLineNote t' ∧ lastNote t = lastNote t' := by
  obtain ⟨hattributes, hrows, horientation, -⟩ := TableShape.mk.inj h
  have hisEmpty : t.isEmpty = t'.isEmpty := by
    rw [Table.isEmpty, Table.isEmpty, Bool.eq_iff_iff, List.isEmpty_iff_length_eq_zero,
      List.isEmpty_iff_length_eq_zero, hrows]
  have hnone : t.attributes.isEmpty = t'.attributes.isEmpty := by
    rw [Bool.eq_iff_iff, List.isEmpty_iff_length_eq_zero, List.isEmpty_iff_length_eq_zero,
      hattributes]
  constructor
  · rw [firstLineNote, firstLineNote, horientation, hisEmpty, hattributes]
  · rw [lastNote, lastNote, horientation, hisEmpty, hnone, hattributes]

/-- **The tags of a table** depend on its shape alone. -/
theorem marks_table {t t' : Table} (h : tableShape t = tableShape t') :
    marks (tablePieces t) = marks (tablePieces t') := by
  obtain ⟨hfirst, hlast⟩ := notes_of_shape h
  obtain ⟨-, -, horientation, hstyle⟩ := TableShape.mk.inj h
  have hgrid : marks (gridPieces t) = marks (gridPieces t') := by
    rw [marks_grid, marks_grid, h, hfirst, hstyle]
  simp only [tablePieces, marks_append, marks_fixed, marks_openTag, marks_closeTag, hgrid, hlast,
    horientation]

end AdapterReport.Html
