import AdapterReport.Proofs.Table.Layout
import AdapterReport.Proofs.Text.Lines

/-!
# Aligned lines

`table_aligned`: the lines of a table in plain text are aligned. A cell that is filled up to its
width stands where its column begins (`Fits.aligned`), since all cells before it and the gutters
between them have the same width in every line (`intercalate_split`, `length_take_flatMap`). The
cells of a table fit its widths, since these are the largest ones (`fits_of_mem`).
-/

namespace AdapterReport.Plain

/-! ## Blocks with a separator between them -/

section

variable {sep : List Char} {blocks : List (List Char)}

/-- A block stands behind the blocks before it, each with a separator. -/
theorem intercalate_split {x : Nat} {block : List Char} (h : blocks[x]? = some block) :
    sep.intercalate blocks =
      (blocks.take x).flatMap (· ++ sep) ++
        (block ++ (blocks.drop (x + 1)).flatMap (sep ++ ·)) := by
  induction blocks generalizing x with
  | nil => cases h
  | cons first blocks ih =>
    cases x with
    | zero =>
      cases h
      rw [Text.intercalate_cons]
      rfl
    | succ x =>
      have hrest := ih h
      cases blocks with
      | nil => cases h
      | cons next blocks =>
        rw [List.intercalate_cons_cons, hrest]
        simp

end

/-! ## Places in a line -/

/-- The characters of a text from a place on. -/
def slice (s : String) (start count : Nat) : List Char :=
  (s.toList.drop start).take count

/-- Where a column begins: behind the columns before it, each with `gap` more characters. -/
def columnStart (gap : Nat) (widths : List Nat) (x : Nat) : Nat :=
  (widths.take x).foldl (fun n w => n + (w + gap)) 0

/-- The width of a line with `gap` characters between its columns. -/
def lineWidth (gap : Nat) (widths : List Nat) : Nat :=
  widths.foldl (· + ·) 0 + gap * (widths.length - 1)

/-- Numbers are added up from any number on. -/
theorem foldl_add {α : Type} (f : α → Nat) (xs : List α) (n : Nat) :
    xs.foldl (fun n a => n + f a) n = n + xs.foldl (fun n a => n + f a) 0 := by
  induction xs generalizing n with
  | nil => rfl
  | cons a xs ih =>
    rw [List.foldl_cons, ih, List.foldl_cons, ih (0 + f a), Nat.zero_add, Nat.add_assoc]

theorem lineWidth_cons (gap w : Nat) (widths : List Nat) :
    lineWidth gap (w :: widths) = w + widths.foldl (fun n w => n + (gap + w)) 0 := by
  have hgap (ws : List Nat) : ws.foldl (fun n w => n + (gap + w)) 0 =
      ws.foldl (· + ·) 0 + gap * ws.length := by
    induction ws with
    | nil => rfl
    | cons v ws ih =>
      have hv := foldl_add (fun w => w) ws v
      rw [List.foldl_cons, foldl_add, ih, List.foldl_cons, Nat.zero_add, Nat.zero_add, hv,
        List.length_cons, Nat.mul_succ]
      omega
  have hw := foldl_add (fun w => w) widths w
  rw [hgap, lineWidth, List.foldl_cons, Nat.zero_add, hw, List.length_cons, Nat.add_sub_cancel,
    Nat.add_assoc]

variable {sep : List Char}

/-- The length of blocks that are each written in a way that adds to its length. -/
theorem length_flatMap (f : List Char → List Char) (g : Nat → Nat)
    (h : ∀ b, (f b).length = g b.length) (blocks : List (List Char)) :
    (blocks.flatMap f).length = (blocks.map List.length).foldl (fun n w => n + g w) 0 := by
  induction blocks with
  | nil => rfl
  | cons b blocks ih =>
    rw [List.flatMap_cons, List.length_append, ih, h, List.map_cons, List.foldl_cons,
      foldl_add g _ (0 + g b.length), Nat.zero_add]

theorem length_intercalate (blocks : List (List Char)) :
    (sep.intercalate blocks).length = lineWidth sep.length (blocks.map List.length) := by
  cases blocks with
  | nil => simp [lineWidth]
  | cons b blocks =>
    rw [Text.intercalate_cons, List.length_append, List.map_cons, lineWidth_cons,
      length_flatMap _ (sep.length + ·) (fun _ => List.length_append)]

theorem length_take_flatMap (blocks : List (List Char)) (x : Nat) :
    ((blocks.take x).flatMap (· ++ sep)).length =
      columnStart sep.length (blocks.map List.length) x := by
  rw [columnStart, ← List.map_take, length_flatMap _ (· + sep.length) (fun _ => List.length_append)]

/-! ## Cells in their columns -/

/-- The cells have a width each, and none is wider. -/
structure Fits (cells : List GridCell) (widths : List Nat) : Prop where
  length_eq : cells.length = widths.length
  le : ∀ (x : Nat) (c : GridCell) (w : Nat), cells[x]? = some c → widths[x]? = some w → c.width ≤ w

/-- A line in columns: each cell begins where its column does and is followed by blanks up to the
next column, of which the last two do not belong to it. -/
structure Aligned (widths : List Nat) (cells : List GridCell) (line : String) : Prop where
  length_eq : cells.length = widths.length
  cell : ∀ (x : Nat) (c : GridCell) (w : Nat), cells[x]? = some c → widths[x]? = some w →
    ∃ blanks, slice line (columnStart 2 widths x) w = c.text.toList ++ .replicate blanks ' '
  gap : ∀ (x w : Nat), widths[x]? = some w → x + 1 < widths.length →
    slice line (columnStart 2 widths x + w) 2 = [' ', ' ']

section

variable {cells : List GridCell} {widths : List Nat}

/-- The cells of a line, each filled up to its width. -/
def blocks (cells : List GridCell) (widths : List Nat) : List (List Char) :=
  (cells.zip widths).map fun c => (Text.pad c.2 c.1.text).toList

theorem toList_paddedCells (cells : List GridCell) (widths : List Nat) :
    (paddedCells cells widths).toList = gutter.toList.intercalate (blocks cells widths) := by
  simp [paddedCells, blocks, Function.comp_def]

theorem length_pad {w : Nat} {s : String} (h : s.length ≤ w) :
    (Text.pad w s).toList.length = w := by
  rw [String.length_toList, Text.pad, String.length_append, String.length_ofList,
    List.length_replicate, Nat.add_sub_cancel' h]

theorem getElem?_blocks {x w : Nat} {c : GridCell} (hc : cells[x]? = some c)
    (hw : widths[x]? = some w) :
    (blocks cells widths)[x]? = some (Text.pad w c.text).toList := by
  have hzip : (cells.zip widths)[x]? = some (c, w) := List.getElem?_zip_eq_some.mpr ⟨hc, hw⟩
  rw [blocks, List.getElem?_map, hzip]
  rfl

namespace Fits

theorem tail {c : GridCell} {w : Nat} (h : Fits (c :: cells) (w :: widths)) :
    Fits cells widths where
  length_eq := Nat.succ.inj h.length_eq
  le x c w hc hw := h.le (x + 1) c w hc hw

theorem map_length_blocks (h : Fits cells widths) :
    (blocks cells widths).map List.length = widths := by
  refine List.ext_getElem? fun x => ?_
  rw [List.getElem?_map]
  cases hw : widths[x]? with
  | none =>
    have hx := List.getElem?_eq_none_iff.mp hw
    rw [List.getElem?_eq_none (by simp [blocks]; omega)]
    rfl
  | some w =>
    have hx : x < cells.length := h.length_eq ▸ (List.getElem?_eq_some_iff.mp hw).1
    have hc := List.getElem?_eq_getElem hx
    rw [getElem?_blocks hc hw, Option.map_some, length_pad (h.le x _ w hc hw)]

theorem length_paddedCells (h : Fits cells widths) :
    (paddedCells cells widths).length = lineWidth 2 widths := by
  rw [← String.length_toList, toList_paddedCells, length_intercalate, h.map_length_blocks]
  rfl

/-- **Filled cells are aligned.** -/
theorem aligned (h : Fits cells widths) : Aligned widths cells (paddedCells cells widths) := by
  -- what a line looks like around one of its cells
  have hsplit (x : Nat) (c : GridCell) (w : Nat) (hc : cells[x]? = some c)
      (hw : widths[x]? = some w) : ∃ before, before.length = columnStart 2 widths x ∧
      (paddedCells cells widths).toList = before ++ ((Text.pad w c.text).toList ++
        ((blocks cells widths).drop (x + 1)).flatMap (gutter.toList ++ ·)) := by
    refine ⟨((blocks cells widths).take x).flatMap (· ++ gutter.toList), ?_, ?_⟩
    · rw [length_take_flatMap, h.map_length_blocks]
      rfl
    · rw [toList_paddedCells, intercalate_split (getElem?_blocks hc hw)]
  refine ⟨h.length_eq, fun x c w hc hw => ?_, fun x w hw hx => ?_⟩
  · obtain ⟨before, hlength, htext⟩ := hsplit x c w hc hw
    refine ⟨w - c.text.length, ?_⟩
    rw [slice, htext, List.drop_left' hlength, List.take_left' (length_pad (h.le x c w hc hw))]
    simp [Text.pad]
  · have hlt : x < cells.length := by rw [h.length_eq]; omega
    have hc := List.getElem?_eq_getElem hlt
    obtain ⟨before, hlength, htext⟩ := hsplit x _ w hc hw
    -- there is a block behind this one
    have hnext : x + 1 < (blocks cells widths).length := by
      simp [blocks, h.length_eq, hx]
    have hfront : (before ++ (Text.pad w cells[x].text).toList).length =
        columnStart 2 widths x + w := by
      rw [List.length_append, hlength, length_pad (h.le x _ w hc hw)]
    rw [slice, htext, ← List.append_assoc, List.drop_left' hfront,
      List.drop_eq_getElem_cons hnext]
    rfl

end Fits

end

/-- The lines of a grid fit its widths. -/
theorem fits_of_mem {t : Table} {line : List GridCell} (h : line ∈ t.grid.lines) :
    Fits line t.grid.widths where
  length_eq := Table.length_eq_length_widths h
  le _ c _ hc hw := (Grid.getElem?_widths_eq_some.mp hw).2 line h c hc

/-! ## The lines of a table -/

theorem tableLines_horizontal {t : Table} (ho : t.orientation = .horizontal) {head : List GridCell}
    {values : List (List GridCell)} (h : t.grid.lines = head :: values) :
    tableLines t = paddedCells head t.grid.widths :: Text.times (t.grid.totalWidth 2) '=' ::
      values.map (paddedCells · t.grid.widths) ++ if t.isEmpty then [noneFound] else [] := by
  rw [tableLines, ho]
  show horizontal t t.grid = _
  rw [horizontal, h]
  rfl

theorem verticalLine_of_values {widths : List Nat} {marked : Bool} {head : GridCell}
    {values : List GridCell} (h : values ≠ []) :
    verticalLine widths marked (head :: values) =
      Text.pad (widths.headD 0) head.text ++ " | " ++ paddedCells values widths.tail := by
  have hbar (s : String) : " |" ++ (" " ++ s) = " | " ++ s := by
    rw [← String.append_assoc]
    rfl
  rw [verticalLine, if_pos (by simpa using h), String.append_assoc, hbar, String.append_assoc]

/-- A vertical table with rows is its lines, none of them marked. -/
theorem tableLines_vertical {t : Table} (ho : t.orientation = .vertical) (h : t.rows ≠ []) :
    tableLines t = t.grid.lines.map (verticalLine t.grid.widths false) := by
  rw [tableLines, ho]
  show vertical t t.grid = _
  rw [vertical, Table.lines_vertical ho]
  cases t.attributes with
  | nil => simp [Table.isEmpty, h]
  | cons a rest =>
    have hvalues : (t.rows.map fun row => GridCell.value (row.get a)) ≠ [] := by simpa using h
    simp only [List.map_cons, verticalLine_of_values hvalues]

/-- A line of a vertical table with rows: a head, the bar and the values in their columns. -/
theorem verticalLine_aligned {widths : List Nat} {head : GridCell} {values : List GridCell}
    (hfits : Fits (head :: values) widths) (hvalues : values ≠ []) :
    ∃ width rest left right, widths = width :: rest ∧
      verticalLine widths false (head :: values) = left ++ " | " ++ right ∧
      left.length = width ∧ (∃ blanks, left.toList = head.text.toList ++ .replicate blanks ' ') ∧
      right.length = lineWidth 2 rest ∧ Aligned rest values right := by
  cases widths with
  | nil => exact absurd hfits.length_eq (by simp)
  | cons width rest =>
    have hwidth : head.text.length ≤ width := hfits.le 0 head width rfl rfl
    refine ⟨width, rest, Text.pad width head.text, paddedCells values rest, rfl,
      verticalLine_of_values hvalues, ?_, ⟨width - head.text.length, ?_⟩,
      hfits.tail.length_paddedCells, hfits.tail.aligned⟩
    · rw [← String.length_toList, length_pad hwidth]
    · simp [Text.pad]

theorem length_of_mem_padded (t : Table) :
    ∀ piece ∈ t.grid.lines.map (paddedCells · t.grid.widths),
      piece.length = t.grid.totalWidth 2 := by
  rw [List.forall_mem_map]
  exact fun _ hline => (fits_of_mem hline).length_paddedCells

theorem aligned_of_padded {t : Table} {y : Nat} {line : List GridCell} {piece : String}
    (hline : t.grid.lines[y]? = some line)
    (hpiece : (t.grid.lines.map (paddedCells · t.grid.widths))[y]? = some piece) :
    Aligned t.grid.widths line piece := by
  rw [List.getElem?_map, hline] at hpiece
  cases hpiece
  exact (fits_of_mem (List.mem_of_getElem? hline)).aligned

theorem length_of_mem_vertical {t : Table} (ho : t.orientation = .vertical) (h : t.rows ≠ []) :
    ∀ piece ∈ t.grid.lines.map (verticalLine t.grid.widths false),
      piece.length = t.grid.widths.headD 0 + 3 + lineWidth 2 t.grid.widths.tail := by
  rw [List.forall_mem_map]
  intro line hline
  have hfits := fits_of_mem hline
  rw [Table.lines_vertical ho] at hline
  obtain ⟨a, -, rfl⟩ := List.mem_map.mp hline
  obtain ⟨width, rest, left, right, hwidths, hpiece, hleft, -, hright, -⟩ :=
    verticalLine_aligned hfits (by simpa using h)
  rw [hpiece, String.length_append, String.length_append, hleft, hright, hwidths]
  rfl

/-- **The lines of a table are aligned**, with the rule and every row as wide as the heads. -/
theorem table_aligned (t : Table) :
    (t.orientation = .horizontal → t.attributes ≠ [] →
      ∃ (header rule : String) (rows : List String),
        encoder.table t = String.join
          ((header :: rule :: rows ++ if t.rows = [] then ["none found"] else []).map (· ++ "\n")) ∧
        rows.length = t.rows.length ∧
        rule.toList = .replicate (t.grid.totalWidth 2) '=' ∧
        (∀ piece ∈ header :: rule :: rows, piece.length = t.grid.totalWidth 2) ∧
        ∀ (y : Nat) (line : List GridCell) (piece : String), t.grid.lines[y]? = some line →
          (header :: rows)[y]? = some piece → Aligned t.grid.widths line piece) ∧
    (t.orientation = .vertical → t.rows ≠ [] →
      ∃ pieces : List String,
        encoder.table t = String.join (pieces.map (· ++ "\n")) ∧
        pieces.length = t.attributes.length ∧
        (∃ n, ∀ piece ∈ pieces, piece.length = n) ∧
        ∀ (y : Nat) (a piece : String), t.attributes[y]? = some a → pieces[y]? = some piece →
          ∃ values width widths left right, t.grid.lines[y]? = some (.head a :: values) ∧
            t.grid.widths = width :: widths ∧ piece = left ++ " | " ++ right ∧
            left.length = width ∧ (∃ blanks, left.toList = a.toList ++ .replicate blanks ' ') ∧
            right.length = lineWidth 2 widths ∧ Aligned widths values right) := by
  refine ⟨fun ho ha => ?_, fun ho hrows => ?_⟩
  · obtain ⟨head, values, hlines, hvalues⟩ : ∃ head values,
        t.grid.lines = head :: values ∧ values.length = t.rows.length :=
      ⟨_, _, Table.lines_horizontal ho ha, List.length_map _⟩
    have hlength := length_of_mem_padded t
    have haligned := @aligned_of_padded t
    rw [hlines, List.map_cons] at hlength haligned
    rw [← hlines] at haligned
    rw [List.forall_mem_cons] at hlength
    refine ⟨_, Text.times (t.grid.totalWidth 2) '=', values.map (paddedCells · t.grid.widths), ?_,
      by rw [List.length_map, hvalues], String.toList_ofList, ?_, fun _ _ _ => haligned⟩
    · show String.join (lineWrites (tableLines t)) = _
      rw [tableLines_horizontal ho hlines]
      simp [lineWrites, Table.isEmpty, noneFound]
    · rw [List.forall_mem_cons, List.forall_mem_cons]
      refine ⟨hlength.1, ?_, hlength.2⟩
      rw [Text.times, String.length_ofList, List.length_replicate]
  · refine ⟨t.grid.lines.map (verticalLine t.grid.widths false), ?_, ?_,
      ⟨_, length_of_mem_vertical ho hrows⟩, fun y a piece ha hpiece => ?_⟩
    · show String.join (lineWrites (tableLines t)) = _
      rw [tableLines_vertical ho hrows]
      rfl
    · rw [List.length_map, Table.lines_vertical ho, List.length_map]
    · have hline : t.grid.lines[y]? =
          some (.head a :: t.rows.map fun row => .value (row.get a)) := by
        rw [Table.lines_vertical ho, List.getElem?_map, ha]
        rfl
      rw [List.getElem?_map, hline] at hpiece
      cases hpiece
      obtain ⟨width, widths, left, right, hrest⟩ :=
        verticalLine_aligned (fits_of_mem (List.mem_of_getElem? hline)) (by simpa using hrows)
      exact ⟨_, width, widths, left, right, hline, hrest⟩

end AdapterReport.Plain
