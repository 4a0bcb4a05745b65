import AdapterReport.Html.Page
import AdapterReport.Proofs.Html.Nesting
import AdapterReport.Proofs.Text.Digits

/-!
# The parts of a page

All that a section consists of is nested (`nested_table`, `nested_preformatted`,
`nested_heading`), except that a heading with an id ends with the tag that opens its block
(`headingPieces_block`) and the footer with the tag that closes it (`footerPieces_block`). The head
of a page leaves two elements open, which its end closes (`nest_headPieces`, `nest_tailPieces`).
No table has an element that is not one of its own (`ofTable_table`).
-/

namespace AdapterReport.Html

/-! ## Tables -/

/-- A number is written in digits. -/
theorem lacks_decimalPadded {reserved : List Char}
    (h : reserved.all (fun c => !c.isDigit) = true) (width n : Nat) :
    lacks reserved (Text.decimalPadded width n) = true := by
  unfold lacks
  rw [List.all_eq_true]
  intro c hc
  rw [Bool.not_eq_true', List.contains_eq_mem, decide_eq_false_iff_not]
  intro hmem
  have hno := List.all_eq_true.mp h c hmem
  rw [Text.isDigit_of_mem_decimalPadded hc] at hno
  cases hno

theorem proper_span {name : String} (h : lacks ['=', '>'] name = true) (count : Nat) :
    (span name count).proper = true := by
  have hdigits : lacks ['>', '\x22'] (Text.decimalPadded 1 count) = true :=
    lacks_decimalPadded (by decide) _ _
  simp [span, Attribute.proper, ValuePart.lacks, h, hdigits]

theorem nested_cell (preformatted : Bool) (c : GridCell) : Nested (cellPieces preformatted c) := by
  have htext : Nested [.inserted c.text] := .inserted c.text
  refine ((Nested.fixed (by decide)).append ?_).append (.fixed (by decide))
  split
  · exact htext.enclosed (by decide)
  · split
    · have hpre : Nested (element "pre" [.inserted c.text]) := htext.enclosed (by decide)
      exact hpre.enclosed (by decide)
    · exact htext.enclosed (by decide)

theorem nested_none {attributes : List Attribute} (h : attributes.all (·.proper) = true) :
    Nested (nonePieces attributes) := by
  have htext : Nested (element "em" [.fixed noneFound]) :=
    (Nested.fixed (by decide)).enclosed (by decide)
  have hproper : Proper [.openTag "td" attributes, .closeTag "td"] := by
    rw [Proper, List.all_cons, Piece.proper, h]
    decide
  exact htext.enclosed ⟨by decide, by decide, hproper⟩

theorem nested_line {cells extra : List Piece} (hc : Nested cells) (he : Nested extra) :
    Nested (linePieces cells extra) := by
  have hinner : Nested ([.fixed "\n"] ++ cells ++ extra ++ [.fixed "      "]) :=
    (((Nested.fixed (by decide)).append hc).append he).append (.fixed (by decide))
  have hrow : Encloses "tr" [] := by decide
  have hline : Nested ([.fixed "      "] ++ element "tr" _ ++ [.fixed "\n"]) :=
    ((Nested.fixed (by decide)).append (hinner.enclosed hrow)).append (.fixed (by decide))
  simpa [linePieces, element] using hline

theorem nested_firstLineNote (t : Table) : Nested (firstLineNote t) := by
  unfold firstLineNote
  split
  · refine ((Nested.fixed (by decide)).append (nested_none ?_)).append (.fixed (by decide))
    rw [List.all_cons, proper_span (by decide)]
    rfl
  · exact .nil

theorem nested_lastNote (t : Table) : Nested (lastNote t) := by
  unfold lastNote
  split
  · exact .nil
  split
  · have hnote : Nested (nonePieces []) := nested_none rfl
    have hrow : Encloses "tr" [] := by decide
    have hline : Nested ([.fixed "      "] ++ element "tr" (nonePieces []) ++ [.fixed "\n"]) :=
      ((Nested.fixed (by decide)).append (hnote.enclosed hrow)).append (.fixed (by decide))
    simpa [element] using hline
  split
  · refine nested_line (((Nested.fixed (by decide)).append (nested_none ?_)).append
      (.fixed (by decide))) .nil
    rw [List.all_cons, proper_span (by decide)]
    rfl
  · exact .nil

theorem nested_grid (t : Table) : Nested (gridPieces t) := by
  have hcells (line : List GridCell) :
      Nested (line.flatMap (cellPieces (t.valueStyle = .preformatted))) :=
    .flatMap (nested_cell _) line
  unfold gridPieces
  split
  · exact .nil
  · exact (nested_line (hcells _) (nested_firstLineNote t)).append
      (.flatMap (fun line => nested_line (hcells line) .nil) _)

/-- **A table is nested**, whatever its cells show. -/
theorem nested_table (t : Table) : Nested (tablePieces t) := by
  have hinner : Nested ([.fixed "\n"] ++ gridPieces t ++ lastNote t ++ [.fixed "    "]) :=
    (((Nested.fixed (by decide)).append (nested_grid t)).append (nested_lastNote t)).append
      (.fixed (by decide))
  have hclass : Encloses "table" [⟨"class", .double, [.fixed t.orientation.styleClass]⟩] := by
    cases t.orientation <;> decide
  have htable : Nested ([.fixed "    "] ++ _ ++ [.fixed "\n"]) :=
    ((Nested.fixed (by decide)).append (hinner.enclosed hclass)).append (.fixed (by decide))
  simpa [tablePieces] using htable

/-! ## The elements of a table -/

/-- The tag opens or closes an element with one of these names. -/
def Mark.isOf (names : List String) : Mark → Bool
  | .declaration _ => false
  | .opening name _ | .closing name => names.contains name

/-- The elements of which a table consists. -/
def tableElements : List String :=
  ["table", "tr", "th", "td", "pre", "em"]

/-- All tags of the pieces are of elements of which a table consists. -/
def OfTable (pieces : List Piece) : Prop :=
  (marks pieces).all (·.isOf tableElements) = true

instance (pieces : List Piece) : Decidable (OfTable pieces) :=
  inferInstanceAs (Decidable (_ = true))

theorem OfTable.append {ps qs : List Piece} (hp : OfTable ps) (hq : OfTable qs) :
    OfTable (ps ++ qs) := by
  rw [OfTable, marks_append, List.all_append, Bool.and_eq_true]
  exact ⟨hp, hq⟩

theorem OfTable.flatMap {α : Type} {f : α → List Piece} (h : ∀ x, OfTable (f x)) (xs : List α) :
    OfTable (xs.flatMap f) := by
  induction xs with
  | nil => rfl
  | cons x xs ih =>
    rw [List.flatMap_cons]
    exact (h x).append ih

theorem ofTable_cell (preformatted : Bool) (c : GridCell) :
    OfTable (cellPieces preformatted c) := by
  unfold cellPieces
  split
  · rfl
  · split <;> rfl

theorem ofTable_line {cells extra : List Piece} (hc : OfTable cells) (he : OfTable extra) :
    OfTable (linePieces cells extra) := by
  have hopen : OfTable [.fixed "      ", tag "tr", .fixed "\n"] := by decide
  have hclose : OfTable [.fixed "      ", .closeTag "tr", .fixed "\n"] := by decide
  exact ((hopen.append hc).append he).append hclose

theorem ofTable_notes (t : Table) : OfTable (firstLineNote t) ∧ OfTable (lastNote t) := by
  constructor
  · unfold firstLineNote
    split <;> rfl
  · unfold lastNote
    split
    · rfl
    split
    · rfl
    split <;> rfl

theorem ofTable_grid (t : Table) : OfTable (gridPieces t) := by
  have hcells (line : List GridCell) :
      OfTable (line.flatMap (cellPieces (t.valueStyle = .preformatted))) :=
    .flatMap (ofTable_cell _) line
  unfold gridPieces
  split
  · rfl
  · have hnil : OfTable [] := rfl
    exact (ofTable_line (hcells _) (ofTable_notes t).1).append
      (.flatMap (fun line => ofTable_line (hcells line) hnil) _)

/-- **A table consists of its elements**: no cell brings in another one. -/
theorem ofTable_table (t : Table) : OfTable (tablePieces t) := by
  have hopen : OfTable [.fixed "    ",
      .openTag "table" [⟨"class", .double, [.fixed t.orientation.styleClass]⟩], .fixed "\n"] := rfl
  have hclose : OfTable [.fixed "    ", .closeTag "table", .fixed "\n"] := by decide
  exact ((hopen.append (ofTable_grid t)).append (ofTable_notes t).2).append hclose

theorem isOf_of_mem_table {t : Table} {k : Mark} (h : k ∈ marks (tablePieces t)) :
    k.isOf tableElements = true :=
  List.all_eq_true.mp (ofTable_table t) k h

theorem nested_preformatted (text : String) : Nested (preformattedPieces text) :=
  ((Nested.fixed (by decide)).append ((Nested.inserted text).enclosed (by decide))).append
    (.fixed (by decide))

/-! ## Headings and footers -/

/-- The heading of a section with an id, up to its block. -/
def headingLinks (title id : String) (collapsed : Bool) : List Piece :=
  [.openTag "table" [⟨"rows", .none, [.fixed "1"]⟩, ⟨"cols", .none, [.fixed "2"]⟩, noBorder],
    .fixed "\n", .openTag "tr" [noBorder], .fixed "\n", .openTag "td" [noBorder], .fixed "\n",
    .openTag "a" [⟨"name", .single, [.inserted id]⟩]] ++ element "h2" [.inserted title] ++
  [.closeTag "a", .closeTag "td", .fixed "\n", .openTag "td" [noBorder], .fixed "\n",
    .openTag "a" [⟨"id", .single, [.inserted id, .fixed "_l"]⟩, reference id,
      toggleCall id " return false;"],
    .fixed (linkText collapsed), .closeTag "a", .fixed "\n", .closeTag "td", .closeTag "tr",
    .closeTag "table", .fixed "\n"]

/-- The attributes of the block of a section. -/
def blockAttributes (id : String) (collapsed : Bool) : List Attribute :=
  [⟨"style", .single, [.fixed (displayText collapsed)]⟩,
    ⟨"id", .single, [.inserted id, .fixed "_c"]⟩]

/-- The footer of a section with an id, up to the end of its block. -/
def footerLinks (id : String) : List Piece :=
  [.openTag "a" [reference id, toggleCall id ""], .fixed "Hide ", .inserted id, .closeTag "a",
    tag "br", .fixed "\n"]

theorem headingPieces_block (title id : String) (collapsed : Bool) :
    headingPieces title (some id) collapsed = headingLinks title id collapsed ++
      [.openTag "div" (blockAttributes id collapsed), .fixed "\n"] := by
  simp [headingPieces, headingLinks, blockAttributes]

theorem footerPieces_block (id : String) :
    footerPieces (some id) = footerLinks id ++ [.closeTag "div", .fixed "\n"] := by
  simp [footerPieces, footerLinks]

theorem nested_heading (title : String) (collapsed : Bool) :
    Nested (headingPieces title none collapsed) := by
  have htitle : Nested (element "h2" [.inserted title]) :=
    (Nested.inserted title).enclosed (by decide)
  exact ((Nested.fixed (by decide)).append htitle).append (.fixed (by decide))

theorem nested_headingLinks (title id : String) (collapsed : Bool) :
    Nested (headingLinks title id collapsed) where
  proper := by
    cases collapsed <;>
      simp [Proper, headingLinks, element, tag, Piece.proper, Attribute.proper, ValuePart.lacks,
        noBorder, linkText, reference, toggleCall] <;> decide
  balanced opened := by simp [headingLinks, nest, voidElements]
  noBlock := by simp [headingLinks, Mark.isBlock]

theorem nested_footerLinks (id : String) : Nested (footerLinks id) where
  proper := by
    simp [Proper, footerLinks, tag, Piece.proper, Attribute.proper, ValuePart.lacks, reference,
      toggleCall]
    decide
  balanced opened := by simp [footerLinks, nest, voidElements]
  noBlock := by simp [footerLinks, Mark.isBlock]

theorem proper_footer (id : Option String) : Proper (footerPieces id) := by
  cases id with
  | none => rfl
  | some id =>
    have hend : Proper [.closeTag "div", .fixed "\n"] := by decide
    rw [footerPieces_block]
    exact (nested_footerLinks id).proper.append hend

theorem proper_block (id : String) (collapsed : Bool) :
    Proper [.openTag "div" (blockAttributes id collapsed), .fixed "\n"] := by
  cases collapsed <;>
    simp [Proper, blockAttributes, displayText, Piece.proper, Attribute.proper, ValuePart.lacks] <;>
    decide

/-! ## The head and the end of a page -/

theorem lacks_styleText : lacks ['<'] styleText = true := by
  unfold styleText
  repeat rw [lacks_append]
  decide +kernel

theorem lacks_scriptText : lacks ['<'] scriptText = true := by
  unfold scriptText
  repeat rw [lacks_append]
  decide +kernel

theorem proper_headPieces (m : Metadata) : Proper (headPieces m) := by
  have hdeclaration : lacks ['>'] declaration = true := by decide +kernel
  simp [Proper, headPieces, element, tag, Piece.proper, Attribute.proper, ValuePart.lacks,
    hdeclaration, lacks_styleText, lacks_scriptText]
  decide +kernel

theorem proper_tailPieces : Proper tailPieces := by
  decide

/-- The head of a page leaves two elements open. -/
theorem nest_headPieces (m : Metadata) :
    nest [] (marks (headPieces m)) = some ["body", "html"] := by
  simp [headPieces, nest, voidElements]

/-- The end of a page closes them. -/
theorem nest_tailPieces : nest ["body", "html"] (marks tailPieces) = some [] := by
  simp [tailPieces, nest]

end AdapterReport.Html
