import AdapterReport.Proofs.Html.Parts
import AdapterReport.Proofs.Table.Layout
import AdapterReport.Proofs.Text.Occurrences

/-!
# The note that there are no rows

`occurrences_table`: the page of a table has the note once if the table has no rows, and never
otherwise. A piece that is not the opening tag of the note has no part in it (`notes_of_bare`),
since the characters of a tag stand in no text, whatever was inserted.
-/

namespace AdapterReport.Html

/-- The note as it stands in a page. -/
def noteText : List Char :=
  "<em>none found</em>".toList

/-- The pieces have the note so many times, whatever stands behind them. -/
def Notes (count : Nat) (pieces : List Piece) : Prop :=
  ∀ rest, Text.occurrences noteText ((render pieces).toList ++ rest) =
    count + Text.occurrences noteText rest

variable {m n : Nat} {ps qs : List Piece}

theorem Notes.append (hp : Notes m ps) (hq : Notes n qs) : Notes (m + n) (ps ++ qs) := by
  intro rest
  have hrender : (render (ps ++ qs)).toList ++ rest =
      (render ps).toList ++ ((render qs).toList ++ rest) := by
    simp [render, writes]
  rw [hrender, hp, hq, Nat.add_assoc]

theorem Notes.flatMap {α : Type} {f : α → List Piece} (h : ∀ x, Notes 0 (f x)) (xs : List α) :
    Notes 0 (xs.flatMap f) := by
  induction xs with
  | nil => intro rest; simp [render, writes]
  | cons x xs ih =>
    rw [List.flatMap_cons]
    exact (h x).append ih

/-! ## Pieces without the note -/

/-- The piece is text, or a tag that does not open the note. -/
def Piece.bare (p : Piece) : Bool :=
  p.proper && match p.mark? with
    | none => true
    | some k => k.text.all (fun c => !(['<', '>'].contains c)) && k.text != ['e', 'm']

theorem noteText_eq : noteText = '<' :: (['e', 'm'] ++ '>' :: "none found</em>".toList) := by
  decide

/-- Text up to the end of the tag says which tag it is. -/
theorem eq_of_begins {tag tag' inner rest : List Char}
    (h : tag ++ '>' :: inner <+: tag' ++ '>' :: rest) (htag : '>' ∉ tag) (htag' : '>' ∉ tag') :
    tag = tag' := by
  have htake {s : List Char} (hs : '>' ∉ s) (rest : List Char) :
      (s ++ '>' :: rest).takeWhile (· ≠ '>') = s := by
    have hne : ∀ c ∈ s, decide (c ≠ '>') = true := fun c hc =>
      decide_eq_true fun heq => hs (heq ▸ hc)
    rw [List.takeWhile_append_of_pos hne, List.takeWhile_cons_of_neg (by simp), List.append_nil]
  obtain ⟨tail, htail⟩ := h
  rw [List.append_assoc, List.cons_append] at htail
  rw [← htake htag (inner ++ tail), htail, htake htag']

theorem occurrences_text {text : List Char} (h : '<' ∉ text) (rest : List Char) :
    Text.occurrences noteText (text ++ rest) = Text.occurrences noteText rest := by
  rw [noteText_eq]
  exact Text.occurrences_append_of_not_mem h rest

theorem occurrences_tag {tag : List Char} (h : tag.all (fun c => !(['<', '>'].contains c)) = true)
    (hne : tag ≠ ['e', 'm']) (rest : List Char) :
    Text.occurrences noteText ('<' :: tag ++ ['>'] ++ rest) = Text.occurrences noteText rest := by
  have hlacks {c : Char} (hc : c ∈ ['<', '>']) : c ∉ tag := fun hmem => by
    simpa [hc] using List.all_eq_true.mp h c hmem
  have hbegins : ¬ noteText <+: '<' :: (tag ++ ['>'] ++ rest) := by
    intro hbegins
    rw [noteText_eq, List.cons_prefix_cons, List.append_assoc] at hbegins
    exact hne (eq_of_begins hbegins.2 (by decide) (hlacks (by decide))).symm
  have htext : '<' ∉ tag ++ ['>'] := by simp [hlacks]
  rw [List.cons_append, List.cons_append, Text.occurrences_cons hbegins, occurrences_text htext]

theorem notes_of_bare (h : ps.all (·.bare) = true) : Notes 0 ps := by
  intro rest
  rw [Nat.zero_add]
  induction ps with
  | nil => simp [render, writes]
  | cons p ps ih =>
    rw [List.all_cons, Bool.and_eq_true, Piece.bare, Bool.and_eq_true] at h
    obtain ⟨⟨hproper, hmark⟩, hrest⟩ := h
    rw [toList_render_cons]
    cases hk : p.mark? with
    | none => rw [occurrences_text (p.not_mem_text hproper hk), ih hrest]
    | some k =>
      rw [hk, Bool.and_eq_true] at hmark
      rw [p.toList_text hk, occurrences_tag hmark.1 (by simpa using hmark.2), ih hrest]

/-! ## The note -/

theorem notes_em : Notes 1 (element "em" [.fixed noneFound]) := by
  intro rest
  have helement : element "em" [.fixed noneFound] =
      tag "em" :: [.fixed noneFound, .closeTag "em"] := rfl
  have hopen : (tag "em").text.toList = '<' :: "em>".toList := by decide
  have hinner : Notes 0 [.fixed noneFound, .closeTag "em"] := notes_of_bare (by decide)
  have hnote : noteText <+: '<' :: ("em>".toList ++
      ((render [.fixed noneFound, .closeTag "em"]).toList ++ rest)) := by
    have hrender : noteText =
        '<' :: ("em>".toList ++ (render [.fixed noneFound, .closeTag "em"]).toList) := by decide
    rw [hrender, ← List.append_assoc, ← List.cons_append]
    exact List.prefix_append _ _
  rw [helement, toList_render_cons, hopen, List.cons_append, Text.occurrences, if_pos hnote,
    occurrences_text (by decide), hinner, Nat.zero_add]

/-- Text of the template around pieces brings no note. -/
theorem Notes.framed {before after : String} (h : Notes n ps) (hbefore : lacks ['<'] before = true)
    (hafter : lacks ['<'] after = true) :
    Notes n ([.fixed before] ++ ps ++ [.fixed after]) := by
  have hfixed {s : String} (hs : lacks ['<'] s = true) : Notes 0 [.fixed s] :=
    notes_of_bare (by rw [List.all_cons, Piece.bare, Piece.proper, hs]; rfl)
  have hframed := ((hfixed hbefore).append h).append (hfixed hafter)
  rwa [Nat.zero_add] at hframed

theorem bare_span {name : String} (h : lacks ['<', '=', '>'] name = true) (count : Nat) :
    (Piece.openTag "td" [span name count]).bare = true := by
  have hproper : (Piece.openTag "td" [span name count]).proper = true := by
    rw [Piece.proper, List.all_cons, proper_span (lacks_of_subset h (by decide))]
    decide
  have hname : lacks ['<', '>'] name = true := lacks_of_subset h (by decide)
  have hdigits : lacks ['<', '>'] (Text.decimalPadded 1 count) = true :=
    lacks_decimalPadded (by decide) _ _
  have htext : (Mark.opening "td" [(span name count).mark]).text = ['t', 'd', ' '] ++
      name.toList ++ ['=', '\x22'] ++ (Text.decimalPadded 1 count).toList ++ ['\x22'] := by
    simp [Mark.text, MarkAttribute.text, span, Attribute.mark, Attribute.valueText, ValuePart.text,
      Quotes.quote?]
  unfold lacks at hname hdigits
  rw [Piece.bare, hproper, Piece.mark?, List.map_singleton]
  simp only [htext, List.all_append, hname, hdigits]
  simp

theorem notes_none {attributes : List Attribute} (h : (Piece.openTag "td" attributes).bare = true) :
    Notes 1 (nonePieces attributes) := by
  have hopen : Notes 0 [.openTag "td" attributes] := notes_of_bare (by simp [h])
  have hclose : Notes 0 [.closeTag "td"] := notes_of_bare (by decide)
  exact (hopen.append notes_em).append hclose

/-! ## Tables -/

theorem notes_cells (preformatted : Bool) (line : List GridCell) :
    Notes 0 (line.flatMap (cellPieces preformatted)) := by
  refine notes_of_bare ?_
  rw [List.all_flatMap, List.all_eq_true]
  intro c _
  unfold cellPieces
  cases c.isHead <;> cases preformatted <;> rfl

theorem notes_line {cells extra : List Piece} (hc : Notes m cells) (he : Notes n extra) :
    Notes (m + n) (linePieces cells extra) := by
  have hopen : Notes 0 [.fixed "      ", tag "tr", .fixed "\n"] := notes_of_bare (by decide)
  have hclose : Notes 0 [.fixed "      ", .closeTag "tr", .fixed "\n"] := notes_of_bare (by decide)
  have hline := ((hopen.append hc).append he).append hclose
  rwa [Nat.zero_add] at hline

theorem notes_firstLineNote (t : Table) :
    Notes (if t.orientation = .vertical && t.isEmpty then 1 else 0) (firstLineNote t) := by
  unfold firstLineNote
  split
  · exact (notes_none (bare_span (by decide) _)).framed (by decide) (by decide)
  · exact notes_of_bare rfl

theorem notes_lastNote (t : Table) :
    Notes (if t.isEmpty && (t.attributes.isEmpty || t.orientation = .horizontal) then 1 else 0)
      (lastNote t) := by
  have hnil : Notes 0 [] := notes_of_bare rfl
  unfold lastNote
  cases hrows : t.isEmpty with
  | false => exact hnil
  | true =>
    cases ha : t.attributes.isEmpty with
    | true =>
      have hopen : Notes 0 [.fixed "      ", tag "tr"] := notes_of_bare (by decide)
      have hclose : Notes 0 [.closeTag "tr", .fixed "\n"] := notes_of_bare (by decide)
      exact (hopen.append (notes_none (by decide))).append hclose
    | false =>
      cases ho : t.orientation with
      | vertical => exact hnil
      | horizontal =>
        have hnote : Notes 1 (nonePieces [span "colspan" t.attributes.length]) :=
          notes_none (bare_span (by decide) _)
        exact notes_line (hnote.framed (by decide) (by decide)) hnil

/-- The lines of a table have the note that is beside the first one. -/
theorem notes_grid (t : Table) :
    Notes (if !t.attributes.isEmpty && (t.orientation = .vertical && t.isEmpty) then 1 else 0)
      (gridPieces t) := by
  by_cases ha : t.attributes = []
  · rw [gridPieces, Table.lines_of_no_attributes ha, ha]
    exact notes_of_bare rfl
  · obtain ⟨first, rest, hlines⟩ := List.exists_cons_of_ne_nil (Table.lines_ne_nil ha)
    have hcells := notes_cells (t.valueStyle = .preformatted)
    have hrest : Notes 0 (rest.flatMap fun line =>
        linePieces (line.flatMap (cellPieces (t.valueStyle = .preformatted))) []) :=
      .flatMap (fun line => notes_line (hcells line) (notes_of_bare rfl)) rest
    have hgrid := (notes_line (hcells first) (notes_firstLineNote t)).append hrest
    rw [Nat.zero_add, Nat.add_zero] at hgrid
    rw [gridPieces, hlines, List.isEmpty_eq_false_iff.mpr ha]
    exact hgrid

/-- **The page of a table** has the note once if the table has no rows, and never otherwise. -/
theorem occurrences_table (t : Table) :
    Text.occurrences noteText (encoder.table t).toList = if t.rows = [] then 1 else 0 := by
  have hopen : Notes 0 [.fixed "    ",
      .openTag "table" [⟨"class", .double, [.fixed t.orientation.styleClass]⟩], .fixed "\n"] := by
    cases t.orientation <;> exact notes_of_bare (by decide)
  have hclose : Notes 0 [.fixed "    ", .closeTag "table", .fixed "\n"] := notes_of_bare (by decide)
  have htable := ((hopen.append (notes_grid t)).append (notes_lastNote t)).append hclose []
  rw [List.append_nil] at htable
  show Text.occurrences noteText (render (tablePieces t)).toList = _
  rw [tablePieces, htable]
  cases hrows : t.rows <;> cases t.attributes <;> cases t.orientation <;>
    simp [Table.isEmpty, hrows, Text.occurrences]

end AdapterReport.Html
