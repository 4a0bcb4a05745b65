import AdapterReport.Proofs.Html.Page

/-!
# The headings of a page

`headings` reads a page as `tags` does and keeps the text of every `h2`, up to the next tag.
`headings_document`: these are the titles of the sections, in their order. No other part of a page
has an `h2` (`Headless`), and no text from outside can bring one in.
-/

namespace AdapterReport.Html

/-! ## The reader -/

/-- The texts behind the tags `h2` of a text; a tag that has begun is given with what was read of
it. -/
def headingsFrom : Option (List Char) → List Char → List String
  | _, [] => []
  | none, c :: rest => if c = '<' then headingsFrom (some []) rest else headingsFrom none rest
  | some tag, c :: rest =>
    if c = '>' then
      (if tag = ['h', '2'] then [.ofList (rest.takeWhile (· ≠ '<'))] else []) ++
        headingsFrom none rest
    else headingsFrom (some (tag ++ [c])) rest

/-- The headings of a page. -/
def headings (page : String) : List String :=
  headingsFrom none page.toList

theorem headingsFrom_text {text : List Char} (h : '<' ∉ text) (rest : List Char) :
    headingsFrom none (text ++ rest) = headingsFrom none rest := by
  induction text with
  | nil => rfl
  | cons c text ih =>
    rw [List.mem_cons, not_or] at h
    rw [List.cons_append, headingsFrom, if_neg (Ne.symm h.1), ih h.2]

theorem headingsFrom_inside {tag : List Char} (h : '>' ∉ tag) (begun rest : List Char) :
    headingsFrom (some begun) (tag ++ '>' :: rest) =
      (if begun ++ tag = ['h', '2'] then [.ofList (rest.takeWhile (· ≠ '<'))] else []) ++
        headingsFrom none rest := by
  induction tag generalizing begun with
  | nil => rw [List.nil_append, headingsFrom, if_pos rfl, List.append_nil]
  | cons c tag ih =>
    rw [List.mem_cons, not_or] at h
    rw [List.cons_append, headingsFrom, if_neg (Ne.symm h.1), ih h.2, List.append_assoc]
    rfl

theorem headingsFrom_tag {tag : List Char} (h : '>' ∉ tag) (rest : List Char) :
    headingsFrom none ('<' :: tag ++ '>' :: rest) =
      (if tag = ['h', '2'] then [.ofList (rest.takeWhile (· ≠ '<'))] else []) ++
        headingsFrom none rest := by
  rw [List.cons_append, headingsFrom, if_pos rfl, headingsFrom_inside h, List.nil_append]

/-- A text without reserved characters stands in a page as it is. -/
theorem escape_of_lacks {s : String} (h : lacks ('&' :: markup) s = true) : escape s = s := by
  have hchars (cs : List Char) (hcs : cs.all (fun c => !('&' :: markup).contains c) = true) :
      cs.flatMap escapeChar = cs := by
    induction cs with
    | nil => rfl
    | cons c cs ih =>
      rw [List.all_cons, Bool.and_eq_true] at hcs
      have hc : escapeChar c = [c] := by
        have hne := hcs.1
        simp only [markup, List.contains_cons, Bool.not_or, Bool.and_eq_true, Bool.not_eq_true',
          beq_eq_false_iff_ne] at hne
        simp [escapeChar, hne]
      rw [List.flatMap_cons, hc, ih hcs.2]
      rfl
  rw [escape_eq, hchars s.toList h, String.ofList_toList]

/-! ## Pieces without headings -/

/-- The pieces are in order, and none of them begins a heading. -/
structure Headless (pieces : List Piece) : Prop where
  proper : Proper pieces
  noHeading : .opening "h2" [] ∉ marks pieces

/-- What is read behind the front of a text does not depend on it, if it has no heading. -/
theorem headingsFrom_headless {pieces : List Piece} (h : Headless pieces) (rest : List Char) :
    headingsFrom none ((render pieces).toList ++ rest) = headingsFrom none rest := by
  obtain ⟨hproper, hno⟩ := h
  induction pieces with
  | nil => rfl
  | cons p pieces ih =>
    have hall := hproper
    rw [Proper, List.all_cons, Bool.and_eq_true] at hall
    rw [toList_render_cons]
    cases hk : p.mark? with
    | none =>
      rw [marks_cons_none hk] at hno
      rw [headingsFrom_text (p.not_mem_text hall.1 hk), ih hall.2 hno]
    | some k =>
      rw [marks_cons_some hk, List.mem_cons, not_or] at hno
      have hreadable := p.readable_mark hall.1 hk
      -- a tag that reads as `h2` is one
      have hname : k.text ≠ ['h', '2'] := by
        intro htext
        have hread := readTag_text hreadable
        rw [htext] at hread
        exact hno.1 (Option.some.inj (hread.symm.trans rfl)).symm
      rw [p.toList_text hk, List.append_assoc, List.singleton_append,
        headingsFrom_tag (Mark.not_mem_text hreadable), if_neg hname, List.nil_append,
        ih hall.2 hno.2]

theorem Headless.append {ps qs : List Piece} (hp : Headless ps) (hq : Headless qs) :
    Headless (ps ++ qs) where
  proper := hp.proper.append hq.proper
  noHeading := by
    rw [marks_append, List.mem_append, not_or]
    exact ⟨hp.noHeading, hq.noHeading⟩

/-- A heading is read as the text of its title. -/
theorem headingsFrom_element (title : String) (rest : List Char) :
    headingsFrom none ((render (element "h2" [.inserted title])).toList ++ rest) =
      escape title :: headingsFrom none rest := by
  have htitle : '<' ∉ (escape title).toList := not_mem_of_lacks (lacks_escape title) (by decide)
  have htext : ∀ c ∈ (escape title).toList, decide (c ≠ '<') = true := fun c hc =>
    decide_eq_true fun heq => htitle (heq ▸ hc)
  have hchars : (render (element "h2" [.inserted title])).toList ++ rest =
      '<' :: ['h', '2'] ++ '>' ::
        ((escape title).toList ++ ('<' :: ['/', 'h', '2'] ++ '>' :: rest)) := by
    simp [render, writes, element, tag, Piece.text]
  rw [hchars, headingsFrom_tag (by decide), if_pos rfl, List.takeWhile_append_of_pos htext,
    headingsFrom_text htitle, headingsFrom_tag (by decide), if_neg (by decide)]
  simp

/-! ## The parts of a page -/

theorem headless_table (t : Table) : Headless (tablePieces t) where
  proper := (nested_table t).proper
  noHeading h := absurd (isOf_of_mem_table h) (by decide)

theorem headless_body (b : Body) : Headless (bodyPieces b) := by
  cases b with
  | table t => exact headless_table t
  | summary s => exact headless_table s.table
  | text _ _ text _ =>
    exact ⟨(nested_preformatted text).proper, by simp [bodyPieces, preformattedPieces]⟩

theorem headless_footer (id : Option String) : Headless (footerPieces id) := by
  refine ⟨proper_footer id, ?_⟩
  cases id with
  | none => exact List.not_mem_nil
  | some id => simp [footerPieces]

/-- The heading of a section has one `h2`, around its title. -/
theorem headingPieces_eq (title : String) (id : Option String) (collapsed : Bool) :
    ∃ before after, headingPieces title id collapsed =
      before ++ element "h2" [.inserted title] ++ after ∧ Headless before ∧ Headless after := by
  cases id with
  | none =>
    exact ⟨[.fixed "    "], [.fixed "\n"], rfl, ⟨by decide, by decide⟩, ⟨by decide, by decide⟩⟩
  | some id =>
    have hproper : Proper (headingPieces title (some id) collapsed) := by
      rw [headingPieces_block]
      exact (nested_headingLinks title id collapsed).proper.append (proper_block id collapsed)
    rw [headingPieces, Proper, List.all_append, List.all_append, Bool.and_eq_true,
      Bool.and_eq_true] at hproper
    exact ⟨_, _, rfl, ⟨hproper.1.1, by simp⟩, ⟨hproper.2, by simp⟩⟩

/-! ## The page -/

theorem toList_render_append (ps qs : List Piece) (rest : List Char) :
    (render (ps ++ qs)).toList ++ rest = (render ps).toList ++ ((render qs).toList ++ rest) := by
  rw [render_append, String.toList_append, List.append_assoc]

theorem headingsFrom_section (s : Section) (rest : List Char) :
    headingsFrom none ((render (sectionPieces s)).toList ++ rest) =
      escape s.title :: headingsFrom none rest := by
  obtain ⟨before, after, heq, hbefore, hafter⟩ := headingPieces_eq s.title s.id s.collapsed
  have hbehind : Headless (after ++ bodyPieces s.body ++ footerPieces s.id) :=
    (hafter.append (headless_body s.body)).append (headless_footer s.id)
  have hpieces : sectionPieces s = before ++ (element "h2" [.inserted s.title] ++
      (after ++ bodyPieces s.body ++ footerPieces s.id)) := by
    simp [sectionPieces, heq]
  rw [hpieces, toList_render_append, headingsFrom_headless hbefore, toList_render_append,
    headingsFrom_element, headingsFrom_headless hbehind]

theorem headingsFrom_sections (sections : List Section) (rest : List Char) :
    headingsFrom none ((render (sections.flatMap sectionPieces)).toList ++ rest) =
      sections.map (escape ∘ Section.title) ++ headingsFrom none rest := by
  induction sections with
  | nil => rfl
  | cons s sections ih =>
    rw [List.flatMap_cons, toList_render_append, headingsFrom_section, ih, List.map_cons,
      List.cons_append, Function.comp_apply]

/-- **The headings of a page** are the titles of its sections, in their order. -/
theorem headings_document (r : Report) :
    headings (encoder.document r) = r.sections.map (escape ∘ Section.title) := by
  have hhead : Headless (headPieces r.metadata) :=
    ⟨proper_headPieces r.metadata, by simp [headPieces]⟩
  have htail : Headless tailPieces := ⟨proper_tailPieces, by decide⟩
  rw [document_eq_render, headings, pagePieces, List.append_assoc,
    ← List.append_nil (render _).toList, toList_render_append, headingsFrom_headless hhead,
    toList_render_append, headingsFrom_sections, headingsFrom_headless htail]
  exact List.append_nil _

end AdapterReport.Html
