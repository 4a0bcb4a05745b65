import AdapterReport.Proofs.Assembler.Streaming
import AdapterReport.Proofs.Html.Outline

/-!
# The markup of a page

`markup_of_page`: what a reader finds of the tags of a page is what the template means, whatever
text is inserted. The tags are nested and all closed, each section with an id is one block of its
own, and two reports of the same shape have the same `outline`.

The page of a report is the text of its pieces (`document_eq_render`), section by section; what was
proved of the parts is put together along the sections.
-/

namespace AdapterReport.Html

open Text.Utf8 (encode)

/-! ## The pieces of a page -/

/-- The body of a section. -/
def bodyPieces : Body → List Piece
  | .table t => tablePieces t
  | .summary s => tablePieces s.table
  | .text _ _ text _ => preformattedPieces text

/-- A section. -/
def sectionPieces (s : Section) : List Piece :=
  headingPieces s.title s.id s.collapsed ++ bodyPieces s.body ++ footerPieces s.id

/-- A page. -/
def pagePieces (r : Report) : List Piece :=
  headPieces r.metadata ++ r.sections.flatMap sectionPieces ++ tailPieces

theorem render_append (ps qs : List Piece) : render (ps ++ qs) = render ps ++ render qs := by
  simp [render, writes]

theorem body_eq_render (b : Body) : encoder.body b = render (bodyPieces b) := by
  cases b <;> rfl

theorem sectionText_eq_render (s : Section) : encoder.sectionText s = render (sectionPieces s) := by
  rw [Encoder.sectionText_eq, body_eq_render, sectionPieces, render_append, render_append]
  rfl

/-- A page is the text of its pieces. -/
theorem document_eq_render (r : Report) : encoder.document r = render (pagePieces r) := by
  have hsections (sections : List Section) :
      String.join (sections.map encoder.sectionText) = render (sections.flatMap sectionPieces) := by
    induction sections with
    | nil => rfl
    | cons s rest ih =>
      rw [List.map_cons, String.join_cons, ih, List.flatMap_cons, render_append,
        sectionText_eq_render]
  rw [Encoder.document, hsections, pagePieces, render_append, render_append]
  rfl

/-! ## Sections -/

theorem nested_body (b : Body) : Nested (bodyPieces b) := by
  cases b with
  | table t => exact nested_table t
  | summary s => exact nested_table s.table
  | text _ _ text _ => exact nested_preformatted text

/-- The block of a section: its heading opens one and its footer closes it, if the section has an
id, and no other tag of the section opens or closes one. -/
def OwnBlock (s : Section) : Prop :=
  match s.id with
  | none => ∀ k ∈ marks (sectionPieces s), k.isBlock = false
  | some _ => ∃ before attributes after,
      marks (headingPieces s.title s.id s.collapsed) = before ++ [.opening "div" attributes] ∧
      marks (footerPieces s.id) = after ++ [.closing "div"] ∧
      Balanced before ∧ Balanced (marks (bodyPieces s.body) ++ after) ∧
      ∀ k ∈ before ++ marks (bodyPieces s.body) ++ after, k.isBlock = false

theorem nested_section_of_no_id {s : Section} (h : s.id = none) : Nested (sectionPieces s) := by
  rw [sectionPieces, h]
  exact ((nested_heading s.title s.collapsed).append (nested_body s.body)).append .nil

theorem ownBlock (s : Section) : OwnBlock s := by
  unfold OwnBlock
  cases hid : s.id with
  | none => exact (nested_section_of_no_id hid).noBlock
  | some id =>
    have hinside := (nested_body s.body).append (nested_footerLinks id)
    have hall := (nested_headingLinks s.title id s.collapsed).append hinside
    refine ⟨marks (headingLinks s.title id s.collapsed),
      (blockAttributes id s.collapsed).map Attribute.mark, marks (footerLinks id), ?_, ?_,
      (nested_headingLinks s.title id s.collapsed).balanced, ?_, ?_⟩
    · rw [headingPieces_block, marks_append]
      rfl
    · rw [footerPieces_block, marks_append]
      rfl
    · rw [← marks_append]
      exact hinside.balanced
    · rw [List.append_assoc, ← marks_append, ← marks_append]
      exact hall.noBlock

theorem marks_section (s : Section) :
    marks (sectionPieces s) = marks (headingPieces s.title s.id s.collapsed) ++
      marks (bodyPieces s.body) ++ marks (footerPieces s.id) := by
  rw [sectionPieces, marks_append, marks_append]

/-- A section closes all elements that it opens, its block with them. -/
theorem balanced_section (s : Section) : Balanced (marks (sectionPieces s)) := by
  have hblock := ownBlock s
  unfold OwnBlock at hblock
  cases hid : s.id with
  | none => exact (nested_section_of_no_id hid).balanced
  | some id =>
    rw [hid] at hblock
    obtain ⟨before, attributes, after, hheading, hfooter, hbefore, hinside, -⟩ := hblock
    have hdiv : Balanced (.opening "div" attributes :: (_ ++ [.closing "div"])) :=
      hinside.element (by decide) attributes
    rw [marks_section, hid, hheading, hfooter]
    simpa using hbefore.append hdiv

theorem proper_section (s : Section) : Proper (sectionPieces s) := by
  cases hid : s.id with
  | none => exact (nested_section_of_no_id hid).proper
  | some id =>
    rw [sectionPieces, hid, headingPieces_block]
    exact (((nested_headingLinks s.title id s.collapsed).proper.append
      (proper_block id s.collapsed)).append (nested_body s.body).proper).append
        (proper_footer (some id))

/-! ## The page -/

theorem proper_page (r : Report) : Proper (pagePieces r) :=
  ((proper_headPieces r.metadata).append (.flatMap fun s _ => proper_section s)).append
    proper_tailPieces

theorem marks_page (r : Report) :
    marks (pagePieces r) = marks (headPieces r.metadata) ++
      (r.sections.flatMap fun s => marks (sectionPieces s)) ++ marks tailPieces := by
  rw [pagePieces, marks_append, marks_append, marks_flatMap]

theorem balanced_sections (sections : List Section) :
    Balanced (sections.flatMap fun s => marks (sectionPieces s)) := by
  induction sections with
  | nil => exact fun _ => rfl
  | cons s rest ih =>
    rw [List.flatMap_cons]
    exact (balanced_section s).append ih

/-- **The tags of a page are nested and all closed.** -/
theorem nest_page (r : Report) : nest [] (marks (pagePieces r)) = some [] := by
  rw [marks_page, nest_append, nest_append, nest_headPieces, Option.bind_some, balanced_sections,
    Option.bind_some, nest_tailPieces]

/-! ## Shapes -/

/-- What of the body of a section decides its tags. -/
inductive BodyShape where
  | table (shape : TableShape)
  | summary (shape : TableShape)
  | text
  deriving DecidableEq

/-- What of a section decides its tags. -/
structure SectionShape where
  body : BodyShape
  hasId : Bool
  collapsed : Bool
  deriving DecidableEq

/-- The shape of the body of a section. -/
def bodyShape : Body → BodyShape
  | .table t => .table (tableShape t)
  | .summary s => .summary (tableShape s.table)
  | .text _ _ _ _ => .text

/-- The shape of a section. -/
def sectionShape (s : Section) : SectionShape :=
  ⟨bodyShape s.body, s.id.isSome, s.collapsed⟩

theorem marks_body {b b' : Body} (h : bodyShape b = bodyShape b') :
    marks (bodyPieces b) = marks (bodyPieces b') := by
  cases b with
  | table t =>
    cases b' with
    | table t' => exact marks_table (BodyShape.table.inj h)
    | summary s' => cases h
    | text _ _ _ _ => cases h
  | summary s =>
    cases b' with
    | table t' => cases h
    | summary s' => exact marks_table (BodyShape.summary.inj h)
    | text _ _ _ _ => cases h
  | text _ _ _ _ =>
    cases b' with
    | table t' => cases h
    | summary s' => cases h
    | text _ _ _ _ => rfl

theorem blank_section {s s' : Section} (h : sectionShape s = sectionShape s') :
    blankMarks (sectionPieces s) = blankMarks (sectionPieces s') := by
  obtain ⟨hbody, hid, hcollapsed⟩ := SectionShape.mk.inj h
  have hblank : blankMarks (bodyPieces s.body) = blankMarks (bodyPieces s'.body) :=
    congrArg (·.map Mark.blank) (marks_body hbody)
  rw [sectionPieces, sectionPieces, blankMarks_append, blankMarks_append, blankMarks_append,
    blankMarks_append, hcollapsed, blank_heading hid, blank_footer hid, hblank]

theorem blank_sections {sections sections' : List Section}
    (h : sections.map sectionShape = sections'.map sectionShape) :
    blankMarks (sections.flatMap sectionPieces) = blankMarks (sections'.flatMap sectionPieces) := by
  induction sections generalizing sections' with
  | nil => rw [List.map_eq_nil_iff.mp h.symm]
  | cons s rest ih =>
    cases sections' with
    | nil => cases h
    | cons s' rest' =>
      obtain ⟨hs, hrest⟩ := List.cons.inj h
      rw [List.flatMap_cons, List.flatMap_cons, blankMarks_append, blankMarks_append,
        blank_section hs, ih hrest]

/-- **Reports of the same shape have the same outline**, whatever texts they show. -/
theorem outline_document {r r' : Report}
    (h : r.sections.map sectionShape = r'.sections.map sectionShape) :
    outline (encoder.document r) = outline (encoder.document r') := by
  have hhead : blankMarks (headPieces r.metadata) = blankMarks (headPieces r'.metadata) := rfl
  rw [document_eq_render, document_eq_render, outline_render (proper_page r),
    outline_render (proper_page r'), pagePieces, pagePieces, blankMarks_append, blankMarks_append,
    blankMarks_append, blankMarks_append, hhead, blank_sections h]

/-- **Collected text cannot alter the markup** of a page that was written without a fault. -/
theorem markup_of_page (m : Metadata) (settings : Settings) (sections : List Section) :
    let report := settings.report m sections
    let page := encoder.document report
    let ks := marks (pagePieces report)
    (∀ explicit,
      let a := Assembler.start .unlimited .html m settings
      let events := Event.whole explicit sections
      (∀ x ∈ a.log events, x.result = .ok ()) ∧ (a.run events).sink.written = encode page) ∧
    tags page = some (ks.map Mark.text) ∧
    (∀ k ∈ ks, readTag k.text = some k) ∧
    (∀ name attributes, .opening name attributes ∈ ks →
      ∀ a ∈ attributes, ∀ quote, a.quote = some quote → quote ∉ a.value.toList) ∧
    nest [] ks = some [] ∧
    ks = marks (headPieces m) ++ (report.sections.flatMap fun s => marks (sectionPieces s)) ++
      marks tailPieces ∧
    (∀ s ∈ report.sections, OwnBlock s) ∧
    ∀ (m' : Metadata) (settings' : Settings) (sections' : List Section),
      (settings'.report m' sections').sections.map sectionShape =
        report.sections.map sectionShape →
      outline (encoder.document (settings'.report m' sections')) = outline page := by
  intro report page ks
  have hproper : Proper (pagePieces report) := proper_page report
  refine ⟨fun explicit => ?_, ?_, fun k hk => readTag_of_mem hproper hk,
    fun name attributes hk a ha quote hq => ?_, nest_page report, marks_page report,
    fun s _ => ownBlock s, fun m' settings' sections' h => outline_document h⟩
  · obtain ⟨hok, -, hwritten⟩ := Assembler.run_whole .html m settings explicit sections
    exact ⟨hok, hwritten⟩
  · rw [show page = render (pagePieces report) from document_eq_render report]
    exact tags_render hproper
  · have hreadable := readable_of_mem hproper hk
    rw [Mark.readable, Bool.and_eq_true] at hreadable
    exact MarkAttribute.quote_not_mem (List.all_eq_true.mp hreadable.2 a ha) hq

end AdapterReport.Html
