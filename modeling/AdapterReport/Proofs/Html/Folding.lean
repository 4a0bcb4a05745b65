import AdapterReport.Proofs.Assembler.Whole
import AdapterReport.Proofs.Html.Page
import AdapterReport.Proofs.Html.Tokens

/-!
# Folding

Which sections start folded is a matter of the page alone. `folding_is_presentation` compares two
runs without a fault that add the same bodies and fold different sections: all other formats are the
same byte by byte, and the pages are the same `withoutFolding`.

Two readers know a page by its text alone. `withoutFolding` leaves out what the blocks display and
what the folding links say, and `blocks` finds every block with all that stands in it.

* `withoutFolding_document`: a page without its folding is the page in whose headings these two
  texts are empty; nothing else is left out.
* `blocks_document`: the blocks of a page are those of the sections with an id, and each has the
  whole body of its section, folded or not.
-/

namespace AdapterReport.Html

open Text.Utf8 (encode)

/-! ## A page without its folding -/

/-- The attribute without what a block displays. -/
def MarkAttribute.withoutDisplay (a : MarkAttribute) : MarkAttribute :=
  if a.name = "style" then { a with value := .ofList (a.value.toList.takeWhile (· ≠ ':') ++ [':']) }
  else a

/-- The tag without what the block that it opens displays. -/
def Mark.withoutDisplay : Mark → Mark
  | .opening name attributes =>
    .opening name (if name = "div" then attributes.map (·.withoutDisplay) else attributes)
  | .declaration s => .declaration s
  | .closing name => .closing name

/-- The tag begins the link that folds a section; no other link has an id. -/
def Mark.isFoldingLink : Mark → Bool
  | .opening name attributes => name = "a" && attributes.any (·.name = "id")
  | .declaration _ | .closing _ => false

/-- The tokens that are left; `inLink` says that the last tag began a folding link. -/
def leaveOutFolding : Bool → List Token → List Token
  | _, [] => []
  | true, .char _ :: rest => leaveOutFolding true rest
  | false, .char c :: rest => .char c :: leaveOutFolding false rest
  | _, .tag text :: rest =>
    .tag ((readTag text).elim text fun k => k.withoutDisplay.text) ::
      leaveOutFolding ((readTag text).any (·.isFoldingLink)) rest

/-- A page without what its blocks display and what its folding links say. -/
def withoutFolding (page : String) : Option String :=
  (tokens page).map fun ts => tokenText (leaveOutFolding false ts)

/-! ## The blocks of a page -/

/-- A block as a reader finds it. -/
structure Block where
  attributes : List MarkAttribute
  /-- The text up to the tag that closes the block. -/
  contents : String
  deriving DecidableEq

/-- The tag that closes a block. -/
def blockEnd : Token := .tag "/div".toList

/-- The blocks among tokens. -/
def blocksFrom : List Token → List Block
  | [] => []
  | .char _ :: rest => blocksFrom rest
  | .tag text :: rest =>
    match readTag text with
    | some (.opening name attributes) =>
      (if name = "div" then [⟨attributes, tokenText (rest.takeWhile (· ≠ blockEnd))⟩] else []) ++
        blocksFrom rest
    | _ => blocksFrom rest

/-- The blocks of a page. -/
def blocks (page : String) : Option (List Block) :=
  (tokens page).map blocksFrom

/-- The block of a section with an id on a page with these settings. -/
def shownBlock? (settings : Settings) (s : Section) : Option Block :=
  s.id.map fun id =>
    ⟨[⟨"style", some '\x27',
        if s.collapsed = true ∨ id ∈ settings.collapsed then "display:none" else "display:block"⟩,
      ⟨"id", some '\x27', escape id ++ "_c"⟩],
      "\n" ++ encoder.body s.body ++ render (footerLinks id)⟩

/-! ## Headings by what they say of the folding -/

/-- The heading of a section with an id, up to its folding link. -/
def headingFront (title id : String) : List Piece :=
  [.openTag "table" [⟨"rows", .none, [.fixed "1"]⟩, ⟨"cols", .none, [.fixed "2"]⟩, noBorder],
    .fixed "\n", .openTag "tr" [noBorder], .fixed "\n", .openTag "td" [noBorder], .fixed "\n",
    .openTag "a" [⟨"name", .single, [.inserted id]⟩]] ++ element "h2" [.inserted title] ++
  [.closeTag "a", .closeTag "td", .fixed "\n", .openTag "td" [noBorder], .fixed "\n"]

/-- The tag of the link that folds the section with this id. -/
def linkTag (id : String) : Piece :=
  .openTag "a" [⟨"id", .single, [.inserted id, .fixed "_l"]⟩, reference id,
    toggleCall id " return false;"]

/-- The link that folds the section with this id. -/
def foldingLink (id text : String) : List Piece :=
  [linkTag id, .fixed text, .closeTag "a"]

/-- What stands between the folding link and the block. -/
def headingBack : List Piece :=
  [.fixed "\n", .closeTag "td", .closeTag "tr", .closeTag "table", .fixed "\n"]

/-- The tag that opens the block of the section with this id. -/
def blockTag (id display : String) : Piece :=
  .openTag "div" [⟨"style", .single, [.fixed ("display:" ++ display)]⟩,
    ⟨"id", .single, [.inserted id, .fixed "_c"]⟩]

/-- The heading of a section with an id whose block displays this and whose folding link says
this. -/
def headingWith (title id display link : String) : List Piece :=
  headingFront title id ++ foldingLink id link ++ headingBack ++ [blockTag id display, .fixed "\n"]

/-- A heading that says nothing of the folding. -/
def unfoldedHeading (title : String) : Option String → List Piece
  | none => headingPieces title none false
  | some id => headingWith title id "" ""

/-- A section whose heading says nothing of the folding. -/
def unfoldedSection (s : Section) : List Piece :=
  unfoldedHeading s.title s.id ++ bodyPieces s.body ++ footerPieces s.id

/-- A page whose headings say nothing of the folding. -/
def unfoldedPage (m : Metadata) (sections : List Section) : List Piece :=
  headPieces m ++ sections.flatMap unfoldedSection ++ tailPieces

theorem headingPieces_with (title id : String) (collapsed : Bool) :
    headingPieces title (some id) collapsed =
      headingWith title id (if collapsed then "none" else "block") (linkText collapsed) := by
  cases collapsed <;> rfl

/-! ## Leaving out the folding -/

theorem leaveOut_text (text : List Char) (rest : List Token) :
    leaveOutFolding false (text.map .char ++ rest) =
      text.map .char ++ leaveOutFolding false rest := by
  induction text with
  | nil => rfl
  | cons c text ih => rw [List.map_cons, List.cons_append, leaveOutFolding, ih, List.cons_append]

theorem leaveOut_linkText (text : List Char) (rest : List Token) :
    leaveOutFolding true (text.map .char ++ rest) = leaveOutFolding true rest := by
  induction text with
  | nil => rfl
  | cons c text ih => rw [List.map_cons, List.cons_append, leaveOutFolding, ih]

theorem leaveOut_tag {k : Mark} (h : k.readable = true) (inLink : Bool) (rest : List Token) :
    leaveOutFolding inLink (.tag k.text :: rest) =
      .tag k.withoutDisplay.text :: leaveOutFolding k.isFoldingLink rest := by
  cases inLink <;> simp [leaveOutFolding, readTag_text h]

/-- The pieces are in order, and none of them has a part in the folding of a section. -/
structure Foldless (pieces : List Piece) : Prop where
  proper : Proper pieces
  noLink : ∀ k ∈ marks pieces, k.isFoldingLink = false
  noDisplay : ∀ k ∈ marks pieces, k.withoutDisplay = k

/-- Nothing is left out of foldless pieces. -/
theorem leaveOut_foldless {pieces : List Piece} (h : Foldless pieces) (rest : List Token) :
    leaveOutFolding false (pieceTokens pieces ++ rest) =
      pieceTokens pieces ++ leaveOutFolding false rest := by
  obtain ⟨hproper, hlink, hdisplay⟩ := h
  induction pieces with
  | nil => rfl
  | cons p pieces ih =>
    rw [Proper, List.all_cons, Bool.and_eq_true] at hproper
    cases hk : p.mark? with
    | none =>
      rw [marks_cons_none hk] at hlink hdisplay
      rw [pieceTokens_text hk, List.append_assoc, leaveOut_text, ih hproper.2 hlink hdisplay,
        List.append_assoc]
    | some k =>
      rw [marks_cons_some hk] at hlink hdisplay
      rw [pieceTokens_tag hk, List.cons_append, leaveOut_tag (p.readable_mark hproper.1 hk),
        hlink k List.mem_cons_self, hdisplay k List.mem_cons_self,
        ih hproper.2 (fun k hk => hlink k (List.mem_cons_of_mem _ hk))
          fun k hk => hdisplay k (List.mem_cons_of_mem _ hk)]
      rfl

/-- Without their folding the pieces `ps` are the pieces `qs`. -/
structure Unfolds (ps qs : List Piece) : Prop where
  proper : Proper qs
  leaveOut : ∀ rest, leaveOutFolding false (pieceTokens ps ++ rest) =
    pieceTokens qs ++ leaveOutFolding false rest

theorem Foldless.unfolds {pieces : List Piece} (h : Foldless pieces) : Unfolds pieces pieces :=
  ⟨h.proper, leaveOut_foldless h⟩

theorem Unfolds.append {ps ps' qs qs' : List Piece} (h : Unfolds ps qs) (h' : Unfolds ps' qs') :
    Unfolds (ps ++ ps') (qs ++ qs') where
  proper := h.proper.append h'.proper
  leaveOut rest := by
    rw [pieceTokens_append, pieceTokens_append, List.append_assoc, List.append_assoc, h.leaveOut,
      h'.leaveOut]

theorem Unfolds.flatMap {α : Type} {f g : α → List Piece} (h : ∀ x, Unfolds (f x) (g x))
    (xs : List α) : Unfolds (xs.flatMap f) (xs.flatMap g) := by
  induction xs with
  | nil => exact ⟨rfl, fun _ => rfl⟩
  | cons x xs ih =>
    rw [List.flatMap_cons, List.flatMap_cons]
    exact (h x).append ih

/-! ## The parts of a page -/

theorem foldless_headingFront (title id : String) : Foldless (headingFront title id) where
  proper := by
    simp [Proper, headingFront, element, tag, Piece.proper, Attribute.proper, ValuePart.lacks,
      noBorder]
    decide
  noLink := by simp [headingFront, Mark.isFoldingLink, Attribute.mark, noBorder]
  noDisplay := by simp [headingFront, Mark.withoutDisplay]

theorem foldless_headingBack : Foldless headingBack :=
  ⟨by decide, by decide, by decide⟩

theorem proper_linkTag (id : String) : (linkTag id).proper = true := by
  simp [linkTag, Piece.proper, Attribute.proper, ValuePart.lacks, reference, toggleCall]
  decide

/-- Of a folding link its text is left out. -/
theorem unfolds_link (id text : String) :
    Unfolds (foldingLink id text) (foldingLink id "") where
  proper := by
    rw [foldingLink, Proper, List.all_cons, proper_linkTag]
    decide
  leaveOut rest := by
    obtain ⟨k, hk⟩ : ∃ k, (linkTag id).mark? = some k := ⟨_, rfl⟩
    have hlink : k.isFoldingLink = true := by
      cases hk
      rfl
    have hdisplay : k.withoutDisplay = k := by
      cases hk
      rfl
    have hclose : Foldless [.closeTag "a"] := ⟨by decide, by decide, by decide⟩
    -- the closing tag ends what is left out
    have hend : leaveOutFolding true (pieceTokens [.closeTag "a"] ++ rest) =
        pieceTokens [.closeTag "a"] ++ leaveOutFolding false rest :=
      leaveOut_foldless hclose rest
    rw [foldingLink, foldingLink, pieceTokens_tag hk, pieceTokens_fixed, List.cons_append,
      leaveOut_tag (Piece.readable_mark (proper_linkTag id) hk), hlink, hdisplay,
      List.append_assoc, leaveOut_linkText, hend, pieceTokens_tag hk, pieceTokens_fixed]
    rfl

theorem proper_blockTag (id : String) {display : String}
    (h : lacks ['>', '\x27'] display = true) : Proper [blockTag id display, .fixed "\n"] := by
  simp [Proper, blockTag, Piece.proper, Attribute.proper, ValuePart.lacks, h, lacks_append]
  decide

/-- Of the tag of a block its display is left out. -/
theorem unfolds_block (id : String) {display : String} (h : lacks ['>', '\x27'] display = true) :
    Unfolds [blockTag id display, .fixed "\n"] [blockTag id "", .fixed "\n"] where
  proper := proper_blockTag id rfl
  leaveOut rest := by
    obtain ⟨k, hk⟩ : ∃ k, (blockTag id display).mark? = some k := ⟨_, rfl⟩
    obtain ⟨k', hk'⟩ : ∃ k, (blockTag id "").mark? = some k := ⟨_, rfl⟩
    have hreadable : k.readable = true :=
      readable_of_mem (proper_blockTag id h) (List.mem_filterMap.mpr ⟨_, List.mem_cons_self, hk⟩)
    have hlink : k.isFoldingLink = false := by
      cases hk
      rfl
    have hdisplay : k.withoutDisplay = k' := by
      cases hk
      cases hk'
      simp [Mark.withoutDisplay, MarkAttribute.withoutDisplay, Attribute.mark, Attribute.valueText,
        ValuePart.text]
    have hend : Foldless [.fixed "\n"] := ⟨by decide, by decide, by decide⟩
    rw [pieceTokens_tag hk, List.cons_append, leaveOut_tag hreadable, hlink, hdisplay,
      leaveOut_foldless hend, pieceTokens_tag hk']
    rfl

/-- Of a heading only its display and the text of its link are left out. -/
theorem unfolds_heading (title : String) (id : Option String) (collapsed : Bool) :
    Unfolds (headingPieces title id collapsed) (unfoldedHeading title id) := by
  cases id with
  | none =>
    have hnone : Foldless (headingPieces title none collapsed) := by
      refine ⟨(nested_heading title collapsed).proper, ?_, ?_⟩
      · simp [headingPieces, Mark.isFoldingLink]
      · simp [headingPieces, Mark.withoutDisplay]
    exact hnone.unfolds
  | some id =>
    have hdisplay : lacks ['>', '\x27'] (if collapsed then "none" else "block") = true := by
      cases collapsed <;> decide
    rw [headingPieces_with]
    exact (((foldless_headingFront title id).unfolds.append (unfolds_link id _)).append
      foldless_headingBack.unfolds).append (unfolds_block id hdisplay)

/-- No element of a table has a part in the folding. -/
theorem foldless_of_isOf {pieces : List Piece} (h : Proper pieces)
    (hall : ∀ k ∈ marks pieces, k.isOf tableElements = true) : Foldless pieces := by
  have hname {name : String} {attributes : List MarkAttribute}
      (hk : .opening name attributes ∈ marks pieces) : name ≠ "a" ∧ name ≠ "div" := by
    have := hall _ hk
    constructor <;>
    · rintro rfl
      cases this
  refine ⟨h, fun k hk => ?_, fun k hk => ?_⟩
  · cases k with
    | opening name attributes => simp [Mark.isFoldingLink, hname hk]
    | declaration s => rfl
    | closing name => rfl
  · cases k with
    | opening name attributes => simp [Mark.withoutDisplay, hname hk]
    | declaration s => rfl
    | closing name => rfl

theorem foldless_body (b : Body) : Foldless (bodyPieces b) := by
  cases b with
  | table t => exact foldless_of_isOf (nested_table t).proper fun _ => isOf_of_mem_table
  | summary s => exact foldless_of_isOf (nested_table s.table).proper fun _ => isOf_of_mem_table
  | text _ _ text _ =>
    refine foldless_of_isOf (nested_preformatted text).proper ?_
    simp [bodyPieces, preformattedPieces, Mark.isOf, tableElements]

theorem foldless_footer (id : Option String) : Foldless (footerPieces id) := by
  cases id with
  | none => exact ⟨rfl, by decide, by decide⟩
  | some id =>
    refine ⟨proper_footer (some id), ?_, ?_⟩
    · simp [footerPieces, Mark.isFoldingLink, reference, toggleCall, Attribute.mark]
    · simp [footerPieces, Mark.withoutDisplay]

theorem foldless_headPieces (m : Metadata) : Foldless (headPieces m) where
  proper := proper_headPieces m
  noLink := by simp [headPieces, Mark.isFoldingLink]
  noDisplay := by simp [headPieces, Mark.withoutDisplay]

theorem foldless_tailPieces : Foldless tailPieces :=
  ⟨proper_tailPieces, by decide, by decide⟩

theorem unfolds_section (s : Section) : Unfolds (sectionPieces s) (unfoldedSection s) :=
  ((unfolds_heading s.title s.id s.collapsed).append (foldless_body s.body).unfolds).append
    (foldless_footer s.id).unfolds

theorem unfolds_page (r : Report) :
    Unfolds (pagePieces r) (unfoldedPage r.metadata r.sections) :=
  ((foldless_headPieces r.metadata).unfolds.append (.flatMap unfolds_section r.sections)).append
    foldless_tailPieces.unfolds

/-- **A page without its folding** is the page whose headings say nothing of it. -/
theorem withoutFolding_document (r : Report) :
    withoutFolding (encoder.document r) = some (render (unfoldedPage r.metadata r.sections)) := by
  obtain ⟨hproper, hleft⟩ := unfolds_page r
  have htokens := hleft []
  rw [List.append_nil, leaveOutFolding, List.append_nil] at htokens
  rw [withoutFolding, document_eq_render, tokens_render (proper_page r), Option.map_some, htokens,
    tokenText_pieceTokens hproper]

/-! ## Reading the blocks -/

theorem blocksFrom_text (text : List Char) (rest : List Token) :
    blocksFrom (text.map .char ++ rest) = blocksFrom rest := by
  induction text with
  | nil => rfl
  | cons c text ih => rw [List.map_cons, List.cons_append, blocksFrom, ih]

/-- Pieces without a block have none. -/
theorem blocksFrom_blockless {pieces : List Piece} (hproper : Proper pieces)
    (hno : ∀ k ∈ marks pieces, k.isBlock = false) (rest : List Token) :
    blocksFrom (pieceTokens pieces ++ rest) = blocksFrom rest := by
  induction pieces with
  | nil => rfl
  | cons p pieces ih =>
    have hall := hproper
    rw [Proper, List.all_cons, Bool.and_eq_true] at hall
    cases hk : p.mark? with
    | none =>
      rw [marks_cons_none hk] at hno
      rw [pieceTokens_text hk, List.append_assoc, blocksFrom_text, ih hall.2 hno]
    | some k =>
      rw [marks_cons_some hk] at hno
      have hread : readTag k.text = some k := readTag_text (p.readable_mark hall.1 hk)
      have hkno := hno k List.mem_cons_self
      rw [pieceTokens_tag hk, List.cons_append, blocksFrom, hread,
        ih hall.2 fun k hk => hno k (List.mem_cons_of_mem _ hk)]
      cases k with
      | opening name attributes => simp [show name ≠ "div" from of_decide_eq_false hkno]
      | declaration s => rfl
      | closing name => rfl

/-- The tag that closes a block is not among pieces without a block. -/
theorem blockEnd_not_mem {pieces : List Piece} (h : Nested pieces) :
    blockEnd ∉ pieceTokens pieces := by
  intro hmem
  obtain ⟨p, hp, ht⟩ := List.mem_flatMap.mp hmem
  unfold Piece.tokens at ht
  cases hk : p.mark? with
  | none =>
    rw [hk] at ht
    obtain ⟨c, -, hc⟩ := List.mem_map.mp ht
    cases hc
  | some k =>
    rw [hk] at ht
    have hkmem : k ∈ marks pieces := List.mem_filterMap.mpr ⟨p, hp, hk⟩
    have hread := readTag_of_mem h.proper hkmem
    rw [← Token.tag.inj (List.mem_singleton.mp ht)] at hread
    have hno := h.noBlock k hkmem
    rw [← Option.some.inj hread] at hno
    cases hno

/-- A block has what stands between its tags. -/
theorem blocksFrom_block {attributes : List Attribute} {inner : List Piece}
    (hopen : (Piece.openTag "div" attributes).proper = true) (h : Nested inner)
    (rest : List Token) :
    blocksFrom (pieceTokens ([.openTag "div" attributes] ++ inner ++ [.closeTag "div"]) ++ rest) =
      ⟨attributes.map Attribute.mark, render inner⟩ :: blocksFrom rest := by
  have hread : readTag (Mark.opening "div" (attributes.map Attribute.mark)).text = some _ :=
    readTag_text (Piece.readable_mark hopen rfl)
  have hinner : ∀ t ∈ pieceTokens inner, decide (t ≠ blockEnd) = true := fun t ht =>
    decide_eq_true fun heq => blockEnd_not_mem h (heq ▸ ht)
  have hcontents : (pieceTokens inner ++ blockEnd :: rest).takeWhile (· ≠ blockEnd) =
      pieceTokens inner := by
    rw [List.takeWhile_append_of_pos hinner, List.takeWhile_cons_of_neg (by simp),
      List.append_nil]
  have hbehind : blocksFrom (pieceTokens inner ++ blockEnd :: rest) = blocksFrom rest := by
    rw [blocksFrom_blockless h.proper h.noBlock]
    rfl
  have htokens : pieceTokens ([.openTag "div" attributes] ++ inner ++ [.closeTag "div"]) ++ rest =
      .tag (Mark.opening "div" (attributes.map Attribute.mark)).text ::
        (pieceTokens inner ++ blockEnd :: rest) := by
    rw [pieceTokens_append, pieceTokens_append, List.append_assoc, List.append_assoc]
    rfl
  rw [htokens, blocksFrom, hread, hcontents, hbehind, tokenText_pieceTokens h.proper]
  rfl

/-- The block of a section is folded if the section asks for it or its id is listed. -/
theorem shownBlock_eq (settings : Settings) {s : Section} {id : String} (hid : s.id = some id) :
    shownBlock? settings s = some
      ⟨(blockAttributes id (settings.placed s).collapsed).map Attribute.mark,
        render ([.fixed "\n"] ++ bodyPieces s.body ++ footerLinks id)⟩ := by
  have hkey : s.key = id := by
    obtain ⟨body, _⟩ := s
    cases body with
    | table t => simp_all [Section.id, Section.key, Table.key]
    | summary _ => cases hid
    | text _ _ _ _ => simp_all [Section.id, Section.key]
  have hdisplay : displayText (settings.placed s).collapsed =
      if s.collapsed = true ∨ id ∈ settings.collapsed then "display:none" else "display:block" := by
    simp [Settings.placed, Settings.isCollapsed, displayText, hkey]
  rw [shownBlock?, hid, Option.map_some, render_append, render_append, body_eq_render, ← hdisplay]
  simp [blockAttributes, Attribute.mark, Attribute.valueText, ValuePart.text, Quotes.quote?, render,
    writes, Piece.text]

theorem blocksFrom_section (settings : Settings) (s : Section) (rest : List Token) :
    blocksFrom (pieceTokens (sectionPieces (settings.placed s)) ++ rest) =
      (shownBlock? settings s).toList ++ blocksFrom rest := by
  cases hid : s.id with
  | none =>
    have hnested : Nested (sectionPieces (settings.placed s)) := nested_section_of_no_id hid
    rw [blocksFrom_blockless hnested.proper hnested.noBlock, shownBlock?, hid]
    rfl
  | some id =>
    have hlinks := nested_headingLinks s.title id (settings.placed s).collapsed
    have hinner : Nested ([.fixed "\n"] ++ bodyPieces s.body ++ footerLinks id) :=
      ((Nested.fixed (by decide)).append (nested_body s.body)).append (nested_footerLinks id)
    have hopen := List.all_eq_true.mp (proper_block id (settings.placed s).collapsed) _
      List.mem_cons_self
    have hpieces : sectionPieces (settings.placed s) =
        headingLinks s.title id (settings.placed s).collapsed ++
          ([.openTag "div" (blockAttributes id (settings.placed s).collapsed)] ++
            ([.fixed "\n"] ++ bodyPieces s.body ++ footerLinks id) ++ [.closeTag "div"]) ++
          [.fixed "\n"] := by
      rw [sectionPieces, show (settings.placed s).id = some id from hid, headingPieces_block,
        footerPieces_block]
      simp [Settings.placed, Section.title]
    rw [hpieces, pieceTokens_append, pieceTokens_append, List.append_assoc, List.append_assoc,
      blocksFrom_blockless hlinks.proper hlinks.noBlock, blocksFrom_block hopen hinner,
      shownBlock_eq settings hid]
    rfl

theorem blocksFrom_sections (settings : Settings) (sections : List Section) (rest : List Token) :
    blocksFrom (pieceTokens ((sections.map settings.placed).flatMap sectionPieces) ++ rest) =
      sections.filterMap (shownBlock? settings) ++ blocksFrom rest := by
  induction sections with
  | nil => rfl
  | cons s sections ih =>
    rw [List.map_cons, List.flatMap_cons, pieceTokens_append, List.append_assoc,
      blocksFrom_section, ih, ← List.append_assoc]
    cases h : shownBlock? settings s <;> simp [h]

/-- **The blocks of a page** are those of the sections with an id; each has the whole body of its
section, whether it is folded or not. -/
theorem blocks_document (m : Metadata) (settings : Settings) (sections : List Section) :
    blocks (encoder.document (settings.report m sections)) =
      some (sections.filterMap (shownBlock? settings)) := by
  have hhead : ∀ k ∈ marks (headPieces m), k.isBlock = false := by
    simp [headPieces, Mark.isBlock]
  have htail := blocksFrom_blockless proper_tailPieces (by decide) []
  rw [List.append_nil] at htail
  rw [blocks, document_eq_render, tokens_render (proper_page _), Option.map_some, Settings.report,
    pagePieces, pieceTokens_append, pieceTokens_append, List.append_assoc,
    blocksFrom_blockless (proper_headPieces m) hhead, blocksFrom_sections, htail, blocksFrom,
    List.append_nil]

/-! ## Two runs -/

theorem bodies_report (m : Metadata) (settings : Settings) (sections : List Section) :
    (settings.report m sections).sections.map Section.body = sections.map Section.body := by
  rw [Settings.report, List.map_map]
  rfl

/-- Other formats show of the sections their bodies alone. -/
theorem document_of_bodies {format : Format} (h : format ≠ .html) (m : Metadata)
    {sections sections' : List Section}
    (hbodies : sections.map Section.body = sections'.map Section.body) :
    format.encoder.document ⟨m, sections⟩ = format.encoder.document ⟨m, sections'⟩ := by
  have htexts (xs : List Section) : xs.map format.encoder.sectionText =
      (xs.map Section.body).map fun b => format.encoder.sectionText ⟨b, false⟩ := by
    rw [List.map_map]
    refine List.map_congr_left fun s _ => ?_
    cases format with
    | html => exact absurd rfl h
    | text => rfl
    | minimal => rfl
    | json => rfl
  have hmembers (xs : List Section) : xs.map (fun s => (s.key, s.toJson)) =
      (xs.map Section.body).map fun b =>
        ((Section.mk b false).key, (Section.mk b false).toJson) := by
    rw [List.map_map]
    rfl
  have htail : format.encoder.tail ⟨m, sections⟩ = format.encoder.tail ⟨m, sections'⟩ := by
    cases format with
    | html => exact absurd rfl h
    | text => rfl
    | minimal => rfl
    | json =>
      have hjson : (Report.mk m sections).toJson = (Report.mk m sections').toJson := by
        rw [Report.toJson, Report.toJson, hmembers, hmembers, hbodies]
      exact congrArg (fun j => String.join [j.pretty, "\n"]) hjson
  rw [Encoder.document, Encoder.document, htexts, htexts, hbodies, htail]

theorem unfoldedPage_of_bodies (m : Metadata) {sections sections' : List Section}
    (hbodies : sections.map Section.body = sections'.map Section.body) :
    unfoldedPage m sections = unfoldedPage m sections' := by
  have hpieces (xs : List Section) : xs.flatMap unfoldedSection =
      (xs.map Section.body).flatMap fun b => unfoldedSection ⟨b, false⟩ := by
    rw [List.flatMap_map]
    rfl
  rw [unfoldedPage, unfoldedPage, hpieces, hpieces, hbodies]

theorem withoutFolding_report (m : Metadata) (settings : Settings)
    {sections sections' : List Section}
    (hbodies : sections.map Section.body = sections'.map Section.body) :
    withoutFolding (encoder.document (settings.report m sections)) =
      some (render (unfoldedPage m sections')) := by
  have hpage := unfoldedPage_of_bodies m ((bodies_report m settings sections).trans hbodies)
  rw [withoutFolding_document, ← hpage]
  rfl

/-- **Folding is presentation only.** Two runs without a fault that add the same bodies write the
same in every other format; their pages are the same without what the blocks display and what the
folding links say. The block of a section with an id is hidden exactly if the section was added
folded or its id is listed, and has the whole body in either case. -/
theorem folding_is_presentation (m : Metadata) (settings settings' : Settings)
    (sections sections' : List Section)
    (hbodies : sections.map Section.body = sections'.map Section.body) (format : Format)
    (explicit : Bool) (sink sink' : Sink) :
    let a := Assembler.start sink format m settings
    let a' := Assembler.start sink' format m settings'
    let events := Event.whole explicit sections
    let events' := Event.whole explicit sections'
    (∀ x ∈ a.log events, x.result = .ok ()) → (∀ x ∈ a'.log events', x.result = .ok ()) →
    ∃ text text',
      (a.run events).sink.written = sink.written ++ encode text ∧
      (a'.run events').sink.written = sink'.written ++ encode text' ∧
      (format ≠ .html → text = text') ∧
      (format = .html →
        withoutFolding text = some (render (unfoldedPage m sections)) ∧
        withoutFolding text' = withoutFolding text ∧
        blocks text = some (sections.filterMap (shownBlock? settings)) ∧
        blocks text' = some (sections'.filterMap (shownBlock? settings'))) := by
  intro a a' events events' hok hok'
  refine ⟨_, _, Assembler.written_of_ok hok, Assembler.written_of_ok hok', fun hother => ?_,
    fun hhtml => ?_⟩
  · exact document_of_bodies hother m ((bodies_report m settings sections).trans
      (hbodies.trans (bodies_report m settings' sections').symm))
  · subst hhtml
    have hleft := withoutFolding_report m settings (rfl : sections.map Section.body = _)
    have hleft' := withoutFolding_report m settings' hbodies.symm
    exact ⟨hleft, hleft'.trans hleft.symm, blocks_document m settings sections,
      blocks_document m settings' sections'⟩

/-- A section that is hidden since its id is listed, and the same section shown. -/
theorem folding_is_presentation_listed :
    let m : Metadata := ⟨"T", "1", "today", "node1", "ROOT USER", 0⟩
    let s := Section.ofText "Log" (some "log") "x" false
    let a := Assembler.start .unlimited .html m (Settings.default.withCollapsed "log")
    let a' := Assembler.start .unlimited .html m .default
    let events := Event.whole true [s]
    (∀ x ∈ a.log events, x.result = .ok ()) ∧ (∀ x ∈ a'.log events, x.result = .ok ()) ∧
    ∃ text text' contents,
      (a.run events).sink.written = encode text ∧ (a'.run events).sink.written = encode text' ∧
      withoutFolding text' = withoutFolding text ∧
      blocks text = some [⟨[⟨"style", some '\x27', "display:none"⟩,
        ⟨"id", some '\x27', "log_c"⟩], contents⟩] ∧
      blocks text' = some [⟨[⟨"style", some '\x27', "display:block"⟩,
        ⟨"id", some '\x27', "log_c"⟩], contents⟩] := by
  intro m s a a' events
  have hok := (Assembler.run_whole .html m (Settings.default.withCollapsed "log") true [s]).1
  have hok' := (Assembler.run_whole .html m .default true [s]).1
  have hempty : Sink.unlimited.written = [] := rfl
  obtain ⟨text, text', hwritten, hwritten', -, hhtml⟩ :=
    folding_is_presentation m (Settings.default.withCollapsed "log") .default [s] [s] rfl .html true
      .unlimited .unlimited hok hok'
  obtain ⟨-, hsame, hblocks, hblocks'⟩ := hhtml rfl
  rw [hempty, List.nil_append] at hwritten hwritten'
  have hid : escape "log" ++ "_c" = "log_c" := by decide
  have hblock (settings : Settings) : [s].filterMap (shownBlock? settings) =
      [⟨[⟨"style", some '\x27',
        if "log" ∈ settings.collapsed then "display:none" else "display:block"⟩,
        ⟨"id", some '\x27', "log_c"⟩],
        "\n" ++ encoder.body s.body ++ render (footerLinks "log")⟩] := by
    simp [s, shownBlock?, Section.ofText, Section.id, hid]
  have hlisted : "log" ∈ (Settings.default.withCollapsed "log").collapsed := by
    simp [Settings.withCollapsed]
  have hnot : "log" ∉ Settings.default.collapsed := List.not_mem_nil
  rw [hblock, if_pos hlisted] at hblocks
  rw [hblock, if_neg hnot] at hblocks'
  refine ⟨hok, hok', text, text', _, ?_, ?_, hsame, hblocks, hblocks'⟩
  · rw [← hwritten]
  · rw [← hwritten']

end AdapterReport.Html
