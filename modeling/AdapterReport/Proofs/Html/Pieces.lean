import AdapterReport.Proofs.Html.Passes
import AdapterReport.Proofs.Html.Reader

/-!
# Pieces as a reader finds them

`marks` are the tags that pieces were meant to be. If the template's own parts are in order
(`Proper`), a reader finds just these, whatever text was inserted:

* `lacks_escape`: escaped text has no character that means something in a page.
* `tags_render`: the tags of the rendered text are those of the pieces.
* `readTag_of_mem`: such a tag is read as it was meant, so a value ends at the template's quote.
-/

namespace AdapterReport.Html

/-! ## Tags as they are meant -/

/-- The quote itself. -/
def Quotes.quote? : Quotes → Option Char
  | .none => Option.none
  | .single => some '\x27'
  | .double => some '\x22'

/-- The value of an attribute. -/
def Attribute.valueText (a : Attribute) : String :=
  String.join (a.value.map ValuePart.text)

/-- An attribute as it is meant to be read. -/
def Attribute.mark (a : Attribute) : MarkAttribute :=
  ⟨a.name, a.quotes.quote?, a.valueText⟩

/-- A piece as it is meant to be read; text is no tag. -/
def Piece.mark? : Piece → Option Mark
  | .declaration s => some (.declaration s)
  | .openTag name attributes => some (.opening name (attributes.map Attribute.mark))
  | .closeTag name => some (.closing name)
  | .fixed _ | .inserted _ => none

/-- The tags among pieces. -/
def marks (pieces : List Piece) : List Mark :=
  pieces.filterMap Piece.mark?

/-! ## Text from outside -/

/-- The characters that mean something in a page. -/
def markup : List Char :=
  ['<', '>', '\x22', '\x27']

theorem lacks_escapeChar (c : Char) : (escapeChar c).all (fun d => !markup.contains d) = true := by
  unfold escapeChar
  split
  · decide
  split
  · decide
  split
  · decide
  split
  · decide
  split
  · decide
  · simp_all [markup]

/-- **Escaped text** has no character that means something in a page. -/
theorem lacks_escape (s : String) : lacks markup (escape s) = true := by
  rw [lacks, escape_eq, String.toList_ofList, List.all_flatMap, List.all_eq_true]
  intro c _
  exact lacks_escapeChar c

/-! ## The template's parts -/

/-- The part of the template in a value has none of these characters. -/
def ValuePart.lacks (reserved : List Char) : ValuePart → Bool
  | .fixed s => Html.lacks reserved s
  | .inserted _ => true

/-- The template's part of an attribute ends nothing too early. -/
def Attribute.proper (a : Attribute) : Bool :=
  lacks ['=', '>'] a.name &&
    match a.quotes with
    | .single => a.value.all (·.lacks ['>', '\x27'])
    | .double => a.value.all (·.lacks ['>', '\x22'])
    | .none =>
      match a.value with
      | [.fixed s] => !s.toList.isEmpty && lacks [' ', '>', '\x27', '\x22'] s
      | _ => false

/-- The template's part of a piece ends nothing too early and begins nothing else. -/
def Piece.proper : Piece → Bool
  | .declaration s => lacks ['>'] s
  | .openTag name attributes => lacks [' ', '>', '!', '/'] name && attributes.all (·.proper)
  | .closeTag name => lacks ['>'] name
  | .fixed s => lacks ['<'] s
  | .inserted _ => true

/-- The template's parts are in order. -/
def Proper (pieces : List Piece) : Prop :=
  pieces.all (·.proper) = true

instance (pieces : List Piece) : Decidable (Proper pieces) :=
  inferInstanceAs (Decidable (_ = true))

/-- Text from outside cannot bring in what the template's parts do not have. -/
theorem lacks_join_parts {parts : List ValuePart} {reserved : List Char}
    (h : parts.all (·.lacks reserved) = true) (hsub : reserved ⊆ markup) :
    lacks reserved (String.join (parts.map ValuePart.text)) = true := by
  induction parts with
  | nil => rfl
  | cons part rest ih =>
    rw [List.all_cons, Bool.and_eq_true] at h
    rw [List.map_cons, String.join_cons, lacks_append, ih h.2, Bool.and_true]
    cases part with
    | fixed s => exact h.1
    | inserted s => exact lacks_of_subset (lacks_escape s) hsub

theorem Attribute.readable_mark {a : Attribute} (h : a.proper = true) :
    a.mark.readable = true := by
  unfold proper at h
  rw [Bool.and_eq_true] at h
  obtain ⟨hname, hvalue⟩ := h
  have hquoted {quote : Char} (hin : ['>', quote] ⊆ markup)
      (h : a.value.all (·.lacks ['>', quote]) = true) :
      lacks ['>'] a.valueText = true ∧ lacks [quote] a.valueText = true := by
    have := lacks_join_parts h hin
    exact ⟨lacks_of_subset this (by simp), lacks_of_subset this (by simp)⟩
  unfold MarkAttribute.readable mark
  rw [Bool.and_eq_true, Bool.and_eq_true]
  cases hq : a.quotes with
  | single =>
    rw [hq] at hvalue
    obtain ⟨hgt, hlacks⟩ := hquoted (by decide) hvalue
    exact ⟨⟨hname, hgt⟩, by simpa [Quotes.quote?] using hlacks⟩
  | double =>
    rw [hq] at hvalue
    obtain ⟨hgt, hlacks⟩ := hquoted (by decide) hvalue
    exact ⟨⟨hname, hgt⟩, by simpa [Quotes.quote?] using hlacks⟩
  | none =>
    simp only [hq] at hvalue
    split at hvalue
    · rename_i s hs
      rw [Bool.and_eq_true] at hvalue
      have htext : a.valueText = s := by simp [valueText, hs, ValuePart.text]
      rw [htext]
      refine ⟨⟨hname, lacks_of_subset hvalue.2 (by simp)⟩, ?_⟩
      simp only [Quotes.quote?, Bool.and_eq_true]
      exact ⟨hvalue.1, lacks_of_subset hvalue.2 (by simp)⟩
    · cases hvalue

theorem Piece.readable_mark {p : Piece} {k : Mark} (h : p.proper = true) (hk : p.mark? = some k) :
    k.readable = true := by
  cases p with
  | declaration s => cases hk; exact h
  | closeTag name => cases hk; exact h
  | openTag name attributes =>
    cases hk
    rw [proper, Bool.and_eq_true] at h
    rw [Mark.readable, Bool.and_eq_true, List.all_map]
    exact ⟨h.1, List.all_eq_true.mpr fun a ha =>
      Attribute.readable_mark (List.all_eq_true.mp h.2 a ha)⟩
  | fixed s => cases hk
  | inserted s => cases hk

theorem Attribute.toList_text (a : Attribute) : a.text.toList = a.mark.text := by
  cases hq : a.quotes <;>
    simp [text, mark, MarkAttribute.text, valueText, Quotes.text, Quotes.quote?, hq]

theorem Piece.toList_text {p : Piece} {k : Mark} (hk : p.mark? = some k) :
    p.text.toList = '<' :: k.text ++ ['>'] := by
  cases p with
  | declaration s => cases hk; simp [text, Mark.text]
  | closeTag name => cases hk; simp [text, Mark.text]
  | openTag name attributes =>
    cases hk
    simp [text, Mark.text, List.flatMap_map, Attribute.toList_text]
  | fixed s => cases hk
  | inserted s => cases hk

/-- Text has no tag in it. -/
theorem Piece.not_mem_text {p : Piece} (h : p.proper = true) (hk : p.mark? = none) :
    '<' ∉ p.text.toList := by
  cases p with
  | fixed s => exact not_mem_of_lacks h (by decide)
  | inserted s => exact not_mem_of_lacks (lacks_escape s) (by decide)
  | declaration s => cases hk
  | openTag name attributes => cases hk
  | closeTag name => cases hk

theorem marks_cons_none {p : Piece} (h : p.mark? = none) (pieces : List Piece) :
    marks (p :: pieces) = marks pieces :=
  List.filterMap_cons_none h

theorem marks_cons_some {p : Piece} {k : Mark} (h : p.mark? = some k) (pieces : List Piece) :
    marks (p :: pieces) = k :: marks pieces :=
  List.filterMap_cons_some h

theorem toList_render_cons (p : Piece) (pieces : List Piece) (rest : List Char) :
    (render (p :: pieces)).toList ++ rest = p.text.toList ++ ((render pieces).toList ++ rest) := by
  simp [render, writes]

theorem tagsFrom_render {pieces : List Piece} (h : Proper pieces) (rest : List Char) :
    tagsFrom none ((render pieces).toList ++ rest) =
      (tagsFrom none rest).map ((marks pieces).map Mark.text ++ ·) := by
  induction pieces with
  | nil => simp [render, writes, marks]
  | cons p pieces ih =>
    rw [Proper, List.all_cons, Bool.and_eq_true] at h
    rw [toList_render_cons]
    cases hk : p.mark? with
    | none =>
      rw [tagsFrom_text (p.not_mem_text h.1 hk), ih h.2, marks_cons_none hk]
    | some k =>
      rw [p.toList_text hk, List.append_assoc, List.singleton_append,
        tagsFrom_tag (Mark.not_mem_text (p.readable_mark h.1 hk)), ih h.2, Option.map_map,
        marks_cons_some hk]
      rfl

/-- **The tags of a page** are those of its pieces, whatever text was inserted. -/
theorem tags_render {pieces : List Piece} (h : Proper pieces) :
    tags (render pieces) = some ((marks pieces).map Mark.text) := by
  have := tagsFrom_render h []
  rw [List.append_nil, tagsFrom, Option.map_some, List.append_nil] at this
  exact this

theorem readable_of_mem {pieces : List Piece} (h : Proper pieces) {k : Mark}
    (hk : k ∈ marks pieces) : k.readable = true := by
  obtain ⟨p, hp, hpk⟩ := List.mem_filterMap.mp hk
  exact p.readable_mark (List.all_eq_true.mp h p hp) hpk

/-- Every tag of a page is read as the template means it. -/
theorem readTag_of_mem {pieces : List Piece} (h : Proper pieces) {k : Mark}
    (hk : k ∈ marks pieces) : readTag k.text = some k :=
  readTag_text (readable_of_mem h hk)

end AdapterReport.Html
