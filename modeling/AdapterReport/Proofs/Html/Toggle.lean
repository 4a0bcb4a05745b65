import AdapterReport.Proofs.Html.Entities
import AdapterReport.Proofs.Html.Parts
import AdapterReport.Proofs.Html.Script

/-!
# Folding links

Behind a folding link stands a call of `toggle` with the id of its section. The id passes through
two readers there: the reader of the page takes the entities out of the attribute, and the script
engine reads what is left. `escape` writes the id for the first of them only.

* `attributeValues_render`: a reader finds the values that the template has, with the inserted texts
  as they were before they were escaped.
* `toggle_links`: the links of a section act on its own block and link exactly if its id has no
  character that means something in a literal of a script.
-/

namespace AdapterReport.Html

/-! ## Values of attributes -/

/-- The values that a tag has for this attribute if it has this name, as a reader takes them. -/
def Mark.valuesOf (tagName name : String) : Mark → List String
  | .opening n attributes =>
    if n = tagName then
      (attributes.filter (·.name = name)).map fun a => unescape a.value
    else []
  | .declaration _ | .closing _ => []

/-- The values of this attribute in all tags of a page with this name, as a reader takes them. -/
def attributeValues (tagName name page : String) : Option (List String) :=
  (tags page).map fun ts => ts.flatMap fun text => (readTag text).elim [] (·.valuesOf tagName name)

/-- A part of a value as it was before it was escaped. -/
def ValuePart.plain : ValuePart → String
  | .fixed s | .inserted s => s

/-- A value in which the template has no `&` is read with its parts as they were. -/
theorem unescape_join {parts : List ValuePart} (h : parts.all (·.lacks ['&']) = true) :
    unescape (String.join (parts.map ValuePart.text)) =
      String.join (parts.map ValuePart.plain) := by
  have hchars : unescapeChars (String.join (parts.map ValuePart.text)).toList =
      (String.join (parts.map ValuePart.plain)).toList := by
    induction parts with
    | nil => rfl
    | cons part parts ih =>
      rw [List.all_cons, Bool.and_eq_true] at h
      rw [List.map_cons, List.map_cons, String.join_cons, String.join_cons, String.toList_append,
        String.toList_append, ← ih h.2]
      cases part with
      | fixed s => exact unescapeChars_of_not_mem (not_mem_of_lacks h.1 (by decide)) _
      | inserted s => exact unescapeChars_escape s _
  rw [unescape, hchars, String.ofList_toList]

/-- **The values of a page** are those of its pieces, whatever text was inserted. -/
theorem attributeValues_render {pieces : List Piece} (h : Proper pieces) (tagName name : String) :
    attributeValues tagName name (render pieces) =
      some ((marks pieces).flatMap (Mark.valuesOf tagName name)) := by
  have hread : ∀ k ∈ marks pieces,
      (readTag k.text).elim [] (·.valuesOf tagName name) = k.valuesOf tagName name := by
    intro k hk
    rw [readTag_of_mem h hk]
    rfl
  rw [attributeValues, tags_render h, Option.map_some, List.flatMap_map, List.flatMap_def,
    List.map_congr_left hread, ← List.flatMap_def]

/-! ## The elements that the script looks up -/

/-- How the script asks the page for an element, up to what it appends to its argument. -/
def elementQuery : List Char :=
  "document.getElementById(id+\x27".toList

/-- What a script appends to its argument in each of its queries. -/
def querySuffixes : List Char → List String
  | [] => []
  | c :: rest =>
    (if elementQuery <+: c :: rest then
      [.ofList (((c :: rest).drop elementQuery.length).takeWhile (· ≠ '\x27'))]
    else []) ++ querySuffixes rest

/-- The ids of the elements on which a call of `toggle` with this id acts. -/
def targets (id : String) : List String :=
  (querySuffixes scriptText.toList).map (id ++ ·)

theorem targets_eq (id : String) : targets id = [id ++ "_c", id ++ "_l"] := by
  have hsuffixes : querySuffixes scriptText.toList = ["_c", "_l"] := by
    unfold scriptText
    repeat rw [String.toList_append]
    decide +kernel
  rw [targets, hsuffixes]
  rfl

/-! ## The links of a section -/

/-- The code of a call of `toggle` with this id between the quotes. -/
def toggleCode (id after : String) : String :=
  "toggle(\"" ++ id ++ "\");" ++ after

theorem heading_values (title id : String) (collapsed : Bool) (tagName name : String) :
    attributeValues tagName name (encoder.heading title (some id) collapsed) =
      some ((marks (headingPieces title (some id) collapsed)).flatMap
        (Mark.valuesOf tagName name)) := by
  have hproper : Proper (headingPieces title (some id) collapsed) := by
    rw [headingPieces_block]
    exact (nested_headingLinks title id collapsed).proper.append (proper_block id collapsed)
  exact attributeValues_render hproper tagName name

theorem footer_values (id tagName name : String) :
    attributeValues tagName name (encoder.footer (some id)) =
      some ((marks (footerPieces (some id))).flatMap (Mark.valuesOf tagName name)) :=
  attributeValues_render (proper_footer (some id)) tagName name

/-- The code of a link, as a reader takes it. -/
theorem unescape_toggleCall (id : String) {after : String} (h : lacks ['&'] after = true) :
    unescape (toggleCall id after).valueText = toggleCode id after := by
  have hparts : (toggleCall id after).value.all (·.lacks ['&']) = true := by
    simp [toggleCall, ValuePart.lacks, lacks_append, h]
    decide
  rw [Attribute.valueText, unescape_join hparts]
  simp [toggleCall, ValuePart.plain, toggleCode, String.append_assoc]

/-- The id of an element of a section, as a reader takes it. -/
theorem unescape_id (id : String) {ending : String} (h : lacks ['&'] ending = true) :
    unescape (String.join ([.inserted id, .fixed ending].map ValuePart.text)) = id ++ ending := by
  have hparts : [ValuePart.inserted id, .fixed ending].all (·.lacks ['&']) = true := by
    simp [ValuePart.lacks, h]
  rw [unescape_join hparts]
  simp [ValuePart.plain]

theorem onclick_heading (title id : String) (collapsed : Bool) :
    attributeValues "a" "onclick" (encoder.heading title (some id) collapsed) =
      some [toggleCode id " return false;"] := by
  rw [heading_values, ← unescape_toggleCall id (by decide)]
  simp [headingPieces, Mark.valuesOf, Attribute.mark, noBorder, reference, toggleCall]

theorem onclick_footer (id : String) :
    attributeValues "a" "onclick" (encoder.footer (some id)) = some [toggleCode id ""] := by
  rw [footer_values, ← unescape_toggleCall id (by decide)]
  simp [footerPieces, Mark.valuesOf, Attribute.mark, reference, toggleCall]

theorem id_block (title id : String) (collapsed : Bool) :
    attributeValues "div" "id" (encoder.heading title (some id) collapsed) =
      some [id ++ "_c"] := by
  rw [heading_values, ← unescape_id id (by decide)]
  simp [headingPieces, Mark.valuesOf, Attribute.mark, Attribute.valueText]

theorem id_link (title id : String) (collapsed : Bool) :
    attributeValues "a" "id" (encoder.heading title (some id) collapsed) =
      some [id ++ "_l"] := by
  rw [heading_values, ← unescape_id id (by decide)]
  simp [headingPieces, Mark.valuesOf, Attribute.mark, Attribute.valueText, reference, toggleCall]

/-- A call of `toggle` in a link has the id as its argument exactly if nothing in the id means
something to the script engine, and then the code goes on with the template. -/
theorem argument?_toggleCode {id after : String} {rest : List Char}
    (h : lacks ['\x22'] after = true) :
    Script.argument? (toggleCode id after).toList = some (Script.units id.toList, rest) ↔
      (∀ c ∈ id.toList, c ∉ Script.special) ∧ rest = ';' :: after.toList := by
  have hcode : (toggleCode id after).toList =
      "toggle(\"".toList ++ (id.toList ++ '\x22' :: ')' :: (';' :: after.toList)) := by
    simp [toggleCode]
  have hafter : '\x22' ∉ ';' :: after.toList := by
    rw [List.mem_cons, not_or]
    exact ⟨by decide, not_mem_of_lacks h (by decide)⟩
  rw [hcode, Script.argument?_iff hafter]

/-- **The links of a section act on that section** exactly if its id has no quote, no backslash and
no line break: the page's reader finds the id as it is in the code of both links, and the script
engine reads it as a literal. What `toggle` looks up for an id is always the block and the link of
the section. -/
theorem toggle_links (title id : String) (collapsed : Bool) :
    let heading := encoder.heading title (some id) collapsed
    let footer := encoder.footer (some id)
    attributeValues "a" "onclick" heading = some [toggleCode id " return false;"] ∧
    attributeValues "a" "onclick" footer = some [toggleCode id ""] ∧
    (∀ after ∈ [" return false;", ""], ∀ rest,
      Script.argument? (toggleCode id after).toList = some (Script.units id.toList, rest) ↔
        (∀ c ∈ id.toList, c ∉ ['\x22', '\\', '\n', '\x0d']) ∧ rest = ';' :: after.toList) ∧
    attributeValues "div" "id" heading = some [id ++ "_c"] ∧
    attributeValues "a" "id" heading = some [id ++ "_l"] ∧
    targets id = [id ++ "_c", id ++ "_l"] := by
  intro heading footer
  refine ⟨onclick_heading title id collapsed, onclick_footer id, fun after hafter rest => ?_,
    id_block title id collapsed, id_link title id collapsed, targets_eq id⟩
  have hlacks : ∀ after ∈ [" return false;", ""], lacks ['\x22'] after = true := by decide
  exact argument?_toggleCode (hlacks after hafter)

/-- An id with a quote ends its literal: the link calls `toggle` with another id, and the rest of
the id is code of its own. -/
theorem toggle_call_injected :
    let id := "x\");alert(\"y"
    let code := toggleCode id " return false;"
    attributeValues "a" "onclick" (encoder.heading "Ports" (some id) false) = some [code] ∧
    Script.argument? code.toList =
      some (Script.units "x".toList, ";alert(\"y\"); return false;".toList) ∧
    Script.units "x".toList ≠ Script.units id.toList :=
  ⟨onclick_heading _ _ _, by decide +kernel, by decide +kernel⟩

end AdapterReport.Html
