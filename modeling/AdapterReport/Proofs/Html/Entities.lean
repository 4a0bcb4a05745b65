import AdapterReport.Proofs.Html.Pieces

/-!
# Entities

A reader of a page takes the five entities for the characters that they stand for and leaves all
else as it is.

* `unescapeChars_escape`: it reads escaped text as the text that was escaped, entities that stood in
  it included.
* `escape_simultaneous`: the five passes write each character on its own, and nothing is lost.
-/

namespace AdapterReport.Html

/-- Characters of a page as a reader takes them. -/
def unescapeChars : List Char → List Char
  | '&' :: 'a' :: 'm' :: 'p' :: ';' :: rest => '&' :: unescapeChars rest
  | '&' :: 'l' :: 't' :: ';' :: rest => '<' :: unescapeChars rest
  | '&' :: 'g' :: 't' :: ';' :: rest => '>' :: unescapeChars rest
  | '&' :: 'q' :: 'u' :: 'o' :: 't' :: ';' :: rest => '\x22' :: unescapeChars rest
  | '&' :: '#' :: '3' :: '9' :: ';' :: rest => '\x27' :: unescapeChars rest
  | c :: rest => c :: unescapeChars rest
  | [] => []

/-- A text of a page as a reader takes it. -/
def unescape (s : String) : String :=
  .ofList (unescapeChars s.toList)

theorem unescapeChars_cons {c : Char} (h : c ≠ '&') (rest : List Char) :
    unescapeChars (c :: rest) = c :: unescapeChars rest := by
  rw [unescapeChars.eq_def]
  split <;> simp_all

theorem unescapeChars_escapeChar (c : Char) (rest : List Char) :
    unescapeChars (escapeChar c ++ rest) = c :: unescapeChars rest := by
  unfold escapeChar
  split
  · subst c; rfl
  split
  · subst c; rfl
  split
  · subst c; rfl
  split
  · subst c; rfl
  split
  · subst c; rfl
  · rename_i h _ _ _ _
    exact unescapeChars_cons h rest

/-- **Escaped text is read as it was**, whatever stands behind it. -/
theorem unescapeChars_escape (s : String) (rest : List Char) :
    unescapeChars ((escape s).toList ++ rest) = s.toList ++ unescapeChars rest := by
  rw [escape_eq, String.toList_ofList]
  induction s.toList with
  | nil => rfl
  | cons c cs ih =>
    rw [List.flatMap_cons, List.append_assoc, unescapeChars_escapeChar, ih, List.cons_append]

theorem unescape_escape (s : String) : unescape (escape s) = s := by
  have hchars : unescapeChars (escape s).toList = s.toList := by
    simpa [unescapeChars] using unescapeChars_escape s []
  rw [unescape, hchars, String.ofList_toList]

/-- Text without `&` is left as it is. -/
theorem unescapeChars_of_not_mem {text : List Char} (h : '&' ∉ text) (rest : List Char) :
    unescapeChars (text ++ rest) = text ++ unescapeChars rest := by
  induction text with
  | nil => rfl
  | cons c text ih =>
    rw [List.mem_cons, not_or] at h
    rw [List.cons_append, unescapeChars_cons (Ne.symm h.1), ih h.2, List.cons_append]

/-! ## What escaped text is made of -/

/-- A character is written as an entity, or as it is if it is no `&`. -/
theorem escapeChar_cases (c : Char) :
    (∃ e ∈ entities, escapeChar c = e.2.toList) ∨ (c ≠ '&' ∧ escapeChar c = [c]) := by
  rw [← substitute_entities, substitute]
  cases hfind : entities.find? (·.1 = c) with
  | some e => exact .inl ⟨e, List.mem_of_find?_eq_some hfind, rfl⟩
  | none =>
    have habsent := List.find?_eq_none.mp hfind ('&', "&amp;") List.mem_cons_self
    exact .inr ⟨fun h => habsent (by simp [h]), rfl⟩

/-- An entity has its only `&` at its beginning. -/
theorem eq_nil_of_entity {e : Char × String} (he : e ∈ entities) {before after : List Char}
    (h : e.2.toList = before ++ '&' :: after) : before = [] := by
  have honly : ∀ e ∈ entities, '&' ∉ e.2.toList.tail := by decide
  cases before with
  | nil => rfl
  | cons c before =>
    refine absurd ?_ (honly e he)
    rw [h, List.cons_append, List.tail_cons]
    exact List.mem_append_right before List.mem_cons_self

/-- **Every `&`** of escaped text begins an entity. -/
theorem entity_of_ampersand {cs before after : List Char}
    (h : cs.flatMap escapeChar = before ++ '&' :: after) :
    ∃ e ∈ entities, e.2.toList <+: '&' :: after := by
  induction cs generalizing before with
  | nil => simp at h
  | cons c cs ih =>
    rw [List.flatMap_cons] at h
    rcases List.append_eq_append_iff.mp h with ⟨rest, -, hrest⟩ | ⟨begun, hbegun, hrest⟩
    · -- it stands behind what is written for this character
      exact ih hrest
    · cases begun with
      | nil =>
        have hbehind : cs.flatMap escapeChar = [] ++ '&' :: after := hrest.symm
        exact ih hbehind
      | cons d begun =>
        obtain ⟨rfl, hafter⟩ := List.cons.inj hrest
        rcases escapeChar_cases c with ⟨e, he, hentity⟩ | ⟨hc, hplain⟩
        · have hnil : before = [] := eq_nil_of_entity he (hentity ▸ hbegun)
          rw [hnil, List.nil_append] at hbegun
          refine ⟨e, he, cs.flatMap escapeChar, ?_⟩
          rw [← hentity, hbegun, hafter]
          rfl
        · have hmem : '&' ∈ escapeChar c := hbegun ▸ List.mem_append_right _ List.mem_cons_self
          rw [hplain, List.mem_singleton] at hmem
          exact absurd hmem.symm hc

/-- **The five passes are one substitution** of each character on its own: texts can be escaped part
by part, no reserved character stands in the result but the `&` of an entity, and a reader gets the
text back, so different texts stay different. -/
theorem escape_simultaneous (s t : String) :
    escape s = String.ofList (s.toList.flatMap escapeChar) ∧
    escape (s ++ t) = escape s ++ escape t ∧
    (∀ c ∈ ['<', '>', '\x22', '\x27'], c ∉ (escape s).toList) ∧
    (∀ before after, (escape s).toList = before ++ '&' :: after →
      ∃ e ∈ entities, e.2.toList <+: '&' :: after) ∧
    unescape (escape s) = s ∧ (escape s = escape t → s = t) := by
  refine ⟨escape_eq s, escape_append s t, fun c hc => not_mem_of_lacks (lacks_escape s) hc,
    fun before after h => ?_, unescape_escape s, fun h => ?_⟩
  · rw [escape_eq, String.toList_ofList] at h
    exact entity_of_ampersand h
  · rw [← unescape_escape s, h, unescape_escape t]

end AdapterReport.Html
