import AdapterReport.Proofs.Html.Parts
import AdapterReport.Proofs.Html.Tokens

/-!
# Elements as a reader finds them

`elementsFrom` finds the elements with some names among the tokens of a page, each with all that
stands up to the tag that closes it.

* `elementsFrom_without`: pieces that have no tag with one of these names have no such element,
  whatever text was inserted.
* `elementsFrom_element`: an element around such pieces is found with just these in it.
-/

namespace AdapterReport.Html

/-! ## The reader -/

/-- An element as a reader finds it. -/
structure Element where
  name : String
  attributes : List MarkAttribute
  /-- What stands up to the tag that closes the element. -/
  contents : List Token
  deriving DecidableEq

/-- The tag that closes an element. -/
def elementEnd (name : String) : Token :=
  .tag ('/' :: name.toList)

/-- The elements with one of these names, in the order in which they begin. -/
def elementsFrom (names : List String) : List Token → List Element
  | [] => []
  | .char _ :: rest => elementsFrom names rest
  | .tag text :: rest =>
    match readTag text with
    | some (.opening name attributes) =>
      (if name ∈ names then [⟨name, attributes, rest.takeWhile (· ≠ elementEnd name)⟩] else []) ++
        elementsFrom names rest
    | _ => elementsFrom names rest

/-! ## Pieces without an element -/

/-- The pieces are in order, and none of them is a tag with one of these names. -/
structure Without (names : List String) (pieces : List Piece) : Prop where
  proper : Proper pieces
  absent : (marks pieces).all (fun k => !k.isOf names) = true

variable {names : List String} {ps qs : List Piece}

theorem Without.append (hp : Without names ps) (hq : Without names qs) :
    Without names (ps ++ qs) where
  proper := hp.proper.append hq.proper
  absent := by
    rw [marks_append, List.all_append, hp.absent, hq.absent]
    rfl

theorem Without.flatMap {α : Type} {f : α → List Piece} (h : ∀ x, Without names (f x))
    (xs : List α) : Without names (xs.flatMap f) := by
  induction xs with
  | nil => exact ⟨rfl, rfl⟩
  | cons x xs ih =>
    rw [List.flatMap_cons]
    exact (h x).append ih

/-- Text is no element. -/
theorem Without.inserted (names : List String) (s : String) : Without names [.inserted s] :=
  ⟨rfl, rfl⟩

theorem elementsFrom_text (names : List String) (text : List Char) (rest : List Token) :
    elementsFrom names (text.map .char ++ rest) = elementsFrom names rest := by
  induction text with
  | nil => rfl
  | cons c text ih => rw [List.map_cons, List.cons_append, elementsFrom, ih]

/-- Pieces without an element have none. -/
theorem elementsFrom_without (h : Without names ps) (rest : List Token) :
    elementsFrom names (pieceTokens ps ++ rest) = elementsFrom names rest := by
  obtain ⟨hproper, habsent⟩ := h
  induction ps with
  | nil => rfl
  | cons p ps ih =>
    have hall := hproper
    rw [Proper, List.all_cons, Bool.and_eq_true] at hall
    cases hk : p.mark? with
    | none =>
      rw [marks_cons_none hk] at habsent
      rw [pieceTokens_text hk, List.append_assoc, elementsFrom_text, ih hall.2 habsent]
    | some k =>
      rw [marks_cons_some hk, List.all_cons, Bool.and_eq_true] at habsent
      have hread : readTag k.text = some k := readTag_text (p.readable_mark hall.1 hk)
      rw [pieceTokens_tag hk, List.cons_append, elementsFrom, hread, ih hall.2 habsent.2]
      cases k with
      | opening name attributes =>
        have hname : name ∉ names := by simpa [Mark.isOf] using habsent.1
        simp [hname]
      | declaration s => rfl
      | closing name => rfl

/-- Pieces without an element do not close it. -/
theorem elementEnd_not_mem {name : String} (h : Without [name] ps) :
    elementEnd name ∉ pieceTokens ps := by
  intro hmem
  obtain ⟨p, hp, ht⟩ := List.mem_flatMap.mp hmem
  unfold Piece.tokens at ht
  cases hk : p.mark? with
  | none =>
    rw [hk] at ht
    obtain ⟨c, -, hc⟩ := List.mem_map.mp ht
    cases hc
  | some k =>
    rw [hk] at ht
    have hkmem : k ∈ marks ps := List.mem_filterMap.mpr ⟨p, hp, hk⟩
    have hread := readTag_of_mem h.proper hkmem
    rw [← Token.tag.inj (List.mem_singleton.mp ht), readTag, String.ofList_toList] at hread
    have hisOf := List.all_eq_true.mp h.absent k hkmem
    rw [← Option.some.inj hread] at hisOf
    simp [Mark.isOf] at hisOf

/-! ## An element around pieces -/

/-- **An element around pieces** that have none with its name is found with just these in it. -/
theorem elementsFrom_element {name : String} {attributes : List Attribute}
    (hname : name ∈ names) (hopen : (Piece.openTag name attributes).proper = true)
    (hend : Without [name] ps) (hinner : Without names ps) (rest : List Token) :
    elementsFrom names
        (pieceTokens (.openTag name attributes :: (ps ++ [.closeTag name])) ++ rest) =
      ⟨name, attributes.map Attribute.mark, pieceTokens ps⟩ :: elementsFrom names rest := by
  have hread : readTag (Mark.opening name (attributes.map Attribute.mark)).text = some _ :=
    readTag_text (Piece.readable_mark hopen rfl)
  have htokens : pieceTokens (.openTag name attributes :: (ps ++ [.closeTag name])) ++ rest =
      .tag (Mark.opening name (attributes.map Attribute.mark)).text ::
        (pieceTokens ps ++ elementEnd name :: rest) := by
    rw [pieceTokens_tag rfl, pieceTokens_append, List.cons_append, List.append_assoc]
    rfl
  have hcontents : (pieceTokens ps ++ elementEnd name :: rest).takeWhile (· ≠ elementEnd name) =
      pieceTokens ps := by
    have hne : ∀ t ∈ pieceTokens ps, decide (t ≠ elementEnd name) = true := fun t ht =>
      decide_eq_true fun heq => elementEnd_not_mem hend (heq ▸ ht)
    rw [List.takeWhile_append_of_pos hne, List.takeWhile_cons_of_neg (by simp), List.append_nil]
  have hbehind : elementsFrom names (pieceTokens ps ++ elementEnd name :: rest) =
      elementsFrom names rest := by
    rw [elementsFrom_without hinner]
    simp [elementEnd, elementsFrom, readTag]
  rw [htokens, elementsFrom, hread]
  simp only [if_pos hname, hcontents, hbehind]
  rfl

/-- A reader finds just these elements in the pieces, whatever stands behind them. -/
def Finds (names : List String) (ps : List Piece) (es : List Element) : Prop :=
  ∀ rest, elementsFrom names (pieceTokens ps ++ rest) = es ++ elementsFrom names rest

theorem Without.finds (h : Without names ps) : Finds names ps [] :=
  elementsFrom_without h

theorem Finds.append {es fs : List Element} (hp : Finds names ps es) (hq : Finds names qs fs) :
    Finds names (ps ++ qs) (es ++ fs) := by
  intro rest
  rw [pieceTokens_append, List.append_assoc, hp, hq, List.append_assoc]

theorem Finds.flatMap {α : Type} {f : α → List Piece} {g : α → Element}
    (h : ∀ x, Finds names (f x) [g x]) (xs : List α) :
    Finds names (xs.flatMap f) (xs.map g) := by
  induction xs with
  | nil => exact fun _ => rfl
  | cons x xs ih =>
    rw [List.flatMap_cons]
    exact (h x).append ih

theorem Finds.elements {es : List Element} (h : Finds names ps es) :
    elementsFrom names (pieceTokens ps) = es := by
  have := h []
  rwa [List.append_nil, elementsFrom, List.append_nil] at this

end AdapterReport.Html
