import AdapterReport.Proofs.Html.Pieces

/-!
# Nesting

`nest` goes through tags with the stack of the elements that are open. `Nested` pieces leave every
stack as it is, and no tag of theirs opens or closes a block. Nested pieces may follow each other
(`Nested.append`, `Nested.flatMap`) and stand in an element (`Nested.enclosed`).
-/

namespace AdapterReport.Html

/-! ## Open elements -/

/-- The elements that no tag closes. -/
def voidElements : List String :=
  ["meta", "hr", "br"]

/-- The elements open behind some tags, the last one first; `none` if a tag closes an element that
is not the last one open. -/
def nest : List String → List Mark → Option (List String)
  | opened, [] => some opened
  | opened, .declaration _ :: rest => nest opened rest
  | opened, .opening name _ :: rest =>
    if name ∈ voidElements then nest opened rest else nest (name :: opened) rest
  | last :: opened, .closing name :: rest => if last = name then nest opened rest else none
  | [], .closing _ :: _ => none

/-- The tag opens or closes a block. -/
def Mark.isBlock : Mark → Bool
  | .declaration _ => false
  | .opening name _ | .closing name => name = "div"

/-- The tags close all elements that they open, and no others. -/
def Balanced (ks : List Mark) : Prop :=
  ∀ opened, nest opened ks = some opened

theorem nest_append (opened : List String) (ks ls : List Mark) :
    nest opened (ks ++ ls) = (nest opened ks).bind (nest · ls) := by
  fun_induction nest opened ks with
  | case1 opened => rfl
  | case2 opened s rest ih => rw [List.cons_append, nest, ih]
  | case3 opened name attributes rest hvoid ih => rw [List.cons_append, nest, if_pos hvoid, ih]
  | case4 opened name attributes rest hvoid ih => rw [List.cons_append, nest, if_neg hvoid, ih]
  | case5 opened name rest ih => rw [List.cons_append, nest, if_pos rfl, ih]
  | case6 last opened name rest hne => rw [List.cons_append, nest, if_neg hne]; rfl
  | case7 name rest => rfl

theorem Balanced.append {ks ls : List Mark} (hk : Balanced ks) (hl : Balanced ls) :
    Balanced (ks ++ ls) := by
  intro opened
  rw [nest_append, hk opened]
  exact hl opened

theorem Balanced.element {ks : List Mark} (h : Balanced ks) {name : String}
    (hname : name ∉ voidElements) (attributes : List MarkAttribute) :
    Balanced (.opening name attributes :: (ks ++ [.closing name])) := by
  intro opened
  rw [nest, if_neg hname, nest_append, h (name :: opened), Option.bind_some, nest, if_pos rfl, nest]

/-! ## The tags of pieces -/

@[simp] theorem marks_nil : marks [] = [] := rfl

@[simp] theorem marks_append (ps qs : List Piece) : marks (ps ++ qs) = marks ps ++ marks qs :=
  List.filterMap_append

@[simp] theorem marks_declaration (s : String) (ps : List Piece) :
    marks (.declaration s :: ps) = .declaration s :: marks ps := rfl

@[simp] theorem marks_openTag (name : String) (attributes : List Attribute) (ps : List Piece) :
    marks (.openTag name attributes :: ps) =
      .opening name (attributes.map Attribute.mark) :: marks ps := rfl

@[simp] theorem marks_closeTag (name : String) (ps : List Piece) :
    marks (.closeTag name :: ps) = .closing name :: marks ps := rfl

@[simp] theorem marks_fixed (s : String) (ps : List Piece) : marks (.fixed s :: ps) = marks ps :=
  rfl

@[simp] theorem marks_inserted (s : String) (ps : List Piece) :
    marks (.inserted s :: ps) = marks ps := rfl

@[simp] theorem marks_tag (name : String) (ps : List Piece) :
    marks (tag name :: ps) = .opening name [] :: marks ps := rfl

@[simp] theorem marks_element (name : String) (inner : List Piece) :
    marks (element name inner) = .opening name [] :: (marks inner ++ [.closing name]) := by
  simp [element]

theorem Proper.append {ps qs : List Piece} (hp : Proper ps) (hq : Proper qs) :
    Proper (ps ++ qs) := by
  rw [Proper, List.all_append, Bool.and_eq_true]
  exact ⟨hp, hq⟩

theorem Proper.flatMap {α : Type} {f : α → List Piece} {xs : List α} (h : ∀ x ∈ xs, Proper (f x)) :
    Proper (xs.flatMap f) := by
  rw [Proper, List.all_flatMap, List.all_eq_true]
  exact h

/-- The pieces close all elements that they open, and open no block. -/
structure Nested (pieces : List Piece) : Prop where
  proper : Proper pieces
  balanced : Balanced (marks pieces)
  noBlock : ∀ k ∈ marks pieces, k.isBlock = false

theorem Nested.nil : Nested [] :=
  ⟨rfl, fun _ => rfl, fun _ h => nomatch h⟩

theorem Nested.append {ps qs : List Piece} (hp : Nested ps) (hq : Nested qs) :
    Nested (ps ++ qs) where
  proper := hp.proper.append hq.proper
  balanced := by
    rw [marks_append]
    exact hp.balanced.append hq.balanced
  noBlock := by
    intro k hk
    rw [marks_append] at hk
    rcases List.mem_append.mp hk with h | h
    · exact hp.noBlock k h
    · exact hq.noBlock k h

theorem Nested.flatMap {α : Type} {f : α → List Piece} (h : ∀ x, Nested (f x)) (xs : List α) :
    Nested (xs.flatMap f) := by
  induction xs with
  | nil => exact .nil
  | cons x xs ih =>
    rw [List.flatMap_cons]
    exact (h x).append ih

/-- Text of the template. -/
theorem Nested.fixed {s : String} (h : lacks ['<'] s = true) : Nested [.fixed s] :=
  ⟨by rw [Proper, List.all_cons, Piece.proper, h]; rfl, fun _ => rfl, fun _ h => nomatch h⟩

/-- Text from outside. -/
theorem Nested.inserted (s : String) : Nested [.inserted s] :=
  ⟨rfl, fun _ => rfl, fun _ h => nomatch h⟩

/-- An element with these attributes can stand around nested pieces. -/
def Encloses (name : String) (attributes : List Attribute) : Prop :=
  name ∉ voidElements ∧ name ≠ "div" ∧ Proper [.openTag name attributes, .closeTag name]

instance (name : String) (attributes : List Attribute) : Decidable (Encloses name attributes) :=
  inferInstanceAs (Decidable (_ ∧ _))

theorem Nested.enclosed {inner : List Piece} (h : Nested inner) {name : String}
    {attributes : List Attribute} (he : Encloses name attributes) :
    Nested (.openTag name attributes :: (inner ++ [.closeTag name])) where
  proper := by
    have hproper := he.2.2
    simp only [Proper, List.all_cons, List.all_append, List.all_nil, Bool.and_eq_true] at hproper ⊢
    exact ⟨hproper.1, h.proper, hproper.2⟩
  balanced := by
    rw [marks_openTag, marks_append, marks_closeTag, marks_nil]
    exact h.balanced.element he.1 _
  noBlock := by
    intro k hk
    rw [marks_openTag, marks_append, marks_closeTag, marks_nil, List.mem_cons,
      List.mem_append, List.mem_singleton] at hk
    rcases hk with rfl | hk | rfl
    · exact decide_eq_false he.2.1
    · exact h.noBlock k hk
    · exact decide_eq_false he.2.1

end AdapterReport.Html
