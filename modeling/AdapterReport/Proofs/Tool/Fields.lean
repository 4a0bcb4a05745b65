import AdapterReport.Proofs.Text.Lines
import AdapterReport.Tool.Shell.Fields
import Mathlib.Logic.Basic

/-!
# The fields of a text

What is cut into fields as a whole is cut at its separators.

* `fields_of_blank`: of blank separators many count as one, and those at the ends do not count, so
  the fields are the maximal runs between them.
* `fields_of_visible`: of other separators each counts; only a last field that is empty is left out.
* `fields_of_quoted`: what is not cut at all is one field.
* `fields_joined`: words with spaces between them are cut into the words.
-/

namespace AdapterReport.Shell.Expanded

/-- All of it is one region that is cut at separators. -/
structure Whole (e : Expanded) : Prop where
  size : e.size = e.units.length
  regions : e.regions = [⟨0, e.size, false⟩]

/-! ## Putting together -/

theorem putText_eq (e : Expanded) (s : String) (isLiteral : Bool) :
    e.putText s isLiteral =
      { e with
        reversed := (s.toList.map (FieldUnit.char · isLiteral)).reverse ++ e.reversed
        size := e.size + s.toList.length } := by
  unfold putText
  induction s.toList generalizing e with
  | nil => rfl
  | cons c s ih =>
    rw [List.foldl_cons, ih, put, List.map_cons, List.reverse_cons, List.append_assoc,
      List.length_cons, Nat.add_assoc, Nat.add_comm 1]
    rfl

/-- A text outside of quotes. -/
def ofText (s : String) (isLiteral : Bool) : Expanded :=
  (empty.putText s isLiteral).addRegion 0 false

@[simp] theorem units_ofText (s : String) (isLiteral : Bool) :
    (ofText s isLiteral).units = s.toList.map (FieldUnit.char · isLiteral) := by
  simp [ofText, putText_eq, addRegion, units, empty]

theorem whole_ofText (s : String) (isLiteral : Bool) : Whole (ofText s isLiteral) where
  size := by simp [ofText, putText_eq, addRegion, units, empty]
  regions := by
    rw [ofText, putText_eq]
    rfl

/-! ## Cutting -/

/-- The fields that are not empty. -/
def filled (fields : List (List FieldUnit)) : List (List FieldUnit) := fields.filter (!·.isEmpty)

namespace Cutting

variable {separators : String} {k : Cutting} {u : FieldUnit} {us : List FieldUnit}

/-- There may be any number of fields, and none is begun right behind a blank separator. -/
structure Free (k : Cutting) : Prop where
  left : k.left = none
  trimmed : k.trimmed = none
  behind : k.isBehindBlank = true → k.current = []

theorem step_inside (hk : k.Free) (h : isSeparator separators u = false) :
    k.step separators false false u =
      { k with current := u :: k.current, isBehindBlank := false } := by
  have hleft : (k.left == some 0) = false := by
    rw [hk.left]
    rfl
  cases hbehind : k.isBehindBlank with
  | true => simp [step, hleft, hbehind, h, hk.behind hbehind]
  | false => simp [step, hleft, hbehind, h, put]

theorem Free.inside (hk : k.Free) :
    Free { k with current := u :: k.current, isBehindBlank := false } :=
  ⟨hk.left, hk.trimmed, fun h => by cases h⟩

/-- A blank separator ends a field that is not empty. -/
theorem step_blank (hk : k.Free) (h : isSeparator separators u = true)
    (hblank : isBlankSeparator u = true) :
    (k.step separators false false u).Free ∧ (k.step separators false false u).current = [] ∧
      (k.step separators false false u).fields.reverse =
        k.fields.reverse ++ filled [k.current.reverse] := by
  have hstep : k.step separators false false u =
      if k.isBehindBlank = true then { k with current := [] } else k.atSeparator true false u := by
    simp [step, hk.left, h, hblank]
  rw [hstep]
  cases hbehind : k.isBehindBlank with
  | true =>
    have hcurrent := hk.behind hbehind
    exact ⟨⟨hk.left, hk.trimmed, fun _ => rfl⟩, rfl, by simp [filled, hcurrent]⟩
  | false =>
    cases hcurrent : k.current with
    | nil =>
      have hsame : k.atSeparator true false u = { k with isBehindBlank := false } := by
        simp [atSeparator, hcurrent]
      rw [if_neg Bool.false_ne_true, hsame]
      exact ⟨⟨hk.left, hk.trimmed, fun _ => hcurrent⟩, hcurrent, by simp [filled]⟩
    | cons v vs =>
      have hended : k.atSeparator true false u =
          { k with fields := (v :: vs).reverse :: k.fields, current := [], isBehindBlank := true,
                   left := none } := by
        simp [atSeparator, hcurrent, hk.left]
      rw [if_neg Bool.false_ne_true, hended]
      exact ⟨⟨rfl, hk.trimmed, fun _ => rfl⟩, rfl, by simp [filled]⟩

/-- Any other separator ends a field. -/
theorem step_visible (hk : k.Free) (hbehind : k.isBehindBlank = false)
    (h : isSeparator separators u = true) (hblank : isBlankSeparator u = false) :
    k.step separators false false u =
      { k with fields := k.current.reverse :: k.fields, current := [] } := by
  obtain ⟨fields, current, behind, left, trimmed⟩ := k
  obtain rfl : left = none := hk.left
  obtain rfl : behind = false := hbehind
  simp [step, atSeparator, h, hblank]

theorem foldl_blank (hk : k.Free) (hblank : ∀ u ∈ us, isSeparator separators u = true →
      isBlankSeparator u = true) :
    (us.foldl (step separators false false) k).Free ∧
      (us.foldl (step separators false false) k).fields.reverse ++
          filled [(us.foldl (step separators false false) k).current.reverse] =
        k.fields.reverse ++ filled (us.splitOnPPrepend (isSeparator separators) k.current) := by
  induction us generalizing k with
  | nil => exact ⟨hk, rfl⟩
  | cons u us ih =>
    have hrest : ∀ v ∈ us, isSeparator separators v = true → isBlankSeparator v = true :=
      fun v hv => hblank v (List.mem_cons_of_mem u hv)
    rw [List.foldl_cons]
    cases hsep : isSeparator separators u with
    | false =>
      rw [List.splitOnPPrepend_cons_neg hsep, step_inside hk hsep]
      exact ih hk.inside hrest
    | true =>
      obtain ⟨hfree, hcurrent, hfields⟩ := step_blank hk hsep (hblank u List.mem_cons_self hsep)
      obtain ⟨hend, heq⟩ := ih hfree hrest
      refine ⟨hend, heq.trans ?_⟩
      rw [List.splitOnPPrepend_cons_pos hsep, hcurrent, hfields, List.append_assoc]
      exact congrArg _ (List.filter_append ..).symm

theorem foldl_visible (hk : k.Free) (hbehind : k.isBehindBlank = false)
    (hvisible : ∀ u ∈ us, isSeparator separators u = true → isBlankSeparator u = false) :
    (us.foldl (step separators false false) k).Free ∧
      (us.foldl (step separators false false) k).fields.reverse ++
          [(us.foldl (step separators false false) k).current.reverse] =
        k.fields.reverse ++ us.splitOnPPrepend (isSeparator separators) k.current := by
  induction us generalizing k with
  | nil => exact ⟨hk, rfl⟩
  | cons u us ih =>
    have hrest : ∀ v ∈ us, isSeparator separators v = true → isBlankSeparator v = false :=
      fun v hv => hvisible v (List.mem_cons_of_mem u hv)
    rw [List.foldl_cons]
    cases hsep : isSeparator separators u with
    | false =>
      rw [List.splitOnPPrepend_cons_neg hsep, step_inside hk hsep]
      exact ih hk.inside rfl hrest
    | true =>
      rw [List.splitOnPPrepend_cons_pos hsep,
        step_visible hk hbehind hsep (hvisible u List.mem_cons_self hsep)]
      have hfree : Free { k with fields := k.current.reverse :: k.fields, current := [] } :=
        ⟨hk.left, hk.trimmed, fun _ => rfl⟩
      obtain ⟨hend, heq⟩ := ih hfree hbehind hrest
      refine ⟨hend, heq.trans ?_⟩
      rw [List.reverse_cons, List.append_assoc]
      rfl

end Cutting

/-! ## Fields -/

variable {separators : String} {e : Expanded}

theorem cutFrom_whole (h : Whole e) (k : Cutting) (hk : k.isBehindBlank = false) :
    cutFrom separators e.regions.reverse false 0 e.units k =
      (e.units.foldl (Cutting.step separators false false) k, false) := by
  obtain ⟨fields, current, behind, left, trimmed⟩ := k
  obtain rfl : behind = false := hk
  simp [h.regions, cutFrom, h.size]

/-- The last field counts if it is not empty. -/
theorem fields_eq {k : Cutting} (htrimmed : k.trimmed = none)
    (hcut : cutFrom separators e.regions.reverse false 0 e.units ⟨[], [], false, none, none⟩ =
      (k, false)) :
    e.fields separators none = k.fields.reverse ++ filled [k.current.reverse] := by
  simp only [fields, hcut, htrimmed, Option.map_none, Option.getD_none, Bool.and_false,
    Bool.or_false]
  cases k.current.reverse <;> rfl

/-- **Blank separators** stand between the fields, and there is nothing else between them. -/
theorem fields_of_blank (h : Whole e) (hblank : ∀ u ∈ e.units, isSeparator separators u = true →
      isBlankSeparator u = true) :
    e.fields separators none = filled (e.units.splitOnP (isSeparator separators)) := by
  obtain ⟨hfree, heq⟩ := Cutting.foldl_blank
    (k := ⟨[], [], false, none, none⟩) ⟨rfl, rfl, fun h => absurd h Bool.false_ne_true⟩ hblank
  exact (fields_eq hfree.trimmed (cutFrom_whole h _ rfl)).trans heq

/-- **Other separators** end a field each; behind the last one there is none that is empty. -/
theorem fields_of_visible (h : Whole e) (hvisible : ∀ u ∈ e.units,
      isSeparator separators u = true → isBlankSeparator u = false) :
    ∃ before last, e.units.splitOnP (isSeparator separators) = before ++ [last] ∧
      e.fields separators none = before ++ filled [last] := by
  obtain ⟨hfree, heq⟩ := Cutting.foldl_visible
    (k := ⟨[], [], false, none, none⟩) ⟨rfl, rfl, fun h => absurd h Bool.false_ne_true⟩ rfl hvisible
  exact ⟨_, _, heq.symm, fields_eq hfree.trimmed (cutFrom_whole h _ rfl)⟩

theorem foldl_put (us : List FieldUnit) (k : Cutting) :
    us.foldl Cutting.put k = { k with current := us.reverse ++ k.current } := by
  induction us generalizing k with
  | nil => rfl
  | cons u us ih =>
    rw [List.foldl_cons, ih, Cutting.put, List.reverse_cons, List.append_assoc]
    rfl

/-- **Without regions** nothing is cut. -/
theorem fields_of_quoted (separators : String) (h : e.regions = []) :
    e.fields separators none = filled [e.units] := by
  have hcut : cutFrom separators e.regions.reverse false 0 e.units ⟨[], [], false, none, none⟩ =
      (⟨[], e.units.reverse, false, none, none⟩, false) := by
    rw [h, List.reverse_nil, cutFrom, foldl_put, List.append_nil]
  rw [fields_eq rfl hcut, List.reverse_reverse]
  rfl

/-! ## Words -/

theorem splitOnP_intercalate {α : Type} {p : α → Bool} {sep : α} (hsep : p sep = true)
    {words : List (List α)} (hne : words ≠ []) (h : ∀ w ∈ words, ∀ x ∈ w, p x = false) :
    ([sep].intercalate words).splitOnP p = words := by
  induction words with
  | nil => exact absurd rfl hne
  | cons w rest ih =>
    have hw := h w List.mem_cons_self
    cases rest with
    | nil =>
      rw [List.intercalate_singleton]
      exact List.splitOnP_eq_singleton hw
    | cons v rest =>
      rw [List.intercalate_cons_cons, List.append_assoc, List.singleton_append,
        List.splitOnP_append_cons_of_forall_mem hw sep hsep,
        ih (List.cons_ne_nil v rest) fun u hu => h u (List.mem_cons_of_mem w hu)]

theorem map_intercalate {α β : Type} (f : α → β) (sep : List α) (words : List (List α)) :
    (sep.intercalate words).map f = (sep.map f).intercalate (words.map (List.map f)) := by
  cases words with
  | nil => rfl
  | cons w rest =>
    rw [List.map_cons, Text.intercalate_cons, Text.intercalate_cons, List.map_append,
      List.map_flatMap, List.flatMap_map]
    simp only [List.map_append]

theorem chars_map (s : List Char) (isLiteral : Bool) :
    chars (s.map (FieldUnit.char · isLiteral)) = s := by
  rw [chars, List.filterMap_map]
  exact List.filterMap_some

/-- **Words with spaces between them** are the fields of the line. -/
theorem fields_joined {words : List String} (isLiteral : Bool) (hfilled : ∀ w ∈ words, w ≠ "")
    (hinside : ∀ w ∈ words, ∀ c ∈ w.toList, standardSeparators.toList.contains c = false) :
    ((ofText (" ".intercalate words) isLiteral).fields standardSeparators none).map chars =
      words.map String.toList := by
  have hblank : fields standardSeparators none (ofText (" ".intercalate words) isLiteral) =
      filled (List.splitOnP (isSeparator standardSeparators)
        ([.char ' ' isLiteral].intercalate
          ((words.map String.toList).map (List.map (FieldUnit.char · isLiteral))))) := by
    rw [fields_of_blank (whole_ofText _ _) fun _ _ => id, units_ofText, String.toList_intercalate,
      map_intercalate]
    rfl
  rw [hblank]
  by_cases hne : words = []
  · rw [hne]
    rfl
  have hpieces : ∀ piece ∈ (words.map String.toList).map (List.map (FieldUnit.char · isLiteral)),
      (∀ u ∈ piece, isSeparator standardSeparators u = false) ∧ (!piece.isEmpty) = true := by
    intro piece hpiece
    obtain ⟨s, hs, rfl⟩ := List.mem_map.mp hpiece
    obtain ⟨w, hw, rfl⟩ := List.mem_map.mp hs
    refine ⟨fun u hu => ?_, ?_⟩
    · obtain ⟨c, hc, rfl⟩ := List.mem_map.mp hu
      exact hinside w hw c hc
    · simpa using hfilled w hw
  have hchars : chars ∘ List.map (FieldUnit.char · isLiteral) = id :=
    funext fun s => chars_map s isLiteral
  rw [splitOnP_intercalate rfl (by simpa using hne) fun piece hp => (hpieces piece hp).1, filled,
    List.filter_eq_self.mpr fun piece hp => (hpieces piece hp).2, List.map_map, hchars, List.map_id]

end AdapterReport.Shell.Expanded
