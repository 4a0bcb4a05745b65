import AdapterReport.Table.Grid

/-!
# The widths of a grid

The width of a column is the largest number of characters in it (`Grid.getElem?_widths_eq_some`),
and there are as many widths as the longest line has cells (`Grid.length_widths`), whatever the
lines are. `Grid.widthsInPlace?_eq`: the widths can be found by raising the places of a list that
has one place for each column; no cell lies outside of it.
-/

namespace AdapterReport

namespace Grid

/-- The cells in a column of lines. -/
def column (lines : List (List GridCell)) (x : Nat) : List GridCell :=
  lines.filterMap (·[x]?)

theorem mem_column {lines : List (List GridCell)} {x : Nat} {c : GridCell} :
    c ∈ column lines x ↔ ∃ cells ∈ lines, cells[x]? = some c :=
  List.mem_filterMap

theorem max?_joinWidths (vs ws : List Nat) (x : Nat) (rest : List Nat) :
    ((joinWidths vs ws)[x]?.toList ++ rest).max? =
      (vs[x]?.toList ++ (ws[x]?.toList ++ rest)).max? := by
  fun_induction joinWidths vs ws generalizing x with
  | case1 ws => simp
  | case2 vs h => simp
  | case3 v vs w ws ih =>
    cases x with
    | zero => rfl
    | succ x => simpa using ih x

theorem getElem?_foldl_joinWidths (lines : List (List GridCell)) (ws : List Nat) (x : Nat) :
    (lines.foldl (fun ws line => joinWidths ws (line.map GridCell.width)) ws)[x]? =
      (ws[x]?.toList ++ (column lines x).map GridCell.width).max? := by
  induction lines generalizing ws with
  | nil => cases h : ws[x]? <;> simp [column, h]
  | cons cells lines ih =>
    rw [List.foldl_cons, ih, max?_joinWidths]
    cases h : cells[x]? <;> simp [column, h]

/-- The width of a column is the largest number of characters in it. -/
theorem getElem?_widths (g : Grid) (x : Nat) :
    g.widths[x]? = ((column g.lines x).map GridCell.width).max? := by
  rw [widths, getElem?_foldl_joinWidths]
  simp

/-- A width is the largest one of its column. -/
theorem getElem?_widths_eq_some {g : Grid} {x w : Nat} :
    g.widths[x]? = some w ↔
      (∃ cells ∈ g.lines, ∃ c, cells[x]? = some c ∧ c.width = w) ∧
        ∀ cells ∈ g.lines, ∀ c, cells[x]? = some c → c.width ≤ w := by
  rw [getElem?_widths, List.max?_eq_some_iff]
  simp only [List.mem_map, mem_column, forall_exists_index, and_imp]
  constructor
  · rintro ⟨⟨c, ⟨line, hline, hc⟩, hw⟩, hle⟩
    exact ⟨⟨line, hline, c, hc, hw⟩, fun line hline c hc => hle _ c line hline hc rfl⟩
  · rintro ⟨⟨line, hline, c, hc, hw⟩, hle⟩
    exact ⟨⟨c, ⟨line, hline, hc⟩, hw⟩, fun _ c line hline hc hw => hw ▸ hle line hline c hc⟩

theorem lt_length_widths {g : Grid} {x : Nat} :
    x < g.widths.length ↔ ∃ line ∈ g.lines, x < line.length := by
  have hnone : g.widths[x]? = none ↔ column g.lines x = [] := by
    rw [getElem?_widths, List.max?_eq_none_iff, List.map_eq_nil_iff]
  rw [List.getElem?_eq_none_iff, column, List.filterMap_eq_nil_iff] at hnone
  rw [← Nat.not_le, hnone]
  simp

/-- There are as many widths as the longest line has cells. -/
theorem length_widths {g : Grid} {n : Nat} (hle : ∀ line ∈ g.lines, line.length ≤ n)
    (hn : n = 0 ∨ ∃ line ∈ g.lines, line.length = n) : g.widths.length = n := by
  refine Nat.le_antisymm (Nat.le_of_not_lt fun hlt => ?_) (Nat.le_of_not_lt fun hlt => ?_)
  · obtain ⟨line, hline, hlt⟩ := lt_length_widths.mp hlt
    exact Nat.not_lt.mpr (hle line hline) hlt
  · rcases hn with rfl | ⟨line, hline, rfl⟩
    · exact Nat.not_lt_zero _ hlt
    · exact Nat.lt_irrefl _ (lt_length_widths.mpr ⟨line, hline, hlt⟩)

/-! ### The widths in place -/

/-- The number of columns: the length of the longest line. -/
def columns (g : Grid) : Nat :=
  (g.lines.map List.length).max?.getD 0

/-- Raises the number at a place to another one; `none` if there is no such place. -/
def raise? (ws : List Nat) (x w : Nat) : Option (List Nat) :=
  ws[x]?.map fun v => ws.set x (max v w)

/-- Raises the numbers at the places of the cells of a line, one after the other. -/
def raiseLine? (ws : List Nat) (line : List GridCell) : Option (List Nat) :=
  line.zipIdx.foldlM (fun ws c => raise? ws c.2 c.1.width) ws

/-- The widths, raised line by line from a zero for each column. -/
def widthsInPlace? (g : Grid) : Option (List Nat) :=
  g.lines.foldlM raiseLine? (.replicate g.columns 0)

theorem length_widths_eq_columns (g : Grid) : g.widths.length = g.columns := by
  unfold columns
  cases hmax : (g.lines.map List.length).max? with
  | none =>
    rw [List.max?_eq_none_iff, List.map_eq_nil_iff] at hmax
    exact length_widths (by simp [hmax]) (.inl rfl)
  | some n =>
    obtain ⟨hn, hle⟩ := List.max?_eq_some_iff.mp hmax
    exact length_widths (fun line hline => hle _ (List.mem_map_of_mem hline))
      (.inr (List.mem_map.mp hn))

theorem length_joinWidths (vs ws : List Nat) :
    (joinWidths vs ws).length = max vs.length ws.length := by
  fun_induction joinWidths vs ws with
  | case1 ws => simp
  | case2 vs h => simp
  | case3 v vs w ws ih => simp [ih]

theorem raise?_append (front : List Nat) (v : Nat) (ws : List Nat) (w : Nat) :
    raise? (front ++ v :: ws) front.length w = some (front ++ max v w :: ws) := by
  simp [raise?]

theorem foldlM_raise? (front ws : List Nat) (line : List GridCell) (h : line.length ≤ ws.length) :
    (line.zipIdx front.length).foldlM (fun ws c => raise? ws c.2 c.1.width) (front ++ ws) =
      some (front ++ joinWidths ws (line.map GridCell.width)) := by
  induction line generalizing front ws with
  | nil => cases ws <;> simp [joinWidths]
  | cons c line ih =>
    cases ws with
    | nil => cases h
    | cons v ws =>
      have hrest := ih (front ++ [max v c.width]) ws (Nat.le_of_succ_le_succ h)
      rw [List.length_append, List.append_assoc, List.append_assoc] at hrest
      rw [List.zipIdx_cons, List.foldlM_cons, raise?_append]
      exact hrest

/-- A line that is not longer than the list has all its cells at places of it. -/
theorem raiseLine?_eq {ws : List Nat} {line : List GridCell} (h : line.length ≤ ws.length) :
    raiseLine? ws line = some (joinWidths ws (line.map GridCell.width)) :=
  foldlM_raise? [] ws line h

theorem foldlM_raiseLine? {lines : List (List GridCell)} {ws : List Nat}
    (h : ∀ line ∈ lines, line.length ≤ ws.length) :
    lines.foldlM raiseLine? ws =
      some (lines.foldl (fun ws line => joinWidths ws (line.map GridCell.width)) ws) := by
  induction lines generalizing ws with
  | nil => rfl
  | cons line lines ih =>
    rw [List.forall_mem_cons] at h
    have hlength : (joinWidths ws (line.map GridCell.width)).length = ws.length := by
      rw [length_joinWidths, List.length_map, Nat.max_eq_left h.1]
    rw [List.foldlM_cons, raiseLine?_eq h.1]
    exact ih (by rw [hlength]; exact h.2)

/-- **No cell lies outside of the widths** while they are raised, and what is found is the widths
of the columns. -/
theorem widthsInPlace?_eq (g : Grid) : g.widthsInPlace? = some g.widths := by
  have hle : ∀ line ∈ g.lines, line.length ≤ (List.replicate g.columns 0).length := by
    intro line hline
    rw [List.length_replicate, ← length_widths_eq_columns]
    exact Nat.le_of_not_lt fun hlt => Nat.lt_irrefl _ (lt_length_widths.mpr ⟨line, hline, hlt⟩)
  rw [widthsInPlace?, foldlM_raiseLine? hle]
  refine congrArg some (List.ext_getElem? fun x => ?_)
  rw [getElem?_foldl_joinWidths, getElem?_widths]
  -- a zero does not count beside the cells of a column
  cases hcolumn : (column g.lines x).map GridCell.width with
  | nil =>
    have hnone : g.widths[x]? = none := by
      rw [getElem?_widths, hcolumn]
      rfl
    rw [List.getElem?_eq_none_iff, length_widths_eq_columns] at hnone
    rw [List.getElem?_eq_none (by simpa using hnone)]
    rfl
  | cons w ws =>
    by_cases hx : x < g.columns
    · rw [List.getElem?_replicate, if_pos hx]
      show some (ws.foldl max (max 0 w)) = some (ws.foldl max w)
      rw [Nat.zero_max]
    · rw [List.getElem?_replicate, if_neg hx]
      rfl

end Grid

end AdapterReport
