import AdapterReport.Host.Collect
import AdapterReport.Proofs.Text.ByteOrder
import AdapterReport.Proofs.Text.WellFormed

/-!
# Directories in any order

A directory lists its names in an order of its own, and the collectors sort what they make of them
by a name. If no two have the same name the order that comes out is strict (`ascending_mergeSort`),
and a list in strict order is known by its members (`Ascending.eq`), so the order of the directory
makes no difference.
-/

namespace AdapterReport

open Text.Utf8 (encode encode_lt_iff)

/-- In the order of the bytes of their names, with no name twice. -/
def Ascending {α : Type} (name : α → String) (l : List α) : Prop :=
  l.Pairwise fun a b => encode (name a) < encode (name b)

section
variable {α : Type} {name : α → String} {l l' : List α}

theorem ascending_iff : Ascending name l ↔ l.Pairwise fun a b => name a < name b := by
  simp only [Ascending, encode_lt_iff]

theorem pairwise_mergeSort_name (name : α → String) (l : List α) :
    (l.mergeSort fun a b => name a ≤ name b).Pairwise fun a b => name a ≤ name b := by
  have htrans (a b c : α) (hab : decide (name a ≤ name b) = true)
      (hbc : decide (name b ≤ name c) = true) : decide (name a ≤ name c) = true := by
    rw [decide_eq_true_eq] at hab hbc ⊢
    exact String.le_trans hab hbc
  have htotal (a b : α) : (decide (name a ≤ name b) || decide (name b ≤ name a)) = true := by
    simpa using String.le_total (name a) (name b)
  exact (List.pairwise_mergeSort htrans htotal l).imp of_decide_eq_true

/-- **Sorted by a name that is unique**, a list is in strict order. -/
theorem ascending_mergeSort (h : (l.map name).Nodup) :
    Ascending name (l.mergeSort fun a b => name a ≤ name b) := by
  have hperm := List.mergeSort_perm l fun a b => decide (name a ≤ name b)
  have hne : (l.mergeSort fun a b => name a ≤ name b).Pairwise fun a b => name a ≠ name b :=
    List.pairwise_map.mp ((hperm.map name).nodup_iff.mpr h)
  refine ascending_iff.mpr (((pairwise_mergeSort_name name l).and hne).imp ?_)
  intro a b hab
  exact String.not_le.mp fun hba => hab.2 (String.le_antisymm hab.1 hba)

theorem Ascending.name_ne (h : Ascending name l) : l.Pairwise fun a b => name a ≠ name b := by
  refine (ascending_iff.mp h).imp ?_
  intro a b hlt heq
  rw [heq] at hlt
  exact String.lt_irrefl _ hlt

theorem Ascending.nodup (h : Ascending name l) : l.Nodup :=
  h.name_ne.imp fun hne heq => hne (congrArg name heq)

/-- **A list in strict order is known by its members.** -/
theorem Ascending.eq (h : Ascending name l) (h' : Ascending name l')
    (hmem : ∀ a, a ∈ l ↔ a ∈ l') : l = l' := by
  have hperm : l.Perm l' :=
    (List.perm_ext_iff_of_nodup h.nodup h'.nodup).mpr hmem
  refine hperm.eq_of_pairwise (fun a b _ _ hab hba => ?_) (ascending_iff.mp h) (ascending_iff.mp h')
  exact absurd hba (String.lt_asymm hab)

theorem Ascending.filter (h : Ascending name l) (p : α → Bool) : Ascending name (l.filter p) :=
  List.Pairwise.filter p h

/-- What is made of distinct names and keeps them has distinct names. -/
theorem nodup_filterMap {names : List String} (hnames : names.Nodup) {f : String → Option α}
    (hf : ∀ n a, f n = some a → name a = n) : ((names.filterMap f).map name).Nodup := by
  rw [List.map_filterMap]
  refine List.pairwise_filterMap.mpr (hnames.imp ?_)
  intro n n' hne b hb b' hb'
  obtain ⟨a, ha, rfl⟩ := Option.map_eq_some_iff.mp hb
  obtain ⟨a', ha', rfl⟩ := Option.map_eq_some_iff.mp hb'
  rw [hf n a ha, hf n' a' ha']
  exact hne

/-- What is made of names in strict order and keeps them is in strict order. -/
theorem ascending_filterMap {names : List String} (hnames : Ascending (fun n => n) names)
    {f : String → Option α} (hf : ∀ n a, f n = some a → name a = n) :
    Ascending name (names.filterMap f) := by
  refine List.pairwise_filterMap.mpr (List.Pairwise.imp ?_ hnames)
  intro n n' hlt a ha a' ha'
  rw [hf n a ha, hf n' a' ha']
  exact hlt

end

end AdapterReport
