import AdapterReport.Proofs.Json.Drafting
import AdapterReport.Proofs.Json.Members

/-!
# Printed values are read back

`read_value_pretty`: a value whose integers have 64 bits and whose objects name no member twice
(`Exact`) is read back from its text as it was, the members in their order.
-/

namespace AdapterReport.Json

mutual

/-- The text of the value tells everything: its integers have 64 bits, and no object names a member
twice. -/
def Exact : Json → Prop
  | .null | .bool _ | .text _ => True
  | .number n => FitsWord n
  | .array items => ExactItems items
  | .object members => (members.map (·.1)).Nodup ∧ ExactMembers members

/-- All items are exact. -/
def ExactItems : List Json → Prop
  | [] => True
  | v :: rest => Exact v ∧ ExactItems rest

/-- The values of all members are exact. -/
def ExactMembers : List (String × Json) → Prop
  | [] => True
  | (_, v) :: rest => Exact v ∧ ExactMembers rest

end

theorem exactItems_iff (items : List Json) : ExactItems items ↔ ∀ v ∈ items, Exact v := by
  induction items with
  | nil => simp [ExactItems]
  | cons v rest ih => simp [ExactItems, ih]

theorem exactMembers_iff (members : List (String × Json)) :
    ExactMembers members ↔ ∀ m ∈ members, Exact m.2 := by
  induction members with
  | nil => simp [ExactMembers]
  | cons m rest ih => simp [ExactMembers, ih]

theorem exact_array {items : List Json} (h : ∀ v ∈ items, Exact v) : Exact (.array items) := by
  rw [Exact, exactItems_iff]
  exact h

theorem exact_object {members : List (String × Json)} (hnames : (members.map (·.1)).Nodup)
    (h : ∀ m ∈ members, Exact m.2) : Exact (.object members) := by
  rw [Exact, exactMembers_iff]
  exact ⟨hnames, h⟩

/-- Members set one after the other make an exact object, whatever their names are. -/
theorem exact_ofMembers {members : List (String × Json)} (h : ∀ m ∈ members, Exact m.2) :
    Exact (ofMembers members) := by
  rw [ofMembers_eq]
  refine exact_object ?_ fun m hm => ?_
  · rw [map_fst_gather]
    exact nodup_eraseDups _
  · rw [gather_eq] at hm
    obtain ⟨name, -, rfl⟩ := List.mem_map.mp hm
    cases hlookup : members.reverse.lookup name with
    | none => trivial
    | some v =>
      obtain ⟨before, after, heq, -⟩ := List.lookup_eq_some_iff.mp hlookup
      have hmem : (name, v) ∈ members.reverse := by simp [heq]
      exact h _ (List.mem_reverse.mp hmem)

mutual

/-- The draft of an exact value is read as that value. -/
theorem value_draft : ∀ v : Json, Exact v → Reader.value (draft v) = .ok v
  | .null, _ => rfl
  | .bool _, _ => rfl
  | .number n, h => by
    rw [draft, Reader.value, value_numberScan h]
    rfl
  | .text s, _ => by
    rw [draft, Reader.value, text_textScan]
    rfl
  | .array items, h => by
    rw [draft, Reader.value, values_itemDrafts items h]
    rfl
  | .object members, h => by
    have hmembers : Reader.value (.object (memberDrafts members) none) =
        .ok (.object (gather members)) := by
      rw [Reader.value, valueMembers_memberDrafts members h.2]
      rfl
    rw [draft, hmembers, gather_of_nodup h.1]

theorem values_itemDrafts : ∀ items : List Json, ExactItems items →
    Reader.values (itemDrafts items) = .ok items
  | [], _ => rfl
  | v :: rest, h => by
    rw [itemDrafts, Reader.values, value_draft v h.1, values_itemDrafts rest h.2]
    rfl

theorem valueMembers_memberDrafts : ∀ members : List (String × Json), ExactMembers members →
    Reader.valueMembers (memberDrafts members) = .ok members
  | [], _ => rfl
  | (k, v) :: rest, h => by
    rw [memberDrafts, Reader.valueMembers, Reader.name, text_textScan, value_draft v h.1,
      valueMembers_memberDrafts rest h.2]
    rfl

end

/-- **A printed value is read back** as it was, with any space behind it. -/
theorem read_value_pretty {v : Json} (hv : Exact v) {space : String}
    (h : ∀ c ∈ space.toList, isSpace c = true) :
    read Reader.value (v.pretty ++ space) = .ok v := by
  rw [read_pretty Reader.value v h, value_draft v hv]

end AdapterReport.Json
