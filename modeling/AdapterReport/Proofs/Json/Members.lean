import AdapterReport.Json.Value

/-!
# Members of objects

Members that are set one after the other in an empty object: a name keeps the place where it came
first and has the value that came last (`gather_eq`). So no name comes twice, and members whose
names differ stay as they are (`gather_of_nodup`).
-/

namespace AdapterReport

namespace Json

variable {ms : List (String × Json)} {names : List String}

/-! ## Names without repetition -/

theorem eraseDups_concat (names : List String) (name : String) :
    (names ++ [name]).eraseDups =
      if name ∈ names then names.eraseDups else names.eraseDups ++ [name] := by
  have hsingle : [name].eraseDups = [name] := rfl
  rw [List.eraseDups_append]
  by_cases h : name ∈ names <;> simp [List.removeAll, h, hsingle]

theorem nodup_eraseDups (names : List String) : names.eraseDups.Nodup := by
  rw [← names.reverse_reverse]
  induction names.reverse with
  | nil => simp
  | cons name rest ih =>
    rw [List.reverse_cons, eraseDups_concat]
    split
    · exact ih
    · rename_i h
      rw [List.nodup_append]
      refine ⟨ih, by simp, fun a ha b hb => ?_⟩
      rw [List.mem_singleton] at hb
      rintro rfl
      exact h (hb ▸ List.mem_eraseDups.mp ha)

theorem eraseDups_of_nodup (h : names.Nodup) : names.eraseDups = names := by
  induction names with
  | nil => rfl
  | cons name rest ih =>
    rw [List.nodup_cons] at h
    have hkeep : rest.filter (fun b => !b == name) = rest := by
      rw [List.filter_eq_self]
      intro b hb
      have hne : b ≠ name := fun he => h.1 (he ▸ hb)
      simp [hne]
    rw [List.eraseDups_cons, hkeep, ih h.2]

/-! ## Setting members -/

/-- The members of an object in which these are set one after the other. -/
def gather (ms : List (String × Json)) : List (String × Json) :=
  ms.foldl (fun m kv => insertMember m kv.1 kv.2) []

theorem ofMembers_eq (ms : List (String × Json)) : ofMembers ms = .object (gather ms) := rfl

/-- A name that is there keeps its place; its value is replaced. -/
theorem insertMember_map (h : names.Nodup) (value : String → Json) (name : String) (v : Json) :
    insertMember (names.map fun n => (n, value n)) name v =
      (if name ∈ names then names else names ++ [name]).map
        fun n => (n, if n = name then v else value n) := by
  induction names with
  | nil => simp [insertMember]
  | cons n rest ih =>
    rw [List.nodup_cons] at h
    rw [List.map_cons, insertMember]
    by_cases hn : n = name
    · subst hn
      have hrest : rest.map (fun m => (m, if m = n then v else value m)) =
          rest.map fun m => (m, value m) := by
        refine List.map_congr_left fun m hm => ?_
        have hne : m ≠ n := fun he => h.1 (he ▸ hm)
        rw [if_neg hne]
      simp [hrest]
    · rw [if_neg hn, ih h.2]
      have hne : name ≠ n := Ne.symm hn
      by_cases hm : name ∈ rest <;> simp [hm, hn, hne]

/-- **Members set one after the other**: the names in the order in which they came first, each with
the value that came last. -/
theorem gather_eq (ms : List (String × Json)) :
    gather ms =
      (ms.map (·.1)).eraseDups.map fun n => (n, (ms.reverse.lookup n).getD .null) := by
  rw [← ms.reverse_reverse]
  induction ms.reverse with
  | nil => rfl
  | cons m rest ih =>
    obtain ⟨name, v⟩ := m
    have hgather : gather ((name, v) :: rest).reverse =
        insertMember (gather rest.reverse) name v := by
      simp [gather]
    rw [hgather, ih, insertMember_map (nodup_eraseDups _), List.reverse_cons, List.map_append,
      List.map_singleton, eraseDups_concat]
    simp only [List.mem_eraseDups, List.reverse_append, List.reverse_reverse,
      List.reverse_singleton, List.singleton_append, List.lookup_cons]
    refine List.map_congr_left fun n _ => ?_
    by_cases hn : n = name
    · simp [hn]
    · have hne : (n == name) = false := by simp [hn]
      rw [if_neg hn, hne]

theorem map_fst_gather (ms : List (String × Json)) :
    (gather ms).map (·.1) = (ms.map (·.1)).eraseDups := by
  rw [gather_eq, List.map_map]
  exact List.map_id _

/-- Members whose names differ stay as they are. -/
theorem gather_of_nodup (h : (ms.map (·.1)).Nodup) : gather ms = ms := by
  have hlookup : ∀ m ∈ ms, ms.reverse.lookup m.1 = some m.2 := by
    intro m hm
    obtain ⟨before, after, rfl⟩ := List.append_of_mem hm
    rw [List.lookup_eq_some_iff]
    refine ⟨after.reverse, before.reverse, by simp, fun p hp => ?_⟩
    simp only [List.map_append, List.map_cons, List.nodup_append, List.nodup_cons,
      List.mem_map] at h
    rw [bne_iff_ne]
    intro he
    exact h.2.1.1 ⟨p, List.mem_reverse.mp hp, he.symm⟩
  rw [gather_eq, eraseDups_of_nodup h, List.map_map]
  refine (List.map_congr_left fun m hm => ?_).trans (List.map_id ms)
  rw [Function.comp_apply, hlookup m hm]
  rfl

theorem lookup_map {names : List String} {name : String} (h : name ∈ names)
    (value : String → Json) :
    (names.map fun n => (n, value n)).lookup name = some (value name) := by
  induction names with
  | nil => cases h
  | cons n rest ih =>
    rw [List.map_cons, List.lookup_cons]
    by_cases hn : name = n
    · simp [hn]
    · have hne : (name == n) = false := by simp [hn]
      rw [hne]
      exact ih ((List.mem_cons.mp h).resolve_left hn)

/-- Members whose values go by their names. -/
theorem gather_map (names : List String) (value : String → Json) :
    gather (names.map fun n => (n, value n)) = names.eraseDups.map fun n => (n, value n) := by
  rw [gather_eq, List.map_map]
  have hnames : names.map ((·.1) ∘ fun n => (n, value n)) = names := List.map_id _
  rw [hnames]
  refine List.map_congr_left fun n hn => ?_
  have hn : n ∈ names.reverse := List.mem_reverse.mpr (List.mem_eraseDups.mp hn)
  rw [← List.map_reverse, lookup_map hn]
  rfl

end Json

end AdapterReport
