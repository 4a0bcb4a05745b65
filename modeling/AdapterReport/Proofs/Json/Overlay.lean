import AdapterReport.Proofs.Json.Fields

/-!
# Objects laid over each other

`overlay base ms` are the members of one object laid over those of another one: a name has what the
object on top says of it, and else what the one below says (`lookup_overlay`). Where the one below
says what a field has anyway, the fields of both are those of the object on top alone
(`given_overlay`).

What a field has depends on nothing but the member of its name (`SameMembers.lookup`).
-/

namespace AdapterReport.Json

/-! ## Texts of objects -/

/-- The text is an object with these members, no two of one name. -/
structure IsObject (text : String) (ms : List (String × Draft)) : Prop where
  members : ∃ d, Draft.ofTokens (tokens text) = (d, false) ∧ HasMembers d ms
  distinct : (ms.map (·.1)).Nodup

/-- Whatever stands in an object can be passed over. -/
theorem IsObject.sound {text : String} {ms : List (String × Draft)} (h : IsObject text ms) :
    ∀ m ∈ ms, m.2.skip = .ok () := by
  obtain ⟨d, htokens, hd⟩ := h.members
  exact hd.skip (Draft.skip_of_ofTokens htokens hd.isClosedObject)

/-- The members of an object with their drafts. -/
def draftMembers : Json → List (String × Draft)
  | .object ms => ms.map fun m => (m.1, draft m.2)
  | _ => []

theorem hasMembers_draft (ms : List (String × Json)) :
    HasMembers (draft (.object ms)) (draftMembers (.object ms)) := by
  refine ⟨memberDrafts ms, rfl, ?_⟩
  rw [draftMembers]
  induction ms with
  | nil => rfl
  | cons m ms ih =>
    have hname : Reader.name (.text (textScan m.1)) = .ok m.1 := text_textScan m.1
    rw [memberDrafts, List.map_cons, ih, hname]
    rfl

/-- What is printed of a value means this value. -/
theorem Reader.Reads.means_print {α : Type} {read : Reader α} {means : Draft → α → Prop}
    {print : α → Json} (h : Reads read means) (hback : ReadsBack read print) (a b : α) :
    means (draft (print a)) b ↔ b = a := by
  rw [← h, hback a, Except.ok.injEq, eq_comm]

/-- The text of an object is an object with its members. -/
theorem isObject_compact {ms : List (String × Json)} (h : (ms.map (·.1)).Nodup) :
    IsObject (Json.object ms).compact (draftMembers (.object ms)) where
  members := ⟨_, by rw [tokens_compact, ofTokens_tokenList], hasMembers_draft ms⟩
  distinct := by
    rw [draftMembers, List.map_map]
    exact h

/-! ## Laying one object over another -/

section
variable {α : Type} {base ms ms' : List (String × α)} {key : String} {a : α}

/-- The members of `base`, each with what `ms` says under its name, if anything, and behind them the
other members of `ms`. -/
def overlay (base ms : List (String × α)) : List (String × α) :=
  base.map (fun m => (m.1, (ms.lookup m.1).getD m.2)) ++
    ms.filter fun m => !(base.map (·.1)).contains m.1

theorem lookup_map_snd (value : String → α → α) :
    (base.map fun m => (m.1, value m.1 m.2)).lookup key = (base.lookup key).map (value key) := by
  induction base with
  | nil => rfl
  | cons m base ih =>
    obtain ⟨k, a⟩ := m
    rw [List.map_cons, List.lookup_cons, List.lookup_cons]
    by_cases hk : key = k
    · subst hk
      simp
    · rw [beq_eq_false_iff_ne.mpr hk]
      exact ih

theorem lookup_filter {p : String → Bool} (h : p key = true) :
    (ms.filter fun m => p m.1).lookup key = ms.lookup key := by
  induction ms with
  | nil => rfl
  | cons m ms ih =>
    obtain ⟨k, a⟩ := m
    by_cases hk : key = k
    · subst hk
      rw [List.filter_cons, if_pos h, List.lookup_cons_self, List.lookup_cons_self]
    · rw [lookup_cons_of_ne hk, ← ih, List.filter_cons]
      split
      · exact lookup_cons_of_ne hk
      · rfl

/-- **A name has what the object on top says of it**, and else what the one below says. -/
theorem lookup_overlay (base ms : List (String × α)) (key : String) :
    (overlay base ms).lookup key = (ms.lookup key).or (base.lookup key) := by
  rw [overlay, List.lookup_append, lookup_map_snd fun k a => (ms.lookup k).getD a]
  cases hbase : base.lookup key with
  | some a => cases ms.lookup key <;> rfl
  | none =>
    have hnew : (!(base.map (·.1)).contains key) = true := by
      simpa using lookup_eq_none_iff_not_mem.mp hbase
    rw [lookup_filter (p := fun k => !(base.map (·.1)).contains k) hnew]
    simp

/-- The same members of these names, wherever they stand and whatever else there is. -/
def SameMembers (names : List String) (ms ms' : List (String × α)) : Prop :=
  ∀ m, m.1 ∈ names → (m ∈ ms ↔ m ∈ ms')

theorem SameMembers.lookup {names : List String} (h : SameMembers names ms ms')
    (hnodup : (ms.map (·.1)).Nodup) (hnodup' : (ms'.map (·.1)).Nodup) (hkey : key ∈ names) :
    ms.lookup key = ms'.lookup key := by
  refine Option.ext fun a => ?_
  rw [lookup_eq_some_iff_mem hnodup, lookup_eq_some_iff_mem hnodup', h (key, a) hkey]

end

/-! ## What fields have -/

section
variable {α : Type} {base ms ms' : List (String × Draft)} {name : String}
  {means : Draft → α → Prop} {d : Draft} {a₀ a : α}

theorem given_congr (h : ms.lookup name = ms'.lookup name) :
    Given ms name means a₀ a ↔ Given ms' name means a₀ a := by
  rw [Given, Given, h]

/-- **Members may be left out** that say what a field has anyway. -/
theorem given_overlay (hbase : base.lookup name = some d) (hd : ∀ a, means d a ↔ a = a₀) :
    Given (overlay base ms) name means a₀ a ↔ Given ms name means a₀ a := by
  unfold Given
  rw [lookup_overlay, hbase]
  cases ms.lookup name with
  | none => exact hd a
  | some d' => rfl

theorem exists_given_iff (hnodup : (ms.map (·.1)).Nodup) :
    (∃ a, Given ms name means a₀ a) ↔ ∀ d, (name, d) ∈ ms → ∃ a, means d a := by
  unfold Given
  simp only [← lookup_eq_some_iff_mem hnodup]
  cases ms.lookup name <;> simp

end

end AdapterReport.Json
