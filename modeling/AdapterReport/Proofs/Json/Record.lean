import AdapterReport.Proofs.Json.Drafting

/-!
# Readers of printed records

`ReadsBack read print`: what `print` makes of a value is read as this value. It holds of single
values, is lifted to lists, maps and values that may be missing (`ReadsBack.list`, `ReadsBack.map`,
`ReadsBack.nullable`), and makes a value safe in its text (`ReadsBack.pretty`,
`ReadsBack.compact`).

For a record it comes down to its fields (`record_draft`): members that stand in the order of the
fields are stored one after the other (`Stores`), each where its own reader reads it (`store_of`).
-/

namespace AdapterReport.Json

namespace Reader

variable {α σ : Type} {read : Reader α} {print : α → Json}

/-- What `print` makes of a value is read as this value. -/
def ReadsBack (read : Reader α) (print : α → Json) : Prop :=
  ∀ a, read (draft (print a)) = .ok a

theorem ReadsBack.pretty (h : ReadsBack read print) (a : α) :
    Json.read read (print a).pretty = .ok a := by
  have hread : Json.read read ((print a).pretty ++ "") = read (draft (print a)) :=
    read_pretty read (print a) fun _ hc => nomatch hc
  rwa [String.append_empty, h a] at hread

theorem ReadsBack.compact (h : ReadsBack read print) (a : α) :
    Json.read read (print a).compact = .ok a := by
  rw [read_compact, h a]

/-! ## Single values -/

theorem readsBack_text : ReadsBack text .text :=
  text_textScan

theorem readsBack_bool : ReadsBack bool .bool :=
  fun _ => rfl

/-- An integer of 64 bits is read as what it stands for. -/
theorem integer_draft {ofInt? : Int → Option α} {n : Int} {a : α} (hn : FitsWord n)
    (h : ofInt? n = some a) : integer ofInt? (draft (.number n)) = .ok a := by
  have hvalue := value_numberScan hn
  simp only [draft, integer, hvalue, bind, Except.bind, h]

/-- The name of a variant is read as this variant. -/
theorem variant_draft {ofName? : String → Option α} {name : String} {a : α}
    (h : ofName? name = some a) : variant ofName? (draft (.text name)) = .ok a := by
  have htext := text_textScan name
  simp only [draft, variant, htext, bind, Except.bind, h]

theorem nullable_of_ne_null {v : Json} (h : v ≠ .null) :
    nullable read (draft v) = (read (draft v)).map some := by
  cases v <;> first | rfl | exact absurd rfl h

/-- A value that may be missing is read back, if none is printed as null. -/
theorem ReadsBack.nullable (h : ReadsBack read print) (hnull : ∀ a, print a ≠ .null) :
    ReadsBack (nullable read) fun o => (o.map print).getD .null := by
  intro o
  cases o with
  | none => rfl
  | some a =>
    show Reader.nullable read (draft (print a)) = _
    rw [nullable_of_ne_null (hnull a), h a]
    rfl

theorem readsBack_ofText? : ReadsBack (nullable text) ofText? := by
  intro o
  cases o with
  | none => rfl
  | some s =>
    have hnull : Json.text s ≠ .null := fun h => nomatch h
    rw [ofText?, nullable_of_ne_null hnull, readsBack_text s]
    rfl

/-! ## Lists and maps -/

theorem ReadsBack.list (h : ReadsBack read print) :
    ReadsBack (list read) fun as => .array (as.map print) := by
  intro as
  show items read none (itemDrafts (as.map print)) = _
  induction as with
  | nil => rfl
  | cons a rest ih =>
    rw [List.map_cons, itemDrafts, items, h a, ih]
    rfl

theorem ReadsBack.map (h : ReadsBack read print) :
    ReadsBack (map read) fun ms => .object (ms.map fun m => (m.1, print m.2)) := by
  intro ms
  show members read none (memberDrafts (ms.map fun m => (m.1, print m.2))) = _
  induction ms with
  | nil => rfl
  | cons m rest ih =>
    rw [List.map_cons, memberDrafts, members, name, text_textScan, h m.2, ih]
    rfl

/-! ## Records -/

/-- The members, one for each of the fields in their order, are stored one after the other. -/
inductive Stores : List (RecordField σ) → List (String × Json) → σ → σ → Prop
  | nil (s : σ) : Stores [] [] s s
  | cons {field : RecordField σ} {fields : List (RecordField σ)} {v : Json}
      {members : List (String × Json)} {s s' s'' : σ} (h : field.store (draft v) s = .ok s')
      (rest : Stores fields members s' s'') :
      Stores (field :: fields) ((field.name, v) :: members) s s''

theorem store_of {presence : Presence} {name : String} {set : α → σ → σ} {v : Json} {a : α}
    (h : read (draft v) = .ok a) (s : σ) :
    (RecordField.of presence name read set).store (draft v) s = .ok (set a s) := by
  show (read (draft v)).map (set · s) = _
  rw [h]
  rfl

/-- A field is found by its name, if no field before it has the same name. -/
theorem find?_field {done rest : List (RecordField σ)} {field : RecordField σ}
    (h : field.name ∉ done.map (·.name)) :
    (done ++ field :: rest).find? (·.name == field.name) = some field := by
  have hdone : done.find? (·.name == field.name) = none := by
    rw [List.find?_eq_none]
    intro f hf heq
    exact h (List.mem_map.mpr ⟨f, hf, eq_of_beq heq⟩)
  rw [List.find?_append, hdone, Option.none_or, List.find?_cons, beq_self_eq_true]

/-- A member that belongs to a field is stored there. -/
theorem fromMembers_known {fields : List (RecordField σ)} {field : RecordField σ} {n : Name}
    {d : Draft} {named : List (Name × Draft)} {seen : List String}
    (hnodup : (fields.map (·.name)).Nodup) (hfield : field ∈ fields)
    (hname : name n = .ok field.name) (hseen : field.name ∉ seen) (s : σ) :
    fromMembers fields none ((n, d) :: named) seen s =
      (field.store d s).bind (fromMembers fields none named (field.name :: seen)) := by
  obtain ⟨done, rest, rfl⟩ := List.append_of_mem hfield
  rw [List.map_append, List.map_cons, List.nodup_append] at hnodup
  have hdone : field.name ∉ done.map (·.name) := fun hmem =>
    hnodup.2.2 _ hmem _ List.mem_cons_self rfl
  have hunseen : seen.contains field.name = false := by simpa using hseen
  rw [fromMembers, hname]
  simp only [bind, Except.bind, find?_field hdone, hunseen]
  rfl

/-- The members behind the fields that are `done`, whose names are the ones `seen`. -/
theorem fromMembers_drafts {fields : List (RecordField σ)} {members : List (String × Json)}
    {s s' : σ} (h : Stores fields members s s') :
    ∀ (done : List (RecordField σ)) (seen : List String),
      ((done ++ fields).map (·.name)).Nodup → (∀ name, name ∈ seen ↔ name ∈ done.map (·.name)) →
      fromMembers (done ++ fields) none (memberDrafts members) seen s = .ok s' := by
  induction h with
  | nil s =>
    intro done seen _ hseen
    have hall : ((done ++ []).all fun f =>
        f.presence != Presence.required || seen.contains f.name) = true := by
      rw [List.append_nil, List.all_eq_true]
      intro f hf
      have hname : f.name ∈ seen := (hseen f.name).mpr (List.mem_map.mpr ⟨f, hf, rfl⟩)
      rw [List.contains_iff_mem.mpr hname, Bool.or_true]
    rw [memberDrafts, fromMembers, hall]
    rfl
  | @cons field fields v members s s' s'' hstore _ ih =>
    intro done seen hnodup hseen
    have hnew : field.name ∉ seen := by
      rw [hseen]
      rw [List.map_append, List.nodup_append, List.map_cons] at hnodup
      exact fun hmem => hnodup.2.2 _ hmem _ List.mem_cons_self rfl
    have hname : name (.text (textScan field.name)) = .ok field.name := text_textScan field.name
    have hfield : field ∈ done ++ field :: fields :=
      List.mem_append_right _ List.mem_cons_self
    have hrest : fromMembers (done ++ field :: fields) none (memberDrafts members)
        (field.name :: seen) s' = .ok s'' := by
      rw [List.append_cons]
      refine ih (done ++ [field]) (field.name :: seen) ?_ fun name => ?_
      · rwa [← List.append_cons]
      · simp [hseen name, or_comm]
    rw [memberDrafts, fromMembers_known hnodup hfield hname hnew, hstore]
    exact hrest

/-- **A printed record** whose members stand in the order of the fields is read as they are
stored. -/
theorem record_draft {fields : List (RecordField σ)} {members : List (String × Json)}
    {start s : σ} (hnames : (fields.map (·.name)).Nodup) (h : Stores fields members start s) :
    record fields start (draft (.object members)) = .ok s :=
  fromMembers_drafts h [] [] hnames fun _ => Iff.rfl

end Reader

end AdapterReport.Json
