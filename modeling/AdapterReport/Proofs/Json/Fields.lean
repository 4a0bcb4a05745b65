import Mathlib.Data.List.Forall2
import AdapterReport.Proofs.Json.Closed
import AdapterReport.Proofs.Json.Record

/-!
# Records by the names of their members

A record is read from an object member by member. If no two of its fields are in each other's way
(`Independent`), the members can as well be looked up field by field (`record_toOption`): the order
of the members does not count, nor do members that belong to no field.

* `HasMembers`: the members of an object, by the texts that their names spell.
* `fillAll`: the fields stored in their own order, each with what its member means.
* `fillAll_move`: a field may be stored before any others, by which a step of the reader is one of
  `fillAll`.
* `Reads`: which values a reader accepts, and as what.
* `Given`: what a field has by its member, or without one (`fillAll_of_iff`).
-/

namespace AdapterReport.Json

/-! ## Members by their names -/

/-- The draft is a closed object with these members, by the texts that their names spell. -/
def HasMembers (d : Draft) (ms : List (String × Draft)) : Prop :=
  ∃ named : List (Name × Draft), d = .object named none ∧
    named.map (fun n => (Reader.name n.1, n.2)) = ms.map fun m => (.ok m.1, m.2)

/-- The draft is an object with these members, or an array that has their values in the order of the
names and may end before the names do. -/
def HasFields (names : List String) (d : Draft) (ms : List (String × Draft)) : Prop :=
  HasMembers d ms ∨ ∃ ds, d = .array ds none ∧ ds.length ≤ names.length ∧ ms = names.zip ds

section
variable {d : Draft} {ms ms' : List (String × Draft)}

theorem HasMembers.unique (h : HasMembers d ms) (h' : HasMembers d ms') : ms = ms' := by
  obtain ⟨named, rfl, hms⟩ := h
  obtain ⟨named', hd, hms'⟩ := h'
  cases hd
  have hinj : Function.Injective fun m : String × Draft =>
      ((.ok m.1, m.2) : Except Fault String × Draft) := by
    rintro ⟨k, d⟩ ⟨k', d'⟩ heq
    cases heq
    rfl
  exact List.map_injective_iff.mpr hinj (hms.symm.trans hms')

theorem HasMembers.isClosedObject (h : HasMembers d ms) : d.IsClosedObject := by
  obtain ⟨named, rfl, -⟩ := h
  exact .intro named

/-- The members of an object that can be passed over can be passed over. -/
theorem HasMembers.skip (h : HasMembers d ms) (hskip : d.skip = .ok ()) :
    ∀ m ∈ ms, m.2.skip = .ok () := by
  obtain ⟨named, rfl, hms⟩ := h
  have hvalues : named.map (·.2) = ms.map (·.2) := by
    simpa [Function.comp_def] using congrArg (List.map (·.2)) hms
  intro m hm
  obtain ⟨n, hn, heq⟩ := List.mem_map.mp (hvalues ▸ List.mem_map_of_mem hm)
  exact heq ▸ (Draft.skip_object.mp hskip n hn).2

/-- No name comes twice, if none does among the names of an array's items. -/
theorem HasFields.nodup {names : List String} (h : HasFields names d ms) (hnames : names.Nodup)
    (hmembers : HasMembers d ms → (ms.map (·.1)).Nodup) : (ms.map (·.1)).Nodup := by
  rcases h with h | ⟨ds, -, -, rfl⟩
  · exact hmembers h
  · have hmin : (names.take (min names.length ds.length)).length ≤
        (ds.take (min names.length ds.length)).length := by simp
    rw [List.zip_eq_zip_take_min, List.map_fst_zip hmin]
    exact (List.take_sublist _ _).nodup hnames

/-- An object is no array. -/
theorem HasFields.unique {names : List String} (h : HasFields names d ms)
    (h' : HasMembers d ms') : ms = ms' := by
  rcases h with h | ⟨ds, rfl, -, -⟩
  · exact h.unique h'
  · obtain ⟨named, hd, -⟩ := h'
    cases hd

end

section
variable {α : Type} {ms : List (String × α)} {key : String} {a : α}

theorem lookup_cons_of_ne {k : String} (h : key ≠ k) :
    ((k, a) :: ms).lookup key = ms.lookup key := by
  rw [List.lookup_cons, beq_eq_false_iff_ne.mpr h]

theorem lookup_eq_none_iff_not_mem : ms.lookup key = none ↔ key ∉ ms.map (·.1) := by
  simp only [List.lookup_eq_none_iff, bne_iff_ne, List.mem_map, not_exists, not_and, ne_eq]
  exact ⟨fun h m hm heq => h m hm heq.symm, fun h m hm heq => h m hm heq.symm⟩

/-- Where no name comes twice, the member of a name is the one that is found. -/
theorem lookup_eq_some_iff_mem (h : (ms.map (·.1)).Nodup) :
    ms.lookup key = some a ↔ (key, a) ∈ ms := by
  induction ms with
  | nil => simp
  | cons m ms ih =>
    obtain ⟨k, b⟩ := m
    rw [List.map_cons, List.nodup_cons] at h
    by_cases hk : key = k
    · subst hk
      have hnot : (key, a) ∉ ms := fun hmem => h.1 (List.mem_map.mpr ⟨_, hmem, rfl⟩)
      simp [hnot, eq_comm]
    · rw [lookup_cons_of_ne hk, ih h.2]
      simp [hk]

end

/-! ## What values say -/

theorem toOption_eq_some_iff {ε α : Type} {x : Except ε α} {a : α} :
    x.toOption = some a ↔ x = .ok a := by
  cases x <;> simp [Except.toOption]

/-- The value spells this text. -/
def IsText (d : Draft) (t : String) : Prop :=
  ∃ scan, d = .text scan ∧ scan.text = .ok t

/-- The value is a list of values that say these things. -/
def IsList {α : Type} (means : Draft → α → Prop) (d : Draft) (as : List α) : Prop :=
  ∃ ds, d = .array ds none ∧ List.Forall₂ means ds as

/-- The value is `true` or `false`. -/
def IsBool (d : Draft) (b : Bool) : Prop :=
  d = .bool b

/-- What a field has: what its member means, or `a₀` without one. -/
def Given {α : Type} (ms : List (String × Draft)) (name : String) (means : Draft → α → Prop)
    (a₀ a : α) : Prop :=
  match ms.lookup name with
  | none => a = a₀
  | some d => means d a

namespace Reader

section
variable {α : Type} {read : Reader α} {means : Draft → α → Prop}

/-- The reader accepts the values that say something, as what they say. -/
def Reads (read : Reader α) (means : Draft → α → Prop) : Prop :=
  ∀ d a, read d = .ok a ↔ means d a

theorem refuse_ne_ok (d : Draft) (a : α) : refuse d ≠ .ok a := by
  cases d with
  | number scan => rw [refuse]; split <;> exact fun h => nomatch h
  | text scan => rw [refuse]; split <;> exact fun h => nomatch h
  | _ => exact fun h => nomatch h

theorem reads_text : Reads text IsText := by
  intro d t
  cases d with
  | text scan => simp [text, IsText]
  | _ => simp [text, IsText, refuse_ne_ok]

theorem reads_bool : Reads bool IsBool := by
  intro d b
  cases d with
  | bool b' => simp [bool, IsBool]
  | _ => simp [bool, IsBool, refuse_ne_ok]

theorem items_eq_ok_iff (h : Reads read means) {cut : Option Fault} {ds : List Draft}
    {as : List α} : items read cut ds = .ok as ↔ cut = none ∧ List.Forall₂ means ds as := by
  induction ds generalizing as with
  | nil =>
    rw [items, List.forall₂_nil_left_iff]
    cases cut <;> simp [Draft.pass, bind, Except.bind, pure, Except.pure, eq_comm]
  | cons d ds ih =>
    rw [items]
    constructor
    · intro hread
      cases hd : read d with
      | error fault => rw [hd] at hread; cases hread
      | ok a =>
        cases hds : items read cut ds with
        | error fault => rw [hd, hds] at hread; cases hread
        | ok rest =>
          rw [hd, hds] at hread
          cases hread
          exact ⟨(ih.mp hds).1, .cons ((h d a).mp hd) (ih.mp hds).2⟩
    · rintro ⟨rfl, hmeans⟩
      cases hmeans with
      | cons hd hds =>
        rw [(h d _).mpr hd, ih.mpr ⟨rfl, hds⟩]
        rfl

theorem Reads.list (h : Reads read means) : Reads (list read) (IsList means) := by
  intro d as
  cases d with
  | array ds cut => simp [Reader.list, IsList, items_eq_ok_iff h, and_comm]
  | _ => simp [Reader.list, IsList, refuse_ne_ok]

end

variable {σ : Type} {ms full : List (String × Draft)} {f g : RecordField σ} {s s' : σ}

/-! ## Single fields -/

/-- Stores a value in a field, if it can be read. -/
def RecordField.store? (f : RecordField σ) (d : Draft) (s : σ) : Option σ :=
  (f.store d s).toOption

/-- Two fields can be stored in either order. -/
def Commute (f g : RecordField σ) : Prop :=
  ∀ d e s, (f.store? d s).bind (g.store? e) = (g.store? e s).bind (f.store? d)

/-- The fields have different names and do not disturb each other. -/
structure Independent (fields : List (RecordField σ)) : Prop where
  nodup : (fields.map (·.name)).Nodup
  commute : fields.Pairwise Commute

section
variable {α β : Type} {read : Reader α} {read' : Reader β} {set : α → σ → σ} {set' : β → σ → σ}
  {presence presence' : Presence} {name name' : String}

theorem store?_of (d : Draft) (s : σ) :
    (RecordField.of presence name read set).store? d s = (read d).toOption.map (set · s) := by
  show ((read d).map (set · s)).toOption = _
  cases read d <;> rfl

theorem commute_of (h : ∀ a b s, set' b (set a s) = set a (set' b s)) :
    Commute (.of presence name read set) (.of presence' name' read' set') := by
  intro d e s
  rw [funext (store?_of d), funext (store?_of e)]
  cases (read d).toOption <;> cases (read' e).toOption <;> simp [h]

end

/-! ## Fields one after the other -/

/-- Stores in a field what its member means. Without one the field stays as it is, if it may. -/
def fill (ms : List (String × Draft)) (f : RecordField σ) (s : σ) : Option σ :=
  match ms.lookup f.name with
  | none => if f.presence = .required then none else some s
  | some d => f.store? d s

/-- Stores in the fields, in their order, what their members say. -/
def fillAll (ms : List (String × Draft)) : List (RecordField σ) → σ → Option σ
  | [], s => some s
  | f :: fields, s => (fill ms f s).bind (fillAll ms fields)

theorem Commute.fill (h : Commute f g) (ms : List (String × Draft)) (s : σ) :
    (fill ms f s).bind (Reader.fill ms g) = (Reader.fill ms g s).bind (Reader.fill ms f) := by
  unfold Reader.fill
  cases ms.lookup f.name with
  | none =>
    dsimp only
    by_cases hf : f.presence = .required <;> simp [hf]
  | some d =>
    cases ms.lookup g.name with
    | none =>
      dsimp only
      by_cases hg : g.presence = .required <;> simp [hg]
    | some e => exact h d e s

/-- A field may be stored before others. -/
theorem fillAll_move {before after : List (RecordField σ)} (h : ∀ g ∈ before, Commute g f) (s : σ) :
    fillAll ms (before ++ f :: after) s =
      (fill ms f s).bind (fillAll ms (before ++ after)) := by
  induction before generalizing s with
  | nil => rfl
  | cons g before ih =>
    obtain ⟨hg, hbefore⟩ := List.forall_mem_cons.mp h
    calc (fill ms g s).bind (fillAll ms (before ++ f :: after))
      _ = (fill ms g s).bind fun t => (fill ms f t).bind (fillAll ms (before ++ after)) :=
        Option.bind_congr fun t _ => ih hbefore t
      _ = ((fill ms g s).bind (fill ms f)).bind (fillAll ms (before ++ after)) :=
        (Option.bind_assoc ..).symm
      _ = ((fill ms f s).bind (fill ms g)).bind (fillAll ms (before ++ after)) := by
        rw [hg.fill]
      _ = (fill ms f s).bind (fillAll ms (g :: before ++ after)) := Option.bind_assoc ..

theorem fillAll_congr {fields : List (RecordField σ)}
    (h : ∀ f ∈ fields, ms.lookup f.name = full.lookup f.name) (s : σ) :
    fillAll ms fields s = fillAll full fields s := by
  induction fields generalizing s with
  | nil => rfl
  | cons f fields ih =>
    obtain ⟨hf, hfields⟩ := List.forall_mem_cons.mp h
    have hfill : fill ms f s = fill full f s := by rw [fill, fill, hf]
    rw [fillAll, fillAll, hfill]
    exact Option.bind_congr fun t _ => ih hfields t

theorem fillAll_nil (fields : List (RecordField σ)) (s : σ) :
    fillAll [] fields s = if fields.all (·.presence != .required) then some s else none := by
  induction fields with
  | nil => rfl
  | cons f fields ih =>
    have hfill : fill [] f s = if f.presence = .required then none else some s := rfl
    rw [fillAll, hfill, List.all_cons]
    by_cases h : f.presence = .required <;> simp [h, ih]

/-! ## Members one after the other -/

/-- The fields that have not been read yet. -/
def unseen (fields : List (RecordField σ)) (seen : List String) : List (RecordField σ) :=
  fields.filter fun f => !seen.contains f.name

theorem mem_unseen_iff {fields : List (RecordField σ)} {seen : List String} :
    f ∈ unseen fields seen ↔ f ∈ fields ∧ f.name ∉ seen := by
  simp [unseen]

/-- A field that has not been read yet may be read before the ones that stand before it, and is the
only one of its name. -/
theorem split_unseen {fields before after : List (RecordField σ)} {seen : List String}
    (hind : Independent fields) (h : unseen fields seen = before ++ f :: after) :
    (∀ g ∈ before, Commute g f) ∧ (∀ g ∈ before ++ after, g.name ≠ f.name) ∧
      unseen fields (f.name :: seen) = before ++ after := by
  have hsub : (unseen fields seen).Sublist fields := List.filter_sublist
  have hcommute := hind.commute.sublist hsub
  have hnodup := (hsub.map _).nodup hind.nodup
  rw [h] at hcommute hnodup
  rw [List.map_append, List.map_cons, List.nodup_append, List.nodup_cons] at hnodup
  obtain ⟨-, ⟨hafter, -⟩, hbefore⟩ := hnodup
  have hothers : ∀ g ∈ before ++ after, g.name ≠ f.name := by
    intro g hg heq
    rcases List.mem_append.mp hg with hg | hg
    · exact hbefore _ (List.mem_map_of_mem hg) _ List.mem_cons_self heq
    · exact hafter (heq ▸ List.mem_map_of_mem hg)
  refine ⟨fun g hg => (List.pairwise_append.mp hcommute).2.2 g hg f List.mem_cons_self, hothers, ?_⟩
  have hagain : unseen fields (f.name :: seen) =
      (unseen fields seen).filter fun g => !(g.name == f.name) := by
    rw [unseen, unseen, List.filter_filter]
    congr 1
    funext g
    rw [List.contains_cons, Bool.not_or]
  have hkeep : (before ++ after).filter (fun g => !(g.name == f.name)) = before ++ after := by
    rw [List.filter_eq_self]
    simpa using hothers
  rw [hagain, h, ← hkeep, List.filter_append, List.filter_append,
    List.filter_cons_of_neg (by simp)]

section
variable {fields : List (RecordField σ)} {named : List (Name × Draft)} {n : Name} {d : Draft}
  {key : String} {seen : List String}

/-- Where all members are read, what is not required or was seen makes the record. -/
theorem fromMembers_nil (fields : List (RecordField σ)) (seen : List String) (s : σ) :
    (fromMembers fields none [] seen s).toOption = fillAll [] (unseen fields seen) s := by
  have hall : (unseen fields seen).all (·.presence != .required) =
      fields.all fun f => f.presence != .required || seen.contains f.name := by
    rw [unseen, List.all_filter]
    congr 1
    funext f
    cases seen.contains f.name <;> simp
  rw [fillAll_nil, hall, fromMembers]
  split <;> simp [Draft.pass, bind, Except.bind] <;> rfl

/-- A member that belongs to no field is passed over. -/
theorem fromMembers_unknown (hname : name n = .ok key) (hkey : key ∉ fields.map (·.name))
    (hskip : d.skip = .ok ()) (s : σ) :
    fromMembers fields none ((n, d) :: named) seen s = fromMembers fields none named seen s := by
  have hfind : fields.find? (·.name == key) = none := by
    rw [List.find?_eq_none]
    exact fun f hf heq => hkey (List.mem_map.mpr ⟨f, hf, eq_of_beq heq⟩)
  rw [fromMembers, hname]
  simp only [bind, Except.bind, hfind, hskip]

/-- The members one after the other are the fields one after the other, of those that have not been
read. -/
theorem fromMembers_toOption (hind : Independent fields)
    (hnamed : named.map (fun n => (name n.1, n.2)) = ms.map fun m => (.ok m.1, m.2))
    (hnodup : (ms.map (·.1)).Nodup) (hseen : ∀ m ∈ ms, m.1 ∉ seen)
    (hskip : ∀ m ∈ ms, m.1 ∉ fields.map (·.name) → m.2.skip = .ok ()) (s : σ) :
    (fromMembers fields none named seen s).toOption = fillAll ms (unseen fields seen) s := by
  induction ms generalizing named seen s with
  | nil =>
    rw [List.map_nil, List.map_eq_nil_iff] at hnamed
    subst hnamed
    exact fromMembers_nil fields seen s
  | cons m ms ih =>
    obtain ⟨key, d⟩ := m
    cases named with
    | nil => cases hnamed
    | cons n named =>
      obtain ⟨n, e⟩ := n
      rw [List.map_cons, List.map_cons, List.cons.injEq, Prod.mk.injEq] at hnamed
      obtain ⟨⟨hname, rfl⟩, hnamed⟩ := hnamed
      obtain ⟨hnew, hnodupRest⟩ := List.nodup_cons.mp hnodup
      obtain ⟨hkey, hseenRest⟩ := List.forall_mem_cons.mp hseen
      obtain ⟨hskipKey, hskipRest⟩ := List.forall_mem_cons.mp hskip
      by_cases hknown : key ∈ fields.map (·.name)
      · obtain ⟨f, hf, rfl⟩ := List.mem_map.mp hknown
        -- the reader stores this field now, `fillAll` behind those that stand before it
        obtain ⟨before, after, hsplit⟩ := List.append_of_mem (mem_unseen_iff.mpr ⟨hf, hkey⟩)
        obtain ⟨hcommute, hothers, hrest⟩ := split_unseen hind hsplit
        have hsame (t : σ) : fillAll ((f.name, e) :: ms) (before ++ after) t =
            fillAll ms (before ++ after) t :=
          fillAll_congr (fun g hg => lookup_cons_of_ne (hothers g hg)) t
        have hfill : fill ((f.name, e) :: ms) f s = f.store? e s := by
          rw [fill, List.lookup_cons_self]
        have hseen' : ∀ m ∈ ms, m.1 ∉ f.name :: seen := fun m hm hmem => by
          rcases List.mem_cons.mp hmem with heq | hmem
          · exact hnew (List.mem_map.mpr ⟨m, hm, heq⟩)
          · exact hseenRest m hm hmem
        rw [fromMembers_known hind.nodup hf hname hkey, hsplit, fillAll_move hcommute, hfill,
          RecordField.store?]
        cases f.store e s with
        | error fault => rfl
        | ok t =>
          have hmembers := ih hnamed hnodupRest hseen' hskipRest t
          rw [hrest, ← hsame] at hmembers
          exact hmembers
      · have hsame : fillAll ((key, e) :: ms) (unseen fields seen) s =
            fillAll ms (unseen fields seen) s := by
          refine fillAll_congr (fun f hf => lookup_cons_of_ne fun heq => hknown ?_) s
          exact List.mem_map.mpr ⟨f, (mem_unseen_iff.mp hf).1, heq⟩
        rw [fromMembers_unknown hname hknown (hskipKey hknown), hsame]
        exact ih hnamed hnodupRest hseenRest hskipRest s

end

/-! ## Items one after the other -/

/-- The items one after the other are the fields one after the other, as far as there are any. -/
theorem fromItems_toOption {fields : List (RecordField σ)} {ds : List Draft}
    (hnodup : (fields.map (·.name)).Nodup) (hpresence : ∀ f ∈ fields, f.presence = .defaulted)
    (hlen : ds.length ≤ fields.length) (s : σ) :
    (fromItems none fields ds s).toOption =
      fillAll ((fields.map (·.name)).zip ds) fields s := by
  induction fields generalizing ds s with
  | nil =>
    rw [List.length_eq_zero_iff.mp (Nat.le_zero.mp hlen)]
    rfl
  | cons f fields ih =>
    obtain ⟨hnew, hnodup⟩ := List.nodup_cons.mp hnodup
    obtain ⟨hf, hfields⟩ := List.forall_mem_cons.mp hpresence
    cases ds with
    | nil =>
      have hrest := @ih [] hnodup hfields (Nat.zero_le _) s
      rw [List.zip_nil_right] at hrest
      rw [List.zip_nil_right, fillAll, fromItems, if_pos hf, fill, List.lookup_nil, hf]
      exact hrest
    | cons d ds =>
      have hsame (t : σ) : fillAll ((f.name, d) :: (fields.map (·.name)).zip ds) fields t =
          fillAll ((fields.map (·.name)).zip ds) fields t :=
        fillAll_congr (fun g hg => lookup_cons_of_ne fun heq =>
          hnew (List.mem_map.mpr ⟨g, hg, heq⟩)) t
      rw [List.map_cons, List.zip_cons_cons, fillAll, fill, List.lookup_cons_self, fromItems]
      dsimp only
      rw [RecordField.store?]
      cases f.store d s with
      | error fault => rfl
      | ok t => exact (ih hnodup hfields (Nat.le_of_succ_le_succ hlen) t).trans (hsame t).symm

/-- An array from which a record is read is closed, and has no more items than there are fields. -/
theorem length_le_of_fromItems {fields : List (RecordField σ)} {cut : Option Fault}
    {ds : List Draft} (h : fromItems cut fields ds s = .ok s') :
    cut = none ∧ ds.length ≤ fields.length := by
  induction fields generalizing ds s with
  | nil =>
    cases ds with
    | nil => cases cut with
      | none => exact ⟨rfl, Nat.zero_le _⟩
      | some fault => cases h
    | cons d ds => cases h
  | cons f fields ih =>
    cases ds with
    | nil => cases cut with
      | none => exact ⟨rfl, Nat.zero_le _⟩
      | some fault => cases h
    | cons d ds =>
      rw [fromItems] at h
      cases hd : f.store d s with
      | error fault => rw [hd] at h; cases h
      | ok t =>
        rw [hd] at h
        obtain ⟨hcut, hlen⟩ := ih h
        exact ⟨hcut, Nat.succ_le_succ hlen⟩

/-! ## Records -/

/-- An object from which a record is read is closed, and its names can be read. -/
theorem exists_of_fromMembers {fields : List (RecordField σ)} {cut : Option Fault}
    {named : List (Name × Draft)} {seen : List String}
    (h : fromMembers fields cut named seen s = .ok s') :
    cut = none ∧ ∃ ms : List (String × Draft),
      named.map (fun n => (name n.1, n.2)) = ms.map fun m => (.ok m.1, m.2) := by
  induction named generalizing seen s with
  | nil =>
    cases cut with
    | none => exact ⟨rfl, [], rfl⟩
    | some fault => cases h
  | cons n named ih =>
    obtain ⟨n, d⟩ := n
    rw [fromMembers] at h
    cases hn : name n with
    | error fault => rw [hn] at h; cases h
    | ok key =>
      have hrest : ∃ seen s, fromMembers fields cut named seen s = .ok s' := by
        rw [hn] at h
        simp only [bind, Except.bind] at h
        split at h
        · split at h
          · cases h
          · exact ⟨_, _, h⟩
        · split at h
          · cases h
          · split at h
            · cases h
            · exact ⟨_, _, h⟩
      obtain ⟨seen', t, hrest⟩ := hrest
      obtain ⟨hcut, ms, hms⟩ := ih hrest
      exact ⟨hcut, (key, d) :: ms, by rw [List.map_cons, List.map_cons, hn, hms]⟩

/-- **A record is read field by field**, from an object that names no member twice or from an
array. -/
theorem record_toOption {fields : List (RecordField σ)} {d : Draft} (hind : Independent fields)
    (hpresence : ∀ f ∈ fields, f.presence = .defaulted) (start : σ)
    (h : HasFields (fields.map (·.name)) d ms)
    (hnodup : HasMembers d ms → (ms.map (·.1)).Nodup)
    (hskip : HasMembers d ms → ∀ m ∈ ms, m.2.skip = .ok ()) :
    (record fields start d).toOption = fillAll ms fields start := by
  rcases h with h | ⟨ds, rfl, hlen, rfl⟩
  · have hdistinct := hnodup h
    have hsound := hskip h
    obtain ⟨named, rfl, hnamed⟩ := h
    have hfields : unseen fields [] = fields := List.filter_eq_self.mpr fun _ _ => rfl
    have hread := fromMembers_toOption hind hnamed hdistinct (fun _ _ => List.not_mem_nil)
      (fun m hm _ => hsound m hm) start
    rwa [hfields] at hread
  · rw [List.length_map] at hlen
    exact fromItems_toOption hind.nodup hpresence hlen start

/-- What a record is read from has its fields, under their names or in their order. -/
theorem exists_of_record {fields : List (RecordField σ)} {d : Draft}
    (h : record fields s d = .ok s') : ∃ ms, HasFields (fields.map (·.name)) d ms := by
  cases d with
  | object named cut =>
    obtain ⟨rfl, ms, hms⟩ := exists_of_fromMembers h
    exact ⟨ms, .inl ⟨named, rfl, hms⟩⟩
  | array ds cut =>
    obtain ⟨rfl, hlen⟩ := length_le_of_fromItems h
    exact ⟨_, .inr ⟨ds, rfl, by rwa [List.length_map], rfl⟩⟩
  | _ =>
    rw [record] at h
    · exact absurd h (refuse_ne_ok _ _)
    all_goals exact nofun

/-! ## Fields that may be left out -/

section
variable {α : Type} {read : Reader α} {means : Draft → α → Prop} {set : α → σ → σ}
  {name : String} {fields : List (RecordField σ)}

/-- A field that may be left out has what is `Given` for it. -/
theorem fillAll_of_iff (a₀ : α)
    (hread : ∀ d, ms.lookup name = some d → ∀ a, read d = .ok a ↔ means d a)
    (hset : set a₀ s = s) :
    fillAll ms (.of .defaulted name read set :: fields) s = some s' ↔
      ∃ a, Given ms name means a₀ a ∧ fillAll ms fields (set a s) = some s' := by
  have hname : (RecordField.of .defaulted name read set).name = name := rfl
  unfold Given
  rw [fillAll, fill, hname]
  cases hd : ms.lookup name with
  | none => simp [hset, RecordField.of]
  | some d =>
    dsimp only
    rw [store?_of, Option.bind_map]
    simp [Option.bind_eq_some_iff, toOption_eq_some_iff, hread d hd]

end

end Reader

end AdapterReport.Json
