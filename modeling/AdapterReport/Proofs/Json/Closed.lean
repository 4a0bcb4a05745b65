import AdapterReport.Json.Draft

/-!
# Closed objects are sound

A value that no reader can pass over ends the document that it stands in, so the brackets around it
stay open. While a document is read, everything that is complete can be passed over
(`Progress.Sound`), which every token keeps (`Progress.Sound.next`): of an object that is closed in
the end, that is all of it (`skip_of_ofTokens`).
-/

namespace AdapterReport.Json.Draft

variable {d inner : Draft} {outer : List Open} {p : Progress}

/-! ## Passing over lists -/

theorem skipItems_eq_ok_iff {items : List Draft} :
    skipItems items = .ok () ↔ ∀ d ∈ items, d.skip = .ok () := by
  induction items with
  | nil => simp [skipItems]
  | cons d items ih =>
    rw [skipItems, List.forall_mem_cons, ← ih]
    cases d.skip <;> simp [bind, Except.bind]

theorem skipMembers_eq_ok_iff {members : List (Name × Draft)} :
    skipMembers members = .ok () ↔ ∀ m ∈ members, skipName m.1 = .ok () ∧ m.2.skip = .ok () := by
  induction members with
  | nil => simp [skipMembers]
  | cons m members ih =>
    obtain ⟨name, d⟩ := m
    rw [skipMembers, List.forall_mem_cons, ← ih]
    cases skipName name <;> cases d.skip <;> simp [bind, Except.bind]

theorem skip_array {items : List Draft} (h : ∀ d ∈ items, d.skip = .ok ()) :
    (array items none).skip = .ok () := by
  rw [skip, skipItems_eq_ok_iff.mpr h]
  rfl

theorem skip_object {members : List (Name × Draft)} :
    (object members none).skip = .ok () ↔
      ∀ m ∈ members, skipName m.1 = .ok () ∧ m.2.skip = .ok () := by
  rw [← skipMembers_eq_ok_iff, skip]
  cases skipMembers members <;> simp [bind, Except.bind, pass]

theorem pass_of_not_isSome {broken : Option Fault} (h : ¬ broken.isSome = true) :
    pass broken = .ok () := by
  cases broken with
  | none => rfl
  | some fault => exact absurd rfl h

/-! ## Brackets that are open -/

/-- The draft is an object whose closing bracket has been read. -/
inductive IsClosedObject : Draft → Prop
  | intro (members : List (Name × Draft)) : IsClosedObject (object members none)

/-- The bracket holds nothing but values and names that can be passed over. -/
def Open.Sound : Open → Prop
  | .array items => ∀ d ∈ items, d.skip = .ok ()
  | .object members _ => ∀ m ∈ members, skipName m.1 = .ok () ∧ m.2.skip = .ok ()

/-- The next value of the bracket has a name that can be passed over, if it wants one. -/
def Open.Named : Open → Prop
  | .array _ => True
  | .object _ name => skipName name = .ok ()

/-- The innermost of the brackets can take one more value. -/
def Awaiting (outer : List Open) : Prop :=
  ∀ o ∈ outer, o.Sound ∧ o.Named

/-- A value comes next, maybe behind a colon. -/
def Expected.IsValue : Expected → Prop
  | .value | .itemOrClose | .colon => True
  | .separator | .nameOrClose | .name => False

/-- Everything that is complete can be passed over. -/
def Progress.Sound : Progress → Prop
  | .done d _ => IsClosedObject d → d.skip = .ok ()
  | .reading [] _ => True
  | .reading (o :: outer) expected => o.Sound ∧ (expected.IsValue → o.Named) ∧ Awaiting outer

/-- A document that breaks off inside brackets leaves them open. -/
theorem not_isClosedObject_within (h : ¬ IsClosedObject inner) (outer : List Open) :
    ¬ IsClosedObject (within inner outer) := by
  induction outer generalizing inner with
  | nil => exact h
  | cons o outer ih =>
    cases o with
    | array items => exact ih (by nofun)
    | object members name => exact ih (by nofun)

theorem not_isClosedObject_cutAt (fault : Fault) (outer : List Open) :
    ¬ IsClosedObject (cutAt fault outer) := by
  cases outer with
  | nil => exact nofun
  | cons o outer =>
    cases o with
    | array items => exact not_isClosedObject_within (by nofun) outer
    | object members name => exact not_isClosedObject_within (by nofun) outer

/-! ## Steps -/

namespace Progress

theorem Sound.awaiting {expected : Expected} (h : (reading outer expected).Sound)
    (hvalue : expected.IsValue) : Awaiting outer := by
  cases outer with
  | nil => exact nofun
  | cons o outer => exact List.forall_mem_cons.mpr ⟨⟨h.1, h.2.1 hvalue⟩, h.2.2⟩

theorem sound_stop (h : ¬ IsClosedObject inner) (outer : List Open) : (stop inner outer).Sound :=
  fun hclosed => absurd hclosed (not_isClosedObject_within h outer)

theorem sound_complete (h : Awaiting outer) (hd : d.skip = .ok ()) : (complete d outer).Sound := by
  cases outer with
  | nil => exact fun _ => hd
  | cons o outer =>
    obtain ⟨⟨hsound, hnamed⟩, houter⟩ := List.forall_mem_cons.mp h
    cases o with
    | array items => exact ⟨List.forall_mem_cons.mpr ⟨hd, hsound⟩, nofun, houter⟩
    | object members name =>
      exact ⟨List.forall_mem_cons.mpr ⟨⟨hnamed, hd⟩, hsound⟩, nofun, houter⟩

theorem sound_value (h : Awaiting outer) (t : Token) : (value outer t).Sound := by
  cases t with
  | openArray => exact ⟨nofun, fun _ => trivial, h⟩
  | openObject => exact ⟨nofun, nofun, h⟩
  | null => exact sound_complete h rfl
  | bool b => exact sound_complete h rfl
  | number scan =>
    rw [value]
    split
    · exact sound_stop (by nofun) outer
    · exact sound_complete h (pass_of_not_isSome ‹_›)
  | text scan =>
    rw [value]
    split
    · exact sound_stop (by nofun) outer
    · exact sound_complete h (pass_of_not_isSome ‹_›)
  | _ => exact sound_stop (by nofun) outer

theorem sound_name {expected : Expected} (h : (reading outer expected).Sound) (t : Token) :
    (name outer t).Sound := by
  cases outer with
  | nil => exact sound_stop (by nofun) []
  | cons o outer =>
    cases o with
    | array items => exact sound_stop (by nofun) _
    | object members old =>
      cases t with
      | text scan =>
        rw [name]
        split
        · exact sound_stop (by nofun) outer
        · exact ⟨h.1, fun _ => pass_of_not_isSome ‹_›, h.2.2⟩
      | _ => exact sound_stop (by nofun) outer

theorem sound_separator {expected : Expected} (h : (reading outer expected).Sound) (t : Token) :
    (separator outer t).Sound := by
  have hcut : (done (cutAt .malformed outer) false).Sound := fun hclosed =>
    absurd hclosed (not_isClosedObject_cutAt _ outer)
  cases outer with
  | nil => cases t <;> exact hcut
  | cons o outer =>
    obtain ⟨hsound, -, houter⟩ := h
    cases o with
    | array items =>
      cases t with
      | comma => exact ⟨hsound, fun _ => trivial, houter⟩
      | closeArray =>
        exact sound_complete houter (skip_array fun d hd => hsound d (List.mem_reverse.mp hd))
      | _ => exact hcut
    | object members name =>
      cases t with
      | comma => exact ⟨hsound, nofun, houter⟩
      | closeObject =>
        exact sound_complete houter (skip_object.mpr fun m hm => hsound m (List.mem_reverse.mp hm))
      | _ => exact hcut

/-- **Every token keeps** what is complete sound. -/
theorem Sound.next (h : p.Sound) (t : Token) : (p.next t).Sound := by
  cases p with
  | done d trailing => exact h
  | reading outer expected =>
    cases expected with
    | value => exact sound_value (h.awaiting trivial) t
    | itemOrClose =>
      -- nothing but the closing bracket of an array is read in another way than a value
      have hvalue := sound_value (h.awaiting trivial) t
      cases outer with
      | nil => cases t <;> exact hvalue
      | cons o outer =>
        cases o with
        | object members name => cases t <;> exact hvalue
        | array items =>
          cases t with
          | closeArray =>
            exact sound_complete h.2.2 (skip_array fun d hd => h.1 d (List.mem_reverse.mp hd))
          | _ => exact hvalue
    | separator => exact sound_separator h t
    | nameOrClose =>
      have hname := sound_name h t
      cases outer with
      | nil => cases t <;> exact hname
      | cons o outer =>
        cases o with
        | array items => cases t <;> exact hname
        | object members name =>
          cases t with
          | closeObject =>
            exact sound_complete h.2.2
              (skip_object.mpr fun m hm => h.1 m (List.mem_reverse.mp hm))
          | _ => exact hname
    | name => exact sound_name h t
    | colon =>
      cases t with
      | colon =>
        cases outer with
        | nil => trivial
        | cons o outer => exact h
      | _ => exact sound_stop (by nofun) outer

theorem sound_foldl (h : p.Sound) (tokens : List Token) : (tokens.foldl next p).Sound := by
  induction tokens generalizing p with
  | nil => exact h
  | cons t tokens ih => exact ih (h.next t)

theorem Sound.finish (h : p.Sound) (hclosed : IsClosedObject p.finish.1) :
    p.finish.1.skip = .ok () := by
  cases p with
  | done d trailing => exact h hclosed
  | reading outer expected =>
    -- where a document ends before its value is complete, no object is closed
    refine absurd hclosed ?_
    cases expected with
    | value | colon => exact not_isClosedObject_within (by nofun) outer
    | separator | itemOrClose => exact not_isClosedObject_cutAt .ended outer
    | nameOrClose | name =>
      cases outer with
      | nil => nofun
      | cons o outer => cases o <;> exact not_isClosedObject_within (by nofun) _

end Progress

/-- **A closed object can be passed over.** -/
theorem skip_of_ofTokens {tokens : List Token} {trailing : Bool}
    (h : ofTokens tokens = (d, trailing)) (hclosed : IsClosedObject d) : d.skip = .ok () := by
  have hstart : (Progress.reading [] .value).Sound := trivial
  have hsound := Progress.sound_foldl hstart tokens
  have hd : (tokens.foldl Progress.next (.reading [] .value)).finish.1 = d := congrArg Prod.fst h
  rw [← hd] at hclosed ⊢
  exact hsound.finish hclosed

end AdapterReport.Json.Draft
