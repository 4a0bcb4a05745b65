import AdapterReport.Proofs.Json.Overlay
import AdapterReport.Proofs.Settings.RoundTrip
import Mathlib.Tactic.MkIffOfInductiveProp

/-!
# Partial settings

What a text of settings means is told by its members (`Settings.SetBy`): a member that is there has
to be of its kind and is what the settings have, and one that is not there leaves the default. The
toggles inside `sections` follow the same rule (`ShownSections.SetBy`).

So it makes no difference whether a text leaves members out or names them with their defaults
(`setBy_overlay`), in which order they stand, or what else there is (`setBy_congr`). A member of
another kind is never passed over (`IsPartial.exists_setBy_iff`), null least of all
(`not_hasKind_null`).
-/

namespace AdapterReport

open Json (Draft HasMembers HasFields Given IsText IsBool IsList IsObject SameMembers overlay draft
  draftMembers hasMembers_draft isObject_compact given_overlay given_congr exists_given_iff
  lookup_cons_of_ne lookup_eq_some_iff_mem toOption_eq_some_iff)
open Json.Reader

variable {ms ms' : List (String × Draft)} {d d' : Draft}

/-! ## Shown sections -/

namespace ShownSections

variable {s : ShownSections}

/-- The names of the toggles. -/
def names : List String :=
  fields.map (·.name)

/-- The members set these sections: those that they name, each as its member says. All others are
shown. -/
@[mk_iff]
structure SetBy (ms : List (String × Draft)) (s : ShownSections) : Prop where
  summary : Given ms "summary" IsBool true s.summary
  uptime : Given ms "uptime" IsBool true s.uptime
  devices : Given ms "devices" IsBool true s.devices
  interfaces : Given ms "interfaces" IsBool true s.interfaces

/-- The value sets these sections, by their names in an object or in their order in an array. -/
def Means (d : Draft) (s : ShownSections) : Prop :=
  ∃ ms, HasFields names d ms ∧ SetBy ms s

theorem independent : Independent fields where
  nodup := by decide
  commute := by
    simp only [fields, List.pairwise_cons, List.forall_mem_cons, List.not_mem_nil, false_implies,
      implies_true, and_true, List.Pairwise.nil]
    and_intros <;> exact commute_of fun _ _ _ => rfl

theorem fillAll_eq_some_iff : fillAll ms fields all = some s ↔ SetBy ms s := by
  have hbool {name : String} : ∀ d, ms.lookup name = some d → ∀ b, bool d = .ok b ↔ IsBool d b :=
    fun d _ => reads_bool d
  constructor
  · intro h
    obtain ⟨summary, hsummary, h⟩ := (fillAll_of_iff true hbool rfl).mp h
    obtain ⟨uptime, huptime, h⟩ := (fillAll_of_iff true hbool rfl).mp h
    obtain ⟨devices, hdevices, h⟩ := (fillAll_of_iff true hbool rfl).mp h
    obtain ⟨interfaces, hinterfaces, h⟩ := (fillAll_of_iff true hbool rfl).mp h
    cases h
    exact ⟨hsummary, huptime, hdevices, hinterfaces⟩
  · rintro ⟨hsummary, huptime, hdevices, hinterfaces⟩
    refine (fillAll_of_iff true hbool rfl).mpr ⟨_, hsummary, ?_⟩
    refine (fillAll_of_iff true hbool rfl).mpr ⟨_, huptime, ?_⟩
    refine (fillAll_of_iff true hbool rfl).mpr ⟨_, hdevices, ?_⟩
    exact (fillAll_of_iff true hbool rfl).mpr ⟨_, hinterfaces, rfl⟩

/-- Shown sections are read as what the value sets. -/
theorem reader_eq_ok_iff (hskip : d.skip = .ok ())
    (hnodup : ∀ ms, HasMembers d ms → (ms.map (·.1)).Nodup) : reader d = .ok s ↔ Means d s := by
  have hfill (ms : List (String × Draft)) (h : HasFields names d ms) :
      reader d = .ok s ↔ SetBy ms s := by
    rw [← fillAll_eq_some_iff, ← toOption_eq_some_iff, reader,
      record_toOption independent (by decide) all h (hnodup ms) fun h => h.skip hskip]
  constructor
  · intro hread
    obtain ⟨ms, h⟩ := exists_of_record hread
    exact ⟨ms, h, (hfill ms h).mp hread⟩
  · rintro ⟨ms, h, hset⟩
    exact (hfill ms h).mpr hset

theorem means_iff (h : HasMembers d ms) : Means d s ↔ SetBy ms s := by
  constructor
  · rintro ⟨ms', hms', hset⟩
    rwa [hms'.unique h] at hset
  · exact fun hset => ⟨ms, .inl h, hset⟩

theorem setBy_congr (h : ∀ name ∈ names, ms.lookup name = ms'.lookup name) :
    SetBy ms s ↔ SetBy ms' s := by
  rw [setBy_iff, setBy_iff, given_congr (h "summary" (by decide)),
    given_congr (h "uptime" (by decide)), given_congr (h "devices" (by decide)),
    given_congr (h "interfaces" (by decide))]

/-- Toggles that say what is shown anyway may be left out. -/
theorem setBy_overlay : SetBy (overlay (draftMembers all.toJson) ms) s ↔ SetBy ms s := by
  have hsame {name : String} (h : (draftMembers all.toJson).lookup name = some (.bool true))
      (b : Bool) : Given (overlay (draftMembers all.toJson) ms) name IsBool true b ↔
        Given ms name IsBool true b :=
    given_overlay h fun a => by simp [IsBool, eq_comm]
  rw [setBy_iff, setBy_iff, hsame rfl, hsame rfl, hsame rfl, hsame rfl]

/-- What is printed of shown sections sets these sections. -/
theorem means_toJson (s t : ShownSections) : Means (draft s.toJson) t ↔ t = s := by
  have hnodup (ms : List (String × Draft)) (h : HasMembers (draft s.toJson) ms) :
      (ms.map (·.1)).Nodup := by
    have hnames : (draftMembers s.toJson).map (·.1) = names := rfl
    rw [h.unique (hasMembers_draft _)]
    exact hnames ▸ independent.nodup
  rw [← reader_eq_ok_iff rfl hnodup, readsBack s, Except.ok.injEq, eq_comm]

theorem exists_setBy_iff (hnodup : (ms.map (·.1)).Nodup) :
    (∃ s, SetBy ms s) ↔ ∀ m ∈ ms, m.1 ∈ names → ∃ b, IsBool m.2 b := by
  have hkind {name : String} : (∃ b, Given ms name IsBool true b) ↔
      ∀ d, (name, d) ∈ ms → ∃ b, IsBool d b := exists_given_iff hnodup
  constructor
  · rintro ⟨s, hsummary, huptime, hdevices, hinterfaces⟩ ⟨name, d⟩ hm hname
    have hname : name ∈ ["summary", "uptime", "devices", "interfaces"] := hname
    simp only [List.mem_cons, List.not_mem_nil, or_false] at hname
    rcases hname with rfl | rfl | rfl | rfl
    · exact hkind.mp ⟨_, hsummary⟩ d hm
    · exact hkind.mp ⟨_, huptime⟩ d hm
    · exact hkind.mp ⟨_, hdevices⟩ d hm
    · exact hkind.mp ⟨_, hinterfaces⟩ d hm
  · intro h
    have hgiven {name : String} (hname : name ∈ names) : ∃ b, Given ms name IsBool true b :=
      hkind.mpr fun d hd => h (name, d) hd hname
    obtain ⟨summary, hsummary⟩ : ∃ b, Given ms "summary" IsBool true b := hgiven (by decide)
    obtain ⟨uptime, huptime⟩ : ∃ b, Given ms "uptime" IsBool true b := hgiven (by decide)
    obtain ⟨devices, hdevices⟩ : ∃ b, Given ms "devices" IsBool true b := hgiven (by decide)
    obtain ⟨interfaces, hinterfaces⟩ : ∃ b, Given ms "interfaces" IsBool true b :=
      hgiven (by decide)
    exact ⟨⟨summary, uptime, devices, interfaces⟩, hsummary, huptime, hdevices, hinterfaces⟩

/-- The value sets some sections exactly if all toggles that it names are true or false. -/
theorem exists_means_iff (hnodup : ∀ ms, HasMembers d ms → (ms.map (·.1)).Nodup) :
    (∃ s, Means d s) ↔
      ∃ ms, HasFields names d ms ∧ ∀ m ∈ ms, m.1 ∈ names → ∃ b, IsBool m.2 b := by
  have hset {ms : List (String × Draft)} (h : HasFields names d ms) :
      (∃ s, SetBy ms s) ↔ ∀ m ∈ ms, m.1 ∈ names → ∃ b, IsBool m.2 b :=
    exists_setBy_iff (h.nodup independent.nodup (hnodup ms))
  constructor
  · rintro ⟨s, ms, hms, hs⟩
    exact ⟨ms, hms, (hset hms).mp ⟨s, hs⟩⟩
  · rintro ⟨ms, hms, hkind⟩
    obtain ⟨s, hs⟩ := (hset hms).mpr hkind
    exact ⟨s, ms, hms, hs⟩

end ShownSections

/-! ## Settings -/

namespace Settings

variable {s : Settings} {text : String}

/-- The names of the settings. -/
def names : List String :=
  fields.map (·.name)

/-- The names of the settings that are texts. -/
def textNames : List String :=
  ["title", "inventory_title", "file_prefix", "version"]

/-- The members set these settings: those that they name, each as its member says. All others have
their defaults. -/
@[mk_iff]
structure SetBy (ms : List (String × Draft)) (s : Settings) : Prop where
  title : Given ms "title" IsText default.title s.title
  inventoryTitle : Given ms "inventory_title" IsText default.inventoryTitle s.inventoryTitle
  filePrefix : Given ms "file_prefix" IsText default.filePrefix s.filePrefix
  version : Given ms "version" IsText default.version s.version
  sections : Given ms "sections" ShownSections.Means default.sections s.sections
  collapsed : Given ms "collapsed" (IsList IsText) default.collapsed s.collapsed

/-- The text is an object with these members. No name comes twice, nor does one inside
`sections`. -/
structure IsPartial (text : String) (ms : List (String × Draft)) : Prop extends
    IsObject text ms where
  toggles : ∀ d inner, ("sections", d) ∈ ms → HasMembers d inner → (inner.map (·.1)).Nodup

/-- The value is of the kind that a setting of this name wants. Toggles stand in an object or, like
the fields of every record, in their order in an array. -/
structure HasKind (name : String) (d : Draft) : Prop where
  text : name ∈ textNames → ∃ t, IsText d t
  sections : name = "sections" → ∃ inner, HasFields ShownSections.names d inner ∧
    ∀ m ∈ inner, m.1 ∈ ShownSections.names → ∃ b, IsBool m.2 b
  collapsed : name = "collapsed" → ∃ ts, IsList IsText d ts

theorem independent : Independent fields where
  nodup := by decide
  commute := by
    simp only [fields, List.pairwise_cons, List.forall_mem_cons, List.not_mem_nil, false_implies,
      implies_true, and_true, List.Pairwise.nil]
    and_intros <;> exact commute_of fun _ _ _ => rfl

theorem fillAll_eq_some_iff
    (hsections : ∀ d, ms.lookup "sections" = some d →
      ∀ x, ShownSections.reader d = .ok x ↔ ShownSections.Means d x) :
    fillAll ms fields default = some s ↔ SetBy ms s := by
  have htext {name : String} : ∀ d, ms.lookup name = some d → ∀ t, text d = .ok t ↔ IsText d t :=
    fun d _ => reads_text d
  have hlist : ∀ d, ms.lookup "collapsed" = some d →
      ∀ ts, list text d = .ok ts ↔ IsList IsText d ts := fun d _ => reads_text.list d
  constructor
  · intro h
    obtain ⟨title, htitle, h⟩ := (fillAll_of_iff default.title htext rfl).mp h
    obtain ⟨inventoryTitle, hinventoryTitle, h⟩ :=
      (fillAll_of_iff default.inventoryTitle htext rfl).mp h
    obtain ⟨filePrefix, hfilePrefix, h⟩ := (fillAll_of_iff default.filePrefix htext rfl).mp h
    obtain ⟨version, hversion, h⟩ := (fillAll_of_iff default.version htext rfl).mp h
    obtain ⟨sections, hshown, h⟩ := (fillAll_of_iff default.sections hsections rfl).mp h
    obtain ⟨collapsed, hcollapsed, h⟩ := (fillAll_of_iff default.collapsed hlist rfl).mp h
    cases h
    exact ⟨htitle, hinventoryTitle, hfilePrefix, hversion, hshown, hcollapsed⟩
  · rintro ⟨htitle, hinventoryTitle, hfilePrefix, hversion, hshown, hcollapsed⟩
    refine (fillAll_of_iff default.title htext rfl).mpr ⟨_, htitle, ?_⟩
    refine (fillAll_of_iff default.inventoryTitle htext rfl).mpr ⟨_, hinventoryTitle, ?_⟩
    refine (fillAll_of_iff default.filePrefix htext rfl).mpr ⟨_, hfilePrefix, ?_⟩
    refine (fillAll_of_iff default.version htext rfl).mpr ⟨_, hversion, ?_⟩
    refine (fillAll_of_iff default.sections hsections rfl).mpr ⟨_, hshown, ?_⟩
    exact (fillAll_of_iff default.collapsed hlist rfl).mpr ⟨_, hcollapsed, rfl⟩

/-! ## Texts of settings -/

section
variable (h : IsPartial text ms)
include h

/-- A value that settings have under `sections` is read as the sections that it sets. -/
theorem IsPartial.shown (hd : ms.lookup "sections" = some d) (x : ShownSections) :
    ShownSections.reader d = .ok x ↔ ShownSections.Means d x := by
  have hmem := (lookup_eq_some_iff_mem h.distinct).mp hd
  exact ShownSections.reader_eq_ok_iff (h.sound _ hmem) fun inner => h.toggles d inner hmem

/-- The settings of a text are what its members set. -/
theorem IsPartial.read_eq_ok_iff : Json.read reader text = .ok s ↔ SetBy ms s := by
  obtain ⟨d, htokens, hd⟩ := h.members
  rw [← fillAll_eq_some_iff fun d => h.shown, Json.read_of_ofTokens reader htokens,
    ← toOption_eq_some_iff, reader,
    record_toOption independent (by decide) default (.inl hd) (fun _ => h.distinct)
      fun _ => h.sound]

/-- **The text is accepted** as the settings that its members set, if these are usable. -/
theorem IsPartial.ofJson?_eq_ok_iff :
    ofJson? text = .ok s ↔ SetBy ms s ∧ s.problem? = none := by
  rw [← h.read_eq_ok_iff, ofJson?]
  cases Json.read reader text with
  | error fault => simp
  | ok t =>
    cases ht : t.problem? with
    | none =>
      simp only [ht, Except.ok.injEq]
      exact ⟨fun heq => ⟨heq, heq ▸ ht⟩, And.left⟩
    | some problem =>
      simp only [ht, reduceCtorEq, Except.ok.injEq, false_iff, not_and]
      rintro rfl hs
      cases ht.symm.trans hs

theorem IsPartial.unreadable_iff :
    (∃ fault, ofJson? text = .error (.unreadable fault)) ↔ ¬ ∃ s, SetBy ms s := by
  simp only [← h.read_eq_ok_iff, ofJson?]
  cases Json.read reader text with
  | error fault => simp
  | ok t =>
    cases ht : t.problem? with
    | none => simp [ht]
    | some problem => rcases eq_of_problem? ht with rfl | rfl <;> simp [ht]

/-- Two texts whose members set the same are accepted as the same settings, or both are not. -/
theorem IsPartial.toOption_congr {other : String} (h' : IsPartial other ms')
    (hset : ∀ s, SetBy ms s ↔ SetBy ms' s) :
    (ofJson? text).toOption = (ofJson? other).toOption := by
  refine Option.ext fun s => ?_
  rw [toOption_eq_some_iff, toOption_eq_some_iff, h.ofJson?_eq_ok_iff, h'.ofJson?_eq_ok_iff, hset]

end

/-! ## Kinds of members -/

/-- The members set some settings exactly if each is of its kind. -/
theorem IsPartial.exists_setBy_iff (h : IsPartial text ms) :
    (∃ s, SetBy ms s) ↔ ∀ m ∈ ms, HasKind m.1 m.2 := by
  have hgiven {α : Type} {means : Draft → α → Prop} {name : String} {a₀ : α} :
      (∃ a, Given ms name means a₀ a) ↔ ∀ d, (name, d) ∈ ms → ∃ a, means d a :=
    exists_given_iff h.distinct
  constructor
  · rintro ⟨s, htitle, hinventoryTitle, hfilePrefix, hversion, hshown, hcollapsed⟩ ⟨name, d⟩ hm
    refine ⟨fun hname => ?_, ?_, ?_⟩
    · simp only [textNames, List.mem_cons, List.not_mem_nil, or_false] at hname
      rcases hname with rfl | rfl | rfl | rfl
      · exact hgiven.mp ⟨_, htitle⟩ d hm
      · exact hgiven.mp ⟨_, hinventoryTitle⟩ d hm
      · exact hgiven.mp ⟨_, hfilePrefix⟩ d hm
      · exact hgiven.mp ⟨_, hversion⟩ d hm
    · rintro rfl
      exact (ShownSections.exists_means_iff fun inner => h.toggles d inner hm).mp
        (hgiven.mp ⟨_, hshown⟩ d hm)
    · rintro rfl
      exact hgiven.mp ⟨_, hcollapsed⟩ d hm
  · intro hkind
    have htext {name t₀ : String} (hname : name ∈ textNames) :
        ∃ t, Given ms name IsText t₀ t :=
      hgiven.mpr fun d hd => (hkind (name, d) hd).text hname
    obtain ⟨title, htitle⟩ : ∃ t, Given ms "title" IsText default.title t := htext (by decide)
    obtain ⟨inventoryTitle, hinventoryTitle⟩ :
      ∃ t, Given ms "inventory_title" IsText default.inventoryTitle t := htext (by decide)
    obtain ⟨filePrefix, hfilePrefix⟩ :
      ∃ t, Given ms "file_prefix" IsText default.filePrefix t := htext (by decide)
    obtain ⟨version, hversion⟩ : ∃ t, Given ms "version" IsText default.version t :=
      htext (by decide)
    obtain ⟨sections, hshown⟩ :
        ∃ x, Given ms "sections" ShownSections.Means default.sections x :=
      hgiven.mpr fun d hd => (ShownSections.exists_means_iff fun inner => h.toggles d inner hd).mpr
        ((hkind _ hd).sections rfl)
    obtain ⟨collapsed, hcollapsed⟩ :
        ∃ ts, Given ms "collapsed" (IsList IsText) default.collapsed ts :=
      hgiven.mpr fun d hd => (hkind _ hd).collapsed rfl
    exact ⟨⟨title, inventoryTitle, filePrefix, version, sections, collapsed⟩, htitle,
      hinventoryTitle, hfilePrefix, hversion, hshown, hcollapsed⟩

/-- Null is of no kind that a setting wants. -/
theorem not_hasKind_null {name : String} (hname : name ∈ names) : ¬ HasKind name .null := by
  rintro ⟨htext, hsections, hcollapsed⟩
  have hname : name ∈ textNames ∨ name = "sections" ∨ name = "collapsed" := by
    simpa [names, fields, textNames, RecordField.of, or_assoc] using hname
  rcases hname with hname | rfl | rfl
  · obtain ⟨t, scan, hd, -⟩ := htext hname
    cases hd
  · obtain ⟨inner, ⟨named, hd, -⟩ | ⟨ds, hd, -⟩, -⟩ := hsections rfl <;> cases hd
  · obtain ⟨ts, ds, hd, -⟩ := hcollapsed rfl
    cases hd

/-! ## Members that are left out, and other ones -/

/-- The same member, or two objects under `sections` whose members are related. -/
inductive InSections (R : List (String × Draft) → List (String × Draft) → Prop) :
    String × Draft → String × Draft → Prop
  | same (m : String × Draft) : InSections R m m
  | sections {d d' : Draft} {inner inner' : List (String × Draft)} (h : HasMembers d inner)
      (h' : HasMembers d' inner') (hR : R inner inner') :
      InSections R ("sections", d) ("sections", d')

variable {R : List (String × Draft) → List (String × Draft) → Prop}

theorem map_fst_of_inSections (h : List.Forall₂ (InSections R) ms ms') :
    ms'.map (·.1) = ms.map (·.1) := by
  induction h with
  | nil => rfl
  | cons hm _ ih => cases hm <;> rw [List.map_cons, List.map_cons, ih]

theorem lookup_of_inSections (h : List.Forall₂ (InSections R) ms ms') (name : String) :
    ms.lookup name = ms'.lookup name ∨ name = "sections" ∧ ∃ d d' inner inner',
      ms.lookup name = some d ∧ ms'.lookup name = some d' ∧ HasMembers d inner ∧
        HasMembers d' inner' ∧ R inner inner' := by
  induction h with
  | nil => exact .inl rfl
  | @cons m m' ms ms' hm _ ih =>
    cases hm with
    | same =>
      obtain ⟨k, d⟩ := m
      by_cases hk : name = k
      · subst hk
        rw [List.lookup_cons_self, List.lookup_cons_self]
        exact .inl rfl
      · rwa [lookup_cons_of_ne hk, lookup_cons_of_ne hk]
    | sections h h' hR =>
      by_cases hk : name = "sections"
      · subst hk
        rw [List.lookup_cons_self, List.lookup_cons_self]
        exact .inr ⟨rfl, _, _, _, _, rfl, rfl, h, h', hR⟩
      · rwa [lookup_cons_of_ne hk, lookup_cons_of_ne hk]

/-- What the members set goes by the members alone, and under `sections` by what these set. -/
theorem setBy_of_inSections (h : List.Forall₂ (InSections R) ms ms')
    (hR : ∀ d d' inner inner', ms.lookup "sections" = some d → ms'.lookup "sections" = some d' →
      HasMembers d inner → HasMembers d' inner' → R inner inner' →
        ∀ x, ShownSections.SetBy inner x ↔ ShownSections.SetBy inner' x) :
    SetBy ms s ↔ SetBy ms' s := by
  have hlookup (name : String) (hname : name ≠ "sections") : ms.lookup name = ms'.lookup name :=
    (lookup_of_inSections h name).resolve_right fun hs => hname hs.1
  have hsections : Given ms "sections" ShownSections.Means default.sections s.sections ↔
      Given ms' "sections" ShownSections.Means default.sections s.sections := by
    rcases lookup_of_inSections h "sections" with
      hsame | ⟨-, d, d', inner, inner', hd, hd', hmembers, hmembers', hrel⟩
    · exact given_congr hsame
    · unfold Given
      rw [hd, hd']
      dsimp only
      rw [ShownSections.means_iff hmembers, ShownSections.means_iff hmembers',
        hR d d' inner inner' hd hd' hmembers hmembers' hrel]
  rw [setBy_iff, setBy_iff, hsections, given_congr (hlookup "title" (by decide)),
    given_congr (hlookup "inventory_title" (by decide)),
    given_congr (hlookup "file_prefix" (by decide)),
    given_congr (hlookup "version" (by decide)),
    given_congr (hlookup "collapsed" (by decide))]

/-- **Members may be left out** that have the defaults. -/
theorem setBy_overlay : SetBy (overlay (draftMembers default.toJson) ms) s ↔ SetBy ms s := by
  have htext {name t₀ : String}
      (h : (draftMembers default.toJson).lookup name = some (draft (.text t₀))) (t : String) :
      Given (overlay (draftMembers default.toJson) ms) name IsText t₀ t ↔
        Given ms name IsText t₀ t := given_overlay h (reads_text.means_print readsBack_text t₀)
  have hsections (x : ShownSections) : Given (overlay (draftMembers default.toJson) ms) "sections"
      ShownSections.Means default.sections x ↔
        Given ms "sections" ShownSections.Means default.sections x :=
    given_overlay rfl (ShownSections.means_toJson default.sections)
  have hcollapsed (ts : List String) : Given (overlay (draftMembers default.toJson) ms) "collapsed"
      (IsList IsText) default.collapsed ts ↔
        Given ms "collapsed" (IsList IsText) default.collapsed ts :=
    given_overlay rfl (reads_text.list.means_print readsBack_text.list default.collapsed)
  rw [setBy_iff, setBy_iff, htext rfl, htext rfl, htext rfl, htext rfl, hsections, hcollapsed]

theorem setBy_congr (h : ∀ name ∈ names, ms.lookup name = ms'.lookup name) :
    SetBy ms s ↔ SetBy ms' s := by
  rw [setBy_iff, setBy_iff, given_congr (h "title" (by decide)),
    given_congr (h "inventory_title" (by decide)), given_congr (h "file_prefix" (by decide)),
    given_congr (h "version" (by decide)), given_congr (h "sections" (by decide)),
    given_congr (h "collapsed" (by decide))]

/-- The text of an object is a text of its members. -/
theorem isPartial_compact {o : List (String × Json)} (h : (o.map (·.1)).Nodup)
    (hsections : ∀ inner, ("sections", Json.object inner) ∈ o → (inner.map (·.1)).Nodup) :
    IsPartial (Json.object o).compact (draftMembers (.object o)) where
  toIsObject := isObject_compact h
  toggles := by
    intro d inner hd hmembers
    obtain ⟨⟨name, v⟩, hv, heq⟩ := List.mem_map.mp hd
    cases heq
    cases v with
    | object ms =>
      rw [hmembers.unique (hasMembers_draft ms), draftMembers, List.map_map]
      exact hsections ms hv
    | _ => obtain ⟨named, hnamed, -⟩ := hmembers; cases hnamed

/-- **Partial settings mean defaults.** A text is accepted as just what it is accepted as with its
members laid over those of the default settings, also inside `sections`. Neither the order of the
members nor members with other names make a difference, here or inside `sections`. The text is
accepted as the settings that its members set, if these are usable, and cannot be read if a member
is not of its kind, as null is of none. -/
theorem partial_means_default (h : IsPartial text ms) :
    (∀ whole full,
      List.Forall₂ (InSections fun inner inner' =>
        inner' = overlay (draftMembers default.sections.toJson) inner) ms full →
      IsPartial whole (overlay (draftMembers default.toJson) full) →
        (ofJson? text).toOption = (ofJson? whole).toOption) ∧
    (∀ other mid ms',
      List.Forall₂ (InSections (SameMembers ShownSections.names)) ms mid →
      SameMembers names mid ms' → IsPartial other ms' →
        (ofJson? text).toOption = (ofJson? other).toOption) ∧
    (∀ s, ofJson? text = .ok s ↔ SetBy ms s ∧ s.problem? = none) ∧
    ((∃ fault, ofJson? text = .error (.unreadable fault)) ↔ ∃ m ∈ ms, ¬ HasKind m.1 m.2) ∧
    ∀ name ∈ names, ¬ HasKind name .null := by
  refine ⟨fun whole full hfull hwhole => ?_, fun other mid ms' hmid hsame hother => ?_,
    fun s => h.ofJson?_eq_ok_iff, ?_, fun name => not_hasKind_null⟩
  · refine h.toOption_congr hwhole fun s => ?_
    rw [setBy_overlay]
    refine setBy_of_inSections hfull fun d d' inner inner' _ _ _ _ hinner x => ?_
    rw [hinner]
    exact ShownSections.setBy_overlay.symm
  · refine h.toOption_congr hother fun s => ?_
    have hlookup (name : String) (hname : name ∈ names) : mid.lookup name = ms'.lookup name :=
      hsame.lookup (map_fst_of_inSections hmid ▸ h.distinct) hother.distinct hname
    rw [← setBy_congr hlookup]
    refine setBy_of_inSections hmid fun d d' inner inner' hd hd' hmembers hmembers' hinner x => ?_
    refine ShownSections.setBy_congr fun name hname => hinner.lookup ?_ ?_ hname
    · exact h.toggles d inner ((lookup_eq_some_iff_mem h.distinct).mp hd) hmembers
    · rw [hlookup "sections" (by decide)] at hd'
      exact hother.toggles d' inner' ((lookup_eq_some_iff_mem hother.distinct).mp hd') hmembers'
  · rw [h.unreadable_iff, h.exists_setBy_iff]
    simp only [not_forall, exists_prop]

/-- Settings with a title and without the uptime, among members of other names. -/
theorem partial_means_default_uptime :
    let o (sections : List (String × Json)) : List (String × Json) :=
      [("x", .null), ("sections", .object sections), ("title", .text "t")]
    let whole : List (String × Json) :=
      [("title", .text "t"), ("inventory_title", .text default.inventoryTitle),
        ("file_prefix", .text default.filePrefix), ("version", .text default.version),
        ("sections", .object [("summary", .bool true), ("uptime", .bool false),
          ("devices", .bool true), ("interfaces", .bool true), ("y", .number 1)]),
        ("collapsed", .array []), ("x", .null)]
    let text := (Json.object (o [("y", .number 1), ("uptime", .bool false)])).compact
    (ofJson? text).toOption = (ofJson? (Json.object whole).compact).toOption ∧
      ofJson? text = .ok { default with
        title := "t", sections := { ShownSections.all with uptime := false } } := by
  intro o whole text
  have htext : IsPartial text _ := isPartial_compact (by decide) (by simp [o])
  have hwhole : IsPartial (Json.object whole).compact _ :=
    isPartial_compact (by decide) (by simp [whole])
  obtain ⟨hsame, -, haccepted, -, -⟩ := partial_means_default htext
  refine ⟨hsame _ (draftMembers (.object (o _))) ?_ hwhole, (haccepted _).mpr ⟨?_, by decide⟩⟩
  · exact .cons (.same _) (.cons (.sections (hasMembers_draft _) (hasMembers_draft _) rfl)
      (.cons (.same _) .nil))
  · exact ⟨⟨_, rfl, Json.text_textScan "t"⟩, rfl, rfl, rfl,
      ⟨_, .inl (hasMembers_draft _), rfl, rfl, rfl, rfl⟩, rfl⟩

end Settings

end AdapterReport
