import AdapterReport.Proofs.Json.Record
import AdapterReport.Settings

/-!
# Settings are read back

`settings_round_trip`: the text of settings is read as these settings if there is nothing wrong with
them, and is refused for just what is wrong if there is. Whatever text is read, the settings that
come of it are usable (`problem?_eq_none_iff`).

Settings that are built step by step keep the file name that they begin with (`filePrefix_build`),
so nothing but a blank title can be wrong with them.
-/

namespace AdapterReport

open Json.Reader (ReadsBack readsBack_bool readsBack_text record_draft store_of)

/-! ## The text of settings -/

theorem ShownSections.readsBack : ReadsBack ShownSections.reader ShownSections.toJson := fun s =>
  record_draft (by decide)
    (.cons (store_of (readsBack_bool s.summary) _)
    (.cons (store_of (readsBack_bool s.uptime) _)
    (.cons (store_of (readsBack_bool s.devices) _)
    (.cons (store_of (readsBack_bool s.interfaces) _) (.nil s)))))

namespace Settings

variable {s : Settings}

theorem readsBack : ReadsBack reader toJson := fun s =>
  record_draft (by decide)
    (.cons (store_of (readsBack_text s.title) _)
    (.cons (store_of (readsBack_text s.inventoryTitle) _)
    (.cons (store_of (readsBack_text s.filePrefix) _)
    (.cons (store_of (readsBack_text s.version) _)
    (.cons (store_of (ShownSections.readsBack s.sections) _)
    (.cons (store_of (readsBack_text.list s.collapsed) _) (.nil s)))))))

/-- The text of settings is read as these settings, unless something is wrong with them. -/
theorem ofJson?_print (s : Settings) :
    ofJson? s.print = match s.problem? with
      | none => .ok s
      | some problem => .error problem := by
  rw [ofJson?, print, readsBack.pretty s]
  dsimp only
  cases s.problem? <;> rfl

/-! ## Usable settings -/

/-- The beginning of a file name is usable. -/
theorem usable_filePrefix_iff :
    (s.filePrefix.isEmpty || s.filePrefix.toList.contains '/') = false ↔
      s.filePrefix ≠ "" ∧ '/' ∉ s.filePrefix.toList := by
  simp

theorem isBlankText_eq_false_iff {text : String} :
    Text.isBlankText text = false ↔ ∃ c ∈ text.toList, Text.isBlank c = false := by
  simp [Text.isBlankText]

theorem problem?_eq_none_iff :
    s.problem? = none ↔ s.filePrefix ≠ "" ∧ '/' ∉ s.filePrefix.toList ∧
      ∃ c ∈ s.title.toList, Text.isBlank c = false := by
  rw [← and_assoc, ← usable_filePrefix_iff, ← isBlankText_eq_false_iff, problem?]
  cases s.filePrefix.isEmpty || s.filePrefix.toList.contains '/' <;>
    cases Text.isBlankText s.title <;> simp

/-- Something wrong with settings is wrong with the file name or with the title. -/
theorem eq_of_problem? {problem : SettingsError} (h : s.problem? = some problem) :
    problem = .badFilePrefix s.filePrefix ∨ problem = .blankTitle := by
  unfold problem? at h
  split at h
  · exact .inl (Option.some.inj h).symm
  split at h
  · exact .inr (Option.some.inj h).symm
  · cases h

/-- Settings that are read from a text are usable, whatever the text is. -/
theorem problem?_of_ofJson? {text : String} (h : ofJson? text = .ok s) : s.problem? = none := by
  unfold ofJson? at h
  split at h
  · cases h
  · split at h
    · cases h
    · cases h
      assumption

/-! ## Settings that are built -/

theorem filePrefix_apply (s : Settings) (step : Step) :
    (step.apply s).filePrefix = s.filePrefix := by
  cases step <;> rfl

theorem filePrefix_foldl (steps : List Step) (s : Settings) :
    (steps.foldl Step.apply s).filePrefix = s.filePrefix := by
  induction steps generalizing s with
  | nil => rfl
  | cons step rest ih => rw [List.foldl_cons, ih, filePrefix_apply]

theorem filePrefix_build (steps : List Step) : (build steps).filePrefix = defaultFilePrefix :=
  filePrefix_foldl steps default

/-- Nothing but a blank title is wrong with settings that are built. -/
theorem problem?_build (steps : List Step) :
    (build steps).problem? =
      if Text.isBlankText (build steps).title then some .blankTitle else none := by
  have hprefix : ¬ (defaultFilePrefix.isEmpty || defaultFilePrefix.toList.contains '/') = true := by
    decide
  rw [problem?, filePrefix_build, if_neg hprefix]

/-- **Settings are read back** from their text, or refused for what is wrong with them, and only
usable settings are read from any text. -/
theorem settings_round_trip :
    (∀ s : Settings, ofJson? s.print = match s.problem? with
      | none => .ok s
      | some problem => .error problem) ∧
    (∀ (s : Settings) (problem : SettingsError), s.problem? = some problem →
      problem = .badFilePrefix s.filePrefix ∨ problem = .blankTitle) ∧
    (∀ steps : List Step, ofJson? (build steps).print =
      if Text.isBlankText (build steps).title then .error .blankTitle else .ok (build steps)) ∧
    (∀ s : Settings, s.problem? = none ↔ s.filePrefix ≠ "" ∧ '/' ∉ s.filePrefix.toList ∧
      ∃ c ∈ s.title.toList, Text.isBlank c = false) ∧
    ∀ (text : String) (s : Settings), ofJson? text = .ok s → s.problem? = none := by
  refine ⟨ofJson?_print, fun s problem => eq_of_problem?, fun steps => ?_,
    fun s => problem?_eq_none_iff, fun text s => problem?_of_ofJson?⟩
  rw [ofJson?_print, problem?_build]
  cases Text.isBlankText (build steps).title <;> rfl

theorem eq_ok_of_toOption {ε α : Type} {x : Except ε α} {a : α} (h : x.toOption = some a) :
    x = .ok a := by
  cases x with
  | error e => cases h
  | ok b => rw [Option.some.inj h]

/-- A text that sets nothing but a title, whose first character is a blank, is read; settings whose
whole title is this blank are refused for it. -/
theorem settings_round_trip_partial :
    let text := "\x7b\"title\": \"\\u00a0x\"\x7d"
    let blank := default.withTitle "\xa0"
    (ofJson? text).toOption = some (default.withTitle "\xa0x") ∧
      (default.withTitle "\xa0x").problem? = none ∧
      blank.problem? = some .blankTitle ∧ ofJson? blank.print = .error .blankTitle ∧
      (SettingsError.blankTitle = .badFilePrefix blank.filePrefix ∨
        SettingsError.blankTitle = .blankTitle) := by
  intro text blank
  have hread : (ofJson? text).toOption = some (default.withTitle "\xa0x") := by decide +kernel
  have hblank : blank.problem? = some .blankTitle := by decide +kernel
  obtain ⟨hprint, hproblem, -, -, husable⟩ := settings_round_trip
  have hrefused := hprint blank
  rw [hblank] at hrefused
  exact ⟨hread, husable text _ (eq_ok_of_toOption hread), hblank, hrefused, hproblem blank _ hblank⟩

end Settings

end AdapterReport
