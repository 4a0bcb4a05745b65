import AdapterReport.Logging
import AdapterReport.Proofs.Text.Words

/-!
# Levels named in directives

Directives for log levels in general are searched for the names of levels, and the most verbose
level wins that occurs anywhere in a word (`LogSettings.level_of_directives`). That a whole word of
the directives is a name is not asked for: the name of a target that has the name of a level in it
counts as that level (`LogSettings.level_of_target`). The level is the most verbose one among the
words exactly if it is one of the words itself, or none is and it is the default.

* `LogLevel.occursIn_name_iff`: what occurs in the directives occurs in one of their words.
* `LogLevel.rank_le_of_find?`: the first level that is found is the most verbose one.
-/

namespace AdapterReport

namespace LogLevel

variable {directives : String} {level : LogLevel}

/-- The levels that directives can name, the most verbose one first. -/
def nameable : List LogLevel :=
  [trace, debug, info, warn, error]

/-- A word of the directives is the name of the level, in letters of either case. -/
def IsWordOf (directives : String) (level : LogLevel) : Prop :=
  ∃ w ∈ Text.words directives.toList, w.map Char.toLower = level.name.toList

/-- The name of the level, in letters of either case, stands in a word of the directives. -/
def StandsIn (directives : String) (level : LogLevel) : Prop :=
  ∃ w ∈ Text.words directives.toList, level.name.toList <:+: w.map Char.toLower

instance (directives : String) (level : LogLevel) : Decidable (IsWordOf directives level) :=
  inferInstanceAs (Decidable (∃ w ∈ Text.words directives.toList, _))

/-- The level is the most verbose one with the property, or the default where no level has it. -/
def MostVerbose (p : LogLevel → Prop) (level : LogLevel) : Prop :=
  (level ∈ nameable ∧ p level ∧ ∀ k ∈ nameable, p k → level.rank ≤ k.rank) ∨
    (level = .warn ∧ ∀ k ∈ nameable, ¬ p k)

instance (p : LogLevel → Prop) [DecidablePred p] (level : LogLevel) :
    Decidable (MostVerbose p level) :=
  inferInstanceAs (Decidable (_ ∨ _))

/-! ## Names in words -/

theorem isAlpha_of_toLower {c : Char} (h : c.toLower.isAlpha = true) : c.isAlpha = true := by
  unfold Char.toLower at h
  split at h
  · rename_i hupper
    have hc : c.isUpper = true := decide_eq_true hupper
    exact Bool.or_eq_true_iff.mpr (.inl hc)
  · exact h

theorem isAlpha_of_mem_name {c : Char} (h : c ∈ level.name.toList) : c.isAlpha = true := by
  have hall : level.name.toList.all Char.isAlpha = true := by cases level <;> decide
  exact List.all_eq_true.mp hall c h

theorem name_ne_nil : level.name.toList ≠ [] := by
  cases level <;> decide

theorem standsIn_of_isWordOf (h : IsWordOf directives level) : StandsIn directives level := by
  obtain ⟨w, hw, hname⟩ := h
  exact ⟨w, hw, hname ▸ List.infix_refl _⟩

/-- What occurs in the directives occurs in one of their words. -/
theorem occursIn_name_iff :
    Text.occursIn level.name.toList (Text.lowerLatin directives).toList = true ↔
      StandsIn directives level := by
  rw [Text.occursIn_iff, Text.lowerLatin, String.toList_ofList, List.infix_map_iff]
  constructor
  · rintro ⟨p, hp, hname⟩
    have hne : p ≠ [] := fun hnil => name_ne_nil (by rw [hname, hnil, List.map_nil])
    have hchars : ∀ c ∈ p, Text.isWordChar c = true := fun c hc => by
      have hlower : c.toLower ∈ level.name.toList := hname ▸ List.mem_map_of_mem hc
      rw [Text.isWordChar, Char.isAlphanum, isAlpha_of_toLower (isAlpha_of_mem_name hlower)]
      rfl
    obtain ⟨w, hw, hpart⟩ := (Text.infix_iff_exists_word hne hchars).mp hp
    exact ⟨w, hw, hname ▸ hpart.map _⟩
  · rintro ⟨w, hw, hpart⟩
    obtain ⟨p, hp, hname⟩ := List.infix_map_iff.mp hpart
    obtain ⟨before, after, hwhole, -⟩ := Text.mem_words_iff.mp hw
    exact ⟨p, hp.trans ⟨before, after, hwhole.symm⟩, hname⟩

/-! ## The level that is found -/

/-- Of levels in the order of their ranks, the first one that is found has the least rank. -/
theorem rank_le_of_find? {levels : List LogLevel} {p : LogLevel → Bool}
    (hsorted : levels.Pairwise fun a b => a.rank ≤ b.rank) (h : levels.find? p = some level) :
    ∀ k ∈ levels, p k = true → level.rank ≤ k.rank := by
  obtain ⟨-, before, after, rfl, hbefore⟩ := List.find?_eq_some_iff_append.mp h
  intro k hk hpk
  rcases List.mem_append.mp hk with hk | hk
  · exact absurd (hbefore k hk) (by rw [hpk]; decide)
  rcases List.mem_cons.mp hk with rfl | hk
  · exact Nat.le_refl _
  · exact List.rel_of_pairwise_cons (List.pairwise_append.mp hsorted).2.1 hk

theorem mostVerbose_ofDirectives (directives : String) :
    MostVerbose (StandsIn directives) ((ofDirectives? directives).getD .warn) := by
  cases h : ofDirectives? directives with
  | none =>
    refine .inr ⟨rfl, fun k hk hstands => ?_⟩
    exact List.find?_eq_none.mp h k hk (occursIn_name_iff.mpr hstands)
  | some level =>
    refine .inl ⟨List.mem_of_find?_eq_some h, ?_, fun k hk hstands => ?_⟩
    · have hoccurs := List.find?_some h
      exact occursIn_name_iff.mp hoccurs
    · exact rank_le_of_find? (by decide) h k hk (occursIn_name_iff.mpr hstands)

/-- What is the most verbose level in words is the most verbose word if it is a word, or if no level
is one and it is the default. -/
theorem mostVerbose_isWordOf_iff (h : MostVerbose (StandsIn directives) level) :
    MostVerbose (IsWordOf directives) level ↔
      IsWordOf directives level ∨ level = .warn ∧ ∀ k ∈ nameable, ¬ IsWordOf directives k := by
  refine ⟨Or.imp_left fun hword => hword.2.1, Or.imp_left fun hword => ?_⟩
  rcases h with ⟨hmem, -, hleast⟩ | ⟨rfl, hnone⟩
  · exact ⟨hmem, hword, fun k hk hkword => hleast k hk (standsIn_of_isWordOf hkword)⟩
  · exact absurd (standsIn_of_isWordOf hword) (hnone _ (by decide))

end LogLevel

namespace LogSettings

open LogLevel

/-- **The level that directives give**, where nothing else gives one: the most verbose one whose
name stands in a word of them, or the default. It is the most verbose word exactly if it is a word,
or no level is and it is the default; so it is wherever names stand in words only as these words. -/
theorem level_of_directives (level : Option String) (directives : String)
    (format : Option String) (chosenFormat : Option LogFormat)
    (h : level.bind LogLevel.ofName? = none) :
    let found := (resolve level (some directives) format none chosenFormat).level
    MostVerbose (StandsIn directives) found ∧
      (MostVerbose (IsWordOf directives) found ↔
        IsWordOf directives found ∨
          found = .warn ∧ ∀ k ∈ nameable, ¬ IsWordOf directives k) ∧
      ((∀ k ∈ nameable, StandsIn directives k → IsWordOf directives k) →
        MostVerbose (IsWordOf directives) found) := by
  intro found
  have hfound : found = (ofDirectives? directives).getD .warn := by
    show ((none : Option LogLevel).or ((level.bind ofName?).or _)).getD .warn = _
    rw [h]
    rfl
  have hstands := mostVerbose_ofDirectives directives
  rw [← hfound] at hstands
  refine ⟨hstands, mostVerbose_isWordOf_iff hstands, fun hwhole => ?_⟩
  rw [mostVerbose_isWordOf_iff hstands]
  rcases hstands with ⟨hmem, hin, -⟩ | ⟨hwarn, hnone⟩
  · exact .inl (hwhole _ hmem hin)
  · exact .inr ⟨hwarn, fun k hk hword => hnone k hk (standsIn_of_isWordOf hword)⟩

theorem level_of_directives_words :
    (some "loud").bind LogLevel.ofName? = none ∧
      MostVerbose (IsWordOf "hyper=Info,sfr_core=DEBUG")
        (resolve (some "loud") (some "hyper=Info,sfr_core=DEBUG") none none none).level := by
  have h : (some "loud").bind LogLevel.ofName? = none := by decide
  obtain ⟨-, hiff, -⟩ := level_of_directives (some "loud") "hyper=Info,sfr_core=DEBUG" none none h
  exact ⟨h, hiff.mpr (by decide)⟩

/-- The name of a target counts as a level that is no word of the directives. -/
theorem level_of_target :
    (resolve none (some "tracer=error") none none none).level = .trace ∧
      MostVerbose (IsWordOf "tracer=error") .error ∧
      ¬ MostVerbose (IsWordOf "tracer=error")
        (resolve none (some "tracer=error") none none none).level := by
  decide

end LogSettings

end AdapterReport
