import AdapterReport.Text.Lines

/-!
# The words of a text

A word is a maximal run of letters and digits of ASCII and underscores (`mem_words_iff`). A text
that has such characters only occurs in another text exactly if it occurs in one of its words
(`infix_iff_exists_word`).

`runs_induction`: a text is a run without breaks, or such a run, a break and a text.
-/

namespace AdapterReport.Text

/-- A letter or a digit of ASCII, or an underscore. -/
def isWordChar (c : Char) : Bool :=
  c.isAlphanum || c == '_'

/-- The words of a text, in their order. -/
def words (s : List Char) : List (List Char) :=
  (s.splitOnP fun c => !isWordChar c).filter (!·.isEmpty)

variable {p s w run : List Char} {c : Char}

/-! ## Words at a break -/

theorem words_at_break (hc : isWordChar c = false) (x y : List Char) :
    words (x ++ c :: y) = words x ++ words y := by
  rw [words, List.splitOnP_append_cons x y (by rw [hc]; rfl), List.filter_append]
  rfl

theorem words_run (hne : run ≠ []) (h : ∀ c ∈ run, isWordChar c = true) : words run = [run] := by
  rw [words, List.splitOnP_eq_singleton fun c hc => by rw [h c hc]; rfl]
  simp [hne]

theorem words_nil : words [] = [] := rfl

theorem runs_induction {motive : List Char → Prop}
    (last : ∀ run, (∀ c ∈ run, isWordChar c = true) → motive run)
    (step : ∀ run c s, (∀ c ∈ run, isWordChar c = true) → isWordChar c = false → motive s →
      motive (run ++ c :: s)) (s : List Char) : motive s := by
  -- the induction is on what follows the run under way
  have hrun : ∀ run, (∀ c ∈ run, isWordChar c = true) → motive (run ++ s) := by
    induction s with
    | nil =>
      intro run h
      rw [List.append_nil]
      exact last run h
    | cons c s ih =>
      intro run h
      cases hc : isWordChar c with
      | false => exact step run c s h hc (ih [] nofun)
      | true =>
        rw [List.append_cons]
        refine ih (run ++ [c]) fun d hd => ?_
        rcases List.mem_append.mp hd with hd | hd
        · exact h d hd
        · rwa [List.mem_singleton.mp hd]
  exact hrun [] nofun

/-! ## Words as runs -/

/-- A run of word characters that goes on neither into the text before it nor into the one behind
it. -/
structure IsMaximalRun (before w after : List Char) : Prop where
  ne_nil : w ≠ []
  chars : ∀ c ∈ w, isWordChar c = true
  starts : ∀ c, before.getLast? = some c → isWordChar c = false
  ends : ∀ c, after.head? = some c → isWordChar c = false

theorem words_around {before after : List Char} (h : IsMaximalRun before w after) :
    words (before ++ w ++ after) = words before ++ [w] ++ words after := by
  have hafter : words (w ++ after) = [w] ++ words after := by
    cases after with
    | nil => rw [List.append_nil, words_run h.ne_nil h.chars]; rfl
    | cons c after =>
      have hc := h.ends c rfl
      have hcons : words (c :: after) = words after := words_at_break hc [] after
      rw [words_at_break hc, words_run h.ne_nil h.chars, hcons]
  rcases List.eq_nil_or_concat before with rfl | ⟨front, c, hbefore⟩
  · rw [List.nil_append, hafter]
    rfl
  · rw [List.concat_eq_append] at hbefore
    subst hbefore
    have hc := h.starts c List.getLast?_concat
    have hfront : words (front ++ [c]) = words front := by
      rw [words_at_break hc, words_nil, List.append_nil]
    rw [List.append_assoc, List.append_assoc, List.singleton_append, words_at_break hc, hafter,
      hfront, List.append_assoc]

/-- **The words of a text are its maximal runs.** -/
theorem mem_words_iff :
    w ∈ words s ↔ ∃ before after, s = before ++ w ++ after ∧ IsMaximalRun before w after := by
  constructor
  · intro h
    induction s using runs_induction with
    | last run hrun =>
      by_cases hne : run = []
      · rw [hne] at h
        cases h
      · rw [words_run hne hrun, List.mem_singleton] at h
        subst h
        exact ⟨[], [], by simp, hne, hrun, nofun, nofun⟩
    | step run c s hrun hc ih =>
      rw [words_at_break hc, List.mem_append] at h
      rcases h with h | h
      · by_cases hne : run = []
        · rw [hne] at h
          cases h
        · rw [words_run hne hrun, List.mem_singleton] at h
          subst h
          refine ⟨[], c :: s, by simp, hne, hrun, nofun, fun d hd => ?_⟩
          cases hd
          exact hc
      · obtain ⟨before, after, rfl, hmax⟩ := ih h
        refine ⟨run ++ c :: before, after, by simp, hmax.ne_nil, hmax.chars, fun d hd => ?_,
          hmax.ends⟩
        rw [List.getLast?_append, List.getLast?_cons] at hd
        cases hlast : before.getLast? with
        | none =>
          rw [hlast] at hd
          cases hd
          exact hc
        | some e =>
          rw [hlast] at hd
          cases hd
          exact hmax.starts _ hlast
  · rintro ⟨before, after, rfl, hmax⟩
    rw [words_around hmax]
    simp

/-! ## Parts of words -/

/-- What does not have the break is on one side of it. -/
theorem infix_append_cons (h : p <:+: w ++ c :: s) (hc : c ∉ p) : p <:+: w ∨ p <:+: s := by
  obtain ⟨a, b, hab⟩ := h
  rcases List.append_eq_append_iff.mp hab with ⟨inner, hw, -⟩ | ⟨beyond, hpart, hrest⟩
  · exact .inl ⟨a, inner, hw.symm⟩
  rcases List.append_eq_append_iff.mp hpart with ⟨inner, hw, hp⟩ | ⟨front, ha, hbeyond⟩
  · cases beyond with
    | nil => exact .inl ⟨a, [], by rw [List.append_nil, hw, hp, List.append_nil]⟩
    | cons d beyond =>
      cases hrest
      exact absurd (hp ▸ List.mem_append_right inner List.mem_cons_self) hc
  · cases front with
    | nil =>
      cases p with
      | nil => exact .inl List.nil_infix
      | cons d p =>
        rw [hbeyond] at hrest
        cases hrest
        exact absurd List.mem_cons_self hc
    | cons d front =>
      rw [hbeyond] at hrest
      cases hrest
      exact .inr ⟨front, b, rfl⟩

/-- **Word characters that stand together are in one word.** -/
theorem infix_iff_exists_word (hne : p ≠ []) (hp : ∀ c ∈ p, isWordChar c = true) :
    p <:+: s ↔ ∃ w ∈ words s, p <:+: w := by
  constructor
  · intro h
    induction s using runs_induction with
    | last run hrun =>
      have hrun_ne : run ≠ [] := fun heq => hne (List.infix_nil.mp (heq ▸ h))
      exact ⟨run, by rw [words_run hrun_ne hrun]; exact List.mem_singleton_self run, h⟩
    | step run c s hrun hc ih =>
      have hnot : c ∉ p := fun hmem => by
        rw [hp c hmem] at hc
        cases hc
      rw [words_at_break hc]
      rcases infix_append_cons h hnot with h | h
      · have hrun_ne : run ≠ [] := fun heq => hne (List.infix_nil.mp (heq ▸ h))
        refine ⟨run, List.mem_append_left _ ?_, h⟩
        rw [words_run hrun_ne hrun]
        exact List.mem_singleton_self run
      · obtain ⟨w, hw, hpart⟩ := ih h
        exact ⟨w, List.mem_append_right _ hw, hpart⟩
  · rintro ⟨w, hw, hpart⟩
    obtain ⟨before, after, rfl, -⟩ := mem_words_iff.mp hw
    exact hpart.trans ⟨before, after, rfl⟩

theorem occursIn_iff : occursIn p s = true ↔ p <:+: s := by
  induction s with
  | nil => simp [occursIn]
  | cons c s ih => rw [occursIn, Bool.or_eq_true, ih, List.isPrefixOf_iff_prefix,
      List.infix_cons_iff]

end AdapterReport.Text
