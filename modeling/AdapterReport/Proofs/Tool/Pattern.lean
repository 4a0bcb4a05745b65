import AdapterReport.Tool.Shell.Pattern
import Mathlib.Data.List.TakeWhile

/-!
# What a pattern fits

`Pattern.Fits` says what a pattern fits, with one rule for each kind of byte.

* `length_brackets?`: brackets end within the pattern, so the bound on the bytes is enough.
* `fitsWithin_literal`, `fitsWithin_star`, …: what one byte at the beginning asks of a text.
* `fits_iff`: the search finds exactly what the rules say.
* `fits_literal_iff`: quoted text fits only itself.
* `startLength?_eq_some_iff`, `endStart?_eq_some_iff`: what is cut off at the two ends of a text.
-/

namespace AdapterReport.Shell.Pattern

/-- What a pattern fits. -/
inductive Fits : Pattern → List Char → Prop
  | nil : Fits [] []
  | literal {c : Char} {p : Pattern} {s : List Char} (h : Fits p s) : Fits (⟨c, true⟩ :: p) (c :: s)
  /-- A question mark fits one byte. -/
  | one (c : Char) {p : Pattern} {s : List Char} (h : Fits p s) : Fits (⟨'?', false⟩ :: p) (c :: s)
  /-- A star fits any bytes. -/
  | star (skipped : List Char) {p : Pattern} {s : List Char} (h : Fits p s) :
      Fits (⟨'*', false⟩ :: p) (skipped ++ s)
  /-- Brackets fit one of their bytes. -/
  | brackets {c : Char} {p behind : Pattern} {s : List Char}
      (hbrackets : brackets? c p = some (true, behind)) (h : Fits behind s) :
      Fits (⟨'[', false⟩ :: p) (c :: s)
  /-- A bracket without an end fits itself. -/
  | bracket {p : Pattern} {s : List Char} (hbrackets : brackets? '[' p = none) (h : Fits p s) :
      Fits (⟨'[', false⟩ :: p) ('[' :: s)
  /-- What stands behind a backslash fits itself. -/
  | escaped (next : PatternChar) {p : Pattern} {s : List Char} (h : Fits p s) :
      Fits (⟨'\\', false⟩ :: next :: p) (next.char :: s)
  | backslash : Fits [⟨'\\', false⟩] ['\\']
  | plain {c : Char} {p : Pattern} {s : List Char} (hc : c ∉ "?*[\\".toList) (h : Fits p s) :
      Fits (⟨c, false⟩ :: p) (c :: s)

/-! ## Brackets -/

theorem length_class? {p rest : Pattern} {k : CharacterClass} (h : class? p = some (k, rest)) :
    rest.length ≤ p.length := by
  unfold class? at h
  obtain ⟨⟨name, k'⟩, -, hk⟩ := List.exists_of_findSome?_eq_some h
  obtain ⟨-, hk⟩ := Option.ite_none_right_eq_some.mp hk
  cases hk
  exact List.length_drop ▸ Nat.sub_le _ _

theorem length_member (first : PatternChar) (rest : Pattern) :
    (member first rest).2.length ≤ rest.length := by
  unfold member
  split
  · exact Nat.le_succ _
  · exact Nat.le_refl _

theorem length_behindMember {more : Bool → Pattern → Option (Bool × Pattern)} {found fits : Bool}
    {p rest : Pattern}
    (hmore : ∀ found p, more found p = some (fits, rest) → rest.length < p.length)
    (h : behindMember more found p = some (fits, rest)) : rest.length < p.length := by
  cases p with
  | nil => cases h
  | cons next behind =>
    rw [behindMember] at h
    split at h
    · cases h
      exact Nat.lt_succ_self _
    · exact hmore _ _ h

/-- Brackets end within the pattern. -/
theorem length_inBrackets {c : Char} {n : Nat} {found fits : Bool} {p rest : Pattern}
    (h : inBrackets c n found p = some (fits, rest)) : rest.length < p.length := by
  induction n generalizing found p with
  | zero => simp [inBrackets] at h
  | succ n ih =>
    cases p with
    | nil => simp [inBrackets] at h
    | cons first tail =>
      have hgoOn {found : Bool} {behind : Pattern}
          (h : behindMember (inBrackets c n) found behind = some (fits, rest))
          (hle : behind.length ≤ tail.length) : rest.length < (first :: tail).length :=
        Nat.lt_succ_of_lt (Nat.lt_of_lt_of_le (length_behindMember (fun _ _ => ih) h) hle)
      have hmember := length_member first tail
      simp only [inBrackets] at h
      split at h
      · rename_i hclass
        exact hgoOn h (length_class? (Option.ite_none_right_eq_some.mp hclass).2)
      · split at h
        · rename_i last behind heq
          rw [heq] at hmember
          split at h
          · exact hgoOn h (heq ▸ hmember)
          · refine hgoOn h (Nat.le_trans (length_member last behind) ?_)
            simp only [List.length_cons] at hmember
            omega
        · exact hgoOn h hmember

theorem length_brackets? {c : Char} {fits : Bool} {p rest : Pattern}
    (h : brackets? c p = some (fits, rest)) : rest.length < p.length := by
  unfold brackets? at h
  split at h
  · obtain ⟨⟨found, behind⟩, hfound, heq⟩ := Option.map_eq_some_iff.mp h
    cases heq
    exact Nat.lt_succ_of_lt (length_inBrackets hfound)
  · exact length_inBrackets h

/-! ## Bytes -/

theorem exactly_iff {more : List Char → Bool} {c : Char} {s : List Char} :
    exactly more c s = true ↔ ∃ t, s = c :: t ∧ more t = true := by
  cases s with
  | nil => exact ⟨nofun, nofun⟩
  | cons d s =>
    rw [exactly, Bool.and_eq_true, beq_iff_eq]
    constructor
    · rintro ⟨rfl, hmore⟩
      exact ⟨s, rfl, hmore⟩
    · rintro ⟨t, heq, hmore⟩
      cases heq
      exact ⟨rfl, hmore⟩

section
variable {n : Nat} {c : Char} {p : Pattern} {s : List Char}

theorem fitsWithin_literal : fitsWithin (n + 1) (⟨c, true⟩ :: p) s = true ↔
    ∃ t, s = c :: t ∧ fitsWithin n p t = true :=
  exactly_iff

theorem fitsWithin_one : fitsWithin (n + 1) (⟨'?', false⟩ :: p) s = true ↔
    ∃ d t, s = d :: t ∧ fitsWithin n p t = true := by
  cases s with
  | nil => exact ⟨nofun, nofun⟩
  | cons d s =>
    constructor
    · exact fun h => ⟨d, s, rfl, h⟩
    · rintro ⟨_, t, heq, h⟩
      cases heq
      exact h

/-- The places behind which the rest may fit are all ways to cut the text. -/
theorem fitsWithin_star : fitsWithin (n + 1) (⟨'*', false⟩ :: p) s = true ↔
    ∃ skipped t, s = skipped ++ t ∧ fitsWithin n p t = true := by
  show ((List.range (s.length + 1)).any fun k => fitsWithin n p (s.drop k)) = true ↔ _
  rw [List.any_eq_true]
  constructor
  · rintro ⟨k, -, hk⟩
    exact ⟨s.take k, s.drop k, (List.take_append_drop k s).symm, hk⟩
  · rintro ⟨skipped, t, rfl, ht⟩
    refine ⟨skipped.length, ?_, ?_⟩
    · rw [List.mem_range, List.length_append]
      omega
    · rwa [List.drop_left]

theorem fitsWithin_brackets : fitsWithin (n + 1) (⟨'[', false⟩ :: p) s = true ↔
    (∃ d t behind, s = d :: t ∧ brackets? d p = some (true, behind) ∧
      fitsWithin n behind t = true) ∨
    ∃ t, s = '[' :: t ∧ brackets? '[' p = none ∧ fitsWithin n p t = true := by
  cases s with
  | nil => exact ⟨nofun, nofun⟩
  | cons d s =>
    have hstep : fitsWithin (n + 1) (⟨'[', false⟩ :: p) (d :: s) =
        (brackets? d p).elim (d == '[' && fitsWithin n p s) fun found =>
          found.1 && fitsWithin n found.2 s := by
      refine (fitsWithin.eq_def (n + 1) _ _).trans ?_
      simp only [Bool.false_eq_true, if_false]
      cases brackets? d p <;> rfl
    rw [hstep]
    cases hb : brackets? d p with
    | none =>
      rw [Option.elim_none, Bool.and_eq_true, beq_iff_eq]
      constructor
      · rintro ⟨rfl, h⟩
        exact .inr ⟨s, rfl, hb, h⟩
      · rintro (⟨_, t, behind, heq, hsome, h⟩ | ⟨t, heq, -, h⟩) <;> cases heq
        · cases hb.symm.trans hsome
        · exact ⟨rfl, h⟩
    | some found =>
      obtain ⟨fits, behind⟩ := found
      rw [Option.elim_some, Bool.and_eq_true]
      constructor
      · rintro ⟨rfl, h⟩
        exact .inl ⟨d, s, behind, rfl, hb, h⟩
      · rintro (⟨_, t, behind, heq, hsome, h⟩ | ⟨t, heq, hnone, h⟩) <;> cases heq
        · cases hb.symm.trans hsome
          exact ⟨rfl, h⟩
        · cases hb.symm.trans hnone

theorem fitsWithin_escaped {next : PatternChar} :
    fitsWithin (n + 1) (⟨'\\', false⟩ :: next :: p) s = true ↔
      ∃ t, s = next.char :: t ∧ fitsWithin n p t = true :=
  exactly_iff

theorem fitsWithin_nil : fitsWithin n [] s = true ↔ s = [] := by
  cases n <;> simp [fitsWithin]

theorem fitsWithin_backslash :
    fitsWithin (n + 1) [⟨'\\', false⟩] s = true ↔ s = ['\\'] := by
  show exactly (fitsWithin n []) '\\' s = true ↔ _
  simp [exactly_iff, fitsWithin_nil]

theorem fitsWithin_plain (hc : c ∉ "?*[\\".toList) :
    fitsWithin (n + 1) (⟨c, false⟩ :: p) s = true ↔
      ∃ t, s = c :: t ∧ fitsWithin n p t = true := by
  have hne : c ≠ '?' ∧ c ≠ '*' ∧ c ≠ '[' ∧ c ≠ '\\' := by simpa using hc
  obtain ⟨hone, hstar, hbracket, hbackslash⟩ := hne
  have hstep : fitsWithin (n + 1) (⟨c, false⟩ :: p) s = exactly (fitsWithin n p) c s := by
    simp only [fitsWithin, Bool.false_eq_true, if_false]
  rw [hstep, exactly_iff]

end

/-! ## Patterns -/

/-- A pattern is only found to fit what its bytes fit. -/
theorem fits_of_fitsWithin {n : Nat} {p : Pattern} {s : List Char} (hn : p.length ≤ n)
    (h : fitsWithin n p s = true) : Fits p s := by
  induction n generalizing p s with
  | zero =>
    cases List.length_eq_zero_iff.mp (Nat.le_zero.mp hn)
    cases fitsWithin_nil.mp h
    exact .nil
  | succ n ih =>
    cases p with
    | nil =>
      cases fitsWithin_nil.mp h
      exact .nil
    | cons first p =>
      have hp : p.length ≤ n := Nat.le_of_succ_le_succ hn
      obtain ⟨c, isLiteral⟩ := first
      cases isLiteral with
      | true =>
        obtain ⟨t, rfl, ht⟩ := fitsWithin_literal.mp h
        exact .literal (ih hp ht)
      | false =>
        by_cases hc : c ∈ "?*[\\".toList
        · have hcases : c = '?' ∨ c = '*' ∨ c = '[' ∨ c = '\\' := by simpa using hc
          rcases hcases with rfl | rfl | rfl | rfl
          · obtain ⟨d, t, rfl, ht⟩ := fitsWithin_one.mp h
            exact .one d (ih hp ht)
          · obtain ⟨skipped, t, rfl, ht⟩ := fitsWithin_star.mp h
            exact .star skipped (ih hp ht)
          · rcases fitsWithin_brackets.mp h with ⟨d, t, behind, rfl, hb, ht⟩ | ⟨t, rfl, hb, ht⟩
            · exact .brackets hb (ih (Nat.le_trans (Nat.le_of_lt (length_brackets? hb)) hp) ht)
            · exact .bracket hb (ih hp ht)
          · cases p with
            | nil =>
              cases fitsWithin_backslash.mp h
              exact .backslash
            | cons next p =>
              obtain ⟨t, rfl, ht⟩ := fitsWithin_escaped.mp h
              exact .escaped next (ih (Nat.le_of_succ_le hp) ht)
        · obtain ⟨t, rfl, ht⟩ := (fitsWithin_plain hc).mp h
          exact .plain hc (ih hp ht)

/-- What the bytes of a pattern fit is found, if the number is large enough. -/
theorem fitsWithin_of_fits {p : Pattern} {s : List Char} (h : Fits p s) {n : Nat}
    (hn : p.length ≤ n) : fitsWithin n p s = true := by
  induction n generalizing p s with
  | zero =>
    cases List.length_eq_zero_iff.mp (Nat.le_zero.mp hn)
    cases h
    rfl
  | succ n ih =>
    cases h with
    | nil => rfl
    | literal h => exact fitsWithin_literal.mpr ⟨_, rfl, ih h (Nat.le_of_succ_le_succ hn)⟩
    | one c h => exact fitsWithin_one.mpr ⟨c, _, rfl, ih h (Nat.le_of_succ_le_succ hn)⟩
    | star skipped h =>
      exact fitsWithin_star.mpr ⟨skipped, _, rfl, ih h (Nat.le_of_succ_le_succ hn)⟩
    | brackets hb h =>
      have hbehind := Nat.le_trans (Nat.le_of_lt (length_brackets? hb)) (Nat.le_of_succ_le_succ hn)
      exact fitsWithin_brackets.mpr (.inl ⟨_, _, _, rfl, hb, ih h hbehind⟩)
    | bracket hb h =>
      exact fitsWithin_brackets.mpr (.inr ⟨_, rfl, hb, ih h (Nat.le_of_succ_le_succ hn)⟩)
    | escaped next h =>
      have hbehind := Nat.le_of_succ_le (Nat.le_of_succ_le_succ hn)
      exact fitsWithin_escaped.mpr ⟨_, rfl, ih h hbehind⟩
    | backslash => exact fitsWithin_backslash.mpr rfl
    | plain hc h => exact (fitsWithin_plain hc).mpr ⟨_, rfl, ih h (Nat.le_of_succ_le_succ hn)⟩

/-- **A pattern fits** what its bytes fit one after the other, and nothing else. -/
theorem fits_iff {p : Pattern} {s : List Char} : p.fits s = true ↔ Fits p s :=
  ⟨fits_of_fitsWithin (Nat.le_refl _), fun h => fitsWithin_of_fits h (Nat.le_refl _)⟩

/-! ## Quoted text -/

theorem fits_literal_append {text : List Char} {p : Pattern} {s : List Char} :
    Fits (literal text ++ p) s ↔ ∃ t, s = text ++ t ∧ Fits p t := by
  induction text generalizing s with
  | nil => exact ⟨fun h => ⟨s, rfl, h⟩, fun ⟨t, heq, h⟩ => heq ▸ h⟩
  | cons c text ih =>
    constructor
    · intro h
      cases h with
      | literal h =>
        obtain ⟨t, rfl, ht⟩ := ih.mp h
        exact ⟨t, rfl, ht⟩
    · rintro ⟨t, rfl, ht⟩
      exact .literal (ih.mpr ⟨t, rfl, ht⟩)

/-- **Quoted text** fits only itself, whatever bytes it has. -/
theorem fits_literal_iff {text s : List Char} : (literal text).fits s = true ↔ s = text := by
  rw [fits_iff, ← List.append_nil (literal text), fits_literal_append]
  constructor
  · rintro ⟨t, rfl, ht⟩
    cases ht
    exact List.append_nil text
  · rintro rfl
    exact ⟨[], (List.append_nil s).symm, .nil⟩

/-- Quoted text and a star fit what begins with the text. -/
theorem fits_literal_star_iff {text s : List Char} :
    fits (literal text ++ [⟨'*', false⟩]) s = true ↔ text <+: s := by
  rw [fits_iff, fits_literal_append]
  constructor
  · rintro ⟨t, rfl, -⟩
    exact List.prefix_append text t
  · rintro ⟨t, rfl⟩
    exact ⟨t, rfl, List.append_nil t ▸ .star t .nil⟩

/-- A star and quoted text fit what ends with the text. -/
theorem fits_star_literal_iff {text s : List Char} :
    fits (⟨'*', false⟩ :: literal text) s = true ↔ text <:+ s := by
  have hliteral {t : List Char} : Fits (literal text) t ↔ t = text := by
    rw [← fits_iff, fits_literal_iff]
  rw [fits_iff]
  constructor
  · intro h
    cases h with
    | star skipped h => exact ⟨skipped, hliteral.mp h ▸ rfl⟩
    | plain hc => exact absurd (by decide) hc
  · rintro ⟨skipped, rfl⟩
    exact .star skipped (hliteral.mpr rfl)

/-! ## Cutting off -/

/-- In a list with an order, what is found first is ahead of all that could be found. -/
theorem find?_eq_some_iff_ahead {α : Type} {R : α → α → Prop} {l : List α} {q : α → Bool} {a : α}
    (hasymm : ∀ a b, R a b → ¬ R b a) (hl : l.Pairwise R) :
    l.find? q = some a ↔ a ∈ l ∧ q a = true ∧ ∀ b ∈ l, q b = true → a = b ∨ R a b := by
  induction l with
  | nil => exact ⟨nofun, nofun⟩
  | cons x rest ih =>
    rw [List.pairwise_cons] at hl
    by_cases hx : q x = true
    · rw [List.find?_cons_of_pos hx, Option.some.injEq]
      constructor
      · rintro rfl
        exact ⟨List.mem_cons_self, hx, fun b hb _ => (List.mem_cons.mp hb).imp Eq.symm (hl.1 b)⟩
      · rintro ⟨ha, -, hahead⟩
        rcases List.mem_cons.mp ha with rfl | ha
        · rfl
        · refine (hahead x List.mem_cons_self hx).elim Eq.symm fun h => ?_
          exact absurd (hl.1 a ha) (hasymm a x h)
    · rw [List.find?_cons_of_neg hx, ih hl.2]
      constructor
      · rintro ⟨ha, hqa, hahead⟩
        refine ⟨List.mem_cons_of_mem x ha, hqa, fun b hb hqb => ?_⟩
        rcases List.mem_cons.mp hb with rfl | hb
        · exact absurd hqb hx
        · exact hahead b hb hqb
      · rintro ⟨ha, hqa, hahead⟩
        rcases List.mem_cons.mp ha with rfl | ha
        · exact absurd hqa hx
        · exact ⟨ha, hqa, fun b hb => hahead b (List.mem_cons_of_mem x hb)⟩

theorem find?_range_eq_some_iff {n k : Nat} {q : Nat → Bool} :
    (List.range (n + 1)).find? q = some k ↔
      k ≤ n ∧ q k = true ∧ ∀ j ≤ n, q j = true → k ≤ j := by
  rw [find?_eq_some_iff_ahead (fun _ _ => Nat.lt_asymm) List.pairwise_lt_range]
  simp only [List.mem_range, Nat.lt_succ_iff, Nat.le_iff_lt_or_eq, or_comm]

theorem find?_reverse_range_eq_some_iff {n k : Nat} {q : Nat → Bool} :
    (List.range (n + 1)).reverse.find? q = some k ↔
      k ≤ n ∧ q k = true ∧ ∀ j ≤ n, q j = true → j ≤ k := by
  rw [find?_eq_some_iff_ahead (R := fun a b => b < a) (fun _ _ => Nat.lt_asymm)
    (List.pairwise_reverse.mpr List.pairwise_lt_range)]
  simp only [List.mem_reverse, List.mem_range, Nat.lt_succ_iff, Nat.le_iff_lt_or_eq, or_comm,
    eq_comm]

theorem upToZero_of_not_mem {s : List Char} (h : '\x00' ∉ s) : upToZero s = s := by
  rw [upToZero, List.takeWhile_eq_self_iff]
  intro c hc
  rw [bne_iff_ne]
  rintro rfl
  exact h hc

/-- **The shortest and the longest beginning** of a text without a zero byte that a pattern fits. -/
theorem startLength?_eq_some_iff {p : Pattern} {s : List Char} (hs : '\x00' ∉ s) {longest : Bool}
    {k : Nat} :
    startLength? p longest s = some k ↔ k ≤ s.length ∧ Fits p (s.take k) ∧
      ∀ j ≤ s.length, Fits p (s.take j) → if longest then j ≤ k else k ≤ j := by
  have htake (k : Nat) : upToZero (s.take k) = s.take k :=
    upToZero_of_not_mem fun hmem => hs (List.mem_of_mem_take hmem)
  cases longest with
  | true =>
    simp only [startLength?, if_true, htake, find?_reverse_range_eq_some_iff, fits_iff]
  | false =>
    simp only [startLength?, Bool.false_eq_true, if_false, upToZero_of_not_mem hs,
      find?_range_eq_some_iff, fits_iff]

/-- **The shortest and the longest end** of a text without a zero byte that a pattern fits. -/
theorem endStart?_eq_some_iff {p : Pattern} {s : List Char} (hs : '\x00' ∉ s) {longest : Bool}
    {k : Nat} :
    endStart? p longest s = some k ↔ k ≤ s.length ∧ Fits p (s.drop k) ∧
      ∀ j ≤ s.length, Fits p (s.drop j) → if longest then k ≤ j else j ≤ k := by
  have hdrop (k : Nat) : upToZero (s.drop k) = s.drop k :=
    upToZero_of_not_mem fun hmem => hs (List.mem_of_mem_drop hmem)
  cases longest with
  | true =>
    simp only [endStart?, if_true, hdrop, upToZero_of_not_mem hs, find?_range_eq_some_iff, fits_iff]
  | false =>
    simp only [endStart?, Bool.false_eq_true, if_false, hdrop, find?_reverse_range_eq_some_iff,
      fits_iff]

end AdapterReport.Shell.Pattern
