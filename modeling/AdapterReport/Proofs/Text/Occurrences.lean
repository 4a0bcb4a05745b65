/-!
# How often a text occurs

`occurrences` counts the places of a text at which a pattern begins. Text put together from parts
has no more of them than its parts if what stands between the parts cannot belong to the pattern:

* `occurrences_separated`: a separator that the pattern does not touch at either end.
* `occurrences_append_replicate`: a character behind the text with which the pattern does not end.
* `occurrences_append_of_not_mem`: a text before it without the first character of the pattern.
-/

namespace AdapterReport.Text

/-- At how many places of a text the pattern begins. -/
def occurrences (pattern : List Char) : List Char → Nat
  | [] => 0
  | c :: rest => (if pattern <+: c :: rest then 1 else 0) + occurrences pattern rest

variable {pattern sep text : List Char}

theorem occurrences_cons {c : Char} {rest : List Char} (h : ¬ pattern <+: c :: rest) :
    occurrences pattern (c :: rest) = occurrences pattern rest := by
  rw [occurrences, if_neg h, Nat.zero_add]

/-- What ends before the pattern can begin has no part in it. -/
theorem occurrences_append_of_not_mem {first : Char} {inner : List Char} (h : first ∉ text)
    (rest : List Char) :
    occurrences (first :: inner) (text ++ rest) = occurrences (first :: inner) rest := by
  induction text with
  | nil => rfl
  | cons c text ih =>
    rw [List.mem_cons, not_or] at h
    have hne : ¬ first :: inner <+: c :: (text ++ rest) := fun hbegins =>
      h.1 (List.cons_prefix_cons.mp hbegins).1
    rw [List.cons_append, occurrences_cons hne, ih h.2]

/-! ## Behind a text -/

/-- What begins behind the end of the pattern has no part in it. -/
theorem occurrences_concat {c : Char} (hpattern : pattern ≠ []) (h : pattern.getLast? ≠ some c)
    (text : List Char) : occurrences pattern (text ++ [c]) = occurrences pattern text := by
  have hbegins (s : List Char) : pattern <+: s ++ [c] ↔ pattern <+: s := by
    rw [List.prefix_concat_iff, or_iff_right]
    rintro rfl
    simp at h
  induction text with
  | nil => rw [List.nil_append, occurrences_cons (by simpa [hpattern] using hbegins [])]
  | cons d text ih => simp only [List.cons_append, occurrences, ← hbegins (d :: text), ih]

theorem occurrences_append_replicate {c : Char} (hpattern : pattern ≠ [])
    (h : pattern.getLast? ≠ some c) (text : List Char) (n : Nat) :
    occurrences pattern (text ++ List.replicate n c) = occurrences pattern text := by
  induction n with
  | zero => rw [List.replicate_zero, List.append_nil]
  | succ n ih =>
    rw [List.replicate_succ', ← List.append_assoc, occurrences_concat hpattern h, ih]

/-! ## Between two texts -/

/-- Somewhere the end of the first text and the beginning of the second one agree, as far as both of
them go. -/
def touches : List Char → List Char → Bool
  | [], _ => false
  | c :: rest, text =>
    (c :: rest).isPrefixOf text || text.isPrefixOf (c :: rest) || touches rest text

/-- The pattern has no part in the separator, whatever stands before and behind it. -/
def Separates (sep pattern : List Char) : Prop :=
  touches sep pattern = false ∧ touches pattern sep = false

instance (sep pattern : List Char) : Decidable (Separates sep pattern) :=
  inferInstanceAs (Decidable (_ ∧ _))

theorem touches_cons {c : Char} {rest text : List Char} (h : touches (c :: rest) text = false) :
    (∀ tail, ¬ c :: rest <+: text ++ tail ∧ ¬ text <+: c :: rest ++ tail) ∧
      touches rest text = false := by
  have hno {xs ys : List Char} (h : xs.isPrefixOf ys = false) : ¬ xs <+: ys := by
    rw [← List.isPrefixOf_iff_prefix, h]
    exact Bool.false_ne_true
  rw [touches, Bool.or_eq_false_iff, Bool.or_eq_false_iff] at h
  have hsub := hno h.1.1
  have hsup := hno h.1.2
  refine ⟨fun tail => ⟨fun hbegins => ?_, fun hbegins => ?_⟩, h.2⟩
  · exact (List.prefix_or_prefix_of_prefix hbegins (List.prefix_append _ _)).elim hsub hsup
  · exact (List.prefix_or_prefix_of_prefix hbegins (List.prefix_append _ _)).elim hsup hsub

/-- No end of the first text goes on as the second one does. -/
theorem not_prefix_of_touches {before s : List Char} (h : touches (before ++ s) text = false)
    (hs : s ≠ []) (tail : List Char) : ¬ s <+: text ++ tail := by
  induction before with
  | nil =>
    cases s with
    | nil => exact absurd rfl hs
    | cons c s => exact ((touches_cons h).1 tail).1
  | cons c before ih => exact ih (touches_cons h).2

theorem occurrences_behind (h : touches sep pattern = false) (rest : List Char) :
    occurrences pattern (sep ++ rest) = occurrences pattern rest := by
  induction sep with
  | nil => rfl
  | cons c sep ih =>
    obtain ⟨hbegins, hsep⟩ := touches_cons h
    have hne : ¬ pattern <+: c :: (sep ++ rest) := (hbegins rest).2
    rw [List.cons_append, occurrences_cons hne, ih hsep]

/-- **Around a separator** the pattern occurs only before it or behind it. -/
theorem occurrences_separated (h : Separates sep pattern) (text rest : List Char) :
    occurrences pattern (text ++ (sep ++ rest)) =
      occurrences pattern text + occurrences pattern rest := by
  induction text with
  | nil => rw [List.nil_append, occurrences_behind h.1, occurrences, Nat.zero_add]
  | cons c text ih =>
    have hbegins : pattern <+: c :: text ++ (sep ++ rest) ↔ pattern <+: c :: text := by
      refine ⟨fun ⟨tail, htail⟩ => ?_, List.prefix_append_of_prefix⟩
      rcases List.append_eq_append_iff.mp htail with ⟨inner, hin, -⟩ | ⟨beyond, hbeyond, hrest⟩
      · exact ⟨inner, hin.symm⟩
      · -- what is left of the pattern would stand at the beginning of the separator
        have hnil : beyond = [] := Decidable.byContradiction fun hne =>
          not_prefix_of_touches (hbeyond ▸ h.2) hne rest ⟨tail, hrest.symm⟩
        exact ⟨[], by rw [List.append_nil, hbeyond, hnil, List.append_nil]⟩
    rw [List.cons_append] at hbegins
    simp only [List.cons_append, occurrences, hbegins, ih, Nat.add_assoc]

/-! ## Texts with a separator between them -/

/-- At how many places of the texts the pattern begins. -/
def occurrencesIn (pattern : List Char) : List (List Char) → Nat
  | [] => 0
  | text :: texts => occurrences pattern text + occurrencesIn pattern texts

theorem occurrencesIn_append (pattern : List Char) (xs ys : List (List Char)) :
    occurrencesIn pattern (xs ++ ys) = occurrencesIn pattern xs + occurrencesIn pattern ys := by
  induction xs with
  | nil => rw [List.nil_append, occurrencesIn, Nat.zero_add]
  | cons x xs ih => rw [List.cons_append, occurrencesIn, ih, occurrencesIn, Nat.add_assoc]

theorem occurrences_intercalate (h : Separates sep pattern) (texts : List (List Char)) :
    occurrences pattern (sep.intercalate texts) = occurrencesIn pattern texts := by
  induction texts with
  | nil => rfl
  | cons text texts ih =>
    cases texts with
    | nil => simp [occurrencesIn]
    | cons next texts =>
      rw [List.intercalate_cons_cons, List.append_assoc, occurrences_separated h, ih]
      rfl

theorem occurrences_flatMap (h : Separates sep pattern) (texts : List (List Char)) :
    occurrences pattern (texts.flatMap (· ++ sep)) = occurrencesIn pattern texts := by
  induction texts with
  | nil => rfl
  | cons text texts ih =>
    rw [List.flatMap_cons, List.append_assoc, occurrences_separated h, ih]
    rfl

end AdapterReport.Text
