import AdapterReport.Proofs.Text.Digits
import AdapterReport.Text.Numeral

/-!
# Numerals are read back

`natural?_toDigits`: the digits of a number to any base up to 16 spell it, and the reading ends
behind them. `signed?_toString`: so does a whole number with its sign.
-/

namespace AdapterReport.Text.Numeral

variable {base n : Nat} {run rest : List Char}

/-- The character is a digit to a base. -/
def IsDigit (base : Nat) (c : Char) : Prop := (hexDigit? c).any (· < base) = true

/-- No digit to the base stands at the beginning of the text. -/
def Stops (base : Nat) (s : List Char) : Prop := ∀ c, s.head? = some c → ¬IsDigit base c

theorem digits_append (hrun : ∀ c ∈ run, IsDigit base c) (hrest : Stops base rest) :
    digits base (run ++ rest) = run :=
  takeWhile_run hrun fun c hc => Bool.eq_false_iff.mpr (hrest c hc)

theorem hexDigit?_digitChar : ∀ d < 16, hexDigit? d.digitChar = some d := by
  decide

theorem ofDigits_append_singleton (digits : List Char) (c : Char) :
    ofDigits base (digits ++ [c]) = ofDigits base digits * base + (hexDigit? c).getD 0 := by
  rw [ofDigits, List.foldl_append]
  rfl

section
variable (hlow : 2 ≤ base) (hhigh : base ≤ 16)
include hlow hhigh

theorem mem_toDigits (n : Nat) : ∀ c ∈ Nat.toDigits base n, ∃ d < base, c = d.digitChar := by
  induction n using Nat.strongRecOn with
  | _ n ih =>
    by_cases hlt : n < base
    · rw [Nat.toDigits_of_lt_base hlt]
      exact fun c hc => ⟨n, hlt, List.mem_singleton.mp hc⟩
    · rw [Nat.toDigits_of_base_le hlow (Nat.not_lt.mp hlt)]
      intro c hc
      rcases List.mem_append.mp hc with hc | hc
      · exact ih (n / base) (Nat.div_lt_self (by omega) hlow) c hc
      · exact ⟨n % base, Nat.mod_lt _ (by omega), List.mem_singleton.mp hc⟩

/-- Digits spell their number. -/
theorem ofDigits_toDigits (n : Nat) : ofDigits base (Nat.toDigits base n) = n := by
  induction n using Nat.strongRecOn with
  | _ n ih =>
    by_cases hlt : n < base
    · rw [Nat.toDigits_of_lt_base hlt, ← List.nil_append [n.digitChar],
        ofDigits_append_singleton, hexDigit?_digitChar n (by omega)]
      exact Nat.zero_mul base ▸ Nat.zero_add n
    · have hmod : n % base < base := Nat.mod_lt _ (by omega)
      rw [Nat.toDigits_of_base_le hlow (Nat.not_lt.mp hlt), ofDigits_append_singleton,
        ih (n / base) (Nat.div_lt_self (by omega) hlow), hexDigit?_digitChar _ (by omega)]
      exact Nat.div_add_mod' n base

theorem isDigit_of_mem_toDigits (n : Nat) : ∀ c ∈ Nat.toDigits base n, IsDigit base c := by
  intro c hc
  obtain ⟨d, hd, rfl⟩ := mem_toDigits hlow hhigh n c hc
  simp [IsDigit, hexDigit?_digitChar d (by omega), hd]

/-- **The digits of a number** are read back, up to the first character that is no digit. -/
theorem natural?_toDigits (n : Nat) (hrest : Stops base rest) :
    natural? base (Nat.toDigits base n ++ rest) = some (n, rest) := by
  rw [natural?, digits_append (isDigit_of_mem_toDigits hlow hhigh n) hrest,
    ofDigits_toDigits hlow hhigh, List.drop_left]
  simp [Nat.toDigits_ne_nil]

end

/-- A number without a zero in front of it is to the base 10. -/
theorem anyBase?_toDigits (n : Nat) : anyBase? (Nat.toDigits 10 n) = some (n, []) := by
  have hread : natural? 10 (Nat.toDigits 10 n) = some (n, []) := by
    have hnone : Stops 10 [] := nofun
    simpa using natural?_toDigits (by decide) (by decide) n hnone
  unfold anyBase?
  split
  · rename_i x rest heq
    have hone := length_of_head?_zero n (by rw [heq]; rfl)
    rw [heq] at hone
    simp at hone
  · exact hread

theorem toDigits_eq_cons (n : Nat) :
    ∃ c cs, Nat.toDigits 10 n = c :: cs ∧ isBlank c = false ∧ c ≠ '-' ∧ c ≠ '+' := by
  obtain ⟨c, cs, hcons⟩ := List.exists_cons_of_ne_nil (Nat.toDigits_ne_nil (n := n) (b := 10))
  have hmem : c ∈ Nat.toDigits 10 n := hcons ▸ List.mem_cons_self
  obtain ⟨d, hd, rfl⟩ := mem_toDigits (by decide) (by decide) n c hmem
  have hall : ∀ d < 10, isBlank d.digitChar = false ∧ d.digitChar ≠ '-' ∧ d.digitChar ≠ '+' := by
    decide
  exact ⟨_, cs, hcons, hall d hd⟩

/-- **A whole number** with its sign is read back. -/
theorem signed?_toString (z : Int) :
    signed? anyBase? (toString z).toList = some ⟨z, []⟩ := by
  cases z with
  | ofNat n =>
    obtain ⟨c, cs, hcons, hblank, hminus, hplus⟩ := toDigits_eq_cons n
    have htext : (toString (Int.ofNat n)).toList = c :: cs := by
      rw [← hcons]
      exact String.toList_ofList
    have hsign : sign (c :: cs) = (false, c :: cs) := by
      unfold sign
      split <;> simp_all
    have hread := anyBase?_toDigits n
    rw [hcons] at hread
    rw [htext, signed?, List.dropWhile_cons_of_neg (by simp [hblank]), hsign]
    simp [hread]
  | negSucc n =>
    have htext : (toString (Int.negSucc n)).toList = '-' :: Nat.toDigits 10 (n + 1) := by
      show ("-" ++ String.ofList (Nat.toDigits 10 (n + 1))).toList = _
      rw [String.toList_append]
      exact congrArg ('-' :: ·) String.toList_ofList
    rw [htext, signed?, List.dropWhile_cons_of_neg (by decide)]
    simp [sign, anyBase?_toDigits, Int.negSucc_eq]

end AdapterReport.Text.Numeral
