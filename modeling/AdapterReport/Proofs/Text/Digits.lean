import AdapterReport.Proofs.Text.Lines
import AdapterReport.Text.Digits

/-!
# Numbers in decimal digits

What `decimalPadded` writes are digits only (`isDigit_of_mem_decimalPadded`), and without padding
exactly those of the number (`toList_decimalPadded_one`). `natOfDigits` reads digits to the base 10
(`natOfDigits_eq`), so it gets the number back (`natOfDigits_toDigits`).

Numbers of the same width are in the order of their texts (`ahead_decimalPadded`), whatever follows
them (`Ahead`), and so are lists of numbers with a separator (`ahead_intercalate`): the first
numbers that differ decide.
-/

namespace AdapterReport.Text

theorem isDigit_of_mem_decimalPadded {width n : Nat} {c : Char}
    (h : c ∈ (decimalPadded width n).toList) : c.isDigit = true := by
  rw [decimalPadded, String.toList_ofList] at h
  rcases List.mem_append.mp h with hzero | hdigit
  · rw [List.eq_of_mem_replicate hzero]
    decide
  · exact Nat.isDigit_of_mem_toDigits (by decide) (by decide) hdigit

theorem toList_decimalPadded_one (n : Nat) :
    (decimalPadded 1 n).toList = Nat.toDigits 10 n := by
  have hpad : 1 - (Nat.toDigits 10 n).length = 0 :=
    Nat.sub_eq_zero_of_le Nat.length_toDigits_pos
  rw [decimalPadded, String.toList_ofList, hpad]
  rfl

theorem natOfDigits_eq (digits : List Char) :
    natOfDigits digits = Nat.ofDigitChars 10 digits 0 := by
  rw [Nat.ofDigitChars_eq_foldl]
  simp only [natOfDigits, digitValue, Nat.mul_comm]

theorem natOfDigits_toDigits (n : Nat) : natOfDigits (Nat.toDigits 10 n) = n := by
  rw [natOfDigits_eq, Nat.ofDigitChars_toDigits (by decide) (by decide)]

theorem natOfDigits_decimalPadded_one (n : Nat) :
    natOfDigits (decimalPadded 1 n).toList = n := by
  rw [toList_decimalPadded_one, natOfDigits_toDigits]

/-- Digits begin with a zero only where there is no other digit. -/
theorem length_of_head?_zero (n : Nat) (h : (Nat.toDigits 10 n).head? = some '0') :
    (Nat.toDigits 10 n).length = 1 := by
  induction n using Nat.strongRecOn with
  | _ n ih =>
    by_cases hlt : n < 10
    · rw [Nat.toDigits_of_lt_base hlt]
      rfl
    · obtain ⟨d, ds, hd⟩ := List.exists_cons_of_ne_nil (Nat.toDigits_ne_nil (n := n / 10) (b := 10))
      rw [Nat.toDigits_of_base_le (by decide) (by omega), hd] at h
      -- the digits in front would be a lone zero, so their number would be zero
      have hone := ih (n / 10) (by omega) (by rw [hd]; exact h)
      rw [hd, List.length_cons, Nat.add_eq_right, List.length_eq_zero_iff] at hone
      have hzero := Nat.ofDigitChars_toDigits (b := 10) (n := n / 10) (by decide) (by decide)
      rw [hd, hone, Option.some.inj h] at hzero
      have : n / 10 = 0 := hzero.symm
      omega

/-! ## The order of padded numbers -/

/-- The first text comes before the second one, whatever follows the two. -/
def Ahead (p q : List Char) : Prop :=
  ∀ s t, p ++ s < q ++ t

section
variable {p q : List Char} {width m n : Nat}

theorem Ahead.append (h : Ahead p q) (a b : List Char) : Ahead (p ++ a) (q ++ b) := by
  intro s t
  rw [List.append_assoc, List.append_assoc]
  exact h (a ++ s) (b ++ t)

theorem Ahead.behind (h : Ahead p q) (a : List Char) : Ahead (a ++ p) (a ++ q) := by
  intro s t
  rw [List.append_assoc, List.append_assoc]
  exact List.append_left_lt (h s t)

theorem ahead_digitChar (h : m < n) (hn : n < 10) : Ahead [m.digitChar] [n.digitChar] := by
  intro s t
  refine List.cons_lt_cons_iff.mpr (.inl ?_)
  show m.digitChar.toNat < n.digitChar.toNat
  rw [Nat.toNat_digitChar_of_lt_ten (by omega), Nat.toNat_digitChar_of_lt_ten hn]
  omega

theorem toList_decimalPadded_digit (h : n < 10) :
    (decimalPadded 1 n).toList = [n.digitChar] := by
  rw [toList_decimalPadded_one, Nat.toDigits_of_lt_base h]

/-- The last digit of a padded number, behind the padded number of the digits before it. -/
theorem toList_decimalPadded_succ (width n : Nat) :
    (decimalPadded (width + 2) n).toList =
      (decimalPadded (width + 1) (n / 10)).toList ++ [(n % 10).digitChar] := by
  simp only [decimalPadded, String.toList_ofList]
  rcases Nat.lt_or_ge n 10 with h | h
  · rw [Nat.toDigits_of_lt_base h, Nat.div_eq_of_lt h, Nat.mod_eq_of_lt h]
    simp [List.replicate_succ']
  · have hpad (k : Nat) : width + 2 - (k + 1) = width + 1 - k := Nat.add_sub_add_right _ 1 _
    rw [Nat.toDigits_of_base_le (by decide) h, List.length_append, List.length_singleton, hpad,
      List.append_assoc]

/-- **Padded numbers** of one width are in the order of the numbers. -/
theorem ahead_decimalPadded (h : m < n) (hn : n < Nat.pow 10 (width + 1)) :
    Ahead (decimalPadded (width + 1) m).toList (decimalPadded (width + 1) n).toList := by
  induction width generalizing m n with
  | zero =>
    rw [toList_decimalPadded_digit (Nat.lt_trans h hn), toList_decimalPadded_digit hn]
    exact ahead_digitChar h hn
  | succ width ih =>
    have hfront : n / 10 < Nat.pow 10 (width + 1) := Nat.div_lt_of_lt_mul (by
      rwa [Nat.mul_comm])
    rw [toList_decimalPadded_succ, toList_decimalPadded_succ]
    rcases Nat.lt_or_ge (m / 10) (n / 10) with hlt | hge
    · exact (ih hlt hfront).append _ _
    · have heq : m / 10 = n / 10 := by omega
      rw [heq]
      exact (ahead_digitChar (by omega) (Nat.mod_lt n (by decide))).behind _

/-- Numbers that are written with one digit more than their first component. -/
def numbers (fields : List (Nat × Nat)) : List (List Char) :=
  fields.map fun f => (decimalPadded (f.1 + 1) f.2).toList

/-- The first numbers in which the lists differ are in order and fit their width. -/
inductive FirstLess : List (Nat × Nat) → List (Nat × Nat) → Prop
  | here {w m n : Nat} {xs ys : List (Nat × Nat)} (h : m < n) (hn : n < Nat.pow 10 (w + 1)) :
    FirstLess ((w, m) :: xs) ((w, n) :: ys)
  | later {f : Nat × Nat} {xs ys : List (Nat × Nat)} (h : FirstLess xs ys) :
    FirstLess (f :: xs) (f :: ys)

/-- **Lists of padded numbers** are in the order of the first numbers that differ. -/
theorem ahead_intercalate {sep : List Char} {xs ys : List (Nat × Nat)} (h : FirstLess xs ys) :
    Ahead (sep.intercalate (numbers xs)) (sep.intercalate (numbers ys)) := by
  induction h with
  | here h hn =>
    rw [numbers, numbers, List.map_cons, List.map_cons, intercalate_cons, intercalate_cons]
    exact (ahead_decimalPadded h hn).append _ _
  | later h ih =>
    cases h <;>
    · simp only [numbers, List.map_cons, List.intercalate_cons_cons, List.append_assoc] at ih ⊢
      exact (ih.behind _).behind _

end

end AdapterReport.Text
