import AdapterReport.Proofs.Text.Utf8

/-!
# The order of texts and of their bytes

Texts are in the order of their characters, bytes are compared one by one. Both orders agree
(`encode_lt_iff`): two characters differ first in the bits of the first byte in which their
encodings differ, and a longer encoding begins with a greater byte.

`Front.tail`: what is ordered by its leading bits stays ordered with one byte more.
-/

namespace AdapterReport.Text.Utf8

/-! ## Comparing bytes one by one -/

theorem ofNat_cons_lt {m n : Nat} (h : m < n) (hn : n < 256) (s t : List UInt8) :
    UInt8.ofNat m :: s < UInt8.ofNat n :: t := by
  refine List.cons_lt_cons_iff.mpr (.inl ?_)
  rw [UInt8.lt_iff_toNat_lt, toNat_ofNat (by omega), toNat_ofNat hn]
  exact h

theorem tailByte_cons_lt {v w : Nat} (h : v % 64 < w % 64) (s t : List UInt8) :
    tailByte v :: s < tailByte w :: t := by
  refine List.cons_lt_cons_iff.mpr (.inl ?_)
  rw [UInt8.lt_iff_toNat_lt, toNat_tailByte, toNat_tailByte]
  omega

/-- Whatever follows, the bytes `p m` come before the bytes `p n` if `m` is less than `n`. -/
def Front (p : Nat → List UInt8) (m n : Nat) : Prop :=
  m < n → ∀ s t, p m ++ s < p n ++ t

theorem front_lead {base m n : Nat} (h : n + base < 256) :
    Front (fun v => [UInt8.ofNat (v + base)]) m n :=
  fun hlt s t => ofNat_cons_lt (by omega) h s t

theorem Front.tail {p : Nat → List UInt8} {v w : Nat} (h : Front p (v / 64) (w / 64)) :
    Front (fun v => p (v / 64) ++ [tailByte v]) v w := by
  intro hlt s t
  rw [List.append_assoc, List.append_assoc]
  rcases Nat.lt_or_ge (v / 64) (w / 64) with hfront | hfront
  · exact h hfront _ _
  · have hsame : v / 64 = w / 64 := by omega
    rw [hsame]
    exact List.append_left_lt (tailByte_cons_lt (by omega) s t)

/-! ## Characters and texts -/

/-- The bytes of a lesser character come first, whatever follows the two. -/
theorem encodeChar_lt {c d : Char} (h : c < d) (s t : List UInt8) :
    String.utf8EncodeChar c ++ s < String.utf8EncodeChar d ++ t := by
  have hlt : c.toNat < d.toNat := h
  have hc := toNat_range c
  have hd := toNat_range d
  rw [encodeChar_eq, encodeChar_eq]
  generalize c.toNat = v at hlt hc
  generalize d.toNat = w at hlt hd
  split
  · -- one byte, below the first byte of every longer encoding
    split
    · exact ofNat_cons_lt hlt (by omega) s t
    split
    · exact ofNat_cons_lt (by omega) (by omega) s _
    split
    · exact ofNat_cons_lt (by omega) (by omega) s _
    · exact ofNat_cons_lt (by omega) (by omega) s _
  split
  · rw [if_neg (by omega)]
    split
    · exact (front_lead (by omega)).tail hlt s t
    split
    · exact ofNat_cons_lt (by omega) (by omega) _ _
    · exact ofNat_cons_lt (by omega) (by omega) _ _
  split
  · rw [if_neg (by omega), if_neg (by omega)]
    split
    · exact (front_lead (by omega)).tail.tail hlt s t
    · exact ofNat_cons_lt (by omega) (by omega) _ _
  · rw [if_neg (by omega), if_neg (by omega), if_neg (by omega)]
    exact (front_lead (by omega)).tail.tail.tail hlt s t

theorem flatMap_encodeChar_lt {cs ds : List Char} (h : cs < ds) :
    cs.flatMap String.utf8EncodeChar < ds.flatMap String.utf8EncodeChar := by
  induction cs generalizing ds with
  | nil =>
    cases ds with
    | nil => exact absurd h (List.lt_irrefl [])
    | cons d ds =>
      cases hd : String.utf8EncodeChar d with
      | nil => exact absurd hd String.utf8EncodeChar_ne_nil
      | cons b bs => rw [List.flatMap_cons, hd]; exact List.nil_lt_cons b _
  | cons c cs ih =>
    cases ds with
    | nil => exact absurd h (List.not_lt_nil _)
    | cons d ds =>
      rw [List.flatMap_cons, List.flatMap_cons]
      rcases List.cons_lt_cons_iff.mp h with hlt | ⟨rfl, hrest⟩
      · exact encodeChar_lt hlt _ _
      · exact List.append_left_lt (ih hrest)

/-- **The bytes of texts are in the order of the texts.** -/
theorem encode_lt_iff {s t : String} : encode s < encode t ↔ s < t := by
  refine ⟨fun h => ?_, fun h => flatMap_encodeChar_lt h⟩
  by_cases hlt : s < t
  · exact hlt
  · -- the texts are equal or the other way round, and so are their bytes
    exfalso
    rcases Decidable.em (t < s) with hgt | hge
    · exact List.lt_asymm h (flatMap_encodeChar_lt hgt)
    · have heq := String.le_antisymm (String.not_lt.mp hge) (String.not_lt.mp hlt)
      rw [heq] at h
      exact List.lt_irrefl _ h

end AdapterReport.Text.Utf8
