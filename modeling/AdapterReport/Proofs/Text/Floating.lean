import AdapterReport.Proofs.Text.Numeral
import AdapterReport.Text.Floating
import Mathlib.Logic.Basic

/-!
# Rounding, and digits with a point

* `Fraction.rounded_eq_iff`: a fraction is rounded to the whole number that is nearest to it, from
  the middle of two to the even one.
* `Fraction.magnitude_two`: the power of two that a fraction reaches.
* `pointed?_withPlaces`: digits that are written with places behind a point are read back; so
  `pointed?_fixed`: the digits of a fraction spell the nearest number of that many places.
* `rounded_eq`: the number of a binary format that a fraction becomes has as many digits as the
  format holds, or the least exponent, and is nearest among those. `rounded_scaled`: what is a
  number of the format stays one.
-/

namespace AdapterReport.Text

/-! ## Rounding -/

namespace Fraction

variable {f : Fraction} {m n : Nat}

/-- How far a whole number is from a fraction, in parts of the denominator. -/
def distance (f : Fraction) (n : Nat) : Nat :=
  ((n * f.denominator : Nat) - (f.numerator : Int)).natAbs

/-- No whole number is nearer to the fraction, and where another one is as near, this one is
even. -/
structure Nearest (f : Fraction) (n : Nat) : Prop where
  nearest : ∀ k, f.distance n ≤ f.distance k
  even : ∀ k ≠ n, f.distance k = f.distance n → n % 2 = 0

/-- At most half a denominator lies between the fraction and the whole number, and half a
denominator only for an even one. -/
structure Half (f : Fraction) (n : Nat) : Prop where
  near : 2 * f.distance n ≤ f.denominator
  even : 2 * f.distance n = f.denominator → n % 2 = 0

/-- Whole numbers that are so far apart are together as far from the fraction. -/
theorem mul_le_distance (k : Nat) (h : m + k ≤ n) :
    k * f.denominator ≤ f.distance m + f.distance n := by
  have hmul := Nat.mul_le_mul_right f.denominator h
  rw [Nat.add_mul] at hmul
  unfold distance
  omega

theorem denominator_le_distance (h : m ≠ n) : f.denominator ≤ f.distance m + f.distance n := by
  rcases Nat.lt_or_gt_of_ne h with h | h
  · exact Nat.one_mul f.denominator ▸ mul_le_distance 1 h
  · exact Nat.one_mul f.denominator ▸ Nat.add_comm (f.distance m) _ ▸ mul_le_distance 1 h

/-- Half a denominator is near enough to be nearest. -/
theorem Half.nearest (h : f.Half n) : f.Nearest n where
  nearest k := by
    by_cases hk : k = n
    · exact hk ▸ Nat.le_refl _
    · have := denominator_le_distance (f := f) hk
      have := h.near
      omega
  even k hk heq := by
    have := denominator_le_distance (f := f) hk
    have := h.near
    exact h.even (by omega)

theorem half_rounded (h : 0 < f.denominator) : f.Half f.rounded := by
  have hdiv := Nat.div_add_mod' f.numerator f.denominator
  have hmod := Nat.mod_lt f.numerator h
  unfold rounded
  simp only
  generalize f.numerator / f.denominator = whole at *
  have hnext : (whole + 1) * f.denominator = whole * f.denominator + f.denominator :=
    Nat.succ_mul whole f.denominator
  split
  all_goals
    rename_i hup
    simp only [Bool.or_eq_true, Bool.and_eq_true, beq_iff_eq, decide_eq_true_eq] at hup
    constructor <;> unfold distance <;> omega

/-- Of two numbers in whose middle the fraction is only one is even. -/
theorem Half.eq_of_nearest (hf : 0 < f.denominator) (hm : f.Half m) (hn : f.Nearest n) :
    m = n := by
  refine Decidable.byContradiction fun hne => ?_
  have hapart := denominator_le_distance (f := f) hne
  have hle := hn.nearest m
  have hnear := hm.near
  have hevenM := hm.even (by omega)
  have hevenN := hn.even m hne (by omega)
  rcases Nat.lt_or_gt_of_ne hne with h | h
  · have := mul_le_distance (f := f) 2 (show m + 2 ≤ n by omega)
    omega
  · have := mul_le_distance (f := f) 2 (show n + 2 ≤ m by omega)
    omega

/-- **A fraction is rounded** to the nearest whole number, from the middle to the even one. -/
theorem rounded_eq_iff (h : 0 < f.denominator) : f.rounded = n ↔ f.Nearest n := by
  constructor
  · rintro rfl
    exact (half_rounded h).nearest
  · exact (half_rounded h).eq_of_nearest h

theorem denominator_times_pos {base : Nat} (hbase : 0 < base) (hf : 0 < f.denominator)
    (e : Int) : 0 < (f.times base e).denominator := by
  unfold times
  split
  · exact hf
  · exact Nat.mul_pos hf (Nat.pow_pos hbase)

theorem Half.le (h : f.Half n) (hf : 0 < f.denominator)
    (hbound : f.numerator ≤ m * f.denominator) : n ≤ m := by
  refine Nat.le_of_not_lt fun hlt => ?_
  have hmul : (m + 1) * f.denominator ≤ n * f.denominator := Nat.mul_le_mul_right _ hlt
  rw [Nat.succ_mul] at hmul
  have hnear := h.near
  unfold distance at hnear
  omega

theorem Half.ge (h : f.Half n) (hf : 0 < f.denominator)
    (hbound : m * f.denominator ≤ f.numerator) : m ≤ n := by
  refine Nat.le_of_not_lt fun hlt => ?_
  have hmul : (n + 1) * f.denominator ≤ m * f.denominator := Nat.mul_le_mul_right _ hlt
  rw [Nat.succ_mul] at hmul
  have hnear := h.near
  unfold distance at hnear
  omega

/-! ## Powers of two -/

/-- The fraction is not less than a power of two. -/
def AtLeast (f : Fraction) (e : Int) : Prop :=
  f.denominator * Nat.pow 2 e.toNat ≤ f.numerator * Nat.pow 2 (-e).toNat

/-- The exponent may be any difference. -/
theorem atLeast_iff {e : Int} (p q : Nat) (h : (p : Int) - q = e) :
    f.AtLeast e ↔ f.denominator * Nat.pow 2 p ≤ f.numerator * Nat.pow 2 q := by
  obtain ⟨c, hp, hq⟩ : ∃ c, p = e.toNat + c ∧ q = (-e).toNat + c :=
    ⟨p - e.toNat, by omega, by omega⟩
  simp only [AtLeast, hp, hq, Nat.pow_eq, Nat.pow_add, ← Nat.mul_assoc]
  exact (Nat.mul_le_mul_right_iff (Nat.two_pow_pos c)).symm

theorem AtLeast.mono {d e : Int} (h : f.AtLeast e) (hle : d ≤ e) : f.AtLeast d := by
  obtain ⟨c, hc⟩ := Int.le.dest hle
  rw [atLeast_iff d.toNat ((-d).toNat) (by omega)]
  refine Nat.le_trans ?_ ((atLeast_iff (d.toNat + c) (-d).toNat (by omega)).mp h)
  exact Nat.mul_le_mul_left _ (Nat.pow_le_pow_right (by decide) (Nat.le_add_right _ c))

theorem isBelow_times (e : Int) (k : Nat) :
    (f.times 2 (-e)).isBelow (Nat.pow 2 k) = true ↔ ¬f.AtLeast (e + k) := by
  unfold isBelow times
  rw [decide_eq_true_iff, ← Nat.not_le]
  split
  · rw [atLeast_iff k (-e).toNat (by omega)]
    simp [Nat.mul_comm]
  · rw [atLeast_iff (k + e.toNat) 0 (by omega)]
    simp [Nat.pow_add, Nat.mul_left_comm]

/-- **The magnitude** to the base two is the exponent of the greatest power that is not greater
than the fraction. -/
theorem magnitude_two (hn : 0 < f.numerator) (hd : 0 < f.denominator) :
    f.AtLeast (f.magnitude 2) ∧ ¬f.AtLeast (f.magnitude 2 + 1) := by
  have hhigh : ¬f.AtLeast (f.guess 2 + 1) := by
    rw [atLeast_iff (Nat.log2 f.numerator + 1) (Nat.log2 f.denominator) (by simp [guess]; omega),
      Nat.not_le, Nat.mul_comm f.denominator]
    exact Nat.mul_lt_mul_of_lt_of_le Nat.lt_log2_self (Nat.log2_self_le (by omega)) hd
  have hlow : f.AtLeast (f.guess 2 - 1) := by
    rw [atLeast_iff (Nat.log2 f.numerator) (Nat.log2 f.denominator + 1) (by simp [guess]; omega),
      Nat.mul_comm f.denominator]
    exact Nat.mul_le_mul (Nat.log2_self_le (by omega)) (Nat.le_of_lt Nat.lt_log2_self)
  have hone (e : Int) : (f.times 2 (-e)).isBelow 1 = true ↔ ¬f.AtLeast e := by
    have h := isBelow_times (f := f) e 0
    rwa [Int.natCast_zero, Int.add_zero] at h
  have hfails {e : Int} (h : ¬f.AtLeast e) : (!(f.times 2 (-e)).isBelow 1) = false := by
    rw [(hone e).mpr h]
    rfl
  have hholds {e : Int} (h : f.AtLeast e) : (!(f.times 2 (-e)).isBelow 1) = true := by
    rw [Bool.eq_false_iff.mpr fun hbelow => (hone e).mp hbelow h]
    rfl
  have htwo : ¬f.AtLeast (f.guess 2 + 2) := fun h => hhigh (h.mono (by omega))
  have hnear : f.magnitude 2 = f.guess 2 ∧ f.AtLeast (f.guess 2) ∨
      f.magnitude 2 = f.guess 2 - 1 ∧ ¬f.AtLeast (f.guess 2) := by
    unfold magnitude
    simp only [List.map_cons, List.map_nil, List.find?, Int.add_zero, ← Int.sub_eq_add_neg,
      hfails htwo, hfails hhigh]
    by_cases hzero : f.AtLeast (f.guess 2)
    · exact .inl ⟨by simp only [hholds hzero, Option.getD_some], hzero⟩
    · exact .inr ⟨by simp only [hfails hzero, hholds hlow, Option.getD_some], hzero⟩
  rcases hnear with ⟨heq, hzero⟩ | ⟨heq, hzero⟩
  · rw [heq]
    exact ⟨hzero, hhigh⟩
  · rw [heq, Int.sub_add_cancel]
    exact ⟨hlow, hzero⟩

theorem magnitude_eq {e : Int} (hn : 0 < f.numerator) (hd : 0 < f.denominator)
    (hlow : f.AtLeast e) (hhigh : ¬f.AtLeast (e + 1)) : f.magnitude 2 = e := by
  obtain ⟨hat, hnot⟩ := magnitude_two hn hd
  have hle : e ≤ f.magnitude 2 := Int.not_lt.mp fun hlt => hnot (hlow.mono hlt)
  have hge : f.magnitude 2 ≤ e := Int.not_lt.mp fun hlt => hhigh (hat.mono hlt)
  exact Int.le_antisymm hge hle

theorem denominator_scaled_pos (n : Nat) (e : Int) : 0 < (scaled n 2 e).denominator := by
  unfold scaled
  split
  · exact Nat.one_pos
  · exact Nat.two_pow_pos _

theorem numerator_scaled_pos (hn : 0 < n) (e : Int) : 0 < (scaled n 2 e).numerator := by
  unfold scaled
  split
  · exact Nat.mul_pos hn (Nat.two_pow_pos _)
  · exact hn

theorem atLeast_scaled (n k : Nat) (e : Int) :
    (scaled n 2 e).AtLeast (k + e) ↔ Nat.pow 2 k ≤ n := by
  unfold scaled
  split
  · rw [atLeast_iff (k + e.toNat) 0 (by omega)]
    simp only [Nat.pow_eq, Nat.pow_add, Nat.one_mul, Nat.pow_zero, Nat.mul_one]
    exact Nat.mul_le_mul_right_iff (Nat.two_pow_pos _)
  · rw [atLeast_iff k (-e).toNat (by omega), Nat.mul_comm]
    exact Nat.mul_le_mul_right_iff (Nat.two_pow_pos _)

/-- In units of a lower power of two the number is whole. -/
theorem times_scaled {d e : Int} (n : Nat) (h : d ≤ e) :
    ((scaled n 2 e).times 2 (-d)).numerator =
      n * Nat.pow 2 (e - d).toNat * ((scaled n 2 e).times 2 (-d)).denominator := by
  have same {a b : Nat} (hab : a = b) : n * Nat.pow 2 a = n * Nat.pow 2 b := hab ▸ rfl
  unfold scaled times
  by_cases he : 0 ≤ e <;> by_cases hd : 0 ≤ -d <;>
    simp only [he, hd, if_true, if_false, Nat.pow_eq, Nat.mul_one, Nat.one_mul]
  · rw [Nat.mul_assoc, ← Nat.pow_add]
    exact same (by omega)
  · rw [Nat.mul_assoc, ← Nat.pow_add]
    exact same (by omega)
  · rw [Nat.mul_assoc, ← Nat.pow_add]
    exact same (by omega)
  · omega

end Fraction

/-! ## Digits with a point -/

/-- Zeros in front of a number do not count. -/
theorem Numeral.ofDigits_zeros (base zeros : Nat) (s : List Char) :
    ofDigits base (List.replicate zeros '0' ++ s) = ofDigits base s := by
  induction zeros with
  | zero => rfl
  | succ zeros ih =>
    rw [List.replicate_succ, List.cons_append, ← ih, ofDigits, ofDigits, List.foldl_cons]
    exact congrArg (fun n => List.foldl _ n _) (Nat.zero_mul base)

namespace Floating

open Numeral

section
variable {base : Nat} {whole places rest : List Char}

theorem pointed?_whole (hwhole : ∀ c ∈ whole, IsDigit base c) (hne : whole ≠ [])
    (hrest : Stops base rest) (hpoint : rest.head? ≠ some '.') :
    pointed? base (whole ++ rest) = some (ofDigits base whole, 0, rest) := by
  simp only [pointed?, digits_append hwhole hrest, List.drop_left]
  split
  · exact absurd rfl hpoint
  · simp [hne]

theorem pointed?_point (hwhole : ∀ c ∈ whole, IsDigit base c) (hne : whole ≠ [])
    (hplaces : ∀ c ∈ places, IsDigit base c) (hrest : Stops base rest) :
    pointed? base (whole ++ '.' :: (places ++ rest)) =
      some (ofDigits base (whole ++ places), places.length, rest) := by
  have hpoint : Stops base ('.' :: (places ++ rest)) := by
    rintro c hc
    cases hc
    exact Bool.false_ne_true
  simp only [pointed?, digits_append hwhole hpoint, digits_append hplaces hrest, List.drop_left]
  simp [hne]

end

section
variable {base : Nat} (hlow : 2 ≤ base) (hhigh : base ≤ 16) (n places : Nat)
include hlow hhigh

theorem isDigit_of_mem_padded : ∀ c ∈ padded base n places, IsDigit base c := by
  intro c hc
  rcases List.mem_append.mp hc with hc | hc
  · cases List.eq_of_mem_replicate hc
    exact decide_eq_true (show 0 < base by omega)
  · exact isDigit_of_mem_toDigits hlow hhigh n c hc

theorem ofDigits_padded : ofDigits base (padded base n places) = n :=
  (ofDigits_zeros base _ _).trans (ofDigits_toDigits hlow hhigh n)

end

theorem lt_length_padded (base n places : Nat) : places < (padded base n places).length := by
  simp only [padded, List.length_append, List.length_replicate]
  omega

/-- The digits are cut where the places begin. -/
theorem withPlaces_eq (n places : Nat) (keepsPoint : Bool) :
    ∃ whole behind, padded 10 n places = whole ++ behind ∧ whole ≠ [] ∧
      behind.length = places ∧ withPlaces n places keepsPoint =
        whole ++ if places == 0 && !keepsPoint then [] else '.' :: behind := by
  have hlong := lt_length_padded 10 n places
  refine ⟨(padded 10 n places).take ((padded 10 n places).length - places),
    (padded 10 n places).drop ((padded 10 n places).length - places),
    (List.take_append_drop _ _).symm, ?_, ?_, ?_⟩
  · exact List.ne_nil_of_length_pos (by rw [List.length_take]; omega)
  · rw [List.length_drop]
    omega
  · simp only [withPlaces]
    split
    · exact (List.append_nil _).symm
    · rfl

/-- **Digits with places behind a point** are read back. -/
theorem pointed?_withPlaces (n places : Nat) (keepsPoint : Bool) {rest : List Char}
    (hrest : Stops 10 rest) (hpoint : rest.head? ≠ some '.') :
    pointed? 10 (withPlaces n places keepsPoint ++ rest) = some (n, places, rest) := by
  obtain ⟨whole, behind, hcut, hne, hlength, htext⟩ := withPlaces_eq n places keepsPoint
  have hdigit : ∀ c ∈ padded 10 n places, IsDigit 10 c :=
    isDigit_of_mem_padded (by decide) (by decide) n places
  have hnumber : ofDigits 10 (padded 10 n places) = n :=
    ofDigits_padded (by decide) (by decide) n places
  rw [hcut] at hdigit hnumber
  have hwhole : ∀ c ∈ whole, IsDigit 10 c := fun c hc => hdigit c (List.mem_append_left _ hc)
  have hbehind : ∀ c ∈ behind, IsDigit 10 c := fun c hc => hdigit c (List.mem_append_right _ hc)
  rw [htext]
  split
  · rename_i hnone
    obtain ⟨rfl, -⟩ : places = 0 ∧ keepsPoint = false := by simpa using hnone
    rw [List.length_eq_zero_iff.mp hlength, List.append_nil] at hnumber
    rw [List.append_nil, pointed?_whole hwhole hne hrest hpoint, hnumber]
  · rw [List.append_assoc, List.cons_append, pointed?_point hwhole hne hbehind hrest, hnumber,
      hlength]

/-- **The digits of a fraction** spell the number of so many places that is nearest to it. -/
theorem pointed?_fixed {f : Fraction} (hf : 0 < f.denominator) (places : Nat) (keepsPoint : Bool)
    {rest : List Char} (hrest : Stops 10 rest) (hpoint : rest.head? ≠ some '.') :
    ∃ n, pointed? 10 (fixed f places keepsPoint ++ rest) = some (n, places, rest) ∧
      (f.times 10 places).Nearest n :=
  ⟨_, pointed?_withPlaces _ places keepsPoint hrest hpoint,
    (Fraction.half_rounded (Fraction.denominator_times_pos (by decide) hf places)).nearest⟩

/-! ## Binary formats -/

section
variable {format : Binary} {f : Fraction}

theorem log2_mul_two_pow {n : Nat} (hn : 0 < n) (k : Nat) :
    Nat.log2 (n * Nat.pow 2 k) = Nat.log2 n + k := by
  simp only [Nat.pow_eq]
  induction k with
  | zero => rw [Nat.pow_zero, Nat.mul_one, Nat.add_zero]
  | succ k ih =>
    rw [Nat.pow_succ', Nat.mul_left_comm,
      Nat.log2_two_mul (Nat.ne_of_gt (Nat.mul_pos hn (Nat.two_pow_pos k))), ih, Nat.add_assoc]

/-- The number of a format that is nearest to a fraction: all its digits count unless it has the
least exponent. -/
structure Binary.Rounds (format : Binary) (f : Fraction) (n : Nat) (e : Int) : Prop where
  nearest : (f.times 2 (-e)).Nearest n
  least : format.least ≤ e
  le : n ≤ Nat.pow 2 format.digits
  full : format.least < e → Nat.pow 2 (format.digits - 1) ≤ n

theorem Binary.rounds (hdigits : 0 < format.digits) (hn : 0 < f.numerator)
    (hd : 0 < f.denominator) :
    format.Rounds f (f.times 2 (-format.unit f)).rounded (format.unit f) := by
  obtain ⟨hat, hnot⟩ := Fraction.magnitude_two hn hd
  have hden := Fraction.denominator_times_pos Nat.two_pos hd (-format.unit f)
  have hhalf := Fraction.half_rounded hden
  have hunit : f.magnitude 2 - (format.digits - 1) ≤ format.unit f := Int.le_max_left ..
  constructor
  · exact hhalf.nearest
  · exact Int.le_max_right ..
  · refine hhalf.le hden (Nat.le_of_lt ?_)
    have hbelow := (Fraction.isBelow_times (f := f) (format.unit f) format.digits).mpr
      fun h => hnot (h.mono (by omega))
    simpa [Fraction.isBelow] using hbelow
  · intro hleast
    refine hhalf.ge hden (Nat.not_lt.mp fun hlt => ?_)
    refine (Fraction.isBelow_times (f := f) (format.unit f) (format.digits - 1)).mp
      (by simpa [Fraction.isBelow] using hlt) (hat.mono ?_)
    unfold Binary.unit at hleast ⊢
    omega

/-- A fraction that is not zero, by its unit and the number of units that is nearest to it. -/
theorem rounded_of_pos (isNegative : Bool) (hn : 0 < f.numerator) {n : Nat} {e : Int}
    (hunit : format.unit f = e) (hround : (f.times 2 (-e)).rounded = n) :
    rounded format isNegative f =
      if format.bound ≤ (Nat.log2 n : Int) + e ∧ n ≠ 0 then (infinite isNegative, true)
      else (finite isNegative (.scaled n 2 e), n == 0 ||
        ((Nat.log2 n : Int) + 1 < format.digits &&
          !(f.times 2 (-e)).numerator == n * (f.times 2 (-e)).denominator)) := by
  subst hunit hround
  have hzero : f.isZero = false := beq_eq_false_iff_ne.mpr (Nat.ne_of_gt hn)
  simp only [rounded, hzero, Bool.and_eq_true, decide_eq_true_eq, bne_iff_ne]
  rfl

/-- **A fraction is rounded** to the nearest number of the format, and it is infinite only if that
number reaches the bound. -/
theorem rounded_eq (isNegative : Bool) (hdigits : 0 < format.digits) (hn : 0 < f.numerator)
    (hd : 0 < f.denominator) :
    ∃ n e, format.Rounds f n e ∧
      (rounded format isNegative f).1 =
        if format.bound ≤ (Nat.log2 n : Int) + e ∧ n ≠ 0 then infinite isNegative
        else finite isNegative (.scaled n 2 e) := by
  refine ⟨_, _, Binary.rounds hdigits hn hd, ?_⟩
  rw [rounded_of_pos isNegative hn rfl rfl]
  exact apply_ite Prod.fst ..

/-- **A number of the format** is kept, though it may be counted in a lower unit. -/
theorem rounded_scaled (isNegative : Bool) {n : Nat} {e : Int} (hn : 0 < n)
    (hdigits : n < Nat.pow 2 format.digits) (hleast : format.least ≤ e)
    (hbound : (Nat.log2 n : Int) + e < format.bound) :
    ∃ d ≤ e, rounded format isNegative (.scaled n 2 e) =
      (finite isNegative (.scaled (n * Nat.pow 2 (e - d).toNat) 2 d), false) := by
  have hnum := Fraction.numerator_scaled_pos hn e
  have hden := Fraction.denominator_scaled_pos n e
  have hmagnitude : (Fraction.scaled n 2 e).magnitude 2 = Nat.log2 n + e := by
    refine Fraction.magnitude_eq hnum hden
      ((Fraction.atLeast_scaled n _ e).mpr (Nat.log2_self_le (by omega))) fun h => ?_
    have hpow := (Fraction.atLeast_scaled n (Nat.log2 n + 1) e).mp (by
      rwa [Int.natCast_succ, Int.add_right_comm])
    exact Nat.not_le.mpr Nat.lt_log2_self hpow
  have hlog : Nat.log2 n < format.digits := (Nat.log2_lt (by omega)).mpr hdigits
  obtain ⟨d, hd⟩ : ∃ d, format.unit (.scaled n 2 e) = d := ⟨_, rfl⟩
  have hle : d ≤ e := by
    rw [← hd, Binary.unit, hmagnitude]
    omega
  -- In lower units the number is whole, so there is nothing to round.
  have hexact := Fraction.times_scaled n hle
  have hpos := Fraction.denominator_times_pos Nat.two_pos hden (-d)
  have hhalf := Fraction.half_rounded hpos
  have hkept : ((Fraction.scaled n 2 e).times 2 (-d)).rounded = n * Nat.pow 2 (e - d).toNat :=
    Nat.le_antisymm (hhalf.le hpos (Nat.le_of_eq hexact))
      (hhalf.ge hpos (Nat.le_of_eq hexact.symm))
  have hbelow : ¬format.bound ≤ (Nat.log2 n + (e - d).toNat : Nat) + d := by
    omega
  have hne : n * Nat.pow 2 (e - d).toNat ≠ 0 := Nat.ne_of_gt (Nat.mul_pos hn (Nat.two_pow_pos _))
  refine ⟨d, hle, ?_⟩
  rw [rounded_of_pos isNegative hnum hd hkept, log2_mul_two_pow hn, if_neg fun h => hbelow h.1,
    hexact]
  simp only [beq_eq_false_iff_ne.mpr hne, beq_self_eq_true, Bool.not_true, Bool.and_false,
    Bool.or_false]

end

end Floating
end AdapterReport.Text
