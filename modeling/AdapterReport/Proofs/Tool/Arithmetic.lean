import AdapterReport.Proofs.Text.Numeral
import AdapterReport.Tool.Shell.Arithmetic
import Mathlib.Logic.Basic

/-!
# The values of expressions

`Arithmetic.evaluate_within`: whatever an expression says, its value and the values that it assigns
are numbers of 64 bits with a sign. This holds of what a sign makes of two such numbers
(`within_apply`) and of the numbers that are read (`within_token`, `within_number`), and the reading
passes it on (`Yields`). A variable that such a value was assigned to has it when it is read again
(`number_toString`).
-/

namespace AdapterReport.Shell.Arithmetic

open Text.Numeral (least greatest clamped)

/-- Whether 64 bits with a sign can hold a number. -/
def Within (n : Int) : Prop := least ≤ n ∧ n ≤ greatest

theorem within_iff {n : Int} :
    Within n ↔ -9223372036854775808 ≤ n ∧ n ≤ 9223372036854775807 := Iff.rfl

instance (n : Int) : Decidable (Within n) := inferInstanceAs (Decidable (_ ∧ _))

variable {a b n : Int}

/-! ## Operators -/

theorem within_wrapped (n : Int) : Within (wrapped n) := by
  have hlow : -((UInt64.size : Int) / 2) ≤ wrapped n := Int.le_bmod (by decide)
  have hhigh : wrapped n < ((UInt64.size : Int) + 1) / 2 := Int.bmod_lt (by decide)
  have hsize : (UInt64.size : Int) = 18446744073709551616 := rfl
  rw [within_iff]
  omega

theorem within_clamped (n : Int) : Within (clamped n) := by
  have hle : least ≤ greatest := by decide
  unfold clamped Within
  omega

theorem within_truth (c : Bool) : Within (truth c) := by
  cases c <;> decide

theorem within_tdiv (ha : Within a) (hb : b ≠ 0) (hnot : ¬ (a = least ∧ b = -1)) :
    Within (a.tdiv b) := by
  have habs : (a.tdiv b).natAbs = a.natAbs / b.natAbs := Int.natAbs_tdiv a b
  have hleast : least = -9223372036854775808 := rfl
  rw [within_iff] at ha ⊢
  rcases Nat.lt_or_ge b.natAbs 2 with hone | htwo
  · obtain rfl | rfl : b = 1 ∨ b = -1 := by omega
    · rw [Int.tdiv_one]
      omega
    · rw [Int.tdiv_neg, Int.tdiv_one]
      omega
  · have hhalf : a.natAbs / b.natAbs ≤ a.natAbs / 2 := Nat.div_le_div_left htwo (by decide)
    omega

theorem within_tmod (hb : Within b) (hne : b ≠ 0) : Within (a.tmod b) := by
  have habs : (a.tmod b).natAbs = a.natAbs % b.natAbs := Int.natAbs_tmod a b
  have hlt : a.natAbs % b.natAbs < b.natAbs := Nat.mod_lt _ (by omega)
  rw [within_iff] at hb ⊢
  omega

theorem within_shift (ha : Within a) (k : Nat) : Within (a / Nat.pow 2 k) := by
  have hpos : 0 < Nat.pow 2 k := Nat.pow_pos (by decide)
  have hcast : (0 : Int) < (Nat.pow 2 k : Nat) := Int.natCast_pos.mpr hpos
  have hone : (1 : Int) ≤ (Nat.pow 2 k : Nat) := hcast
  generalize ((Nat.pow 2 k : Nat) : Int) = c at hcast hone
  have hleast : least * c ≤ least * 1 := Int.mul_le_mul_of_nonpos_left (by decide) hone
  have hgreatest : greatest * 1 ≤ greatest * c := Int.mul_le_mul_of_nonneg_left hone (by decide)
  rw [Int.mul_one] at hleast hgreatest
  exact ⟨Int.le_ediv_of_mul_le hcast (Int.le_trans hleast ha.1),
    Int.ediv_le_of_le_mul hcast (Int.le_trans ha.2 hgreatest)⟩

/-- A sign makes a number of 64 bits of two such numbers, if anything. -/
theorem within_apply {sign : String} (ha : Within a) (hb : Within b)
    (h : apply sign a b = .ok n) : Within n := by
  have hquotient (h : (if b == 0 then .error .divisionByZero
      else if a == least && b == -1 then .error .tooGreat
      else .ok (if sign == "/" then a.tdiv b else a.tmod b)) =
        (.ok n : Except ArithmeticFault Int)) : Within n := by
    obtain ⟨-, h⟩ | ⟨hne, h⟩ := ite_eq_iff.mp h
    · cases h
    obtain ⟨-, h⟩ | ⟨hnot, h⟩ := ite_eq_iff.mp h
    · cases h
    cases h
    have hne : b ≠ 0 := by simpa using hne
    split
    · exact within_tdiv ha hne (by simpa using hnot)
    · exact within_tmod hb hne
  unfold apply at h
  split at h
  case h_2 | h_3 => exact hquotient h
  case h_7 => exact Except.ok.inj h ▸ within_shift ha _
  case h_1 | h_4 | h_5 | h_6 | h_14 | h_15 | h_16 => exact Except.ok.inj h ▸ within_wrapped _
  all_goals exact Except.ok.inj h ▸ within_truth _

/-! ## Reading -/

/-- The number of a token. -/
theorem within_token {s rest : List Char} (h : token s = (.number n, rest)) : Within n := by
  unfold token at h
  split at h
  · cases h
  · split at h
    · split at h <;> cases h
      exact within_clamped _
    · split at h
      · cases h
      · split at h
        · cases h
        · split at h <;> cases h

/-- The number that the value of a variable spells. -/
theorem within_number {s : String} (h : number s = .ok n) : Within n := by
  unfold number at h
  split at h
  · split at h <;> cases h
    decide
  · obtain ⟨hread, h⟩ | ⟨-, h⟩ := ite_eq_iff.mp h <;> cases h
    rw [Bool.and_eq_true, beq_iff_eq] at hread
    exact hread.2 ▸ within_clamped _

/-- **A number that was assigned** is the value of the variable again. -/
theorem number_toString (h : Within n) : number (toString n) = .ok n := by
  have hclamped : clamped n = n := by
    unfold clamped
    have := h.1
    have := h.2
    omega
  have hblank : (n == n) = true := beq_self_eq_true n
  simp only [number, Text.Numeral.signed?_toString, List.all_nil, hclamped, hblank, Bool.and_self,
    if_true]

/-- All numbers of a progress are numbers of 64 bits. -/
def Progress.Sound (p : Progress) : Prop :=
  (∀ n, p.next = .number n → Within n) ∧ ∀ e ∈ p.assigned, Within e.2

/-- What a step gives, and that it passes on that all numbers are numbers of 64 bits. -/
def Yields {α : Type} (step : Step α) (P : α → Prop) : Prop :=
  ∀ p a p', p.Sound → step p = .ok (a, p') → P a ∧ p'.Sound

section
variable {α β : Type} {P : α → Prop} {Q : β → Prop}

theorem Yields.pure {a : α} (h : P a) : Yields (pure a) P := by
  intro p b p' hp heq
  cases heq
  exact ⟨h, hp⟩

theorem Yields.throw (e : ArithmeticFault) : Yields (throw e : Step α) P := nofun

theorem Yields.bind {step : Step α} {next : α → Step β} (h : Yields step P)
    (hnext : ∀ a, P a → Yields (next a) Q) : Yields (step >>= next) Q := by
  intro p b p' hp heq
  have hbind : (step >>= next) p = step p >>= fun x => next x.1 x.2 := rfl
  rw [hbind] at heq
  cases hstep : step p with
  | error e => rw [hstep] at heq; cases heq
  | ok x =>
    obtain ⟨ha, hx⟩ := h p x.1 x.2 hp hstep
    rw [hstep] at heq
    exact hnext x.1 ha x.2 b p' hx heq

theorem yields_get : Yields get Progress.Sound := by
  intro p q p' hp heq
  cases heq
  exact ⟨hp, hp⟩

theorem yields_set {p : Progress} (h : p.Sound) : Yields (set p) fun _ => True := by
  intro q u p' _ heq
  cases heq
  exact ⟨trivial, h⟩

theorem yields_modify {f : Progress → Progress} (h : ∀ p, p.Sound → (f p).Sound) :
    Yields (modify f) fun _ => True := by
  intro p u p' hp heq
  cases heq
  exact ⟨trivial, h p hp⟩

theorem yields_lift {x : Except ArithmeticFault α} (h : ∀ a, x = .ok a → P a) :
    Yields (liftM x) P := by
  intro p a p' hp heq
  cases x with
  | error e => cases heq
  | ok b =>
    cases heq
    exact ⟨h _ rfl, hp⟩

end

theorem yields_advance : Yields advance fun _ => True := by
  refine yields_modify fun p hp => ⟨fun n hn => ?_, hp.2⟩
  exact within_token (Prod.ext hn rfl : token p.rest = (.number n, (token p.rest).2))

theorem yields_accept (sign : String) : Yields (accept sign) fun _ => True := by
  refine .bind yields_get fun p _ => ?_
  split
  · exact .bind yields_advance fun _ _ => .pure trivial
  · exact .pure trivial

theorem yields_valueOf (name : String) : Yields (valueOf name) Within := by
  refine .bind yields_get fun p hp => ?_
  split
  · rename_i n hn
    obtain ⟨before, after, heq, -⟩ := List.lookup_eq_some_iff.mp hn
    exact .pure (hp.2 (name, n) (heq ▸ List.mem_append_right before List.mem_cons_self))
  · exact yields_lift fun n => within_number

theorem yields_assign (name : String) (h : Within n) : Yields (assign name n) fun _ => True :=
  yields_modify fun _ hp => ⟨hp.1, List.forall_mem_cons.mpr ⟨h, hp.2⟩⟩

/-! ## Expressions -/

/-- What all parts of an expression give, at some depth. -/
structure AllWithin (depth : Nat) : Prop where
  operand (counts : Bool) : Yields (operand depth counts) Within
  operation (rank : Nat) (counts : Bool) : Yields (operation depth rank counts) Within
  behind (rank : Nat) (counts : Bool) {a : Int} (ha : Within a) :
    Yields (operationBehind depth rank counts a) Within
  conjunction (counts : Bool) : Yields (conjunction depth counts) Within
  disjunction (counts : Bool) : Yields (disjunction depth counts) Within
  choice (counts : Bool) : Yields (choice depth counts) Within
  assignment (counts : Bool) : Yields (assignment depth counts) Within

theorem allWithin_zero : AllWithin 0 where
  operand _ := .throw _
  operation _ _ := .throw _
  behind _ _ _ ha := .pure ha
  conjunction _ := .throw _
  disjunction _ := .throw _
  choice _ := .throw _
  assignment _ := .throw _

namespace AllWithin

variable {depth : Nat} (h : AllWithin depth) (counts : Bool)
include h

theorem operand_succ : Yields (Arithmetic.operand (depth + 1) counts) Within := by
  unfold Arithmetic.operand
  refine .bind yields_get fun p hp => ?_
  split
  · rename_i value hvalue
    exact .bind yields_advance fun _ _ => .pure (hp.1 value hvalue)
  · refine .bind yields_advance fun _ _ => ?_
    split
    · exact yields_valueOf _
    · exact .pure (by decide)
  · refine .bind yields_advance fun _ _ => .bind (h.assignment counts) fun value hvalue => ?_
    refine .bind (yields_accept _) fun found _ => ?_
    dsimp only
    split
    · exact .bind (P := fun _ => True) (.throw _) fun _ _ => .pure hvalue
    · exact .pure hvalue
  · exact .bind yields_advance fun _ _ => h.operand counts
  · exact .bind yields_advance fun _ _ =>
      .bind (h.operand counts) fun _ _ => .pure (within_wrapped _)
  · exact .bind yields_advance fun _ _ =>
      .bind (h.operand counts) fun _ _ => .pure (within_truth _)
  · refine .bind yields_advance fun _ _ => .bind (h.operand counts) fun a ha => .pure ?_
    rw [within_iff] at ha ⊢
    omega
  · exact .throw _

theorem operation_succ (rank : Nat) :
    Yields (Arithmetic.operation (depth + 1) rank counts) Within := by
  unfold Arithmetic.operation
  exact .bind (h.operand counts) fun _ ha => h.behind rank counts ha

theorem behind_succ (rank : Nat) {a : Int} (ha : Within a) :
    Yields (operationBehind (depth + 1) rank counts a) Within := by
  unfold operationBehind
  refine .bind yields_get fun p hp => ?_
  split
  · split
    · split
      · refine .bind yields_advance fun _ _ => .bind (h.operation _ counts) fun b hb => ?_
        dsimp only
        split
        · exact .bind (yields_lift fun _ => within_apply ha hb) fun _ => h.behind rank counts
        · exact h.behind rank counts hb
      · exact .pure ha
    · exact .pure ha
  · exact .pure ha

theorem conjunction_succ : Yields (Arithmetic.conjunction (depth + 1) counts) Within := by
  unfold Arithmetic.conjunction
  refine .bind (h.operation 8 counts) fun a ha => .bind (yields_accept _) fun found _ => ?_
  split
  · exact .bind (h.conjunction _) fun _ _ => .pure (within_truth _)
  · exact .pure ha

theorem disjunction_succ : Yields (Arithmetic.disjunction (depth + 1) counts) Within := by
  unfold Arithmetic.disjunction
  refine .bind (h.conjunction counts) fun a ha => .bind (yields_accept _) fun found _ => ?_
  split
  · exact .bind (h.disjunction _) fun _ _ => .pure (within_truth _)
  · exact .pure ha

theorem choice_succ : Yields (Arithmetic.choice (depth + 1) counts) Within := by
  unfold Arithmetic.choice
  refine .bind (h.disjunction counts) fun a ha => .bind (yields_accept _) fun found _ => ?_
  split
  · refine .bind (h.assignment _) fun b hb => .bind (yields_accept _) fun found _ => ?_
    have hrest : Yields (do
        let c ← Arithmetic.choice depth (counts && a == 0)
        return if a != 0 then b else c) Within := by
      refine .bind (h.choice _) fun c hc => .pure ?_
      split
      · exact hb
      · exact hc
    dsimp only
    split
    · exact .bind (P := fun _ => True) (.throw _) fun _ _ => hrest
    · exact hrest
  · exact .pure ha

theorem assignment_succ : Yields (Arithmetic.assignment (depth + 1) counts) Within := by
  unfold Arithmetic.assignment
  refine .bind yields_get fun before hbefore => ?_
  split
  · rename_i name hname
    refine .bind yields_advance fun _ _ => .bind yields_get fun p hp => ?_
    dsimp only
    split
    · refine .bind yields_advance fun _ _ => .bind (h.assignment counts) fun value hvalue => ?_
      split
      · exact .pure hvalue
      · have hassign {value : Int} (hvalue : Within value) : Yields (do
            assign name value
            return value) Within :=
          .bind (yields_assign name hvalue) fun _ _ => .pure hvalue
        split
        · exact .bind (yields_valueOf name) fun old hold =>
            .bind (yields_lift fun _ => within_apply hold hvalue) fun _ => hassign
        · exact hassign hvalue
    · exact .bind (yields_set hbefore) fun _ _ => h.choice counts
  · exact h.choice counts

end AllWithin

theorem allWithin (depth : Nat) : AllWithin depth := by
  induction depth with
  | zero => exact allWithin_zero
  | succ depth ih =>
    exact ⟨ih.operand_succ, fun rank counts => ih.operation_succ counts rank,
      fun rank counts _ => ih.behind_succ counts rank, ih.conjunction_succ, ih.disjunction_succ,
      ih.choice_succ, ih.assignment_succ⟩

/-- **The value of an expression** and the values that it assigns are numbers of 64 bits with a
sign, whatever the variables hold. -/
theorem evaluate_within {value : String → Option String} {s : String} {o : Outcome}
    (h : evaluate value s = .ok o) : Within o.value ∧ ∀ e ∈ o.assigned, Within e.2 := by
  let start : Progress := ⟨(token s.toList).1, (token s.toList).2, [], value⟩
  have hstart : start.Sound :=
    ⟨fun n hn => within_token (Prod.ext hn rfl : token s.toList = (.number n, start.rest)), nofun⟩
  have hstep : evaluate value s = (assignment (10 * (s.length + 1)) true start >>= fun x =>
      if x.2.next == .finish then .ok ⟨x.1, x.2.assigned.reverse⟩
      else .error (.expecting "EOF")) := rfl
  rw [hstep] at h
  cases hrun : assignment (10 * (s.length + 1)) true start with
  | error e => rw [hrun] at h; cases h
  | ok x =>
    obtain ⟨hvalue, hend⟩ := (allWithin _).assignment true start x.1 x.2 hstart hrun
    rw [hrun] at h
    obtain ⟨-, h⟩ | ⟨-, h⟩ := ite_eq_iff.mp h <;> cases h
    exact ⟨hvalue, fun e he => hend.2 e (List.mem_reverse.mp he)⟩

end AdapterReport.Shell.Arithmetic
