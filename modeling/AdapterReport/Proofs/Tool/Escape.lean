import AdapterReport.Tool.Utility.Escape
import AdapterReport.Tool.Utility.Quoting
import Mathlib.Logic.Basic

/-!
# Texts with escapes

* `Escape.read_of_plain`: a text without backslashes stands for itself.
* `Escape.read_doubled`: with its backslashes doubled any text stands for itself, whatever escapes
  are known.
* `Escape.read_quoted`: what the utilities show of a text in quotes is read back, as the formats of
  `printf` are read.
-/

namespace AdapterReport.Escape

variable {style : EscapeStyle} {s : List Char} {c : Char}

/-! ## Between escapes -/

/-- Where an octal number has all its digits, its byte counts as read. -/
def Progress.settled (p : Progress) : Progress :=
  match p.begun with
  | .octal 0 value => ⟨byte value :: p.read, .nothing⟩
  | _ => p

theorem step_settled (p : Progress) : step style p.settled c = step style p c := by
  obtain ⟨read, begun⟩ := p
  cases begun with
  | octal digits value => cases digits <;> rfl
  | _ => rfl

theorem finish_settled (p : Progress) : p.settled.finish style = p.finish style := by
  obtain ⟨read, begun⟩ := p
  cases begun with
  | octal digits value => cases digits <;> rfl
  | _ => rfl

theorem foldl_settled (s : List Char) (p : Progress) :
    (s.foldl (step style) p.settled).settled = (s.foldl (step style) p).settled := by
  cases s with
  | nil =>
    obtain ⟨read, begun⟩ := p
    cases begun with
    | octal digits value => cases digits <;> rfl
    | _ => rfl
  | cons c s => rw [List.foldl_cons, step_settled, List.foldl_cons]

/-- From between two escapes the text leads to between two escapes, and stands for the bytes. -/
def Reads (style : EscapeStyle) (text bytes : List Char) : Prop :=
  ∀ read, (text.foldl (step style) ⟨read, .nothing⟩).settled = ⟨bytes.reverse ++ read, .nothing⟩

theorem Reads.append {a b x y : List Char} (ha : Reads style a x) (hb : Reads style b y) :
    Reads style (a ++ b) (x ++ y) := by
  intro read
  rw [List.foldl_append, ← foldl_settled, ha read, hb, List.reverse_append, List.append_assoc]

theorem Reads.flatMap {f : Char → List Char} (h : ∀ c ∈ s, Reads style (f c) [c]) :
    Reads style (s.flatMap f) s := by
  induction s with
  | nil => exact fun _ => rfl
  | cons c s ih =>
    rw [List.flatMap_cons]
    exact (h c List.mem_cons_self).append (ih fun d hd => h d (List.mem_cons_of_mem c hd))

theorem Reads.read_eq {text bytes : List Char} (h : Reads style text bytes) :
    Escape.read style text = (bytes, .complete) := by
  rw [Escape.read, ← finish_settled, h []]
  exact congrArg (·, EscapeEnd.complete) (by rw [List.append_nil, List.reverse_reverse])

/-! ## One byte -/

theorem reads_plain (h : c ≠ '\\') : Reads style [c] [c] := by
  intro read
  simp [step, plain, h, Progress.settled]

theorem reads_backslash : Reads style ['\\', '\\'] ['\\'] := fun _ => rfl

theorem octalDigit?_digitChar : ∀ d < 8, octalDigit? d.digitChar = some d := by
  decide

/-- Three octal digits stand for their byte where no zero may stand before them. -/
theorem reads_octal (hzero : style.leadingZero = false) (h : c.toNat < 256) :
    Reads style ('\\' :: Quoting.octal c.toNat) [c] := by
  intro read
  have hfirst := octalDigit?_digitChar (c.toNat / 64) (by omega)
  have hsecond := octalDigit?_digitChar (c.toNat / 8 % 8) (by omega)
  have hthird := octalDigit?_digitChar (c.toNat % 8) (by omega)
  have hbegin : afterBackslash style read (c.toNat / 64).digitChar =
      ⟨read, .octal 2 (c.toNat / 64)⟩ := by
    simp only [afterBackslash, hfirst, hzero]
    cases c.toNat / 64 <;> rfl
  have hvalue : (c.toNat / 64 * 8 + c.toNat / 8 % 8) * 8 + c.toNat % 8 = c.toNat := by
    omega
  have hbyte : byte c.toNat = c := by
    rw [byte, Nat.mod_eq_of_lt h, Char.ofNat_toNat]
  show (step style (step style (afterBackslash style read _) _) _).settled = _
  rw [hbegin]
  simp only [step, hsecond, hthird, hvalue, Progress.settled, hbyte]
  rfl

theorem letter?_of_escapeLetter? {letter : Char} (h : Quoting.escapeLetter? c = some letter) :
    octalDigit? letter = none ∧ letter? letter = some c := by
  have hlt : c.toNat < 14 := by
    unfold Quoting.escapeLetter? at h
    split at h
    case h_8 => cases h
    all_goals omega
  have hall : ∀ n < 14, (Quoting.escapeLetter? (Char.ofNat n)).all (fun letter =>
      octalDigit? letter == none && letter? letter == some (Char.ofNat n)) = true := by
    decide
  have hc := hall c.toNat hlt
  rw [Char.ofNat_toNat, h, Option.all_some, Bool.and_eq_true, beq_iff_eq, beq_iff_eq] at hc
  exact hc

theorem reads_letter {letter : Char} (h : Quoting.escapeLetter? c = some letter) :
    Reads style ['\\', letter] [c] := by
  obtain ⟨hdigit, hletter⟩ := letter?_of_escapeLetter? h
  intro read
  show (afterBackslash style read letter).settled = _
  rw [afterBackslash, hdigit, hletter]
  rfl

/-- What is shown of a byte. Behind a backslash a single quote would keep it. -/
theorem reads_shown (hzero : style.leadingZero = false) (h : c.toNat < 256) (hquote : c ≠ '\x27') :
    Reads style (Quoting.shown c) [c] := by
  unfold Quoting.shown Quoting.escaped?
  cases hprintable : Quoting.isPrintable c with
  | true =>
    by_cases hc : c = '\\'
    · subst hc
      exact reads_backslash
    · simpa [hquote, hc] using reads_plain hc
  | false =>
    cases hletter : Quoting.escapeLetter? c with
    | some letter => exact reads_letter hletter
    | none => exact reads_octal hzero h

/-! ## Texts -/

/-- A text without backslashes. -/
theorem read_of_plain (h : '\\' ∉ s) : Escape.read style s = (s, .complete) := by
  have hreads : Reads style (s.flatMap fun c => [c]) s :=
    .flatMap fun c hc => reads_plain (ne_of_mem_of_not_mem hc h)
  rw [← hreads.read_eq, List.flatMap_singleton']

/-- **Doubled backslashes** make any text stand for itself. -/
theorem read_doubled (style : EscapeStyle) (s : List Char) :
    Escape.read style (s.flatMap fun c => if c = '\\' then ['\\', '\\'] else [c]) =
      (s, .complete) := by
  refine Reads.read_eq (.flatMap fun c _ => ?_)
  by_cases h : c = '\\'
  · rw [if_pos h, h]
    exact reads_backslash
  · rw [if_neg h]
    exact reads_plain h

/-- **A text that was shown in quotes** is read back, unless it holds a single quote itself. -/
theorem read_quoted (hzero : style.leadingZero = false) (hbytes : ∀ c ∈ s, c.toNat < 256)
    (hquote : '\x27' ∉ s) : Escape.read style (s.flatMap Quoting.shown) = (s, .complete) :=
  Reads.read_eq (.flatMap fun c hc =>
    reads_shown hzero (hbytes c hc) (ne_of_mem_of_not_mem hc hquote))

end AdapterReport.Escape
