import AdapterReport.Text.Digits

/-!
# Literals of a script

A script has texts in code units of 16 bits and writes them as literals. `literalFrom` reads a
literal in double quotes behind its opening quote, with all escapes that a script engine knows, and
`argument?` reads a call of `toggle` with a literal.

* `literalFrom_spec`: a literal has no more code units than the text between its quotes, and fewer
  if something in that text is not taken as it is.
* `argument?_iff`: a text that is put between the quotes is the value of the literal exactly if no
  character of it means something there.
-/

namespace AdapterReport.Html.Script

/-! ## The reader -/

/-- The code units of a character with this number: one up to U+FFFF, else two halves. -/
def codeUnits (n : Nat) : List UInt16 :=
  if n < 0x10000 then [.ofNat n]
  else [.ofNat (0xD800 + (n - 0x10000) / 0x400), .ofNat (0xDC00 + (n - 0x10000) % 0x400)]

/-- A text as a script has it. -/
def units (cs : List Char) : List UInt16 :=
  cs.flatMap fun c => codeUnits c.toNat

/-- What stands behind a backslash. -/
structure Escape where
  value : List UInt16
  /-- How many characters behind the backslash belong to it. -/
  size : Nat

/-- The number that hexadecimal digits spell. -/
def hexNumber? (digits : List Char) : Option Nat :=
  digits.foldlM (fun n c => (Text.hexDigit? c).map (16 * n + ·)) 0

/-- A code unit in this many digits behind a letter. -/
def fixedEscape? (count : Nat) (cs : List Char) : Option Escape :=
  if count ≤ cs.length then
    (hexNumber? (cs.take count)).map fun n => ⟨[.ofNat n], count + 1⟩
  else none

/-- A character in any number of digits behind a letter and a brace, up to the closing brace. -/
def bracedEscape? (cs : List Char) : Option Escape :=
  let digits := cs.takeWhile (· ≠ '\x7d')
  (hexNumber? digits).bind fun n =>
    if digits ≠ [] ∧ digits.length < cs.length ∧ n ≤ 0x10FFFF then
      some ⟨codeUnits n, digits.length + 3⟩
    else none

/-- Whether the character is an octal digit. -/
def isOctal (c : Char) : Bool :=
  '0' ≤ c && c ≤ '7'

/-- A code unit in octal digits, of which the first one is given: three at most, and two if three
could be more than 255. -/
def octalEscape (first : Char) (rest : List Char) : Escape :=
  let digits := first :: (rest.take (if first ≤ '3' then 2 else 1)).takeWhile isOctal
  ⟨[.ofNat (digits.foldl (fun n c => 8 * n + Text.digitValue c) 0)], digits.length⟩

/-- The characters that end a line; behind a backslash they stand for nothing. -/
def lineEnds : List Char := ['\n', '\x0d', '\u2028', '\u2029']

/-- The letters that stand for a control character. -/
def controls : List (Char × Nat) :=
  [('b', 8), ('t', 9), ('n', 10), ('v', 11), ('f', 12), ('r', 13)]

/-- The number of the character that a single character behind a backslash stands for. -/
def escapedNumber (c : Char) : Nat :=
  match controls.find? (·.1 = c) with
  | some control => control.2
  | none => c.toNat

/-- What the text behind a backslash begins with. -/
def escape? : List Char → Option Escape
  | [] => none
  | c :: rest =>
    if c = 'x' then fixedEscape? 2 rest
    else if c = 'u' then
      if rest.head? = some '\x7b' then bracedEscape? rest.tail else fixedEscape? 4 rest
    else if isOctal c then some (octalEscape c rest)
    else if c = '\x0d' ∧ rest.head? = some '\n' then some ⟨[], 2⟩
    else if c ∈ lineEnds then some ⟨[], 1⟩
    else some ⟨codeUnits (escapedNumber c), 1⟩

/-- The value of a literal and what follows its closing quote. So many characters are passed over,
as a part of an escape; a line must not end in a literal. -/
def literalFrom : Nat → List Char → Option (List UInt16 × List Char)
  | _, [] => none
  | skip + 1, _ :: rest => literalFrom skip rest
  | 0, c :: rest =>
    if c = '\x22' then some ([], rest)
    else if c = '\\' then
      (escape? rest).bind fun e =>
        (literalFrom e.size rest).map fun read => (e.value ++ read.1, read.2)
    else if c = '\n' ∨ c = '\x0d' then none
    else (literalFrom 0 rest).map fun read => (codeUnits c.toNat ++ read.1, read.2)

/-- The argument of the call of `toggle` with which the code begins, and what follows the call. -/
def argument? (code : List Char) : Option (List UInt16 × List Char) :=
  if "toggle(\"".toList <+: code then
    match literalFrom 0 (code.drop "toggle(\"".length) with
    | some (value, ')' :: rest) => some (value, rest)
    | _ => none
  else none

-- an escape is read, and a quote in the text closes the literal
example : argument? "toggle(\"a\\x62\\n\");".toList = some (units "ab\n".toList, [';']) := by decide
example : argument? "toggle(\"a\"b\");".toList = none := by decide

/-! ## Code units -/

theorem length_codeUnits (n : Nat) :
    (codeUnits n).length = if n < 0x10000 then 1 else 2 := by
  unfold codeUnits
  split <;> rfl

theorem codeUnits_pos (n : Nat) : 0 < (codeUnits n).length := by
  rw [length_codeUnits]
  split <;> decide

theorem units_cons (c : Char) (cs : List Char) : units (c :: cs) = codeUnits c.toNat ++ units cs :=
  rfl

theorem units_append (cs ds : List Char) : units (cs ++ ds) = units cs ++ units ds :=
  List.flatMap_append

/-- A text has no more characters than code units. -/
theorem length_le_units (cs : List Char) : cs.length ≤ (units cs).length := by
  induction cs with
  | nil => exact Nat.le_refl 0
  | cons c cs ih =>
    have hpos := codeUnits_pos c.toNat
    rw [units_cons, List.length_append, List.length_cons]
    omega

/-! ## Escapes -/

theorem fixedEscape?_length {count : Nat} {c : Char} {rest : List Char} {e : Escape}
    (h : fixedEscape? count rest = some e) :
    e.value.length ≤ (units ((c :: rest).take e.size)).length := by
  obtain ⟨hcount, h⟩ := Option.ite_none_right_eq_some.mp h
  obtain ⟨n, -, rfl⟩ := Option.map_eq_some_iff.mp h
  refine Nat.le_trans ?_ (length_le_units _)
  simp

theorem bracedEscape?_length {c d : Char} {rest : List Char} {e : Escape}
    (h : bracedEscape? rest = some e) :
    e.value.length ≤ (units ((c :: d :: rest).take e.size)).length := by
  obtain ⟨n, -, h⟩ := Option.bind_eq_some_iff.mp h
  obtain ⟨-, h⟩ := Option.ite_none_right_eq_some.mp h
  cases h
  have htwo : (codeUnits n).length ≤ 2 := by
    rw [length_codeUnits]
    split <;> decide
  refine Nat.le_trans (Nat.le_trans htwo ?_) (length_le_units _)
  simp

theorem octalEscape_length (first : Char) (rest : List Char) :
    (octalEscape first rest).value.length ≤
      (units ((first :: rest).take (octalEscape first rest).size)).length := by
  refine Nat.le_trans ?_ (length_le_units _)
  simp [octalEscape]

/-- A control character has one code unit, and so has the letter that stands for it. -/
theorem escapedNumber_length (c : Char) :
    (codeUnits (escapedNumber c)).length ≤ (codeUnits c.toNat).length := by
  have hcontrols : ∀ e ∈ controls, (codeUnits e.2).length = 1 := by decide
  unfold escapedNumber
  cases hfind : controls.find? (·.1 = c) with
  | none => exact Nat.le_refl _
  | some control =>
    rw [hcontrols control (List.mem_of_find?_eq_some hfind)]
    exact codeUnits_pos c.toNat

/-- **An escape** has no more code units than the characters that belong to it. -/
theorem escape?_length {cs : List Char} {e : Escape} (h : escape? cs = some e) :
    e.value.length ≤ (units (cs.take e.size)).length := by
  cases cs with
  | nil => cases h
  | cons c rest =>
    rw [escape?] at h
    split at h
    · exact fixedEscape?_length h
    split at h
    · split at h
      · rename_i hbrace
        obtain ⟨d, more, rfl⟩ : ∃ d more, rest = d :: more :=
          List.exists_cons_of_ne_nil fun hnil => by simp [hnil] at hbrace
        exact bracedEscape?_length h
      · exact fixedEscape?_length h
    split at h
    · cases h
      exact octalEscape_length c rest
    split at h
    · cases h
      exact Nat.zero_le _
    split at h
    · cases h
      exact Nat.zero_le _
    · cases h
      simpa [units] using escapedNumber_length c

/-! ## Literals -/

/-- The characters that are not taken as they are between double quotes. -/
def special : List Char := ['\x22', '\\', '\n', '\x0d']

/-- **A literal** ends at a quote, and its value has no more code units than the text before that
quote. It has fewer if the text has a special character. -/
theorem literalFrom_spec {skip : Nat} {cs rest : List Char} {value : List UInt16}
    (h : literalFrom skip cs = some (value, rest)) :
    ∃ inner, cs = inner ++ '\x22' :: rest ∧ skip ≤ inner.length ∧
      value.length ≤ (units (inner.drop skip)).length ∧
      (value.length = (units (inner.drop skip)).length → ∀ c ∈ inner.drop skip, c ∉ special) := by
  induction cs generalizing skip value with
  | nil => cases h
  | cons c cs ih =>
    cases skip with
    | succ skip =>
      obtain ⟨inner, rfl, hskip, hle, heq⟩ := ih h
      exact ⟨c :: inner, rfl, Nat.succ_le_succ hskip, hle, heq⟩
    | zero =>
      rw [literalFrom] at h
      split at h
      · -- the closing quote
        rename_i hc
        cases h
        exact ⟨[], by rw [hc]; rfl, Nat.le_refl 0, Nat.le_refl 0, nofun⟩
      split at h
      · -- an escape: its backslash is a code unit more than its value has
        rename_i hc
        obtain ⟨e, he, h⟩ := Option.bind_eq_some_iff.mp h
        obtain ⟨⟨more, behind⟩, hmore, heq⟩ := Option.map_eq_some_iff.mp h
        obtain ⟨rfl, rfl⟩ : e.value ++ more = value ∧ behind = rest := Prod.mk.inj heq
        obtain ⟨inner, rfl, hskip, hle, -⟩ := ih hmore
        have hvalue := escape?_length he
        rw [List.take_append_of_le_length hskip] at hvalue
        have hsum : (units inner).length =
            (units (inner.take e.size)).length + (units (inner.drop e.size)).length := by
          rw [← List.length_append, ← units_append, List.take_append_drop]
        have hpos := codeUnits_pos c.toNat
        refine ⟨c :: inner, rfl, Nat.zero_le _, ?_, fun heq => ?_⟩
        · rw [List.drop_zero, units_cons, List.length_append, List.length_append]
          omega
        · rw [List.drop_zero, units_cons, List.length_append, List.length_append] at heq
          omega
      split at h
      · cases h
      · rename_i hquote hbackslash hline
        obtain ⟨⟨more, behind⟩, hmore, heq⟩ := Option.map_eq_some_iff.mp h
        obtain ⟨rfl, rfl⟩ : codeUnits c.toNat ++ more = value ∧ behind = rest := Prod.mk.inj heq
        obtain ⟨inner, rfl, -, hle, hplain⟩ := ih hmore
        rw [List.drop_zero] at hle hplain
        refine ⟨c :: inner, rfl, Nat.zero_le _, ?_, fun heq => ?_⟩
        · rw [List.drop_zero, units_cons, List.length_append, List.length_append]
          omega
        · rw [List.drop_zero, units_cons, List.length_append, List.length_append] at heq
          rw [List.drop_zero, List.forall_mem_cons]
          refine ⟨?_, hplain (by omega)⟩
          rw [not_or] at hline
          simp [special, hquote, hbackslash, hline]

/-- A text without special characters is taken as it is. -/
theorem literalFrom_plain {s : List Char} (h : ∀ c ∈ s, c ∉ special) (tail : List Char) :
    literalFrom 0 (s ++ '\x22' :: tail) = some (units s, tail) := by
  induction s with
  | nil => rfl
  | cons c s ih =>
    obtain ⟨hc, hs⟩ := List.forall_mem_cons.mp h
    simp only [special, List.mem_cons, List.not_mem_nil, or_false, not_or] at hc
    rw [List.cons_append, literalFrom, if_neg hc.1, if_neg hc.2.1, if_neg (not_or.mpr hc.2.2),
      ih hs]
    rfl

/-- A literal whose value is the text before a quote has that text between its quotes, if no other
quote follows. -/
theorem inner_eq {s inner rest tail : List Char} (htail : '\x22' ∉ tail)
    (heq : s ++ '\x22' :: tail = inner ++ '\x22' :: rest)
    (hle : (units s).length ≤ (units inner).length) : inner = s := by
  rcases List.append_eq_append_iff.mp heq with ⟨more, rfl, hmore⟩ | ⟨more, rfl, hmore⟩
  · cases more with
    | nil => exact List.append_nil s
    | cons c more =>
      -- the literal would end at a quote behind the first one
      obtain ⟨-, rfl⟩ := List.cons.inj hmore
      exact absurd (List.mem_append_right more List.mem_cons_self) htail
  · cases more with
    | nil => exact (List.append_nil inner).symm
    | cons c more =>
      have hpos := codeUnits_pos c.toNat
      rw [units_append, units_cons, List.length_append, List.length_append] at hle
      omega

theorem argument?_eq_some_iff {code rest : List Char} {value : List UInt16} :
    argument? ("toggle(\"".toList ++ code) = some (value, rest) ↔
      literalFrom 0 code = some (value, ')' :: rest) := by
  have hdrop : ("toggle(\"".toList ++ code).drop "toggle(\"".length = code := List.drop_left
  rw [argument?, if_pos (List.prefix_append _ _), hdrop]
  constructor
  · intro h
    split at h
    · rename_i hliteral
      cases h
      exact hliteral
    · cases h
  · intro h
    rw [h]
    rfl

/-- **A text in a call of `toggle`** is the argument of the call exactly if it has no special
character, and then the call ends behind it. What follows the call must have no quote. -/
theorem argument?_iff {s after rest : List Char} (hafter : '\x22' ∉ after) :
    argument? ("toggle(\"".toList ++ (s ++ '\x22' :: ')' :: after)) = some (units s, rest) ↔
      (∀ c ∈ s, c ∉ special) ∧ rest = after := by
  have htail : '\x22' ∉ ')' :: after := by simpa using hafter
  rw [argument?_eq_some_iff]
  constructor
  · intro h
    have hplain : ∀ c ∈ s, c ∉ special := by
      obtain ⟨inner, heq, -, hle, hinner⟩ := literalFrom_spec h
      rw [inner_eq htail heq hle] at hinner
      exact hinner rfl
    rw [literalFrom_plain hplain] at h
    obtain ⟨-, hrest⟩ := Prod.mk.inj (Option.some.inj h)
    exact ⟨hplain, (List.cons.inj hrest).2.symm⟩
  · rintro ⟨hplain, rfl⟩
    exact literalFrom_plain hplain _

end AdapterReport.Html.Script
