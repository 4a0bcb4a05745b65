import AdapterReport.Text.CaseTable

/-!
# Lower case

`lower` is the full, context-dependent lower-case mapping of text: a capital sigma becomes a final
sigma where it ends a word, U+0130 becomes two characters, every other character goes by the table.
`slug` builds a section's key from its title.
-/

namespace AdapterReport.Text

/-- The lower-case form of one character, away from any context. -/
def lowerChar (c : Char) : List Char :=
  if c.toNat == 0x130 then ['i', '\u0307']
  else match lowerRuns.find? (·.covers c.toNat) with
    | some run => [Char.ofNat (Int.toNat (c.toNat + run.shift))]
    | none => [c]

/-- Whether the first character that is not case-ignorable is a cased one. -/
def startsCased (s : List Char) : Bool :=
  match s.dropWhile fun c => inRanges ignorableRanges c.toNat with
  | [] => false
  | c :: _ => inRanges casedRanges c.toNat

/-- Lowers `s`, which follows the characters `before`, the nearest one first. -/
def lowerAfter (before : List Char) : List Char → List Char
  | [] => []
  | c :: s =>
    (if c == 'Σ' then [if startsCased before && !startsCased s then 'ς' else 'σ'] else lowerChar c)
      ++ lowerAfter (c :: before) s

/-- The text in lower case. -/
def lower (s : String) : String :=
  String.ofList (lowerAfter [] s.toList)

/-- A title in lower case with its spaces replaced by underscores. -/
def slug (title : String) : String :=
  String.ofList ((lower title).toList.map fun c => if c == ' ' then '_' else c)

/-- The text with the letters `A` to `Z` in lower case and nothing else changed. -/
def lowerLatin (s : String) : String :=
  String.ofList (s.toList.map Char.toLower)

/-! ## Titles of ASCII characters -/

/-- A fact of all ASCII characters can be decided for their numbers. -/
theorem forall_ascii {P : Char → Prop} (h : ∀ n < 128, P (Char.ofNat n)) {c : Char}
    (hc : c.toNat < 128) : P c :=
  Char.ofNat_toNat c ▸ h c.toNat hc

theorem lowerChar_of_ascii {c : Char} (h : c.toNat < 128) : lowerChar c = [c.toLower] :=
  forall_ascii (P := fun c => lowerChar c = [c.toLower]) (by decide +kernel) h

theorem lowerAfter_of_ascii {s : List Char} (h : ∀ c ∈ s, c.toNat < 128) (before : List Char) :
    lowerAfter before s = s.map Char.toLower := by
  induction s generalizing before with
  | nil => rfl
  | cons c s ih =>
    rw [List.forall_mem_cons] at h
    have hsigma : (c == 'Σ') = false := by
      rw [beq_eq_false_iff_ne]
      rintro rfl
      exact absurd h.1 (by decide)
    rw [lowerAfter, hsigma, ih h.2, if_neg Bool.false_ne_true, lowerChar_of_ascii h.1]
    rfl

/-- Without other characters than those of ASCII, only `A` to `Z` have a lower-case form. -/
theorem lower_of_ascii {s : String} (h : ∀ c ∈ s.toList, c.toNat < 128) :
    lower s = lowerLatin s := by
  rw [lower, lowerLatin, lowerAfter_of_ascii h]

/-- The key of a title is its lower-case form, character by character, with `_` for a space. -/
theorem toList_slug (title : String) :
    (slug title).toList = (lower title).toList.map fun c => if c = ' ' then '_' else c := by
  simp [slug]

theorem toList_slug_of_ascii {title : String} (h : ∀ c ∈ title.toList, c.toNat < 128) :
    (slug title).toList = title.toList.map fun c => if c = ' ' then '_' else c.toLower := by
  rw [toList_slug, lower_of_ascii h, lowerLatin, String.toList_ofList, List.map_map]
  refine List.map_congr_left fun c hc => ?_
  have hspace : c.toLower = ' ' ↔ c = ' ' :=
    forall_ascii (P := fun c => c.toLower = ' ' ↔ c = ' ') (by decide) (h c hc)
  simp only [Function.comp_apply, hspace]

end AdapterReport.Text
