import AdapterReport.Host.ToolText
import AdapterReport.Proofs.Text.Blank
import AdapterReport.Proofs.Text.Digits
import AdapterReport.Proofs.Text.Lines

/-!
# The memory figures of the kernel

`memory_grammar`: the figures of a text are those of its lines `name: figure kB`, the last one for
each name, and the summary has total and free memory exactly if both are among them.

* `FigureLine`, `memoryLine?_eq_some_iff`: which lines have a figure.
* `lookup_setValue`, `nodup_setValue`: setting a value in a list of keys that differ.
* `memoryText`, `memoryFields_memoryText`: figures that are written in lines are read back.
-/

namespace AdapterReport

open Text

/-! ## One line -/

/-- The line has a name without colons, a colon, decimal digits that spell the value, and the unit
behind them, with blanks around the digits only. What follows the unit does not matter. -/
def FigureLine (name line : String) (value : UInt64) : Prop :=
  ∃ gap digits gap' rest, line = name ++ ":" ++ gap ++ digits ++ gap' ++ "kB" ++ rest ∧
    name ≠ "" ∧ ':' ∉ name.toList ∧ AllBlank gap.toList ∧ AllBlank gap'.toList ∧ digits ≠ "" ∧
    (∀ c ∈ digits.toList, c.isDigit = true) ∧
    Nat.ofDigitChars 10 digits.toList 0 = value.toNat

section
variable {c : Char} {blanks digits rest : List Char}

theorem isDigit_of_isBlank (h : isBlank c = true) : c.isDigit = false := by
  rw [Bool.eq_false_iff]
  intro hdigit
  simp only [isBlank, Char.toNat, Bool.or_eq_true, Bool.and_eq_true, decide_eq_true_eq,
    beq_iff_eq] at h
  simp only [Char.isDigit, Bool.and_eq_true, decide_eq_true_eq, UInt32.le_iff_toNat_le] at hdigit
  have hlow : ('0' : Char).val.toNat = 48 := rfl
  have hhigh : ('9' : Char).val.toNat = 57 := rfl
  omega

theorem dropBlanks_run (hblanks : AllBlank blanks)
    (hrest : ∀ c, rest.head? = some c → isBlank c = false) : dropBlanks (blanks ++ rest) = rest :=
  dropWhile_run hblanks hrest

/-- Digits end where the blanks before the unit begin, or the unit. -/
theorem isDigit_head_unit (hblanks : AllBlank blanks) :
    ∀ c, (blanks ++ 'k' :: rest).head? = some c → c.isDigit = false := by
  intro c hc
  cases blanks with
  | nil =>
    cases hc
    decide
  | cons b blanks =>
    cases hc
    exact isDigit_of_isBlank (hblanks _ List.mem_cons_self)

end

theorem memoryLine?_of_figureLine {name line : String} {value : UInt64}
    (h : FigureLine name line value) : memoryLine? line.toList = some (name, value) := by
  obtain ⟨gap, digits, gap', rest, rfl, hname, hcolon, hgap, hgap', hne, hdigits, hvalue⟩ := h
  have hchars : (name ++ ":" ++ gap ++ digits ++ gap' ++ "kB" ++ rest).toList = name.toList ++
      ':' :: (gap.toList ++ (digits.toList ++ (gap'.toList ++ 'k' :: 'B' :: rest.toList))) := by
    simp
  have hdigitsNe : digits.toList ≠ [] := mt String.toList_eq_nil_iff.mp hne
  obtain ⟨d, ds, hd⟩ := List.exists_cons_of_ne_nil hdigitsNe
  have hfirst : isBlank d = false := by
    rw [Bool.eq_false_iff]
    intro hblank
    have hdigit := hdigits d (hd ▸ List.mem_cons_self)
    rw [isDigit_of_isBlank hblank] at hdigit
    cases hdigit
  have hfigure : dropBlanks (gap.toList ++ (digits.toList ++
      (gap'.toList ++ 'k' :: 'B' :: rest.toList))) =
      digits.toList ++ (gap'.toList ++ 'k' :: 'B' :: rest.toList) := by
    refine dropBlanks_run hgap fun c hc => ?_
    rw [hd] at hc
    cases hc
    exact hfirst
  have hunit :
      dropBlanks (gap'.toList ++ 'k' :: 'B' :: rest.toList) = 'k' :: 'B' :: rest.toList := by
    refine dropBlanks_run hgap' fun c hc => ?_
    cases hc
    decide
  have hnat : natOfDigits digits.toList = value.toNat := (natOfDigits_eq _).trans hvalue
  have hlt : value.toNat < UInt64.size := value.toNat_lt
  unfold memoryLine?
  rw [hchars, splitAtFirst_piece hcolon]
  simp only [Option.bind_eq_bind, Option.bind_some, hfigure,
    takeWhile_run hdigits (isDigit_head_unit hgap'),
    dropWhile_run hdigits (isDigit_head_unit hgap'), hunit, hnat, String.ofList_toList,
    UInt64.ofNat_toNat]
  refine if_pos ?_
  simp [hname, hdigitsNe, hlt]

theorem figureLine_of_memoryLine? {name : String} {line : List Char} {value : UInt64}
    (h : memoryLine? line = some (name, value)) : FigureLine name (String.ofList line) value := by
  unfold memoryLine? at h
  obtain ⟨⟨front, behind⟩, hsplit, hread⟩ := Option.bind_eq_some_iff.mp h
  clear h
  obtain ⟨rfl, hcolon⟩ := splitAtFirst_eq_some_iff.mp hsplit
  obtain ⟨hcond, heq⟩ := Option.ite_none_right_eq_some.mp hread
  cases heq
  simp only [Bool.and_eq_true, Bool.not_eq_true', List.isEmpty_eq_false_iff, decide_eq_true_eq,
    List.isPrefixOf_iff_prefix] at hcond
  obtain ⟨⟨⟨hname, hdigits⟩, rest, hunit⟩, hlt⟩ := hcond
  refine ⟨String.ofList (behind.takeWhile isBlank),
    String.ofList ((dropBlanks behind).takeWhile Char.isDigit),
    String.ofList (((dropBlanks behind).dropWhile Char.isDigit).takeWhile isBlank),
    String.ofList rest, ?_, ?_, ?_, ?_, ?_, ?_, ?_, ?_⟩
  · rw [← String.toList_inj]
    have hbehind : behind.takeWhile isBlank ++ ((dropBlanks behind).takeWhile Char.isDigit ++
        (((dropBlanks behind).dropWhile Char.isDigit).takeWhile isBlank ++
          ("kB".toList ++ rest))) = behind := by
      rw [hunit]
      unfold dropBlanks
      rw [List.takeWhile_append_dropWhile, List.takeWhile_append_dropWhile,
        List.takeWhile_append_dropWhile]
    conv => lhs; rw [← hbehind]
    simp
  · rwa [ne_eq, ← String.toList_eq_nil_iff, String.toList_ofList]
  · rwa [String.toList_ofList]
  · rw [String.toList_ofList]
    exact fun c hc => List.mem_takeWhile_imp hc
  · rw [String.toList_ofList]
    exact fun c hc => List.mem_takeWhile_imp hc
  · rwa [ne_eq, ← String.toList_eq_nil_iff, String.toList_ofList]
  · rw [String.toList_ofList]
    exact fun c hc => List.mem_takeWhile_imp hc
  · rw [String.toList_ofList, ← natOfDigits_eq, UInt64.toNat_ofNat_of_lt' hlt]

theorem memoryLine?_eq_some_iff {name line : String} {value : UInt64} :
    memoryLine? line.toList = some (name, value) ↔ FigureLine name line value := by
  constructor
  · intro h
    have hline := figureLine_of_memoryLine? h
    rwa [String.ofList_toList] at hline
  · exact memoryLine?_of_figureLine

/-! ## Setting values -/

section
variable {α : Type} {key name : String} {value : α} {fields : List (String × α)}

theorem lookup_cons_eq_ite (name key : String) (value : α) (fields : List (String × α)) :
    ((key, value) :: fields).lookup name =
      if name = key then some value else fields.lookup name := by
  rw [List.lookup_cons]
  by_cases h : name = key
  · rw [beq_iff_eq.mpr h, if_pos h]
  · rw [beq_eq_false_iff_ne.mpr h, if_neg h]

theorem lookup_setValue (key : String) (value : α) (fields : List (String × α)) (name : String) :
    (setValue key value fields).lookup name =
      if name = key then some value else fields.lookup name := by
  induction fields with
  | nil => rw [setValue, lookup_cons_eq_ite]
  | cons f fields ih =>
    obtain ⟨k, v⟩ := f
    rw [setValue]
    by_cases hk : k = key
    · subst hk
      rw [if_pos rfl, lookup_cons_eq_ite, lookup_cons_eq_ite]
      by_cases h : name = k <;> simp [h]
    · rw [if_neg hk, lookup_cons_eq_ite, lookup_cons_eq_ite, ih]
      by_cases h : name = k
      · subst h
        simp [hk]
      · simp [h]

theorem map_fst_setValue (key : String) (value : α) (fields : List (String × α)) :
    (setValue key value fields).map (·.1) =
      if key ∈ fields.map (·.1) then fields.map (·.1) else fields.map (·.1) ++ [key] := by
  induction fields with
  | nil => rfl
  | cons f fields ih =>
    obtain ⟨k, v⟩ := f
    unfold setValue
    by_cases hk : k = key
    · simp [hk]
    · rw [if_neg hk, List.map_cons, ih]
      by_cases hmem : key ∈ fields.map (·.1) <;> simp [hmem, Ne.symm hk]

theorem nodup_setValue (h : (fields.map (·.1)).Nodup) :
    ((setValue key value fields).map (·.1)).Nodup := by
  rw [map_fst_setValue]
  split
  · exact h
  · rename_i hmem
    exact List.nodup_append.mpr ⟨h, by simp, fun a ha b hb => by
      rintro rfl
      exact hmem (List.mem_singleton.mp hb ▸ ha)⟩

end

/-! ## All lines -/

/-- The figure that a line has for a name. -/
def figure (name line : String) : Option UInt64 :=
  (memoryLine? line.toList).bind fun f => if name = f.1 then some f.2 else none

theorem figure_eq_some_iff (name line : String) (value : UInt64) :
    figure name line = some value ↔ FigureLine name line value := by
  rw [← memoryLine?_eq_some_iff, figure, Option.bind_eq_some_iff]
  constructor
  · rintro ⟨⟨other, v⟩, hline, h⟩
    obtain ⟨rfl, hv⟩ := Option.ite_none_right_eq_some.mp h
    cases hv
    exact hline
  · intro hline
    exact ⟨(name, value), hline, if_pos rfl⟩

/-- Takes over the figure of a line. -/
def addFigure (fields : List (String × UInt64)) (line : String) : List (String × UInt64) :=
  match memoryLine? line.toList with
  | some f => setValue f.1 f.2 fields
  | none => fields

theorem memoryFields_eq (text : String) :
    memoryFields text = (lines text).foldl addFigure [] := by
  rw [memoryFields, List.foldl_filterMap]
  congr 1
  funext fields line
  unfold addFigure
  cases memoryLine? line.toList <;> rfl

theorem lookup_addFigure (name : String) (fields : List (String × UInt64)) (line : String) :
    (addFigure fields line).lookup name = (figure name line).or (fields.lookup name) := by
  unfold addFigure figure
  rcases memoryLine? line.toList with _ | ⟨key, value⟩
  · rfl
  · dsimp only
    rw [lookup_setValue, Option.bind_some]
    by_cases h : name = key <;> simp [h]

theorem lookup_memoryFields (name text : String) :
    (memoryFields text).lookup name = lastGiven (figure name) (lines text) := by
  have h := get_foldl (List.lookup name) (lookup_addFigure name) (lines text) []
  rwa [List.lookup_nil, Option.or_none, ← memoryFields_eq] at h

theorem nodup_memoryFields (text : String) : ((memoryFields text).map (·.1)).Nodup := by
  have hrun (lines : List String) : ∀ fields : List (String × UInt64),
      (fields.map (·.1)).Nodup → ((lines.foldl addFigure fields).map (·.1)).Nodup := by
    induction lines with
    | nil => exact fun _ h => h
    | cons line lines ih =>
      intro fields h
      refine ih _ ?_
      unfold addFigure
      split
      · exact nodup_setValue h
      · exact h
  rw [memoryFields_eq]
  exact hrun _ [] List.nodup_nil

/-! ## Figures that are written -/

/-- A figure in a line of its own. -/
def figureText (f : String × UInt64) : String :=
  f.1 ++ ": " ++ decimalPadded 1 f.2.toNat ++ " kB"

/-- Figures in lines of their own. -/
def memoryText (figures : List (String × UInt64)) : String :=
  String.join (figures.map fun f => figureText f ++ "\n")

/-- The name can be told from the rest of its line. -/
structure Nameable (name : String) : Prop where
  ne_empty : name ≠ ""
  noColon : ':' ∉ name.toList
  oneLine : '\n' ∉ name.toList

section
variable {f : String × UInt64} {figures : List (String × UInt64)}

theorem figureLine_figureText (h : Nameable f.1) : FigureLine f.1 (figureText f) f.2 := by
  have hblank : AllBlank " ".toList := by simp [AllBlank, isBlank]
  refine ⟨" ", decimalPadded 1 f.2.toNat, " ", "", ?_, h.ne_empty, h.noColon, hblank, hblank, ?_,
    fun c hc => isDigit_of_mem_decimalPadded hc, ?_⟩
  · rw [← String.toList_inj]
    simp [figureText]
  · rw [ne_eq, ← String.toList_eq_nil_iff, toList_decimalPadded_one]
    exact Nat.toDigits_ne_nil
  · rw [← natOfDigits_eq, natOfDigits_decimalPadded_one]

theorem not_mem_figureText (h : Nameable f.1) : '\n' ∉ (figureText f).toList := by
  have hdigits : '\n' ∉ (decimalPadded 1 f.2.toNat).toList := by
    intro hmem
    have hdigit := isDigit_of_mem_decimalPadded hmem
    revert hdigit
    decide
  have hname := h.oneLine
  simp [figureText, hname, hdigits]

theorem lines_memoryText (h : ∀ f ∈ figures, Nameable f.1) :
    lines (memoryText figures) = figures.map figureText := by
  unfold lines
  induction figures with
  | nil => rfl
  | cons f figures ih =>
    obtain ⟨hf, hfigures⟩ := List.forall_mem_cons.mp h
    have hchars : (memoryText (f :: figures)).toList =
        (figureText f).toList ++ '\n' :: (memoryText figures).toList := by
      simp [memoryText]
    have hend : (figureText f).toList =
        (f.1 ++ ": " ++ decimalPadded 1 f.2.toNat ++ " k").toList ++ ['B'] := by
      simp [figureText]
    have hlast : (figureText f).toList.getLast? ≠ some '\r' := by
      rw [hend, List.getLast?_concat]
      decide
    rw [hchars, lineChars_line (not_mem_figureText hf), withoutReturn_of_last hlast, List.map_cons,
      ih hfigures, String.ofList_toList, List.map_cons]

/-- **Figures that are written** in lines are read back; of one name the last one counts. -/
theorem memoryFields_memoryText (h : ∀ f ∈ figures, Nameable f.1) :
    memoryFields (memoryText figures) =
      figures.foldl (fun fields f => setValue f.1 f.2 fields) [] := by
  have hread : (figures.map figureText).filterMap (fun line => memoryLine? line.toList) =
      figures := by
    rw [List.filterMap_map]
    refine (List.filterMap_congr fun f hf => ?_).trans List.filterMap_some
    exact memoryLine?_of_figureLine (figureLine_figureText (h f hf))
  rw [memoryFields, lines_memoryText h, hread]

theorem lookup_foldl_setValue (name : String) (figures fields : List (String × UInt64)) :
    (figures.foldl (fun fields f => setValue f.1 f.2 fields) fields).lookup name =
      (figures.reverse.lookup name).or (fields.lookup name) := by
  induction figures generalizing fields with
  | nil => rfl
  | cons f figures ih =>
    rw [List.foldl_cons, ih, lookup_setValue, List.reverse_cons, List.lookup_append,
      lookup_cons_eq_ite, Option.or_assoc]
    by_cases h : name = f.1 <;> simp [h]

end

/-! ## Total and free memory -/

theorem memory?_eq_some_iff {text : String} {m : Memory} :
    memory? text = some m ↔ ∃ total free, (memoryFields text).lookup "MemTotal" = some total ∧
      (memoryFields text).lookup "MemFree" = some free ∧
      m.totalMb.toNat = total.toNat / 1024 ∧ m.freeMb.toNat = free.toNat / 1024 := by
  have hdiv (kb mb : UInt64) : mb.toNat = kb.toNat / 1024 ↔ kb / 1024 = mb := by
    rw [← UInt64.toNat_inj, UInt64.toNat_div]
    exact eq_comm
  unfold memory?
  simp only [Option.bind_eq_bind, Option.bind_eq_some_iff, hdiv]
  constructor
  · rintro ⟨total, htotal, free, hfree, h⟩
    cases h
    exact ⟨total, free, htotal, hfree, rfl, rfl⟩
  · rintro ⟨total, free, htotal, hfree, h, h'⟩
    obtain ⟨totalMb, freeMb⟩ := m
    cases h
    cases h'
    exact ⟨total, htotal, free, hfree, rfl⟩

/-- **The memory figures** of a text are those of its lines with a figure, by their names, each from
the last line that has one for the name; no other line matters. Figures that are written in lines
come back. Total and free memory are known exactly if both figures are there, in whole megabytes. -/
theorem memory_grammar (text : String) :
    (∀ name value, (memoryFields text).lookup name = some value ↔
      LastOf (FigureLine name) (lines text) value) ∧
    (∀ name, (memoryFields text).lookup name = none ↔
      ∀ line ∈ lines text, ∀ value, ¬ FigureLine name line value) ∧
    ((memoryFields text).map (·.1)).Nodup ∧
    (∀ figures : List (String × UInt64), (∀ f ∈ figures, Nameable f.1) →
      ∀ name, (memoryFields (memoryText figures)).lookup name = figures.reverse.lookup name) ∧
    ((memory? text).isSome = true ↔ ((memoryFields text).lookup "MemTotal").isSome = true ∧
      ((memoryFields text).lookup "MemFree").isSome = true) ∧
    ∀ m, memory? text = some m ↔ ∃ total free,
      (memoryFields text).lookup "MemTotal" = some total ∧
      (memoryFields text).lookup "MemFree" = some free ∧
      m.totalMb.toNat = total.toNat / 1024 ∧ m.freeMb.toNat = free.toNat / 1024 := by
  refine ⟨fun name value => ?_, fun name => ?_, nodup_memoryFields text, fun figures h name => ?_,
    ?_, fun m => memory?_eq_some_iff⟩
  · rw [lookup_memoryFields]
    exact lastGiven_eq_some_iff (figure_eq_some_iff name)
  · rw [lookup_memoryFields]
    exact lastGiven_eq_none_iff (figure_eq_some_iff name)
  · rw [memoryFields_memoryText h, lookup_foldl_setValue, List.lookup_nil, Option.or_none]
  · simp only [Option.isSome_iff_exists, memory?_eq_some_iff]
    constructor
    · rintro ⟨m, total, free, htotal, hfree, -⟩
      exact ⟨⟨total, htotal⟩, free, hfree⟩
    · rintro ⟨⟨total, htotal⟩, free, hfree⟩
      exact ⟨⟨total / 1024, free / 1024⟩, total, free, htotal, hfree, UInt64.toNat_div _ _,
        UInt64.toNat_div _ _⟩

/-- A name may be a blank, and may come twice. -/
theorem memory_grammar_repeated :
    let figures := [("MemTotal", 2047), (" ", 0), ("MemTotal", 18446744073709551615)]
    (∀ f ∈ figures, Nameable f.1) ∧
      (memoryFields (memoryText figures)).lookup "MemTotal" = some 18446744073709551615 ∧
      (memoryFields (memoryText figures)).lookup " " = some 0 := by
  intro figures
  have h : ∀ f ∈ figures, Nameable f.1 := by
    simp only [figures, List.forall_mem_cons]
    exact ⟨⟨by decide, by decide, by decide⟩, ⟨by decide, by decide, by decide⟩,
      ⟨by decide, by decide, by decide⟩, nofun⟩
  have hread := (memory_grammar "").2.2.2.1 figures h
  exact ⟨h, (hread "MemTotal").trans (by decide), (hread " ").trans (by decide)⟩

end AdapterReport
