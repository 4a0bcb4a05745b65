import AdapterReport.Text.Lines

/-!
# Pieces, lines, and what the last line says

* `takeWhile_run`, `dropWhile_run`: a run of a class of characters up to one that is none.
* `splitAtFirst_eq_some_iff`: where a text is cut at the first separator.
* `pieces_induction`: a text is a piece without separators, or such a piece, a separator and a text.
  By it `splitOn_append`, and `flatMap_splitOn`, `splitOn_flatMap`: pieces are joined and split
  again.
* `lineChars_line`, `lineChars_last`: a line goes up to its line feed and is less the carriage
  return at its end; an empty last piece is no line.
* `foldl_lines`: a pass over the lines that is blind to carriage returns and empty lines is one over
  the pieces, and does not notice carriage returns put in front of the line feeds
  (`foldl_withReturns`).
* `LastOf`, `get_foldl`: what is kept of a list when each element may replace what was there.
-/

namespace AdapterReport.Text

/-! ## Runs of a class of characters -/

section
variable {α : Type} {p : α → Bool} {run rest : List α}

theorem takeWhile_run (hrun : ∀ c ∈ run, p c = true)
    (hrest : ∀ c, rest.head? = some c → p c = false) : (run ++ rest).takeWhile p = run := by
  rw [List.takeWhile_append_of_pos hrun]
  cases rest with
  | nil => exact List.append_nil run
  | cons c rest =>
    rw [List.takeWhile_cons_of_neg (by simp [hrest c rfl]), List.append_nil]

theorem dropWhile_run (hrun : ∀ c ∈ run, p c = true)
    (hrest : ∀ c, rest.head? = some c → p c = false) : (run ++ rest).dropWhile p = rest := by
  rw [List.dropWhile_append_of_pos hrun]
  cases rest with
  | nil => rfl
  | cons c rest => rw [List.dropWhile_cons_of_neg (by simp [hrest c rfl])]

end

/-! ## Cutting at a separator -/

section
variable {α : Type} {sep : α} {a s : List α}

theorem bne_of_not_mem [BEq α] [LawfulBEq α] (h : sep ∉ a) : ∀ c ∈ a, (c != sep) = true :=
  fun _ hc => bne_iff_ne.mpr fun he => h (he ▸ hc)

theorem takeWhile_separator [BEq α] [LawfulBEq α] (h : sep ∉ a) :
    (a ++ sep :: s).takeWhile (· != sep) = a := by
  refine takeWhile_run (bne_of_not_mem h) fun c hc => ?_
  cases hc
  exact bne_self_eq_false sep

theorem dropWhile_separator [BEq α] [LawfulBEq α] (h : sep ∉ a) :
    (a ++ sep :: s).dropWhile (· != sep) = sep :: s := by
  refine dropWhile_run (bne_of_not_mem h) fun c hc => ?_
  cases hc
  exact bne_self_eq_false sep

theorem dropWhile_of_not_mem [BEq α] [LawfulBEq α] (h : sep ∉ a) :
    a.dropWhile (· != sep) = [] := by
  have hrun : (a ++ []).dropWhile (· != sep) = [] := dropWhile_run (bne_of_not_mem h) nofun
  rwa [List.append_nil] at hrun

theorem pieces_induction (sep : α) {motive : List α → Prop}
    (last : ∀ a, sep ∉ a → motive a)
    (piece : ∀ a s, sep ∉ a → motive s → motive (a ++ sep :: s)) (s : List α) : motive s := by
  -- the induction is on what follows the piece under way
  have hrun : ∀ a, sep ∉ a → motive (a ++ s) := by
    induction s with
    | nil =>
      intro a ha
      rw [List.append_nil]
      exact last a ha
    | cons c s ih =>
      intro a ha
      by_cases hc : sep = c
      · subst hc
        exact piece a s ha (ih [] List.not_mem_nil)
      · rw [List.append_cons]
        refine ih (a ++ [c]) fun hmem => ?_
        rcases List.mem_append.mp hmem with hmem | hmem
        · exact ha hmem
        · exact hc (List.mem_singleton.mp hmem)
  exact hrun [] List.not_mem_nil

end

theorem splitAtFirst_piece {sep : Char} {a s : List Char} (h : sep ∉ a) :
    splitAtFirst sep (a ++ sep :: s) = some (a, s) := by
  unfold splitAtFirst
  rw [dropWhile_separator h, takeWhile_separator h]

theorem splitAtFirst_of_not_mem {sep : Char} {a : List Char} (h : sep ∉ a) :
    splitAtFirst sep a = none := by
  unfold splitAtFirst
  rw [dropWhile_of_not_mem h]

theorem splitAtFirst_eq_some_iff {sep : Char} {a b s : List Char} :
    splitAtFirst sep s = some (a, b) ↔ s = a ++ sep :: b ∧ sep ∉ a := by
  constructor
  · intro h
    by_cases hmem : sep ∈ s
    · obtain ⟨front, back, rfl, hfront⟩ := List.eq_append_cons_of_mem hmem
      rw [splitAtFirst_piece hfront] at h
      cases h
      exact ⟨rfl, hfront⟩
    · rw [splitAtFirst_of_not_mem hmem] at h
      cases h
  · rintro ⟨rfl, ha⟩
    exact splitAtFirst_piece ha

/-! ## Pieces -/

section
variable {α : Type} [BEq α] [LawfulBEq α] {sep : α} {a : List α}

theorem splitOn_of_not_mem (h : sep ∉ a) : splitOn sep a = [a] := by
  induction a with
  | nil => rfl
  | cons c a ih =>
    rw [List.mem_cons, not_or] at h
    obtain ⟨hc, ha⟩ := h
    have hne : (c == sep) = false := beq_eq_false_iff_ne.mpr (Ne.symm hc)
    rw [splitOn, hne, ih ha]
    rfl

theorem splitOn_piece (h : sep ∉ a) (s : List α) :
    splitOn sep (a ++ sep :: s) = a :: splitOn sep s := by
  induction a with
  | nil => rw [List.nil_append, splitOn, if_pos (beq_self_eq_true sep)]
  | cons c a ih =>
    rw [List.mem_cons, not_or] at h
    obtain ⟨hc, ha⟩ := h
    have hne : (c == sep) = false := beq_eq_false_iff_ne.mpr (Ne.symm hc)
    rw [List.cons_append, splitOn, hne, ih ha]
    rfl

theorem splitOn_append (s t : List α) :
    splitOn sep (s ++ sep :: t) = splitOn sep s ++ splitOn sep t := by
  induction s using pieces_induction sep with
  | last a ha => rw [splitOn_piece ha, splitOn_of_not_mem ha, List.singleton_append]
  | piece a s ha ih =>
    rw [List.append_assoc, List.cons_append, splitOn_piece ha, ih, splitOn_piece ha,
      List.cons_append]

theorem not_mem_of_mem_splitOn {s piece : List α} (h : piece ∈ splitOn sep s) : sep ∉ piece := by
  induction s using pieces_induction sep with
  | last a ha =>
    rw [splitOn_of_not_mem ha, List.mem_singleton] at h
    rwa [h]
  | piece a s ha ih =>
    rw [splitOn_piece ha, List.mem_cons] at h
    rcases h with rfl | h
    · exact ha
    · exact ih h

theorem flatMap_splitOn (s : List α) : (splitOn sep s).flatMap (sep :: ·) = sep :: s := by
  induction s using pieces_induction sep with
  | last a ha => rw [splitOn_of_not_mem ha, List.flatMap_singleton]
  | piece a s ha ih => rw [splitOn_piece ha, List.flatMap_cons, ih, List.cons_append]

theorem splitOn_flatMap {pieces : List (List α)} (ha : sep ∉ a) (h : ∀ b ∈ pieces, sep ∉ b) :
    splitOn sep (a ++ pieces.flatMap (sep :: ·)) = a :: pieces := by
  induction pieces generalizing a with
  | nil => rw [List.flatMap_nil, List.append_nil, splitOn_of_not_mem ha]
  | cons b pieces ih =>
    obtain ⟨hb, hpieces⟩ := List.forall_mem_cons.mp h
    rw [List.flatMap_cons, List.cons_append, splitOn_piece ha, ih hb hpieces]

end

theorem intercalate_cons {α : Type} {sep : List α} (block : List α) (blocks : List (List α)) :
    sep.intercalate (block :: blocks) = block ++ blocks.flatMap (sep ++ ·) := by
  induction blocks generalizing block with
  | nil => simp
  | cons next blocks ih => simp [List.intercalate_cons_cons, ih]

theorem not_mem_intercalate {c : Char} {sep : String} {texts : List String} (hsep : c ∉ sep.toList)
    (h : ∀ s ∈ texts, c ∉ s.toList) : c ∉ (sep.intercalate texts).toList := by
  induction texts with
  | nil => exact List.not_mem_nil
  | cons s texts ih =>
    obtain ⟨hs, hrest⟩ := List.forall_mem_cons.mp h
    cases texts with
    | nil => rwa [String.intercalate_singleton]
    | cons next texts =>
      rw [String.intercalate_cons_cons, String.toList_append, String.toList_append,
        List.mem_append, List.mem_append, not_or, not_or]
      exact ⟨⟨hs, hsep⟩, ih hrest⟩

/-! ## Lines -/

/-- A line without the carriage return at its end. -/
def withoutReturn : List Char → List Char
  | [] => []
  | ['\r'] => []
  | c :: s => c :: withoutReturn s

theorem withoutReturn_cons (c : Char) {s : List Char} (h : s ≠ []) :
    withoutReturn (c :: s) = c :: withoutReturn s := by
  rw [withoutReturn]
  rintro rfl rfl
  exact h rfl

theorem withoutReturn_singleton {c : Char} (h : c ≠ '\r') : withoutReturn [c] = [c] := by
  rw [withoutReturn, withoutReturn]
  exact fun hc _ => h hc

theorem withoutReturn_cases (s : List Char) :
    s = withoutReturn s ∨ s = withoutReturn s ++ ['\r'] := by
  induction s with
  | nil => exact .inl rfl
  | cons c s ih =>
    by_cases hs : s = []
    · subst hs
      by_cases hc : c = '\r'
      · subst hc
        exact .inr rfl
      · exact .inl (withoutReturn_singleton hc).symm
    · rw [withoutReturn_cons c hs]
      rcases ih with h | h
      · exact .inl (congrArg (c :: ·) h)
      · exact .inr (congrArg (c :: ·) h)

theorem withoutReturn_of_last {s : List Char} (h : s.getLast? ≠ some '\r') :
    withoutReturn s = s := by
  rcases withoutReturn_cases s with heq | heq
  · exact heq.symm
  · rw [heq, List.getLast?_concat] at h
    exact absurd rfl h

variable {a : List Char}

theorem lineChars_last (h : '\n' ∉ a) : lineChars a = if a.isEmpty then [] else [a] := by
  induction a with
  | nil => rfl
  | cons c a ih =>
    rw [List.mem_cons, not_or] at h
    obtain ⟨hc, ha⟩ := h
    have hreturn : ∀ s, c = '\r' → a = '\n' :: s → False := fun s _ hs =>
      ha (hs ▸ List.mem_cons_self)
    rw [lineChars.eq_4 _ _ hreturn fun he => hc he.symm, ih ha]
    cases a <;> rfl

theorem lineChars_line (h : '\n' ∉ a) (s : List Char) :
    lineChars (a ++ '\n' :: s) = withoutReturn a :: lineChars s := by
  induction a with
  | nil => rfl
  | cons c a ih =>
    rw [List.mem_cons, not_or] at h
    obtain ⟨hc, ha⟩ := h
    by_cases hlast : a = [] ∧ c = '\r'
    · obtain ⟨rfl, rfl⟩ := hlast
      rfl
    · have hreturn : ∀ t, c = '\r' → a ++ '\n' :: s = '\n' :: t → False := by
        intro t hr ht
        cases a with
        | nil => exact hlast ⟨rfl, hr⟩
        | cons d a => exact ha ((List.cons.inj ht).1 ▸ List.mem_cons_self)
      rw [List.cons_append, lineChars.eq_4 _ _ hreturn fun he => hc he.symm, ih ha]
      by_cases hne : a = []
      · subst hne
        rw [withoutReturn_singleton fun hr => hlast ⟨rfl, hr⟩]
        rfl
      · rw [withoutReturn_cons c hne]

theorem not_mem_of_mem_lines {s line : String} (h : line ∈ lines s) : '\n' ∉ line.toList := by
  obtain ⟨chars, hchars, rfl⟩ := List.mem_map.mp h
  rw [String.toList_ofList]
  have hall : ∀ s : List Char, ∀ line ∈ lineChars s, '\n' ∉ line := by
    intro s
    induction s using pieces_induction '\n' with
    | last a ha =>
      rw [lineChars_last ha]
      intro line hline
      split at hline
      · cases hline
      · rwa [List.mem_singleton.mp hline]
    | piece a s ha ih =>
      rw [lineChars_line ha]
      refine List.forall_mem_cons.mpr ⟨fun hmem => ha ?_, ih⟩
      rcases withoutReturn_cases a with heq | heq
      · rwa [heq]
      · rw [heq]
        exact List.mem_append_left _ hmem
  exact hall _ _ hchars

theorem foldl_lines {σ : Type} {step : σ → String → σ}
    (hreturn : ∀ x line, step x (String.ofList (line ++ ['\r'])) = step x (String.ofList line))
    (hempty : ∀ x, step x "" = x) (s : List Char) (x : σ) :
    ((lineChars s).map String.ofList).foldl step x =
      ((splitOn '\n' s).map String.ofList).foldl step x := by
  have hline (x : σ) (line : List Char) :
      step x (String.ofList (withoutReturn line)) = step x (String.ofList line) := by
    rcases withoutReturn_cases line with heq | heq
    · rw [← heq]
    · conv => rhs; rw [heq, hreturn]
  induction s using pieces_induction '\n' generalizing x with
  | last a ha =>
    rw [lineChars_last ha, splitOn_of_not_mem ha]
    cases a with
    | nil => exact (hempty x).symm
    | cons c a => rfl
  | piece a s ha ih =>
    rw [lineChars_line ha, splitOn_piece ha, List.map_cons, List.map_cons, List.foldl_cons,
      List.foldl_cons, hline, ih]

/-- The text with a carriage return before every line feed. -/
def withReturns (s : List Char) : List Char :=
  s.flatMap fun c => if c = '\n' then ['\r', '\n'] else [c]

theorem withReturns_of_not_mem (h : '\n' ∉ a) : withReturns a = a := by
  induction a with
  | nil => rfl
  | cons c a ih =>
    rw [List.mem_cons, not_or] at h
    obtain ⟨hc, ha⟩ := h
    have hrest := ih ha
    unfold withReturns at hrest ⊢
    rw [List.flatMap_cons, hrest, if_neg (Ne.symm hc), List.singleton_append]

theorem withReturns_line (h : '\n' ∉ a) (s : List Char) :
    withReturns (a ++ '\n' :: s) = (a ++ ['\r']) ++ '\n' :: withReturns s := by
  have hfront := withReturns_of_not_mem h
  unfold withReturns at hfront ⊢
  rw [List.flatMap_append, hfront, List.flatMap_cons, if_pos rfl]
  simp

theorem foldl_withReturns {σ : Type} {step : σ → String → σ}
    (hreturn : ∀ x line, step x (String.ofList (line ++ ['\r'])) = step x (String.ofList line))
    (s : List Char) (x : σ) :
    ((splitOn '\n' (withReturns s)).map String.ofList).foldl step x =
      ((splitOn '\n' s).map String.ofList).foldl step x := by
  induction s using pieces_induction '\n' generalizing x with
  | last a ha => rw [withReturns_of_not_mem ha]
  | piece a s ha ih =>
    have hreturned : '\n' ∉ a ++ ['\r'] := by simpa using ha
    rw [withReturns_line ha, splitOn_piece hreturned, splitOn_piece ha, List.map_cons,
      List.map_cons, List.foldl_cons, List.foldl_cons, hreturn, ih]

/-! ## The last one that counts -/

/-- The last element of the list that gives a value at all gives this one. -/
def LastOf {α β : Type} (gives : α → β → Prop) (l : List α) (value : β) : Prop :=
  ∃ earlier x later, l = earlier ++ x :: later ∧ gives x value ∧ ∀ y ∈ later, ∀ v, ¬ gives y v

section
variable {α β σ : Type} {given : α → Option β} {gives : α → β → Prop} {l : List α}

/-- What the last element that gives a value gives. -/
def lastGiven (given : α → Option β) (l : List α) : Option β :=
  l.reverse.findSome? given

theorem lastGiven_append (l m : List α) :
    lastGiven given (l ++ m) = (lastGiven given m).or (lastGiven given l) := by
  rw [lastGiven, List.reverse_append, List.findSome?_append]
  rfl

theorem given_eq_none_iff (h : ∀ x v, given x = some v ↔ gives x v) (x : α) :
    given x = none ↔ ∀ v, ¬ gives x v := by
  rw [Option.eq_none_iff_forall_ne_some]
  exact forall_congr' fun v => not_congr (h x v)

theorem lastGiven_eq_some_iff (h : ∀ x v, given x = some v ↔ gives x v) {value : β} :
    lastGiven given l = some value ↔ LastOf gives l value := by
  unfold lastGiven LastOf
  simp only [List.findSome?_eq_some_iff, h, given_eq_none_iff h]
  constructor
  · rintro ⟨later, x, earlier, hl, hx, hlater⟩
    refine ⟨earlier.reverse, x, later.reverse, ?_, hx, fun y hy => ?_⟩
    · rw [← l.reverse_reverse, hl]
      simp
    · exact hlater y (List.mem_reverse.mp hy)
  · rintro ⟨earlier, x, later, rfl, hx, hlater⟩
    refine ⟨later.reverse, x, earlier.reverse, by simp, hx, fun y hy => hlater y ?_⟩
    exact List.mem_reverse.mp hy

theorem lastGiven_eq_none_iff (h : ∀ x v, given x = some v ↔ gives x v) :
    lastGiven given l = none ↔ ∀ x ∈ l, ∀ v, ¬ gives x v := by
  rw [lastGiven, List.findSome?_eq_none_iff]
  simp only [given_eq_none_iff h, List.mem_reverse]

/-- What a pass keeps is what the last element gives, or what was there before. -/
theorem get_foldl (get : σ → Option β) {step : σ → α → σ}
    (h : ∀ s x, get (step s x) = (given x).or (get s)) (l : List α) (s : σ) :
    get (l.foldl step s) = (lastGiven given l).or (get s) := by
  induction l generalizing s with
  | nil => rfl
  | cons x l ih =>
    have hone : lastGiven given [x] = given x := by
      rw [lastGiven, List.reverse_singleton, List.findSome?_singleton]
    rw [List.foldl_cons, ih, h, ← List.singleton_append, lastGiven_append, hone, Option.or_assoc]

end

end AdapterReport.Text
