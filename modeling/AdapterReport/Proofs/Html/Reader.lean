import AdapterReport.Html.Markup

/-!
# A reader of pages

A reader of a page knows nothing of the pieces from which it was made: `tags` cuts the text from
each `<` to the next `>`, and `readTag` reads such a tag, where the value of a quoted attribute goes
up to the next quote of the same kind.

* `tagsFrom_text`, `tagsFrom_tag`: text without a `<` is skipped, and a tag without a `>` is cut out
  as it is.
* `readTag_text`: a tag in which nothing ends too early (`Mark.readable`) is read back.
-/

namespace AdapterReport.Html

/-! ## Tags as a reader finds them -/

/-- An attribute as a reader finds it. -/
structure MarkAttribute where
  name : String
  /-- The quote around the value, if there is one. -/
  quote : Option Char
  value : String
  deriving DecidableEq

/-- A tag as a reader finds it. -/
inductive Mark where
  | declaration (s : String)
  | opening (name : String) (attributes : List MarkAttribute)
  | closing (name : String)
  deriving DecidableEq

/-- The tags of a text; a tag that has begun is given with what was read of it. -/
def tagsFrom : Option (List Char) → List Char → Option (List (List Char))
  | none, [] => some []
  | some _, [] => none
  | none, c :: rest => if c = '<' then tagsFrom (some []) rest else tagsFrom none rest
  | some tag, c :: rest =>
    if c = '>' then (tagsFrom none rest).map (tag :: ·) else tagsFrom (some (tag ++ [c])) rest

/-- The tags of a text, each from a `<` to the next `>` and without them; `none` if the last one
does not end. -/
def tags (page : String) : Option (List (List Char)) :=
  tagsFrom none page.toList

/-- Where a reader stands in a tag behind its name. -/
inductive Spot where
  /-- Behind an attribute or the name of the tag. -/
  | gap
  | name (read : List Char)
  /-- Before the value of an attribute. -/
  | value (name : List Char)
  | bare (name read : List Char)
  | quoted (name : List Char) (quote : Char) (read : List Char)

/-- An attribute with what was read of it. -/
def MarkAttribute.ofRead (name : List Char) (quote : Option Char) (value : List Char) :
    MarkAttribute :=
  ⟨.ofList name, quote, .ofList value⟩

/-- The attributes of a tag. -/
def attributesFrom : Spot → List Char → Option (List MarkAttribute)
  | .gap, [] => some []
  | .gap, c :: rest => if c = ' ' then attributesFrom (.name []) rest else none
  | .name read, c :: rest =>
    if c = '=' then attributesFrom (.value read) rest else attributesFrom (.name (read ++ [c])) rest
  | .value name, c :: rest =>
    if c = '\x27' ∨ c = '\x22' then attributesFrom (.quoted name c []) rest
    else attributesFrom (.bare name [c]) rest
  | .bare name read, [] => some [.ofRead name none read]
  | .bare name read, c :: rest =>
    if c = ' ' then (attributesFrom (.name []) rest).map (.ofRead name none read :: ·)
    else attributesFrom (.bare name (read ++ [c])) rest
  | .quoted name quote read, c :: rest =>
    if c = quote then (attributesFrom .gap rest).map (.ofRead name (some quote) read :: ·)
    else attributesFrom (.quoted name quote (read ++ [c])) rest
  | .name _, [] | .value _, [] | .quoted _ _ _, [] => none

/-- Reads a tag. -/
def readTag : List Char → Option Mark
  | '!' :: rest => some (.declaration (.ofList rest))
  | '/' :: name => some (.closing (.ofList name))
  | tag => (attributesFrom .gap (tag.dropWhile (· ≠ ' '))).map
      (.opening (.ofList (tag.takeWhile (· ≠ ' '))))

/-- An attribute in a tag. -/
def MarkAttribute.text (a : MarkAttribute) : List Char :=
  a.name.toList ++ '=' :: a.quote.toList ++ a.value.toList ++ a.quote.toList

/-- A tag without `<` and `>`. -/
def Mark.text : Mark → List Char
  | .declaration s => '!' :: s.toList
  | .opening name attributes =>
    name.toList ++ attributes.flatMap fun a => ' ' :: a.text
  | .closing name => '/' :: name.toList

/-! ## Text without reserved characters -/

/-- None of these characters stands in the text. -/
def lacks (reserved : List Char) (s : String) : Bool :=
  s.toList.all fun c => !reserved.contains c

theorem not_mem_of_lacks {reserved : List Char} {s : String} {c : Char}
    (h : lacks reserved s = true) (hc : c ∈ reserved) : c ∉ s.toList := by
  intro hmem
  have := List.all_eq_true.mp h c hmem
  simp [hc] at this

theorem lacks_append {reserved : List Char} {s t : String} :
    lacks reserved (s ++ t) = (lacks reserved s && lacks reserved t) := by
  simp [lacks]

theorem lacks_of_subset {reserved reserved' : List Char} {s : String}
    (h : lacks reserved s = true) (hsub : reserved' ⊆ reserved) : lacks reserved' s = true := by
  refine List.all_eq_true.mpr fun c hc => ?_
  have := List.all_eq_true.mp h c hc
  simp only [Bool.not_eq_true', List.contains_eq_mem, decide_eq_false_iff_not] at this ⊢
  exact fun hmem => this (hsub hmem)

/-! ## Reading what was written -/

/-- The attribute can be read back: nothing in it ends it too early. -/
def MarkAttribute.readable (a : MarkAttribute) : Bool :=
  lacks ['=', '>'] a.name && lacks ['>'] a.value &&
    match a.quote with
    | none => !a.value.toList.isEmpty && lacks [' ', '\x27', '\x22'] a.value
    | some quote => (quote = '\x27' ∨ quote = '\x22') && lacks [quote] a.value

/-- The tag can be read back. -/
def Mark.readable : Mark → Bool
  | .declaration s => lacks ['>'] s
  | .opening name attributes => lacks [' ', '>', '!', '/'] name && attributes.all (·.readable)
  | .closing name => lacks ['>'] name

theorem tagsFrom_text {text : List Char} (h : '<' ∉ text) (rest : List Char) :
    tagsFrom none (text ++ rest) = tagsFrom none rest := by
  induction text with
  | nil => rfl
  | cons c text ih =>
    rw [List.mem_cons, not_or] at h
    rw [List.cons_append, tagsFrom, if_neg (Ne.symm h.1), ih h.2]

theorem tagsFrom_inside {tag : List Char} (h : '>' ∉ tag) (begun rest : List Char) :
    tagsFrom (some begun) (tag ++ '>' :: rest) =
      (tagsFrom none rest).map ((begun ++ tag) :: ·) := by
  induction tag generalizing begun with
  | nil => rw [List.nil_append, tagsFrom, if_pos rfl, List.append_nil]
  | cons c tag ih =>
    rw [List.mem_cons, not_or] at h
    rw [List.cons_append, tagsFrom, if_neg (Ne.symm h.1), ih h.2, List.append_assoc]
    rfl

/-- A tag without a `>` is cut out as it is. -/
theorem tagsFrom_tag {tag : List Char} (h : '>' ∉ tag) (rest : List Char) :
    tagsFrom none ('<' :: tag ++ '>' :: rest) = (tagsFrom none rest).map (tag :: ·) := by
  rw [List.cons_append, tagsFrom, if_pos rfl, tagsFrom_inside h, List.nil_append]

/-! ### Attributes -/

theorem attributesFrom_name {name : List Char} (h : '=' ∉ name) (read rest : List Char) :
    attributesFrom (.name read) (name ++ '=' :: rest) =
      attributesFrom (.value (read ++ name)) rest := by
  induction name generalizing read with
  | nil => rw [List.nil_append, attributesFrom, if_pos rfl, List.append_nil]
  | cons c name ih =>
    rw [List.mem_cons, not_or] at h
    rw [List.cons_append, attributesFrom, if_neg (Ne.symm h.1), ih h.2, List.append_assoc]
    rfl

/-- A quoted value goes up to the next quote. -/
theorem attributesFrom_quoted {value : List Char} {quote : Char} (h : quote ∉ value)
    (name read rest : List Char) :
    attributesFrom (.quoted name quote read) (value ++ quote :: rest) =
      (attributesFrom .gap rest).map (.ofRead name (some quote) (read ++ value) :: ·) := by
  induction value generalizing read with
  | nil => rw [List.nil_append, attributesFrom, if_pos rfl, List.append_nil]
  | cons c value ih =>
    rw [List.mem_cons, not_or] at h
    rw [List.cons_append, attributesFrom, if_neg (Ne.symm h.1), ih h.2, List.append_assoc]
    rfl

/-- What stands behind an attribute of a tag: nothing, or a blank. -/
def EndsValue (rest : List Char) : Prop :=
  rest = [] ∨ ∃ more, rest = ' ' :: more

/-- A value without quotes goes up to the next blank. -/
theorem attributesFrom_bare {value : List Char} (h : ' ' ∉ value) (name read : List Char)
    {rest : List Char} (hrest : EndsValue rest) :
    attributesFrom (.bare name read) (value ++ rest) =
      (attributesFrom .gap rest).map (.ofRead name none (read ++ value) :: ·) := by
  induction value generalizing read with
  | nil =>
    rcases hrest with rfl | ⟨more, rfl⟩
    · rw [List.append_nil, List.append_nil]
      rfl
    · rw [List.nil_append, List.append_nil]
      rfl
  | cons c value ih =>
    rw [List.mem_cons, not_or] at h
    rw [List.cons_append, attributesFrom, if_neg (Ne.symm h.1), ih h.2, List.append_assoc]
    rfl

theorem ofRead_toList (name : String) (quote : Option Char) (value : String) :
    MarkAttribute.ofRead name.toList quote value.toList = ⟨name, quote, value⟩ := by
  simp [MarkAttribute.ofRead]

theorem attributesFrom_of_bare {name value : String} {rest : List Char}
    (hname : '=' ∉ name.toList) (hempty : value.toList ≠ [])
    (hbare : lacks [' ', '\x27', '\x22'] value = true) (hrest : EndsValue rest) :
    attributesFrom .gap (' ' :: MarkAttribute.text ⟨name, none, value⟩ ++ rest) =
      (attributesFrom .gap rest).map (⟨name, none, value⟩ :: ·) := by
  cases hv : value.toList with
  | nil => exact absurd hv hempty
  | cons c more =>
    have hlacks : ∀ d ∈ [' ', '\x27', '\x22'], d ∉ c :: more := fun d hd => by
      rw [← hv]
      exact not_mem_of_lacks hbare hd
    -- the first character decides that there is no quote
    have hfirst : ¬ (c = '\x27' ∨ c = '\x22') := by
      rintro (rfl | rfl)
      · exact hlacks '\x27' (by decide) List.mem_cons_self
      · exact hlacks '\x22' (by decide) List.mem_cons_self
    have hblank : ' ' ∉ more := fun hmem =>
      hlacks ' ' (by decide) (List.mem_cons_of_mem c hmem)
    have htext : ' ' :: MarkAttribute.text ⟨name, none, value⟩ ++ rest =
        ' ' :: (name.toList ++ '=' :: (c :: (more ++ rest))) := by
      simp [MarkAttribute.text, hv]
    rw [htext, attributesFrom, if_pos rfl, attributesFrom_name hname, attributesFrom,
      if_neg hfirst, attributesFrom_bare hblank _ _ hrest, List.nil_append,
      List.singleton_append, ← hv, ofRead_toList]

theorem attributesFrom_of_quoted {name value : String} {quote : Char} {rest : List Char}
    (hname : '=' ∉ name.toList) (hquote : quote = '\x27' ∨ quote = '\x22')
    (hend : quote ∉ value.toList) :
    attributesFrom .gap (' ' :: MarkAttribute.text ⟨name, some quote, value⟩ ++ rest) =
      (attributesFrom .gap rest).map (⟨name, some quote, value⟩ :: ·) := by
  have htext : ' ' :: MarkAttribute.text ⟨name, some quote, value⟩ ++ rest =
      ' ' :: (name.toList ++ '=' :: (quote :: (value.toList ++ quote :: rest))) := by
    simp [MarkAttribute.text]
  rw [htext, attributesFrom, if_pos rfl, attributesFrom_name hname, attributesFrom,
    if_pos hquote, attributesFrom_quoted hend, List.nil_append, List.nil_append, ofRead_toList]

/-- A readable attribute is read back, and the reading goes on behind it. -/
theorem attributesFrom_attribute {a : MarkAttribute} (h : a.readable = true) {rest : List Char}
    (hrest : EndsValue rest) :
    attributesFrom .gap (' ' :: a.text ++ rest) = (attributesFrom .gap rest).map (a :: ·) := by
  obtain ⟨name, quote, value⟩ := a
  unfold MarkAttribute.readable at h
  rw [Bool.and_eq_true, Bool.and_eq_true] at h
  obtain ⟨⟨hname, -⟩, hvalue⟩ := h
  have heq : '=' ∉ name.toList := not_mem_of_lacks hname (by decide)
  cases quote with
  | none =>
    rw [Bool.and_eq_true] at hvalue
    obtain ⟨hempty, hbare⟩ := hvalue
    exact attributesFrom_of_bare heq (by simpa using hempty) hbare hrest
  | some quote =>
    rw [Bool.and_eq_true, decide_eq_true_eq] at hvalue
    obtain ⟨hquote, hlacks⟩ := hvalue
    exact attributesFrom_of_quoted heq hquote (not_mem_of_lacks hlacks List.mem_cons_self)

theorem endsValue_flatMap (attributes : List MarkAttribute) :
    EndsValue (attributes.flatMap fun a => ' ' :: a.text) := by
  cases attributes with
  | nil => exact .inl rfl
  | cons a rest => exact .inr ⟨_, rfl⟩

theorem attributesFrom_text {attributes : List MarkAttribute}
    (h : attributes.all (·.readable) = true) :
    attributesFrom .gap (attributes.flatMap fun a => ' ' :: a.text) = some attributes := by
  induction attributes with
  | nil => rfl
  | cons a rest ih =>
    rw [List.all_cons, Bool.and_eq_true] at h
    rw [List.flatMap_cons, attributesFrom_attribute h.1 (endsValue_flatMap rest), ih h.2]
    rfl

/-! ### Tags -/

theorem readTag_of_opening {tag : List Char} (h : tag.head? ≠ some '!')
    (h' : tag.head? ≠ some '/') :
    readTag tag = (attributesFrom .gap (tag.dropWhile (· ≠ ' '))).map
      (.opening (.ofList (tag.takeWhile (· ≠ ' ')))) := by
  unfold readTag
  split
  · exact absurd rfl h
  · exact absurd rfl h'
  · rfl

theorem head?_opening {name : List Char} {attributes : List MarkAttribute} {c : Char}
    (h : c ∉ name) (hc : c ≠ ' ') :
    (name ++ attributes.flatMap fun a => ' ' :: a.text).head? ≠ some c := by
  cases name with
  | nil =>
    cases attributes with
    | nil => exact fun h => nomatch h
    | cons a rest => exact fun h => hc (Option.some.inj h).symm
  | cons d name => exact fun heq => h (Option.some.inj heq ▸ List.mem_cons_self)

/-- **A readable tag is read back.** -/
theorem readTag_text {k : Mark} (h : k.readable = true) : readTag k.text = some k := by
  cases k with
  | declaration s => rw [Mark.text, readTag, String.ofList_toList]
  | closing name => rw [Mark.text, readTag, String.ofList_toList]
  | opening name attributes =>
    rw [Mark.readable, Bool.and_eq_true] at h
    obtain ⟨hname, hattributes⟩ := h
    have hlacks {c : Char} (hc : c ∈ [' ', '>', '!', '/']) : c ∉ name.toList :=
      not_mem_of_lacks hname hc
    -- the name goes up to the first blank
    have hblank : ∀ c ∈ name.toList, decide (c ≠ ' ') = true := fun c hc =>
      decide_eq_true fun heq => hlacks (c := ' ') (by decide) (heq ▸ hc)
    have hrest : (attributes.flatMap fun a => ' ' :: a.text).takeWhile (· ≠ ' ') = [] ∧
        (attributes.flatMap fun a => ' ' :: a.text).dropWhile (· ≠ ' ') =
          attributes.flatMap fun a => ' ' :: a.text := by
      cases attributes <;> exact ⟨rfl, rfl⟩
    rw [Mark.text, readTag_of_opening (head?_opening (hlacks (by decide)) (by decide))
      (head?_opening (hlacks (by decide)) (by decide)), List.takeWhile_append_of_pos hblank,
      List.dropWhile_append_of_pos hblank, hrest.1, hrest.2, attributesFrom_text hattributes,
      List.append_nil, String.ofList_toList]
    rfl

-- a quote in a value ends it, and what stands behind it is no attribute
example : readTag "a id='x_l' rows=1".toList =
    some (.opening "a" [⟨"id", some '\x27', "x_l"⟩, ⟨"rows", none, "1"⟩]) := by decide
example : readTag "a id='x' y'".toList = none := by decide

theorem MarkAttribute.not_mem_text {a : MarkAttribute} (h : a.readable = true) :
    '>' ∉ a.text := by
  unfold readable at h
  rw [Bool.and_eq_true, Bool.and_eq_true] at h
  obtain ⟨⟨hname, hvalue⟩, hquote⟩ := h
  have hends : '>' ∉ a.quote.toList := by
    cases hq : a.quote with
    | none => exact List.not_mem_nil
    | some quote =>
      rw [hq, Bool.and_eq_true, decide_eq_true_eq] at hquote
      rcases hquote.1 with rfl | rfl <;> decide
  simp only [text, List.mem_append, List.mem_cons, not_or]
  exact ⟨⟨⟨not_mem_of_lacks hname (by decide), by decide, hends⟩,
    not_mem_of_lacks hvalue (by decide)⟩, hends⟩

/-- The quote around a value does not stand in it. -/
theorem MarkAttribute.quote_not_mem {a : MarkAttribute} (h : a.readable = true) {quote : Char}
    (hq : a.quote = some quote) : quote ∉ a.value.toList := by
  unfold readable at h
  simp only [hq, Bool.and_eq_true] at h
  exact not_mem_of_lacks h.2.2 List.mem_cons_self

/-- A readable tag does not end too early. -/
theorem Mark.not_mem_text {k : Mark} (h : k.readable = true) : '>' ∉ k.text := by
  cases k with
  | declaration s =>
    rw [text, List.mem_cons, not_or]
    exact ⟨by decide, not_mem_of_lacks h (by decide)⟩
  | closing name =>
    rw [text, List.mem_cons, not_or]
    exact ⟨by decide, not_mem_of_lacks h (by decide)⟩
  | opening name attributes =>
    rw [readable, Bool.and_eq_true] at h
    rw [text, List.mem_append, not_or]
    refine ⟨not_mem_of_lacks h.1 (by decide), fun hmem => ?_⟩
    obtain ⟨a, ha, hin⟩ := List.mem_flatMap.mp hmem
    rcases List.mem_cons.mp hin with heq | hin
    · exact absurd heq (by decide)
    · exact MarkAttribute.not_mem_text (List.all_eq_true.mp h.2 a ha) hin

end AdapterReport.Html
