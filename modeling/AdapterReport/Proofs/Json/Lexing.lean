import AdapterReport.Proofs.Json.Scan

/-!
# The tokens of printed values

`tokenList` are the tokens of a value without regard to how it is laid out. The text of a value has
just these tokens, at whatever depth it is printed and whatever follows it (`lexes_prettyAt`), and
so has its text on one line (`lexes_compact`); space behind it makes no difference
(`tokens_pretty`).

`Lexes s ts` leaves the fuel out: the tokens of `s` are `ts` whenever the fuel covers the length
of `s`.
-/

namespace AdapterReport.Json

/-! ## Tokens of a text -/

/-- The tokens of a text are these, with any fuel that covers its length. -/
def Lexes (s : List Char) (ts : List Token) : Prop :=
  ∀ fuel, s.length ≤ fuel → tokensWithin fuel s = ts

variable {c : Char} {s rest : List Char} {t : Token} {ts : List Token}

theorem Lexes.tokens_eq {s : String} (h : Lexes s.toList ts) : tokens s = ts :=
  h _ (Nat.le_refl _)

theorem Lexes.nil : Lexes [] [] := by
  intro fuel _
  cases fuel <;> rfl

theorem Lexes.space (hc : isSpace c = true) (h : Lexes s ts) : Lexes (c :: s) ts := by
  intro fuel hfuel
  cases fuel with
  | zero => simp at hfuel
  | succ fuel =>
    rw [tokensWithin, if_pos hc]
    exact h fuel (Nat.le_of_succ_le_succ hfuel)

theorem Lexes.spaces {space : List Char} (hspace : ∀ c ∈ space, isSpace c = true)
    (h : Lexes s ts) : Lexes (space ++ s) ts := by
  induction space with
  | nil => exact h
  | cons c space ih =>
    exact .space (hspace c List.mem_cons_self) (ih fun d hd => hspace d (List.mem_cons_of_mem c hd))

/-- A token that a reader gets past, and the tokens behind it. -/
theorem Lexes.cons (hc : isSpace c = false) (hscan : scanToken c s = (t, rest))
    (hlast : t.isLast = false) (hlen : rest.length ≤ s.length) (h : Lexes rest ts) :
    Lexes (c :: s) (t :: ts) := by
  intro fuel hfuel
  cases fuel with
  | zero => simp at hfuel
  | succ fuel =>
    rw [tokensWithin, hc, hscan]
    simp only [Bool.false_eq_true, if_false, hlast]
    rw [h fuel (Nat.le_trans hlen (Nat.le_of_succ_le_succ hfuel))]

/-! ## Single tokens -/

theorem Lexes.openArray (h : Lexes s ts) : Lexes ('[' :: s) (.openArray :: ts) :=
  .cons rfl rfl rfl (Nat.le_refl _) h

theorem Lexes.closeArray (h : Lexes s ts) : Lexes (']' :: s) (.closeArray :: ts) :=
  .cons rfl rfl rfl (Nat.le_refl _) h

theorem Lexes.openObject (h : Lexes s ts) : Lexes ('\x7b' :: s) (.openObject :: ts) :=
  .cons rfl rfl rfl (Nat.le_refl _) h

theorem Lexes.closeObject (h : Lexes s ts) : Lexes ('\x7d' :: s) (.closeObject :: ts) :=
  .cons rfl rfl rfl (Nat.le_refl _) h

theorem Lexes.colon (h : Lexes s ts) : Lexes (':' :: s) (.colon :: ts) :=
  .cons rfl rfl rfl (Nat.le_refl _) h

theorem Lexes.comma (h : Lexes s ts) : Lexes (',' :: s) (.comma :: ts) :=
  .cons rfl rfl rfl (Nat.le_refl _) h

theorem scanLiteral_append (t : Token) (word s : List Char) :
    scanLiteral t word (word ++ s) = (t, s) := by
  induction word with
  | nil => rfl
  | cons c word ih => rw [List.cons_append, scanLiteral, if_pos rfl, ih]

theorem Lexes.null (h : Lexes s ts) : Lexes ("null".toList ++ s) (.null :: ts) := by
  have hscan : scanToken 'n' ("ull".toList ++ s) = (.null, s) := scanLiteral_append .null _ s
  exact .cons rfl hscan rfl (by simp; omega) h

theorem Lexes.bool (b : Bool) (h : Lexes s ts) :
    Lexes ((if b then "true" else "false").toList ++ s) (.bool b :: ts) := by
  cases b with
  | true =>
    have hscan : scanToken 't' ("rue".toList ++ s) = (.bool true, s) :=
      scanLiteral_append (.bool true) _ s
    exact .cons rfl hscan rfl (by simp; omega) h
  | false =>
    have hscan : scanToken 'f' ("alse".toList ++ s) = (.bool false, s) :=
      scanLiteral_append (.bool false) _ s
    exact .cons rfl hscan rfl (by simp; omega) h

theorem Lexes.quote (text : String) (h : Lexes s ts) :
    Lexes ((quote text).toList ++ s) (.text (textScan text) :: ts) := by
  have hchars : (Json.quote text).toList ++ s = '\x22' :: (escaped text.toList ++ '\x22' :: s) := by
    simp [toList_quote]
  have hscan : scanToken '\x22' (escaped text.toList ++ '\x22' :: s) =
      (.text (textScan text), s) := by
    show (Token.text (scanText _).1, (scanText _).2) = _
    rw [scanText_escaped]
  rw [hchars]
  exact .cons rfl hscan rfl (by simp; omega) h

/-- A character that begins a number begins nothing else. -/
theorem scanToken_number (hc : c = '-' ∨ c.isDigit = true) (s : List Char) :
    scanToken c s = (.number (scanNumber (c :: s)).1, (scanNumber (c :: s)).2) ∧
      isSpace c = false := by
  have hne : ∀ d, d ≠ '-' → d.isDigit = false → c ≠ d := by
    rintro d hminus hdigit rfl
    rcases hc with rfl | hc
    · exact hminus rfl
    · rw [hc] at hdigit
      cases hdigit
  have hnumber : (decide (c = '-') || c.isDigit) = true := by simpa using hc
  constructor
  · rw [scanToken, if_neg (hne '[' (by decide) (by decide)),
      if_neg (hne ']' (by decide) (by decide)), if_neg (hne '\x7b' (by decide) (by decide)),
      if_neg (hne '\x7d' (by decide) (by decide)), if_neg (hne ':' (by decide) (by decide)),
      if_neg (hne ',' (by decide) (by decide)), if_neg (hne 'n' (by decide) (by decide)),
      if_neg (hne 't' (by decide) (by decide)), if_neg (hne 'f' (by decide) (by decide)),
      if_neg (hne '\x22' (by decide) (by decide)), if_pos hnumber]
  · simp [isSpace, hne ' ' (by decide) (by decide), hne '\n' (by decide) (by decide),
      hne '\x0d' (by decide) (by decide), hne '\x09' (by decide) (by decide)]

theorem exists_integer (n : Int) :
    ∃ c cs, (integer n).toList = c :: cs ∧ (c = '-' ∨ c.isDigit = true) := by
  cases n with
  | ofNat m =>
    obtain ⟨c, cs, hc⟩ := List.exists_cons_of_ne_nil (Nat.toDigits_ne_nil (n := m) (b := 10))
    have hdigit : c.isDigit = true :=
      Nat.isDigit_of_mem_toDigits (b := 10) (n := m) (by decide) (by decide) (by simp [hc])
    exact ⟨c, cs, by rw [integer, String.toList_ofList, hc], .inr hdigit⟩
  | negSucc m => exact ⟨'-', Nat.toDigits 10 (m + 1), by simp [integer], .inl rfl⟩

theorem Lexes.integer (n : Int) (hd : Delimited s) (h : Lexes s ts) :
    Lexes ((integer n).toList ++ s) (.number (numberScan n) :: ts) := by
  obtain ⟨c, cs, hchars, hc⟩ := exists_integer n
  have hscan := scanNumber_integer n hd
  obtain ⟨htoken, hspace⟩ := scanToken_number hc (cs ++ s)
  rw [hchars, List.cons_append] at hscan ⊢
  rw [hscan] at htoken
  exact .cons hspace htoken rfl (by simp) h

/-! ## Values -/

mutual

/-- The tokens of a value. -/
def tokenList : Json → List Token
  | .null => [.null]
  | .bool b => [.bool b]
  | .number n => [.number (numberScan n)]
  | .text s => [.text (textScan s)]
  | .array items => .openArray :: (itemTokens items ++ [.closeArray])
  | .object members => .openObject :: (memberTokens members ++ [.closeObject])

/-- The tokens of items. -/
def itemTokens : List Json → List Token
  | [] => []
  | [v] => tokenList v
  | v :: rest => tokenList v ++ .comma :: itemTokens rest

/-- The tokens of members. -/
def memberTokens : List (String × Json) → List Token
  | [] => []
  | [(k, v)] => .text (textScan k) :: .colon :: tokenList v
  | (k, v) :: rest =>
    .text (textScan k) :: .colon :: (tokenList v ++ .comma :: memberTokens rest)

end

theorem delimited_nil : Delimited [] := fun _ h => nomatch h

theorem delimited_cons (h : c.isDigit = false ∧ c ≠ '.' ∧ c ≠ 'e' ∧ c ≠ 'E') (s : List Char) :
    Delimited (c :: s) :=
  fun _ hd => Option.some.inj hd ▸ h

/-- A line that begins delimits what stands before it. -/
theorem delimited_newLine (depth : Nat) (s : List Char) :
    Delimited ((newLine depth).toList ++ s) := by
  have hchars : (newLine depth).toList = '\n' :: List.replicate (2 * depth) ' ' := by
    simp [newLine]
  rw [hchars]
  exact delimited_cons (by decide) _

theorem Lexes.newLine (depth : Nat) (h : Lexes s ts) :
    Lexes ((newLine depth).toList ++ s) ts := by
  refine .spaces (fun c hc => ?_) h
  have hchars : (Json.newLine depth).toList = '\n' :: List.replicate (2 * depth) ' ' := by
    simp [Json.newLine]
  rw [hchars] at hc
  rcases List.mem_cons.mp hc with rfl | hc
  · rfl
  · rw [List.eq_of_mem_replicate hc]
    rfl

mutual

/-- **A printed value** has its own tokens, whatever follows it. -/
theorem lexes_prettyAt : ∀ (v : Json) (depth : Nat) {rest : List Char} {ts : List Token},
    Delimited rest → Lexes rest ts →
      Lexes ((prettyAt depth v).toList ++ rest) (tokenList v ++ ts)
  | .null, _, _, _, _, h => h.null
  | .bool b, _, _, _, _, h => h.bool b
  | .number n, _, _, _, hd, h => h.integer n hd
  | .text s, _, _, _, _, h => h.quote s
  | .array [], _, _, _, _, h => by
    simpa [prettyAt, tokenList, itemTokens] using h.closeArray.openArray
  | .array (v :: items), depth, rest, ts, _, h => by
    have hitems := lexes_prettyItems (v :: items) (depth + 1)
      (delimited_newLine depth (']' :: rest)) (h.closeArray.newLine depth)
    simpa [prettyAt, tokenList] using hitems.openArray
  | .object [], _, _, _, _, h => by
    simpa [prettyAt, tokenList, memberTokens] using h.closeObject.openObject
  | .object (m :: members), depth, rest, ts, _, h => by
    have hmembers := lexes_prettyMembers (m :: members) (depth + 1)
      (delimited_newLine depth ('\x7d' :: rest)) (h.closeObject.newLine depth)
    simpa [prettyAt, tokenList] using hmembers.openObject

theorem lexes_prettyItems : ∀ (items : List Json) (depth : Nat) {rest : List Char}
    {ts : List Token}, Delimited rest → Lexes rest ts →
      Lexes ((prettyItems depth items).toList ++ rest) (itemTokens items ++ ts)
  | [], _, _, _, _, h => h
  | [v], depth, _, _, hd, h => by
    have hv := lexes_prettyAt v depth hd h
    simpa [prettyItems, itemTokens] using hv.newLine depth
  | v :: w :: items, depth, rest, ts, hd, h => by
    have hrest := lexes_prettyItems (w :: items) depth hd h
    have hv := lexes_prettyAt v depth (delimited_cons (by decide) _) hrest.comma
    simpa [prettyItems, itemTokens] using hv.newLine depth

theorem lexes_prettyMembers : ∀ (members : List (String × Json)) (depth : Nat) {rest : List Char}
    {ts : List Token}, Delimited rest → Lexes rest ts →
      Lexes ((prettyMembers depth members).toList ++ rest) (memberTokens members ++ ts)
  | [], _, _, _, _, h => h
  | [(k, v)], depth, _, _, hd, h => by
    have hv := lexes_prettyAt v depth hd h
    have hcolon := (Lexes.space (c := ' ') rfl hv).colon
    simpa [prettyMembers, memberTokens] using (hcolon.quote k).newLine depth
  | (k, v) :: m :: members, depth, rest, ts, hd, h => by
    have hrest := lexes_prettyMembers (m :: members) depth hd h
    have hv := lexes_prettyAt v depth (delimited_cons (by decide) _) hrest.comma
    have hcolon := (Lexes.space (c := ' ') rfl hv).colon
    simpa [prettyMembers, memberTokens] using (hcolon.quote k).newLine depth

end

mutual

/-- **A value on one line** has the same tokens, whatever follows it. -/
theorem lexes_compact : ∀ (v : Json) {rest : List Char} {ts : List Token},
    Delimited rest → Lexes rest ts → Lexes ((compact v).toList ++ rest) (tokenList v ++ ts)
  | .null, _, _, _, h => h.null
  | .bool b, _, _, _, h => h.bool b
  | .number n, _, _, hd, h => h.integer n hd
  | .text s, _, _, _, h => h.quote s
  | .array items, rest, ts, _, h => by
    have hitems := lexes_compactItems items (delimited_cons (by decide) rest) h.closeArray
    simpa [compact, tokenList] using hitems.openArray
  | .object members, rest, ts, _, h => by
    have hmembers := lexes_compactMembers members (delimited_cons (by decide) rest) h.closeObject
    simpa [compact, tokenList] using hmembers.openObject

theorem lexes_compactItems : ∀ (items : List Json) {rest : List Char} {ts : List Token},
    Delimited rest → Lexes rest ts →
      Lexes ((compactItems items).toList ++ rest) (itemTokens items ++ ts)
  | [], _, _, _, h => h
  | [v], _, _, hd, h => lexes_compact v hd h
  | v :: w :: items, rest, ts, hd, h => by
    have hrest := lexes_compactItems (w :: items) hd h
    have hv := lexes_compact v (delimited_cons (by decide) _) hrest.comma
    simpa [compactItems, itemTokens] using hv

theorem lexes_compactMembers : ∀ (members : List (String × Json)) {rest : List Char}
    {ts : List Token}, Delimited rest → Lexes rest ts →
      Lexes ((compactMembers members).toList ++ rest) (memberTokens members ++ ts)
  | [], _, _, _, h => h
  | [(k, v)], _, _, hd, h => by
    have hv := lexes_compact v hd h
    simpa [compactMembers, memberTokens] using hv.colon.quote k
  | (k, v) :: m :: members, rest, ts, hd, h => by
    have hrest := lexes_compactMembers (m :: members) hd h
    have hv := lexes_compact v (delimited_cons (by decide) _) hrest.comma
    simpa [compactMembers, memberTokens] using hv.colon.quote k

end

/-- **The tokens of a printed value**, with space behind it. -/
theorem tokens_pretty (v : Json) {space : String} (h : ∀ c ∈ space.toList, isSpace c = true) :
    tokens (v.pretty ++ space) = tokenList v := by
  have hdelimited : Delimited space.toList := by
    cases hs : space.toList with
    | nil => exact delimited_nil
    | cons c cs =>
      have hc : isSpace c = true := h c (by simp [hs])
      refine delimited_cons ?_ cs
      simp only [isSpace, Bool.or_eq_true, decide_eq_true_eq] at hc
      rcases hc with ((rfl | rfl) | rfl) | rfl <;> decide
  have hspace : Lexes space.toList [] := by
    have := Lexes.nil.spaces h
    rwa [List.append_nil] at this
  have hv := lexes_prettyAt v 0 hdelimited hspace
  rw [List.append_nil, ← pretty, ← String.toList_append] at hv
  exact hv.tokens_eq

theorem tokens_compact (v : Json) : tokens v.compact = tokenList v := by
  have hv := lexes_compact v delimited_nil Lexes.nil
  rw [List.append_nil, List.append_nil] at hv
  exact hv.tokens_eq

end AdapterReport.Json
