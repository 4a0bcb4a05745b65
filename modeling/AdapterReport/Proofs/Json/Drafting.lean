import AdapterReport.Json.Reader
import AdapterReport.Proofs.Json.Lexing

/-!
# Drafts of printed values

`draft` is the draft of a value. Its tokens are put together to just this draft (`fold_tokenList`),
inside any brackets that are open, so every reader of a printed value is given its draft
(`read_pretty`, `read_compact`).
-/

namespace AdapterReport.Json

open Draft (Open Progress)

/-! ## The draft of a value -/

mutual

/-- The draft of a value. -/
def draft : Json → Draft
  | .null => .null
  | .bool b => .bool b
  | .number n => .number (numberScan n)
  | .text s => .text (textScan s)
  | .array items => .array (itemDrafts items) none
  | .object members => .object (memberDrafts members) none

/-- The drafts of items. -/
def itemDrafts : List Json → List Draft
  | [] => []
  | v :: rest => draft v :: itemDrafts rest

/-- The drafts of members. -/
def memberDrafts : List (String × Json) → List (Name × Draft)
  | [] => []
  | (k, v) :: rest => (.text (textScan k), draft v) :: memberDrafts rest

end

/-! ## Putting tokens together -/

/-- Where an item may come, so may a value; only the closing bracket makes a difference. -/
theorem next_itemOrClose {t : Token} (h : t ≠ .closeArray) (outer : List Open) :
    Progress.next (.reading outer .itemOrClose) t = Progress.next (.reading outer .value) t := by
  cases outer with
  | nil => cases t <;> rfl
  | cons o outer => cases o <;> cases t <;> first | rfl | exact absurd rfl h

theorem exists_tokenList (v : Json) : ∃ t ts, tokenList v = t :: ts ∧ t ≠ .closeArray := by
  cases v <;> exact ⟨_, _, rfl, by simp⟩

/-- The first item of an array is read as any other value. -/
theorem fold_itemOrClose (v : Json) (items : List Json) (outer : List Open) :
    (itemTokens (v :: items)).foldl Progress.next (.reading outer .itemOrClose) =
      (itemTokens (v :: items)).foldl Progress.next (.reading outer .value) := by
  obtain ⟨t, ts, htokens, ht⟩ := exists_tokenList v
  cases items with
  | nil => rw [itemTokens, htokens, List.foldl_cons, List.foldl_cons, next_itemOrClose ht]
  | cons w items =>
    rw [itemTokens, htokens, List.cons_append, List.foldl_cons, List.foldl_cons,
      next_itemOrClose ht]
    exact fun h => nomatch h

/-- The first name of an object is read as any other one. -/
theorem fold_nameOrClose (m : String × Json) (members : List (String × Json))
    (outer : List Open) :
    (memberTokens (m :: members)).foldl Progress.next (.reading outer .nameOrClose) =
      (memberTokens (m :: members)).foldl Progress.next (.reading outer .name) := by
  cases members <;> cases outer with
  | nil => rfl
  | cons o outer => cases o <;> rfl

mutual

/-- **The tokens of a value** are put together to its draft. -/
theorem fold_tokenList : ∀ (v : Json) (outer : List Open),
    (tokenList v).foldl Progress.next (.reading outer .value) = Progress.complete (draft v) outer
  | .null, _ => rfl
  | .bool _, _ => rfl
  | .number _, _ => rfl
  | .text _, _ => rfl
  | .array [], _ => rfl
  | .array (v :: items), outer => by
    have hopen : Progress.next (.reading outer .value) .openArray =
        .reading (.array [] :: outer) .itemOrClose := rfl
    have hitems := fold_itemTokens (v :: items) [] outer (List.cons_ne_nil v items)
    rw [tokenList, List.foldl_cons, List.foldl_append, hopen, fold_itemOrClose, hitems]
    simp [Progress.next, Progress.separator, draft]
  | .object [], _ => rfl
  | .object (m :: members), outer => by
    have hopen : Progress.next (.reading outer .value) .openObject =
        .reading (.object [] .missing :: outer) .nameOrClose := rfl
    obtain ⟨last, hmembers⟩ :=
      fold_memberTokens (m :: members) [] .missing outer (List.cons_ne_nil m members)
    rw [tokenList, List.foldl_cons, List.foldl_append, hopen, fold_nameOrClose, hmembers]
    simp [Progress.next, Progress.separator, draft]

/-- Items behind those that are read, the last one first. -/
theorem fold_itemTokens : ∀ (items : List Json) (done : List Draft) (outer : List Open),
    items ≠ [] →
    (itemTokens items).foldl Progress.next (.reading (.array done :: outer) .value) =
      .reading (.array ((itemDrafts items).reverse ++ done) :: outer) .separator
  | [], _, _, h => absurd rfl h
  | [v], done, outer, _ => by
    rw [itemTokens, fold_tokenList]
    rfl
  | v :: w :: items, done, outer, _ => by
    have hcomma : Progress.next (Progress.complete (draft v) (.array done :: outer)) .comma =
        .reading (.array (draft v :: done) :: outer) .value := rfl
    have hrest := fold_itemTokens (w :: items) (draft v :: done) outer (List.cons_ne_nil w items)
    rw [itemTokens, List.foldl_append, fold_tokenList, List.foldl_cons, hcomma, hrest]
    · simp [itemDrafts]
    · exact fun h => nomatch h

/-- Members behind those that are read, the last one first; the bracket remembers a name. -/
theorem fold_memberTokens : ∀ (members : List (String × Json)) (done : List (Name × Draft))
    (name : Name) (outer : List Open), members ≠ [] → ∃ last,
    (memberTokens members).foldl Progress.next (.reading (.object done name :: outer) .name) =
      .reading (.object ((memberDrafts members).reverse ++ done) last :: outer) .separator
  | [], _, _, _, h => absurd rfl h
  | [(k, v)], done, name, outer, _ => by
    have hname : Progress.next (Progress.next (.reading (.object done name :: outer) .name)
        (.text (textScan k))) .colon =
          .reading (.object done (.text (textScan k)) :: outer) .value := rfl
    refine ⟨.text (textScan k), ?_⟩
    rw [memberTokens, List.foldl_cons, List.foldl_cons, hname, fold_tokenList]
    rfl
  | (k, v) :: m :: members, done, name, outer, _ => by
    have hname : Progress.next (Progress.next (.reading (.object done name :: outer) .name)
        (.text (textScan k))) .colon =
          .reading (.object done (.text (textScan k)) :: outer) .value := rfl
    have hcomma : Progress.next (Progress.complete (draft v)
        (.object done (.text (textScan k)) :: outer)) .comma =
          .reading (.object ((.text (textScan k), draft v) :: done) (.text (textScan k)) :: outer)
            .name := rfl
    obtain ⟨last, hrest⟩ := fold_memberTokens (m :: members)
      ((.text (textScan k), draft v) :: done) (.text (textScan k)) outer
      (List.cons_ne_nil m members)
    refine ⟨last, ?_⟩
    rw [memberTokens, List.foldl_cons, List.foldl_cons, List.foldl_append, hname, fold_tokenList,
      List.foldl_cons, hcomma, hrest]
    · simp [memberDrafts]
    · exact fun h => nomatch h

end

theorem ofTokens_tokenList (v : Json) : Draft.ofTokens (tokenList v) = (draft v, false) := by
  rw [Draft.ofTokens, fold_tokenList]
  rfl

/-- A reader of a text is given the draft of its tokens. -/
theorem read_of_ofTokens {α : Type} (reader : Reader α) {text : String} {d : Draft}
    (h : Draft.ofTokens (tokens text) = (d, false)) : read reader text = reader d := by
  rw [read, h]
  show (do let a ← reader d; if false = true then _ else Except.ok a) = _
  cases reader d <;> rfl

/-- A reader of a text with the tokens of a value is given the draft of this value. -/
theorem read_of_tokens {α : Type} (reader : Reader α) {text : String} {v : Json}
    (h : tokens text = tokenList v) : read reader text = reader (draft v) :=
  read_of_ofTokens reader (by rw [h, ofTokens_tokenList])

/-- **A reader of a printed value** is given its draft, and nothing behind it. -/
theorem read_pretty {α : Type} (reader : Reader α) (v : Json) {space : String}
    (h : ∀ c ∈ space.toList, isSpace c = true) :
    read reader (v.pretty ++ space) = reader (draft v) :=
  read_of_tokens reader (tokens_pretty v h)

theorem read_compact {α : Type} (reader : Reader α) (v : Json) :
    read reader v.compact = reader (draft v) :=
  read_of_tokens reader (tokens_compact v)

end AdapterReport.Json
