import AdapterReport.Proofs.Html.Pieces

/-!
# Pages as tokens

`tokens` reads a page as `tags` does, but keeps the text between the tags.

* `text_of_tokens`: nothing of a page is lost.
* `tokens_render`: the tokens of the rendered text are those of the pieces, whatever text was
  inserted.
-/

namespace AdapterReport.Html

/-! ## The reader -/

/-- A part of a page as a reader finds it. -/
inductive Token where
  | char (c : Char)
  /-- A tag without `<` and `>`. -/
  | tag (text : List Char)
  deriving DecidableEq

/-- A token, as it stands in the page. -/
def Token.text : Token → List Char
  | .char c => [c]
  | .tag text => '<' :: text ++ ['>']

/-- The tokens of a text; a tag that has begun is given with what was read of it. -/
def tokensFrom : Option (List Char) → List Char → Option (List Token)
  | none, [] => some []
  | some _, [] => none
  | none, c :: rest =>
    if c = '<' then tokensFrom (some []) rest else (tokensFrom none rest).map (.char c :: ·)
  | some tag, c :: rest =>
    if c = '>' then (tokensFrom none rest).map (.tag tag :: ·)
    else tokensFrom (some (tag ++ [c])) rest

/-- The tokens of a page; `none` if the last tag does not end. -/
def tokens (page : String) : Option (List Token) :=
  tokensFrom none page.toList

/-- The text of tokens. -/
def tokenText (ts : List Token) : String :=
  .ofList (ts.flatMap Token.text)

theorem text_of_tokensFrom {begun : Option (List Char)} {cs : List Char} {ts : List Token}
    (h : tokensFrom begun cs = some ts) :
    ts.flatMap Token.text = (begun.elim [] ('<' :: ·)) ++ cs := by
  fun_induction tokensFrom begun cs generalizing ts with
  | case1 =>
    cases h
    rfl
  | case2 tag => cases h
  | case3 rest ih => exact ih h
  | case4 c rest _ ih =>
    obtain ⟨us, hus, rfl⟩ := Option.map_eq_some_iff.mp h
    rw [List.flatMap_cons, ih hus]
    rfl
  | case5 tag rest ih =>
    obtain ⟨us, hus, rfl⟩ := Option.map_eq_some_iff.mp h
    rw [List.flatMap_cons, ih hus]
    simp [Token.text]
  | case6 tag c rest _ ih =>
    rw [ih h]
    simp

/-- **Nothing of a page is lost** in its tokens. -/
theorem text_of_tokens {page : String} {ts : List Token} (h : tokens page = some ts) :
    tokenText ts = page := by
  rw [tokenText, text_of_tokensFrom h]
  exact String.ofList_toList

/-! ## The tokens of pieces -/

/-- The tokens that a piece is meant to be. -/
def Piece.tokens (p : Piece) : List Token :=
  match p.mark? with
  | some k => [.tag k.text]
  | none => p.text.toList.map .char

/-- The tokens that pieces are meant to be. -/
def pieceTokens (pieces : List Piece) : List Token :=
  pieces.flatMap Piece.tokens

theorem pieceTokens_append (ps qs : List Piece) :
    pieceTokens (ps ++ qs) = pieceTokens ps ++ pieceTokens qs :=
  List.flatMap_append

theorem pieceTokens_text {p : Piece} (h : p.mark? = none) (pieces : List Piece) :
    pieceTokens (p :: pieces) = p.text.toList.map .char ++ pieceTokens pieces := by
  simp [pieceTokens, Piece.tokens, h]

theorem pieceTokens_fixed (s : String) (pieces : List Piece) :
    pieceTokens (.fixed s :: pieces) = s.toList.map .char ++ pieceTokens pieces :=
  pieceTokens_text rfl pieces

theorem pieceTokens_tag {p : Piece} {k : Mark} (h : p.mark? = some k) (pieces : List Piece) :
    pieceTokens (p :: pieces) = .tag k.text :: pieceTokens pieces := by
  simp [pieceTokens, Piece.tokens, h]

theorem tokensFrom_text {text : List Char} (h : '<' ∉ text) (rest : List Char) :
    tokensFrom none (text ++ rest) = (tokensFrom none rest).map (text.map .char ++ ·) := by
  induction text with
  | nil => simp
  | cons c text ih =>
    rw [List.mem_cons, not_or] at h
    rw [List.cons_append, tokensFrom, if_neg (Ne.symm h.1), ih h.2, Option.map_map]
    rfl

theorem tokensFrom_inside {tag : List Char} (h : '>' ∉ tag) (begun rest : List Char) :
    tokensFrom (some begun) (tag ++ '>' :: rest) =
      (tokensFrom none rest).map (.tag (begun ++ tag) :: ·) := by
  induction tag generalizing begun with
  | nil => rw [List.nil_append, tokensFrom, if_pos rfl, List.append_nil]
  | cons c tag ih =>
    rw [List.mem_cons, not_or] at h
    rw [List.cons_append, tokensFrom, if_neg (Ne.symm h.1), ih h.2, List.append_assoc]
    rfl

theorem tokensFrom_tag {tag : List Char} (h : '>' ∉ tag) (rest : List Char) :
    tokensFrom none ('<' :: tag ++ '>' :: rest) = (tokensFrom none rest).map (.tag tag :: ·) := by
  rw [List.cons_append, tokensFrom, if_pos rfl, tokensFrom_inside h, List.nil_append]

theorem tokensFrom_render {pieces : List Piece} (h : Proper pieces) (rest : List Char) :
    tokensFrom none ((render pieces).toList ++ rest) =
      (tokensFrom none rest).map (pieceTokens pieces ++ ·) := by
  induction pieces with
  | nil => simp [render, writes, pieceTokens]
  | cons p pieces ih =>
    rw [Proper, List.all_cons, Bool.and_eq_true] at h
    rw [toList_render_cons]
    cases hk : p.mark? with
    | none =>
      rw [tokensFrom_text (p.not_mem_text h.1 hk), ih h.2, Option.map_map, pieceTokens_text hk]
      simp [Function.comp_def]
    | some k =>
      rw [p.toList_text hk, List.append_assoc, List.singleton_append,
        tokensFrom_tag (Mark.not_mem_text (p.readable_mark h.1 hk)), ih h.2, Option.map_map,
        pieceTokens_tag hk]
      rfl

/-- **The tokens of a page** are those of its pieces, whatever text was inserted. -/
theorem tokens_render {pieces : List Piece} (h : Proper pieces) :
    tokens (render pieces) = some (pieceTokens pieces) := by
  have := tokensFrom_render h []
  rw [List.append_nil, tokensFrom, Option.map_some, List.append_nil] at this
  exact this

/-- Written one after the other, the tokens of pieces are their text. -/
theorem tokenText_pieceTokens {pieces : List Piece} (h : Proper pieces) :
    tokenText (pieceTokens pieces) = render pieces :=
  text_of_tokens (tokens_render h)

end AdapterReport.Html
