import AdapterReport.Proofs.Text.Utf8

/-!
# Bytes that are text

Only the bytes of a text are read as that text (`decode?_eq_some_iff`). Lossy decoding shows every
other sequence of bytes with a replacement character, so a text without one has been read from its
own bytes (`decodeLossy_eq_iff`).

A character that has been begun is known by its leading bits: `Begun.Spells b front` says that
every number with these bits, whose next six bits are within the bounds, is a character that is
spelled with the bytes `front` first. A first byte begins a character so (`ofByte_spells`), each
further byte keeps it (`Begun.Spells.more`), and the last one completes it (`Begun.Spells.last`).
-/

namespace AdapterReport.Text.Utf8

/-! ## Leading bits and further bytes -/

/-- What is left of a number without its last six bits, `n` times over. -/
def leading : Nat → Nat → Nat
  | 0, v => v
  | n + 1, v => leading n (v / 64)

/-- The last `n` bytes of a character, which hold six bits each. -/
def tails : Nat → Nat → List UInt8
  | 0, _ => []
  | n + 1, v => tails n (v / 64) ++ [tailByte v]

theorem leading_succ (n v : Nat) : leading (n + 1) v = leading n v / 64 := by
  induction n generalizing v with
  | zero => rfl
  | succ n ih => exact ih (v / 64)

theorem tails_succ (n v : Nat) : tails (n + 1) v = tailByte (leading n v) :: tails n v := by
  induction n generalizing v with
  | zero => rfl
  | succ n ih =>
    rw [tails, ih (v / 64)]
    rfl

theorem tailByte_eq {v : Nat} {byte : UInt8} (h : v % 64 + 128 = byte.toNat) :
    tailByte v = byte := by
  rw [← UInt8.toNat_inj, toNat_tailByte, h]

/-! ## Characters that have been begun -/

/-- Every number that goes on as the bounds say is a character spelled with `front` first. -/
def Begun.Spells (b : Begun) (front : List UInt8) : Prop :=
  0x80 ≤ b.low ∧ b.high ≤ 0xBF ∧ ∃ n, b.missing = n + 1 ∧
    ∀ v, leading (n + 1) v = b.bits → b.low ≤ leading n v % 64 + 128 →
      leading n v % 64 + 128 ≤ b.high → v.isValidChar ∧
        String.utf8EncodeChar (Char.ofNat v) = front ++ tails (n + 1) v

theorem toNat_ofNat_of_valid {v : Nat} (h : v.isValidChar) : (Char.ofNat v).toNat = v := by
  rw [Char.ofNat, dif_pos h]
  rfl

theorem encodeChar_ofNat {v : Nat} (h : v.isValidChar) :
    String.utf8EncodeChar (Char.ofNat v) =
      if v ≤ 0x7F then [UInt8.ofNat v]
      else if v ≤ 0x7FF then UInt8.ofNat (v / 64 + 192) :: tails 1 v
      else if v ≤ 0xFFFF then UInt8.ofNat (v / 64 / 64 + 224) :: tails 2 v
      else UInt8.ofNat (v / 64 / 64 / 64 + 240) :: tails 3 v := by
  rw [encodeChar_eq, toNat_ofNat_of_valid h]
  rfl

theorem spells_two {a : Nat} (hlow : 2 ≤ a) (hhigh : a < 32) :
    Begun.Spells ⟨1, 0x80, 0xBF, a⟩ [UInt8.ofNat (a + 192)] := by
  refine ⟨Nat.le_refl _, Nat.le_refl _, 0, rfl, fun v hbits _ _ => ?_⟩
  simp only [leading] at hbits
  have hvalid : v.isValidChar := .inl (by omega)
  rw [encodeChar_ofNat hvalid, if_neg (by omega), if_pos (by omega), hbits]
  exact ⟨hvalid, rfl⟩

/-- The bounds on the second of three bytes leave out longer forms and surrogates. -/
theorem spells_three {a low high : Nat} (ha : a < 16) (hlow : 0x80 ≤ low) (hhigh : high ≤ 0xBF)
    (hfirst : a = 0 → 0xA0 ≤ low) (hsurrogate : a = 13 → high ≤ 0x9F) :
    Begun.Spells ⟨2, low, high, a⟩ [UInt8.ofNat (a + 224)] := by
  refine ⟨hlow, hhigh, 1, rfl, fun v hbits hge hle => ?_⟩
  simp only [leading] at hbits hge hle
  have hvalid : v.isValidChar := by
    rcases Nat.lt_or_ge a 13 with hless | hmore
    · exact .inl (by omega)
    · by_cases hsame : a = 13
      · have := hsurrogate hsame
        exact .inl (by omega)
      · exact .inr (by omega)
  have hlong : 0x7FF < v := by
    by_cases hzero : a = 0
    · have := hfirst hzero
      omega
    · omega
  rw [encodeChar_ofNat hvalid, if_neg (by omega), if_neg (by omega), if_pos (by omega), hbits]
  exact ⟨hvalid, rfl⟩

/-- The bounds on the second of four bytes leave out longer forms and numbers of no character. -/
theorem spells_four {a low high : Nat} (ha : a < 5) (hlow : 0x80 ≤ low) (hhigh : high ≤ 0xBF)
    (hfirst : a = 0 → 0x90 ≤ low) (hlast : a = 4 → high ≤ 0x8F) :
    Begun.Spells ⟨3, low, high, a⟩ [UInt8.ofNat (a + 240)] := by
  refine ⟨hlow, hhigh, 2, rfl, fun v hbits hge hle => ?_⟩
  simp only [leading] at hbits hge hle
  have hlong : 0xFFFF < v := by
    by_cases hzero : a = 0
    · have := hfirst hzero
      omega
    · omega
  have hvalid : v.isValidChar := by
    by_cases hfour : a = 4
    · have := hlast hfour
      exact .inr (by omega)
    · exact .inr (by omega)
  rw [encodeChar_ofNat hvalid, if_neg (by omega), if_neg (by omega), if_neg (by omega), hbits]
  exact ⟨hvalid, rfl⟩

/-! ## Reading byte after byte -/

/-- What a first byte says of the character that it begins. -/
def Lead.Spells : Lead → List UInt8 → Prop
  | .single c, bytes => String.utf8EncodeChar c = bytes
  | .begins b, bytes => b.Spells bytes
  | .stray, _ => True

theorem ofByte_spells (byte : UInt8) : (Lead.ofByte byte).Spells [byte] := by
  have hbyte := byte.toNat_lt
  have hofNat : UInt8.ofNat byte.toNat = byte := UInt8.ofNat_toNat
  unfold Lead.ofByte
  generalize byte.toNat = n at hbyte hofNat
  subst hofNat
  have hsub (base : Nat) (h : base ≤ n) : [UInt8.ofNat n] = [UInt8.ofNat (n - base + base)] := by
    rw [Nat.sub_add_cancel h]
  dsimp only
  split
  · have hvalid : n.isValidChar := .inl (by omega)
    show String.utf8EncodeChar (Char.ofNat n) = _
    rw [encodeChar_ofNat hvalid, if_pos (by omega)]
  split
  · trivial
  split
  · rw [hsub 192 (by omega)]
    exact spells_two (by omega) (by omega)
  split
  · rename_i h
    cases beq_iff_eq.mp h
    exact spells_three (by decide) (by decide) (by decide) (by decide) (by decide)
  split
  · rename_i h
    cases beq_iff_eq.mp h
    exact spells_three (by decide) (by decide) (by decide) (by decide) (by decide)
  split
  · rename_i hzero hsurrogate _
    rw [beq_iff_eq] at hzero hsurrogate
    rw [hsub 224 (by omega)]
    exact spells_three (by omega) (by decide) (by decide) (by omega) (by omega)
  split
  · rename_i h
    cases beq_iff_eq.mp h
    exact spells_four (by decide) (by decide) (by decide) (by decide) (by decide)
  split
  · rename_i hzero _
    rw [beq_iff_eq] at hzero
    rw [hsub 240 (by omega)]
    exact spells_four (by omega) (by decide) (by decide) (by omega) (by omega)
  split
  · rename_i h
    cases beq_iff_eq.mp h
    exact spells_four (by decide) (by decide) (by decide) (by decide) (by decide)
  · trivial

section
variable {b : Begun} {front : List UInt8} {byte : UInt8}

/-- The last byte completes a character that is spelled with all of them. -/
theorem Begun.Spells.last (h : b.Spells front) (hmissing : b.missing = 1)
    (hlow : b.low ≤ byte.toNat) (hhigh : byte.toNat ≤ b.high) :
    String.utf8EncodeChar (Char.ofNat (b.bits * 64 + (byte.toNat - 0x80))) = front ++ [byte] := by
  obtain ⟨hfrom, hto, n, hn, hspells⟩ := h
  have hzero : n = 0 := by omega
  subst hzero
  have hbyte : (b.bits * 64 + (byte.toNat - 0x80)) % 64 + 128 = byte.toNat := by omega
  have hbits : (b.bits * 64 + (byte.toNat - 0x80)) / 64 = b.bits := by omega
  obtain ⟨-, hchar⟩ := hspells _ hbits (by rw [leading, hbyte]; exact hlow)
    (by rw [leading, hbyte]; exact hhigh)
  rw [hchar, tails_succ, leading, tailByte_eq hbyte]
  rfl

/-- A byte that is not the last one leaves a character begun with one byte more. -/
theorem Begun.Spells.more {n : Nat} (h : b.Spells front) (hmissing : b.missing = n + 2)
    (hlow : b.low ≤ byte.toNat) (hhigh : byte.toNat ≤ b.high) :
    Begun.Spells ⟨n + 1, 0x80, 0xBF, b.bits * 64 + (byte.toNat - 0x80)⟩ (front ++ [byte]) := by
  obtain ⟨hfrom, hto, m, hm, hspells⟩ := h
  have hsucc : m = n + 1 := by omega
  subst hsucc
  refine ⟨Nat.le_refl _, Nat.le_refl _, n, rfl, fun v hbits _ _ => ?_⟩
  have hbyte : leading (n + 1) v % 64 + 128 = byte.toNat := by
    rw [hbits]
    show (b.bits * 64 + (byte.toNat - 0x80)) % 64 + 128 = _
    omega
  have hfirst : leading (n + 2) v = b.bits := by
    rw [leading_succ, hbits]
    show (b.bits * 64 + (byte.toNat - 0x80)) / 64 = _
    omega
  obtain ⟨hvalid, hchar⟩ := hspells v hfirst (by rw [hbyte]; exact hlow)
    (by rw [hbyte]; exact hhigh)
  refine ⟨hvalid, ?_⟩
  rw [hchar, tails_succ, tailByte_eq hbyte, List.append_assoc]
  rfl

end

/-- What has been read, if all of it is well formed: the bytes are those of the characters, and
those of the character that has been begun. -/
def Progress.Tracks (p : Progress) (bytes : List UInt8) : Prop :=
  ∀ cs : List Char, p.read.reverse = cs.map some →
    ∃ front, bytes = cs.flatMap String.utf8EncodeChar ++ front ∧
      match p.begun with
      | none => front = []
      | some b => b.Spells front

theorem not_mem_of_tracked {read : List (Option Char)} {cs : List Char}
    (h : read.reverse = cs.map some) : none ∉ read := by
  intro hmem
  have hmap : none ∈ cs.map some := h ▸ List.mem_reverse.mpr hmem
  obtain ⟨c, -, hc⟩ := List.mem_map.mp hmap
  cases hc

theorem tracked_cons {read : List (Option Char)} {c : Char} {cs : List Char}
    (h : (some c :: read).reverse = cs.map some) :
    ∃ before, read.reverse = before.map some ∧ cs = before ++ [c] := by
  rw [List.reverse_cons] at h
  obtain ⟨before, last, rfl, hbefore, hlast⟩ := List.map_eq_append_iff.mp h.symm
  obtain ⟨c', rfl, hc⟩ := List.map_eq_singleton_iff.mp hlast
  cases hc
  exact ⟨before, hbefore.symm, rfl⟩

/-- A byte that is read with no character begun. -/
theorem tracks_start {read : List (Option Char)} {bytes : List UInt8}
    (h : Progress.Tracks ⟨none, read⟩ bytes) (byte : UInt8) :
    (Progress.start read byte).Tracks (bytes ++ [byte]) := by
  have hbyte := ofByte_spells byte
  unfold Progress.start
  cases hlead : Lead.ofByte byte with
  | single c =>
    rw [hlead] at hbyte
    intro cs hcs
    obtain ⟨before, hbefore, rfl⟩ := tracked_cons hcs
    obtain ⟨front, hbytes, hfront⟩ := h before hbefore
    have hc : String.utf8EncodeChar c = [byte] := hbyte
    subst hfront
    exact ⟨[], by simp [hbytes, hc], rfl⟩
  | begins b =>
    rw [hlead] at hbyte
    intro cs hcs
    obtain ⟨front, hbytes, hfront⟩ := h cs hcs
    subst hfront
    exact ⟨[byte], by rw [hbytes, List.append_nil], hbyte⟩
  | stray => exact fun cs hcs => absurd List.mem_cons_self (not_mem_of_tracked hcs)

theorem mem_read_start {read : List (Option Char)} {o : Option Char} (h : o ∈ read)
    (byte : UInt8) : o ∈ (Progress.start read byte).read := by
  unfold Progress.start
  cases Lead.ofByte byte with
  | single c => exact List.mem_cons_of_mem _ h
  | begins b => exact h
  | stray => exact List.mem_cons_of_mem _ h

/-- A byte within the bounds that completes the character begun. -/
theorem tracks_last {b : Begun} {read : List (Option Char)} {bytes : List UInt8} {byte : UInt8}
    (h : Progress.Tracks ⟨some b, read⟩ bytes) (hlow : b.low ≤ byte.toNat)
    (hhigh : byte.toNat ≤ b.high) (hmissing : b.missing ≤ 1) :
    Progress.Tracks ⟨none, some (Char.ofNat (b.bits * 64 + (byte.toNat - 0x80))) :: read⟩
      (bytes ++ [byte]) := by
  intro cs hcs
  obtain ⟨before, hbefore, rfl⟩ := tracked_cons hcs
  obtain ⟨front, hbytes, hspells⟩ := h before hbefore
  have hspells : b.Spells front := hspells
  obtain ⟨-, -, n, hn, -⟩ := id hspells
  have hchar := hspells.last (by omega) hlow hhigh
  exact ⟨[], by simp [hbytes, hchar], rfl⟩

/-- **One byte more** is accounted for. -/
theorem Progress.Tracks.step {p : Progress} {bytes : List UInt8} (h : p.Tracks bytes)
    (byte : UInt8) : (p.step byte).Tracks (bytes ++ [byte]) := by
  obtain ⟨begun, read⟩ := p
  cases begun with
  | none => exact tracks_start h byte
  | some b =>
    unfold Progress.step
    dsimp only
    split
    · rename_i hwithin
      simp only [Bool.and_eq_true, decide_eq_true_eq] at hwithin
      split
      · exact tracks_last h hwithin.1 hwithin.2 (by omega)
      · exact tracks_last h hwithin.1 hwithin.2 (by omega)
      · rename_i more hmissing
        intro cs hcs
        obtain ⟨front, hbytes, hspells⟩ := h cs hcs
        exact ⟨front ++ [byte], by rw [hbytes, List.append_assoc],
          Begun.Spells.more hspells hmissing hwithin.1 hwithin.2⟩
    · -- the character that was begun is not completed
      intro cs hcs
      exact absurd (mem_read_start List.mem_cons_self byte) (not_mem_of_tracked hcs)

/-- **All bytes** are accounted for. -/
theorem tracks_foldl (bytes : List UInt8) :
    (bytes.foldl Progress.step ⟨none, []⟩).Tracks bytes := by
  have hrun (rest : List UInt8) : ∀ (p : Progress) (front : List UInt8), p.Tracks front →
      (rest.foldl Progress.step p).Tracks (front ++ rest) := by
    induction rest with
    | nil => intro p front h; rwa [List.append_nil]
    | cons byte rest ih =>
      intro p front h
      rw [List.append_cons]
      exact ih _ _ (h.step byte)
  refine hrun bytes ⟨none, []⟩ [] fun cs hcs => ?_
  have hcs : cs = [] := List.map_eq_nil_iff.mp hcs.symm
  subst hcs
  exact ⟨[], rfl, rfl⟩

/-! ## Texts -/

/-- Bytes of which all parts are well formed are those of their characters. -/
theorem eq_encode_of_parts {bytes : List UInt8} {cs : List Char} (h : parts bytes = cs.map some) :
    bytes = encode (String.ofList cs) := by
  have htracks := tracks_foldl bytes
  rw [encode, String.toList_ofList]
  unfold parts Progress.finish at h
  generalize bytes.foldl Progress.step ⟨none, []⟩ = p at h htracks
  obtain ⟨begun, read⟩ := p
  cases begun with
  | none =>
    obtain ⟨front, hbytes, hfront⟩ := htracks cs h
    subst hfront
    rw [hbytes, List.append_nil]
  | some b => exact absurd List.mem_cons_self (not_mem_of_tracked h)

theorem eq_map_some_of_mapM {l : List (Option Char)} {cs : List Char} (h : l.mapM id = some cs) :
    l = cs.map some := by
  induction l generalizing cs with
  | nil => cases h; rfl
  | cons o l ih =>
    rw [List.mapM_cons] at h
    obtain ⟨c, ho, h⟩ := Option.bind_eq_some_iff.mp h
    obtain ⟨rest, hrest, h⟩ := Option.bind_eq_some_iff.mp h
    cases h
    rw [List.map_cons, ← ih hrest]
    exact congrArg (· :: l) ho

/-- **Only the bytes of a text are read as that text.** -/
theorem decode?_eq_some_iff {bytes : List UInt8} {s : String} :
    decode? bytes = some s ↔ bytes = encode s := by
  constructor
  · intro h
    obtain ⟨cs, hcs, rfl⟩ := Option.map_eq_some_iff.mp h
    exact eq_encode_of_parts (eq_map_some_of_mapM hcs)
  · rintro rfl
    exact decode?_encode s

/-- The bytes of a text are shown as that text. -/
theorem decodeLossy_encode (s : String) : decodeLossy (encode s) = s := by
  have hchars : (s.toList.map some).map (·.getD '\uFFFD') = s.toList := by
    rw [List.map_map]
    exact List.map_id _
  rw [decodeLossy, parts_encode, hchars, String.ofList_toList]

/-- **A text without a replacement character is shown for its own bytes only.** -/
theorem decodeLossy_eq_iff {bytes : List UInt8} {s : String} (hs : '\uFFFD' ∉ s.toList) :
    decodeLossy bytes = s ↔ bytes = encode s := by
  refine ⟨?_, fun h => h ▸ decodeLossy_encode s⟩
  rintro rfl
  rw [decodeLossy, String.toList_ofList] at hs
  rw [decodeLossy]
  refine eq_encode_of_parts ?_
  rw [List.map_map]
  refine (List.map_id _).symm.trans (List.map_congr_left fun o ho => ?_)
  cases o with
  | some c => rfl
  | none => exact absurd (List.mem_map.mpr ⟨none, ho, rfl⟩) hs

/-- Where there is a byte there is something to show. -/
theorem decodeLossy_ne_empty {bytes : List UInt8} (h : bytes ≠ []) : decodeLossy bytes ≠ "" := by
  intro hempty
  have hbytes := (decodeLossy_eq_iff (s := "") (by decide)).mp hempty
  exact h hbytes

theorem encode_injective {s t : String} (h : encode s = encode t) : s = t := by
  rw [← decodeLossy_encode s, h, decodeLossy_encode]

end AdapterReport.Text.Utf8
