/-!
# UTF-8

`encode` gives the bytes of a text. `decodeLossy` reads bytes as text and puts U+FFFD for every
longest part that begins a character but does not complete it, and for every byte that begins
none. `decode?` reads only bytes that are well formed throughout.
-/

namespace AdapterReport.Text.Utf8

/-- The bytes of a text. -/
def encode (s : String) : List UInt8 :=
  s.toList.flatMap String.utf8EncodeChar

/-- A character whose first bytes have been read. -/
structure Begun where
  /-- How many bytes are still to come. -/
  missing : Nat
  /-- The least byte that may come next. -/
  low : Nat
  /-- The greatest byte that may come next. -/
  high : Nat
  /-- The bits read so far. -/
  bits : Nat

/-- What a byte is that stands where a character begins. -/
inductive Lead where
  | single (c : Char)
  | begins (b : Begun)
  | stray

/-- Reads a byte that stands where a character begins. The bounds on the second byte leave out
forms longer than needed, surrogates and values above U+10FFFF. -/
def Lead.ofByte (byte : UInt8) : Lead :=
  let n := byte.toNat
  if n < 0x80 then .single (Char.ofNat n)
  else if n < 0xC2 then .stray
  else if n < 0xE0 then .begins ⟨1, 0x80, 0xBF, n - 0xC0⟩
  else if n == 0xE0 then .begins ⟨2, 0xA0, 0xBF, 0⟩
  else if n == 0xED then .begins ⟨2, 0x80, 0x9F, 0xD⟩
  else if n < 0xF0 then .begins ⟨2, 0x80, 0xBF, n - 0xE0⟩
  else if n == 0xF0 then .begins ⟨3, 0x90, 0xBF, 0⟩
  else if n < 0xF4 then .begins ⟨3, 0x80, 0xBF, n - 0xF0⟩
  else if n == 0xF4 then .begins ⟨3, 0x80, 0x8F, 4⟩
  else .stray

/-- What has been read of some bytes: the characters in reverse order, `none` for each part that is
not well formed, and the character begun last. -/
structure Progress where
  begun : Option Begun
  read : List (Option Char)

/-- Reads a byte with no character begun. -/
def Progress.start (read : List (Option Char)) (byte : UInt8) : Progress :=
  match Lead.ofByte byte with
  | .single c => ⟨none, some c :: read⟩
  | .begins b => ⟨some b, read⟩
  | .stray => ⟨none, none :: read⟩

/-- Reads a byte. One that cannot go on with the character begun ends it and begins anew. -/
def Progress.step (p : Progress) (byte : UInt8) : Progress :=
  match p.begun with
  | none => .start p.read byte
  | some b =>
    if b.low ≤ byte.toNat && byte.toNat ≤ b.high then
      let bits := b.bits * 64 + (byte.toNat - 0x80)
      match b.missing with
      | 0 | 1 => ⟨none, some (Char.ofNat bits) :: p.read⟩
      | more + 2 => ⟨some ⟨more + 1, 0x80, 0xBF, bits⟩, p.read⟩
    else .start (none :: p.read) byte

/-- The characters read; one begun but not completed is a part that is not well formed. -/
def Progress.finish (p : Progress) : List (Option Char) :=
  match p.begun with
  | none => p.read.reverse
  | some _ => (none :: p.read).reverse

/-- The characters of some bytes, `none` for each part that is not well formed. -/
def parts (bytes : List UInt8) : List (Option Char) :=
  (bytes.foldl Progress.step ⟨none, []⟩).finish

/-- The text of the bytes, with U+FFFD for what is not well formed. -/
def decodeLossy (bytes : List UInt8) : String :=
  String.ofList ((parts bytes).map (·.getD '\uFFFD'))

/-- The text of the bytes if all of them are well formed. -/
def decode? (bytes : List UInt8) : Option String :=
  ((parts bytes).mapM id).map String.ofList

/-- Texts one after the other have their bytes one after the other. -/
@[simp] theorem encode_append (s t : String) : encode (s ++ t) = encode s ++ encode t := by
  simp [encode]

@[simp] theorem encode_empty : encode "" = [] := rfl

end AdapterReport.Text.Utf8
