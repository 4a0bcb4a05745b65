import AdapterReport.Text.Utf8

/-!
# Texts of bytes

The programs of a host read and write bytes, whatever these may spell. A byte text shows every byte
as the character with its number, so that such programs can be written with characters.
-/

namespace AdapterReport.Text.ByteText

/-- The character that stands for a byte. -/
def charOf (byte : UInt8) : Char := Char.ofNat byte.toNat

/-- The byte that a character stands for. -/
def byteOf (c : Char) : UInt8 := UInt8.ofNat c.toNat

/-- The text that shows some bytes. -/
def ofBytes (bytes : List UInt8) : String := String.ofList (bytes.map charOf)

/-- The bytes that a text shows. -/
def toBytes (s : String) : List UInt8 := s.toList.map byteOf

/-- The text that shows the bytes of an ordinary text. -/
def ofText (s : String) : String := ofBytes (Utf8.encode s)

/-- Every byte comes back from the character that stands for it. -/
theorem byteOf_charOf (byte : UInt8) : byteOf (charOf byte) = byte := by
  have small : byte.toNat < 256 := byte.toNat_lt
  have valid : byte.toNat.isValidChar := Or.inl (by omega)
  have same : (charOf byte).toNat = byte.toNat := by
    rw [charOf, Char.ofNat, dif_pos valid]
    rfl
  rw [byteOf, same, UInt8.ofNat_toNat]

/-- What a byte text shows are the bytes that it was made of. -/
theorem toBytes_ofBytes (bytes : List UInt8) : toBytes (ofBytes bytes) = bytes := by
  simp [toBytes, ofBytes, Function.comp_def, byteOf_charOf]

end AdapterReport.Text.ByteText
