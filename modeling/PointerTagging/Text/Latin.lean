/-!
# Bytes as characters

Text whose characters stand for single bytes: the byte `b` is the character number `b`. Programs
that treat bytes outside ASCII as opaque are described over such text.
-/

namespace PointerTagging.Text.Latin

/-- The text whose characters are the bytes. -/
def ofBytes (bs : List UInt8) : String := String.ofList (bs.map fun b => Char.ofNat b.toNat)

/-- The bytes that the characters stand for. -/
def toBytes (s : String) : List UInt8 := s.toList.map fun c => c.toNat.toUInt8

end PointerTagging.Text.Latin
