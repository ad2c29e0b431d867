/-!
# Real and presented addresses

The real allocator only ever sees a `RealAddr`; the application only ever sees a `PresentedAddr`.
The two differ by XOR with the mask of a `Tag`, which undoes itself, and nothing converts one into
the other implicitly. A tag is never zero: a zero tag would make tagging the identity, and the null
pointer would pass for tagged.
-/

namespace PointerTagging

/-- The position of the lowest tag bit. -/
def tagShift : UInt64 := 48

/-- The bits of an address that hold the tag, 48 to 63. -/
def highBits : UInt64 := 0xFFFF000000000000

/-- The bits of an address that hold a canonical address, 0 to 47. -/
def lowBits : UInt64 := ~~~highBits

/-- A tag: sixteen bits, not all clear. -/
structure Tag where
  value : UInt16
  nonzero : value ≠ 0
  deriving DecidableEq, Repr

namespace Tag

/-- The tag of a number, unless it is zero. -/
def ofValue? (value : UInt16) : Option Tag :=
  if h : value = 0 then none else some ⟨value, h⟩

/-- The tag used when nothing else is configured. -/
def default : Tag := ⟨1, by decide⟩

instance : Inhabited Tag := ⟨default⟩

/-- The tag in its place among the bits of an address. -/
def mask (tag : Tag) : UInt64 := tag.value.toUInt64 <<< tagShift

end Tag

/-- True of an address whose tag bits are not all clear. -/
def isEncoded (addr : UInt64) : Bool := addr &&& highBits != 0

/-- True of an address whose tag bits are exactly the tag. -/
def matchesTag (addr : UInt64) (tag : Tag) : Bool := addr &&& highBits == tag.mask

/-- An address as the real allocator returns and accepts it. -/
structure RealAddr where
  value : UInt64
  deriving DecidableEq, Repr, Inhabited

/-- An address as the application receives it and hands it back. -/
structure PresentedAddr where
  value : UInt64
  deriving DecidableEq, Repr, Inhabited

namespace PresentedAddr

/-- The null pointer. -/
def null : PresentedAddr := ⟨0⟩

/-- True of the null pointer. -/
def isNull (addr : PresentedAddr) : Bool := addr.value == 0

/-- True iff the tag bits are exactly the tag. -/
def isTagged (addr : PresentedAddr) (tag : Tag) : Bool := matchesTag addr.value tag

/-- The tag removed. This gives the real address only of a tagged one. -/
def untag (addr : PresentedAddr) (tag : Tag) : RealAddr := ⟨addr.value ^^^ tag.mask⟩

/-- The real address: untagged if it is tagged, else as it is. -/
def resolve (addr : PresentedAddr) (tag : Tag) : RealAddr :=
  if addr.isTagged tag then addr.untag tag else ⟨addr.value⟩

end PresentedAddr

namespace RealAddr

/-- The null pointer. -/
def null : RealAddr := ⟨0⟩

/-- True of the null pointer. -/
def isNull (addr : RealAddr) : Bool := addr.value == 0

/-- The address with the tag put in. Null stays null, so that a test for null still works. -/
def tagged (addr : RealAddr) (tag : Tag) : PresentedAddr :=
  if addr.isNull then .null else ⟨addr.value ^^^ tag.mask⟩

/-- The address as it is. -/
def plain (addr : RealAddr) : PresentedAddr := ⟨addr.value⟩

end RealAddr

end PointerTagging
