import PointerTagging.Address
/-!
# Return addresses and stack pointers

A return address is canonical when its top sixteen bits are all clear, the user half, or all set,
the kernel half. Any other carries an encoding, which can be stripped.
-/

namespace PointerTagging

/-- True of a return address in neither canonical half. -/
def isEncodedReturn (addr : UInt64) : Bool :=
  addr >>> tagShift != 0xFFFF && addr >>> tagShift != 0

/-- The return address without its encoding; a canonical one passes through. -/
def cleanReturn (addr : UInt64) : UInt64 :=
  if isEncodedReturn addr then addr &&& lowBits else addr

/-- The width of a stack offset: 22 bits of offset above 3 bits of alignment. -/
def stackOffsetBits : UInt64 := 22 + 3

/-- The low `stackOffsetBits` bits of a stack pointer. -/
def stackOffset (sp : UInt64) : UInt64 :=
  sp &&& ~~~((0xFFFFFFFFFFFFFFFF : UInt64) <<< stackOffsetBits)

end PointerTagging
