import PointerTagging.Text.Utf8
/-!
# Diagnostic lines

A line is put together in a buffer of fixed capacity, so that writing one never allocates. Text
beyond the capacity is cut off; one byte is kept back for the newline at the end. An operation that
reads or writes outside of the buffer has no result.
-/

namespace PointerTagging

open Text

/-- What stands at the beginning of every diagnostic line. -/
def lineHead : String := "tagshim: "

/-- A line under construction. -/
structure LineBuffer where
  /-- The bytes of the buffer, those behind the line included. -/
  cells : List UInt8
  /-- How many of them make up the line. -/
  size : Nat
  deriving DecidableEq, Repr

namespace LineBuffer

/-- The capacity of a line, its newline included. -/
def capacity : Nat := 256

/-- An empty line. -/
def empty : LineBuffer := ⟨List.replicate capacity 0, 0⟩

/-- The first `count` bytes, if there are that many. -/
def first? (bytes : List UInt8) (count : Nat) : Option (List UInt8) :=
  if count ≤ bytes.length then some (bytes.take count) else none

/-- Puts the bytes into the cells behind the line, if there are enough of them. -/
def store? (line : LineBuffer) (bytes : List UInt8) : Option LineBuffer :=
  let stop := line.size + bytes.length
  if stop ≤ line.cells.length then
    some ⟨line.cells.take line.size ++ bytes ++ line.cells.drop stop, stop⟩
  else none

/-- Appends the bytes that fit before the place of the newline. -/
def push? (line : LineBuffer) (bytes : List UInt8) : Option LineBuffer := do
  let room := capacity - 1 - line.size
  line.store? (← first? bytes (min bytes.length room))

/-- Appends a text. -/
def write? (line : LineBuffer) (text : String) : Option LineBuffer :=
  line.push? (Utf8.ofString text)

/-- True of a line that does not end in a newline. -/
def isOpen? (line : LineBuffer) : Option Bool :=
  if line.size = 0 then some true else (line.cells[line.size - 1]?).map (· != 0x0A)

/-- Ends the line, if it does not end in a newline already. -/
def finish? (line : LineBuffer) : Option LineBuffer := do
  let isOpen ← line.isOpen?
  if isOpen ∧ line.size < capacity then line.store? [0x0A] else some line

/-- Appends a whole diagnostic line, whose text is handed over in pieces. -/
def format? (line : LineBuffer) (pieces : List String) : Option LineBuffer := do
  let line ← line.write? lineHead
  let line ← pieces.foldlM write? line
  line.finish?

/-- The bytes that the line is made of. -/
def bytes? (line : LineBuffer) : Option (List UInt8) := first? line.cells line.size

/-- Appends bytes. Here and below, what has no result leaves the line as it is. -/
def push (line : LineBuffer) (bytes : List UInt8) : LineBuffer := (line.push? bytes).getD line

/-- Appends a text. -/
def write (line : LineBuffer) (text : String) : LineBuffer := (line.write? text).getD line

/-- Ends the line. -/
def finish (line : LineBuffer) : LineBuffer := line.finish?.getD line

/-- Appends a whole diagnostic line, whose text is handed over in one piece. -/
def format (line : LineBuffer) (text : String) : LineBuffer := (line.format? [text]).getD line

/-- The bytes that the line is made of. -/
def bytes (line : LineBuffer) : List UInt8 := line.bytes?.getD []

end LineBuffer

/-- The bytes of the diagnostic line with the given text. -/
def diagnosticLine (text : String) : List UInt8 := (LineBuffer.empty.format text).bytes

end PointerTagging
