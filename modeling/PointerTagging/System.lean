import PointerTagging.Environment
/-!
# The system

What the command line asks of the system that it runs on: whether a path leads to a file, and what a
program leaves behind that is started under an environment. What is proved of the command line holds
over every system.
-/

namespace PointerTagging

/-- What a program leaves behind. -/
structure Trail where
  /-- The code that it returned, unless a signal ended it. -/
  code : Option UInt8
  output : List UInt8
  errors : List UInt8
  deriving DecidableEq, Repr

/-- A system. -/
structure System where
  /-- True of a path that leads to a file that is neither a directory nor a device. -/
  isFile : List UInt8 → Bool
  /-- Starts the program that the first of some words names under an environment, with the other
  words as its arguments: what it leaves behind, or why it cannot be started. -/
  start : Environment → List (List UInt8) → Except String Trail

end PointerTagging
