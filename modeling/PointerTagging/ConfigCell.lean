import PointerTagging.Config
/-!
# The configuration cell

A configuration published once through separate cells: how far the publication has come, the tag,
the threshold, and two flags in one byte. The first call runs its initialiser and stores the result;
later calls load it.
-/

namespace PointerTagging

/-- How far a publication has come. -/
inductive Publication where
  | unset
  | resolving
  | ready
  deriving DecidableEq, Repr

/-- The cells that hold a configuration. -/
structure ConfigCell where
  state : Publication
  tag : UInt16
  threshold : UInt64
  flags : UInt8
  deriving DecidableEq, Repr

namespace ConfigCell

/-- Nothing is published. -/
def fresh : ConfigCell := ⟨.unset, 0, 0, 0⟩

/-- The flag of the trace switch. -/
def traceFlag : UInt8 := 0b01

/-- The flag of the policy that reclassifies by size. -/
def bySizeFlag : UInt8 := 0b10

/-- The flags of a configuration. -/
def flagsOf (config : Config) : UInt8 :=
  (if config.trace then traceFlag else 0) |||
    (match config.policy with | .bySize => bySizeFlag | .inherit => 0)

/-- The configuration that stored values stand for. A tag cell that was never stored to stands for
the default tag. -/
def decode (tag : UInt16) (threshold : UInt64) (flags : UInt8) : Config where
  tag := (Tag.ofValue? tag).getD .default
  threshold := threshold
  trace := flags &&& traceFlag != 0
  policy := if flags &&& bySizeFlag != 0 then .bySize else .inherit

/-- The cells with the values of a configuration stored. -/
def store (cell : ConfigCell) (config : Config) : ConfigCell :=
  { cell with
    tag := config.tag.value
    threshold := config.threshold
    flags := flagsOf config }

/-- The configuration in the cells. -/
def load (cell : ConfigCell) : Config := decode cell.tag cell.threshold cell.flags

/-- True once a configuration is published. -/
def isReady (cell : ConfigCell) : Bool := cell.state == .ready

/-- A call on one thread, with what its initialiser would yield: the configuration it returns,
whether the initialiser ran, and the cells after it. A call that finds the publication under way
would wait for itself; it returns nothing. -/
def getOrInit (cell : ConfigCell) (init : Config) : Option (Config × Bool) × ConfigCell :=
  match cell.state with
  | .ready => (some (cell.load, false), cell)
  | .resolving => (none, cell)
  | .unset => (some (init, true), { cell.store init with state := .ready })

end ConfigCell

end PointerTagging
