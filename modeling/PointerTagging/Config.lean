import PointerTagging.Address
/-!
# Tagging configuration

The settings that are fixed for a process: the tag, the size below which an object is small, the
trace switch, and how a reallocated object gets its protection class. The class of an object is
read off its size when it is made, and off its address when it comes back.
-/

namespace PointerTagging

/-- How `realloc` decides whether its result is tagged. -/
inductive ReallocPolicy where
  /-- The result keeps the class of the incoming pointer, whatever the new size. -/
  | inherit
  /-- The result is classified by the new size, like a fresh allocation. -/
  | bySize
  deriving DecidableEq, Repr, Inhabited

/-- The word for a policy in settings and reports. -/
def ReallocPolicy.name : ReallocPolicy → String
  | .inherit => "inherit"
  | .bySize => "size"

/-- The configuration of a process. -/
structure Config where
  tag : Tag
  threshold : UInt64
  trace : Bool
  policy : ReallocPolicy
  deriving DecidableEq, Repr

/-- Whether an object's pointer carries the tag. -/
inductive Protection where
  | tagged
  | plain
  deriving DecidableEq, Repr

/-- The real address as an object of this class is presented. -/
def Protection.present (protection : Protection) (addr : RealAddr) (tag : Tag) : PresentedAddr :=
  match protection with
  | .tagged => addr.tagged tag
  | .plain => addr.plain

namespace Config

/-- The threshold used when nothing else is configured. -/
def defaultThreshold : UInt64 := 11

/-- The configuration when no variable is set. -/
def default : Config := ⟨.default, defaultThreshold, false, .inherit⟩

instance : Inhabited Config := ⟨default⟩

/-- True of an object size strictly below the threshold. -/
def isSmall (config : Config) (size : UInt64) : Bool := size < config.threshold

/-- The class of a fresh object of the given size: for an array the size of one element. -/
def classify (config : Config) (size : UInt64) : Protection :=
  if config.isSmall size then .tagged else .plain

/-- The class of a pointer that comes back from the application. -/
def classifyIncoming (config : Config) (addr : PresentedAddr) : Protection :=
  if addr.isTagged config.tag then .tagged else .plain

/-- The class of a reallocated object, from the class of the incoming pointer and the new size. -/
def classifyRealloc (config : Config) (incoming : Protection) (size : UInt64) : Protection :=
  match config.policy with
  | .inherit => incoming
  | .bySize => config.classify size

end Config

end PointerTagging
