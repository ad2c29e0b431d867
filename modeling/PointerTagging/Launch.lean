import PointerTagging.Environment
import PointerTagging.Report.Address
/-!
# Launching a program with the library preloaded

A launch names the library, the program with its arguments, and the settings to pass on. Settings
that are not given are left to whatever the environment says already.
-/

namespace PointerTagging

open Text

/-- The variable that names the libraries to load ahead of all others. -/
def preloadVariable : String := "LD_PRELOAD"

/-- Why a program is not launched. -/
inductive LaunchError where
  /-- No program is named. -/
  | emptyCommand
  /-- The library is not a file. -/
  | missingLibrary (path : List UInt8)
  deriving DecidableEq, Repr

/-- The text of the error. -/
def LaunchError.message : LaunchError → String
  | .emptyCommand => "no program given to run"
  | .missingLibrary path => "preload library not found: " ++ Utf8.toStringLossy path

/-- A program to run with the library preloaded. -/
structure Launch where
  library : List UInt8
  program : List UInt8
  arguments : List (List UInt8)
  tag : Option Tag
  threshold : Option UInt64
  trace : Bool
  policy : Option ReallocPolicy
  deriving DecidableEq, Repr

/-- A setting of a launch. -/
inductive LaunchSetting where
  | tag (tag : Tag)
  | threshold (size : UInt64)
  | trace (on : Bool)
  | policy (policy : ReallocPolicy)
  deriving DecidableEq, Repr

namespace Launch

/-- A launch without settings, from the words of a command. -/
def new? (library : List UInt8) : List (List UInt8) → Except LaunchError Launch
  | [] => .error .emptyCommand
  | program :: arguments =>
    .ok
      { library, program, arguments
        tag := none
        threshold := none
        trace := false
        policy := none }

/-- A word as a built command holds it: one with a NUL inside cannot be passed to a program, and a
fixed text stands in its place. -/
def heldWord (word : List UInt8) : List UInt8 :=
  if word.contains 0 then Utf8.ofString "<string-with-nul>" else word

/-- The program and the arguments as the built command holds them. -/
def command (launch : Launch) : List UInt8 × List (List UInt8) :=
  (heldWord launch.program, launch.arguments.map heldWord)

/-- The launch with one more setting, which replaces an earlier one of its kind. -/
def apply (launch : Launch) : LaunchSetting → Launch
  | .tag tag => { launch with tag := some tag }
  | .threshold size => { launch with threshold := some size }
  | .trace on => { launch with trace := on }
  | .policy policy => { launch with policy := some policy }

/-- The launch with settings applied in order. -/
def applyAll (launch : Launch) (settings : List LaunchSetting) : Launch :=
  settings.foldl apply launch

/-- The value of the preload variable: the library first, then what was preloaded already. -/
def preloadValue (launch : Launch) (inherited : Option (List UInt8)) : List UInt8 :=
  match inherited with
  | none => launch.library
  | some [] => launch.library
  | some rest => launch.library ++ Utf8.ofString ":" ++ rest

/-- The variables of the settings that are given. -/
def settingVariables (launch : Launch) : List (String × String) :=
  let tag := launch.tag.map fun tag => (Variable.tag.name, tagText tag.value.toUInt64)
  let threshold := launch.threshold.map fun size =>
    (Variable.threshold.name, Numeral.decimal size.toNat)
  let trace := if launch.trace then some (Variable.trace.name, "1") else none
  let policy := launch.policy.map fun policy => (Variable.policy.name, policy.name)
  [tag, threshold, trace, policy].filterMap id

/-- The variables that the program is given besides those it inherits. -/
def ownVariables (launch : Launch) (inherited : Option (List UInt8)) : List (String × List UInt8) :=
  (preloadVariable, launch.preloadValue inherited) ::
    launch.settingVariables.map fun v => (v.1, Utf8.ofString v.2)

/-- The same in the order of their names. -/
def sortedVariables (launch : Launch) (inherited : Option (List UInt8)) :
    List (String × List UInt8) :=
  (launch.ownVariables inherited).mergeSort fun a b => a.1 ≤ b.1

/-- The environment that the program sees when it is launched from the given one. -/
def environment (launch : Launch) (parent : Environment) : Environment :=
  parent.overlay (launch.ownVariables (parent.get? preloadVariable))

end Launch

end PointerTagging
