import PointerTagging.Config
import PointerTagging.Text.Utf8
import PointerTagging.Text.Blank
import PointerTagging.Text.Numeral
/-!
# Settings as text

How the text of an environment variable is read into a field of the configuration. A text is bytes;
it has to be UTF-8, white space around it does not count, and neither does the case of ASCII
letters. A text that cannot be used is refused with its cause.
-/

namespace PointerTagging

open Text

/-- The environment variables that carry settings. -/
inductive Variable where
  | tag
  | threshold
  | trace
  | policy
  deriving DecidableEq, Repr

/-- The name of a variable in the environment. -/
def Variable.name : Variable → String
  | .tag => "TAGSHIM_TAG"
  | .threshold => "TAGSHIM_SMALL_THRESHOLD"
  | .trace => "TAGSHIM_TRACE"
  | .policy => "TAGSHIM_REALLOC_POLICY"

/-- The variables in the order they are asked for. -/
def Variable.all : List Variable := [.tag, .threshold, .trace, .policy]

/-- Why a setting cannot be used. -/
inductive Fault where
  | notUtf8
  | invalidTag
  | zeroTag
  | invalidThreshold
  | invalidFlag
  | invalidPolicy
  deriving DecidableEq, Repr

/-- What a fault says about the text. -/
def Fault.message : Fault → String
  | .notUtf8 => "value is not valid UTF-8"
  | .invalidTag => "expected a 16-bit tag (0x-prefixed hex or decimal)"
  | .zeroTag => "tag must be non-zero"
  | .invalidThreshold => "expected a decimal byte count"
  | .invalidFlag => "expected one of 1/0, true/false, on/off, yes/no"
  | .invalidPolicy => "expected `inherit` or `size`"

/-- A setting that cannot be used: the name it was read under, and why. -/
structure SettingError where
  name : String
  fault : Fault
  deriving DecidableEq, Repr

/-- The text of the error, the variable's name in front. -/
def SettingError.message (error : SettingError) : String :=
  error.name ++ ": " ++ error.fault.message

namespace Setting

/-- The trimmed text of a setting. -/
def text (name : String) (raw : List UInt8) : Except SettingError (List Char) :=
  match Utf8.decode raw with
  | some cs => .ok (trim cs)
  | none => .error ⟨name, .notUtf8⟩

/-- True if the text is the word, which is in lower case, up to the case of ASCII letters. -/
def spells (cs : List Char) (word : String) : Bool := cs.map Char.toLower == word.toList

/-- A tag: `0x` and hexadecimal digits, or decimal digits, below 2^16 and not zero. -/
def parseTag (raw : List UInt8) : Except SettingError Tag := do
  let cs ← text Variable.tag.name raw
  let value :=
    match Numeral.hexBody? cs with
    | some body => Numeral.read? 16 UInt16.size body
    | none => Numeral.read? 10 UInt16.size cs
  match value with
  | none => .error ⟨Variable.tag.name, .invalidTag⟩
  | some value =>
    match Tag.ofValue? value.toUInt16 with
    | none => .error ⟨Variable.tag.name, .zeroTag⟩
    | some tag => .ok tag

/-- A threshold: decimal digits, below 2^64. -/
def parseThreshold (raw : List UInt8) : Except SettingError UInt64 := do
  let cs ← text Variable.threshold.name raw
  match Numeral.read? 10 UInt64.size cs with
  | none => .error ⟨Variable.threshold.name, .invalidThreshold⟩
  | some value => .ok value.toUInt64

/-- The words that turn a switch on. -/
def onWords : List String := ["1", "true", "on", "yes"]

/-- The words that turn a switch off. -/
def offWords : List String := ["0", "false", "off", "no"]

/-- A switch, read under the given name. -/
def parseFlag (raw : List UInt8) (name : String) : Except SettingError Bool := do
  let cs ← text name raw
  if onWords.any (spells cs) then .ok true
  else if offWords.any (spells cs) then .ok false
  else .error ⟨name, .invalidFlag⟩

/-- A policy: its name, or `by-size`. -/
def parsePolicy (raw : List UInt8) : Except SettingError ReallocPolicy := do
  let cs ← text Variable.policy.name raw
  if spells cs "inherit" then .ok .inherit
  else if spells cs "size" || spells cs "by-size" then .ok .bySize
  else .error ⟨Variable.policy.name, .invalidPolicy⟩

end Setting

end PointerTagging
