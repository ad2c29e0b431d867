import PointerTagging.Environment
import PointerTagging.Report.Address
/-!
# Configuration reports

The configuration that a process would use under an environment, as text, with a warning for each
variable that is set and refused.
-/

namespace PointerTagging

open Text

/-- A configuration as text. -/
structure ConfigReport where
  tag : String
  mask : String
  threshold : UInt64
  trace : Bool
  policy : String
  /-- One line for each variable that was refused. -/
  warnings : List String
  deriving DecidableEq, Repr

namespace ConfigReport

/-- The report on a configuration. -/
def ofConfig (config : Config) (warnings : List String) : ConfigReport where
  tag := tagText config.tag.value.toUInt64
  mask := addressText config.tag.mask
  threshold := config.threshold
  trace := config.trace
  policy := config.policy.name
  warnings := warnings

/-- The report on the configuration that the environment gives. -/
def ofEnvironment (env : Environment) : ConfigReport :=
  let (config, errors) := Config.ofEnvironment env
  ofConfig config (errors.map SettingError.message)

/-- The report as a JSON value. -/
def toJson (report : ConfigReport) : Json :=
  .record [
    ("tag", .string report.tag),
    ("mask", .string report.mask),
    ("small_object_threshold", .number report.threshold.toNat),
    ("trace", .bool report.trace),
    ("realloc_policy", .string report.policy),
    ("warnings", .list (report.warnings.map .string))]

end ConfigReport

end PointerTagging
