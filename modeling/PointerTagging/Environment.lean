import PointerTagging.Setting
/-!
# Configuration from an environment

Each variable is asked for once, in a fixed order, and handled on its own: an unset one keeps its
default, an unusable one is reported and keeps its default.
-/

namespace PointerTagging

/-- The variables of a process with their values, each name at most once. -/
structure Environment where
  bindings : List (String × List UInt8)
  deriving DecidableEq, Repr

namespace Environment

/-- The value of a variable, if it is set. -/
def get? (env : Environment) (name : String) : Option (List UInt8) :=
  (env.bindings.find? fun b => b.1 == name).map (·.2)

/-- The bindings with the variable set, at its old place if it has one, else at the end. -/
def bind : List (String × List UInt8) → String → List UInt8 → List (String × List UInt8)
  | [], name, value => [(name, value)]
  | b :: bs, name, value => if b.1 == name then (name, value) :: bs else b :: bind bs name value

/-- The environment with the variable set. -/
def set (env : Environment) (name : String) (value : List UInt8) : Environment :=
  ⟨bind env.bindings name value⟩

/-- The environment overlaid with the given values, in their order. -/
def overlay (env : Environment) (values : List (String × List UInt8)) : Environment :=
  values.foldl (fun env b => env.set b.1 b.2) env

end Environment

namespace Config

/-- One setting: its default if the variable is unset, or set to a text that is refused; the
refusal is reported. -/
def setting {m : Type → Type} [Monad m] {α : Type} (lookup : Variable → m (Option (List UInt8)))
    (report : SettingError → m Unit) (v : Variable)
    (parse : List UInt8 → Except SettingError α) (fallback : α) : m α := do
  match ← lookup v with
  | none => pure fallback
  | some raw =>
    match parse raw with
    | .ok value => pure value
    | .error error => do
      report error
      pure fallback

/-- The configuration that a source of variables gives. -/
def resolve {m : Type → Type} [Monad m] (lookup : Variable → m (Option (List UInt8)))
    (report : SettingError → m Unit) : m Config := do
  let tag ← setting lookup report .tag Setting.parseTag default.tag
  let threshold ← setting lookup report .threshold Setting.parseThreshold default.threshold
  let trace ← setting lookup report .trace (Setting.parseFlag · Variable.trace.name) default.trace
  let policy ← setting lookup report .policy Setting.parsePolicy default.policy
  pure { tag, threshold, trace, policy }

/-- What passed between the resolution of a configuration and its surroundings. -/
structure Consultation where
  /-- The variables asked for, in order. -/
  asked : List Variable
  /-- The errors reported, in order. -/
  errors : List SettingError
  deriving DecidableEq, Repr

/-- The configuration that the variables give, and what was asked and reported on the way. -/
def consult (lookup : Variable → Option (List UInt8)) : Config × Consultation :=
  let look (v : Variable) : StateM Consultation (Option (List UInt8)) := do
    modify fun c => { c with asked := c.asked ++ [v] }
    pure (lookup v)
  let report (e : SettingError) : StateM Consultation Unit :=
    modify fun c => { c with errors := c.errors ++ [e] }
  (resolve look report).run ⟨[], []⟩

/-- The configuration of a process with this environment, and the errors it reports. -/
def ofEnvironment (env : Environment) : Config × List SettingError :=
  let (config, consultation) := consult fun v => env.get? v.name
  (config, consultation.errors)

end Config

end PointerTagging
