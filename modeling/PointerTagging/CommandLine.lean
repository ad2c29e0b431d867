import PointerTagging.CommandLine.Arguments
import PointerTagging.Launch
import PointerTagging.Report.Config
import PointerTagging.System
/-!
# The command line

What an invocation prints and returns, as a function of the system and the environment.
-/

namespace PointerTagging.CommandLine

open Text

/-- What a finished command leaves behind. -/
structure Result where
  exit : UInt8
  output : List UInt8
  errors : List UInt8
  deriving DecidableEq, Repr

/-- Why a command fails. -/
inductive Failure where
  | setting (error : SettingError)
  | address (error : InvalidAddress)
  | launch (error : LaunchError)
  /-- The program of the launch cannot be started. -/
  | spawn (reason : String)
  deriving DecidableEq, Repr

/-- The text of a failure. -/
def Failure.message : Failure → String
  | .setting error => error.message
  | .address error => error.message
  | .launch error => error.message
  | .spawn reason => "io: " ++ reason

/-- A line on standard error for each warning. -/
def warnings (messages : List String) : String :=
  String.join (messages.map fun message => "warning: " ++ message ++ "\n")

/-- What a command leaves behind that fails after it has written `errors`. -/
def failed (errors : String) (failure : Failure) : Result :=
  { exit := 1
    output := []
    errors := Utf8.ofString (errors ++ "error: " ++ failure.message ++ "\n") }

/-- What a command leaves behind that succeeds and prints a JSON value. -/
def printed (errors : String) (value : Json) : Result :=
  { exit := 0
    output := Utf8.ofString (value.pretty ++ "\n")
    errors := Utf8.ofString errors }

/-- Shows the configuration. -/
def config (env : Environment) : Result :=
  let report := ConfigReport.ofEnvironment env
  printed (warnings report.warnings) report.toJson

/-- Classifies addresses. The tag comes from the environment if none is given, and only then are the
unusable settings reported. -/
def classify (env : Environment) (addresses : List String) (tag : Option String) : Result :=
  let chosen : Except SettingError (Tag × String) :=
    match tag with
    | some raw => (Setting.parseTag (Utf8.ofString raw)).map fun tag => (tag, "")
    | none =>
      let (config, errors) := Config.ofEnvironment env
      .ok (config.tag, warnings (errors.map SettingError.message))
  match chosen with
  | .error error => failed "" (.setting error)
  | .ok (tag, errors) =>
    match AddressReport.classifyAll addresses tag with
    | .error error => failed errors (.address error)
    | .ok reports => printed errors (.list (reports.map AddressReport.toJson))

/-- A setting that is given as text. -/
def setting {α : Type} (parse : List UInt8 → Except SettingError α) (make : α → LaunchSetting)
    (raw : Option String) : Except SettingError (List LaunchSetting) :=
  match raw with
  | none => .ok []
  | some raw => (parse (Utf8.ofString raw)).map fun value => [make value]

/-- The launch that the words of `run` describe; `isFile` says which libraries there are. -/
def launch (isFile : List UInt8 → Bool) (library : List UInt8) (trace : Bool)
    (threshold tag policy : Option String) (command : List String) : Except Failure Launch := do
  let launch ← (Launch.new? library (command.map Utf8.ofString)).mapError .launch
  let tag ← (setting Setting.parseTag .tag tag).mapError .setting
  let threshold ← (setting Setting.parseThreshold .threshold threshold).mapError .setting
  let policy ← (setting Setting.parsePolicy .policy policy).mapError .setting
  let launch := launch.applyAll (.trace trace :: tag ++ threshold ++ policy)
  if isFile launch.library then .ok launch
  else .error (.launch (.missingLibrary launch.library))

/-- What an invocation comes to before any program is started. -/
inductive Step where
  | done (result : Result)
  | launching (launch : Launch)
  deriving DecidableEq, Repr

/-- What an invocation comes to. -/
def step (isFile : List UInt8 → Bool) (env : Environment) : Invocation → Step
  | .config => .done (config env)
  | .classify addresses tag => .done (classify env addresses tag)
  | .run library trace threshold tag policy command =>
    match launch isFile library trace threshold tag policy command with
    | .error failure => .done (failed "" failure)
    | .ok launch => .launching launch

/-- What is said ahead of a launch. -/
def announcement (env : Environment) (launch : Launch) : String :=
  let preload := launch.preloadValue (env.get? preloadVariable)
  "Running with LD_PRELOAD=" ++ Utf8.toStringLossy preload ++ "\n"

/-- The status to return for a program that returned a code: the same one, or 1 if a signal ended
it. -/
def exitStatus (code : Option UInt8) : UInt8 := code.getD 1

/-- Runs a launch. -/
def run (system : System) (env : Environment) (launch : Launch) : Result :=
  let errors := announcement env launch
  match system.start (launch.environment env) (launch.program :: launch.arguments) with
  | .error reason => failed errors (.spawn reason)
  | .ok trail =>
    { exit := exitStatus trail.code
      output := trail.output
      errors := Utf8.ofString errors ++ trail.errors }

/-- What an invocation leaves behind. -/
def execute (system : System) (env : Environment) (invocation : Invocation) : Result :=
  match step system.isFile env invocation with
  | .done result => result
  | .launching launch => run system env launch

/-- What is printed if the command line breaks a rule. -/
def usage : String :=
  "usage: config\n" ++
  "       classify [--tag TAG] ADDRESS...\n" ++
  "       run --preload LIBRARY [--trace] [--threshold SIZE] [--tag TAG]\n" ++
  "           [--realloc-policy POLICY] -- COMMAND...\n"

/-- The result of a command line that breaks a rule. -/
def refused : Result := { exit := 2, output := [], errors := Utf8.ofString usage }

end PointerTagging.CommandLine
