import PointerTagging.CommandLine
import PointerTagging.Host.Program
import PointerTagging.Text.Latin
/-!
# A stand-in for the host

A system that needs no machine: a tree of files, and programs that are functions of their words,
their environment and what they read. What `run` prints and returns is what the program prints and
returns that it names, and it may name any program. So the stand-in has those of a small
installation, each as far as a launched command line can tell: the shells, `awk`, `sed`, `perl`, the
utilities, and the launcher itself.

None of these modules is part of the theory. The command line takes its system as a parameter, and
what is proved of it holds over every system; only the program plugs the stand-in in.
-/

namespace PointerTagging.Host

open Text

/-- True of a path that leads to a file that is neither a directory nor a device. -/
def isFile (path : List UInt8) : Bool := Tree.initial.isFile Tree.start (Latin.ofBytes path)

/-- What a program starts with under an environment. -/
def contextOf (environment : Environment) : Context :=
  { environment := environment.bindings.map fun b =>
      (Latin.ofBytes (Utf8.ofString b.1), Latin.ofBytes b.2)
    place := Tree.start
    descriptors := World.standard
    mask := Tree.usualMask }

/-- The environment that a program starts with. A name that is no text is not among its names. -/
def Context.toEnvironment (context : Context) : Environment :=
  ⟨context.environment.filterMap fun v =>
    (Utf8.toString? (Latin.toBytes v.1)).map fun name => (name, Latin.toBytes v.2)⟩

/-! ## The launcher as a program -/

/-- The code that a program returned, unless a signal ended it. -/
def Ending.code? : Ending → Option UInt8
  | .exited code => some code
  | .killed _ => none

/-- What a finished command does as a program. -/
def outcomeOf (result : CommandLine.Result) : Outcome :=
  { Outcome.printing (Latin.ofBytes result.output) with
    errors := Latin.ofBytes result.errors
    code := result.exit.toNat }

/-- The plan of a step that is taken in a context. -/
def planOf (environment : Environment) (context : Context) : CommandLine.Step → Plan
  | .done result => .finished (outcomeOf result)
  | .launching launch =>
    let errors := CommandLine.announcement environment launch
    let inner := (contextOf (launch.environment environment)).environment
    .launching (Latin.ofBytes (Utf8.ofString errors)) { context with environment := inner }
      ((launch.program :: launch.arguments).map Latin.ofBytes)
      (fun error => outcomeOf (CommandLine.failed "" (.spawn error.message)))
      (fun ending => CommandLine.exitStatus ending.code?)

/-- The plans of launchers that are started by the programs of a launch. -/
def planner : Planner := fun tree context arguments =>
  let environment := context.toEnvironment
  let isFile (path : List UInt8) : Bool := tree.isFile context.place (Latin.ofBytes path)
  match CommandLine.Invocation.parse? (arguments.map Latin.toBytes) with
  | none => .finished (outcomeOf CommandLine.refused)
  | some invocation =>
    planOf environment context (CommandLine.step isFile environment invocation)

/-! ## The system -/

/-- The stand-in, for a launcher whose own environment is the given one. -/
def system (environment : Environment) : System where
  isFile := isFile
  start inner words :=
    match Program.run planner (contextOf environment) (contextOf inner)
      (words.map Latin.ofBytes) with
    | .error error => .error error.message
    | .ok (ending, world) =>
      .ok
        { code := ending.code?
          output := Latin.toBytes (world.written (.sink 0))
          errors := Latin.toBytes (world.written (.sink 1)) }

/-- What the loader says when a program starts under an environment. -/
def loaderComplaints (environment : Environment) : List UInt8 :=
  Latin.toBytes (Loader.complaints (contextOf environment) .initial)

end PointerTagging.Host
