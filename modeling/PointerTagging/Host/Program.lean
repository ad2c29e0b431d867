import PointerTagging.Host.Awk
import PointerTagging.Host.Find
import PointerTagging.Host.Loader
import PointerTagging.Host.Plan
import PointerTagging.Host.Scripting
import PointerTagging.Host.Shell.Startup
import PointerTagging.Host.Utility
/-!
# Running programs

Starts programs: the shell, the utilities that start others, and those that only print. A program
that is started by another one runs one level below it.
-/

namespace PointerTagging.Host

open Shell

namespace Program

/-- The world in which a program has left a text of its standard input. -/
def leaveInput (context : Context) (text : String) (world : World) : World :=
  match context.descriptors.channel? 0 with
  | some channel => world.leave channel text
  | none => world

/-- Carries out what a utility does. -/
def apply (utility : Utility) (name : String) (context : Context) (outcome : Outcome)
    (world : World) : Ending × World :=
  let prints := !outcome.output.isEmpty || outcome.turns.any fun t => t.1 == 1 && !t.2.isEmpty
  let lost :=
    if !prints then none else (context.writeError? 1).map (Tool.lostOutput utility name)
  let (complaint, code) := lost.getD ("", outcome.code)
  -- what is printed may go to a file of the tree that the utility leaves
  let world := { world with tree := outcome.tree.getD world.tree }
  let world := outcome.turns.foldl (fun world t => context.write t.1 t.2 world) world
  let world := context.write 1 outcome.output (context.write 2 (outcome.errors ++ complaint) world)
  let world := if outcome.drains then leaveInput context outcome.left world else world
  (.exited code.toUInt8, { world with clock := world.clock + outcome.delay })

/-- What a utility is given. -/
def viewOf (context : Context) (words : List String) (world : World) : View where
  name := words.headD ""
  arguments := words.drop 1
  environment := context.environment
  tree := world.tree
  place := context.place
  inputs := context.descriptors.map fun d => (d.1, world.pending d.2)
  hasFileInput := (context.descriptors.channel? 0).any world.isFileSource

/-- Starts a program as the shell would find it. -/
def startFound (start : Launcher) (context : Context) (words : List String)
    (refused : SystemError → World → Ending × World) (world : World) : Ending × World :=
  match Tree.search (context.programOrScript world.tree words) context.searchPath
      (words.headD "") with
  | .ok executable => start context words executable world
  | .error error => refused error world

/-- How a program ends that has started others, as far as they decide it: what it says about one,
its own code, and whether it goes on. -/
def judge (name : String) : Ending → String × UInt8 × Bool
  | .exited 0 => ("", 0, true)
  | .exited 255 => (name ++ ": exited with status 255; aborting\n", 124, false)
  | .exited _ => ("", 123, true)
  | .killed signal => (name ++ ": terminated by signal " ++ toString signal ++ "\n", 125, false)

/-- A word as it is shown in a command. -/
def shownWord (word : String) : String :=
  let isPlain (c : Char) : Bool := c.isAlphanum || "_./:=@%^,+-".toList.contains c
  if !word.isEmpty && word.toList.all isPlain then word else "'" ++ word ++ "'"

/-- Starts commands one after the other; `code` is what is returned if all of them succeed. -/
def runAll (start : Launcher) (name : String) (isShown : Bool) (context : Context)
    (code : UInt8) : List (List String) → World → Ending × World
  | [], world => (.exited code, world)
  | command :: commands, world =>
    let word := command.headD ""
    let shown := if isShown then " ".intercalate (command.map shownWord) ++ "\n" else ""
    let world := context.write 2 shown world
    match Tree.search (context.programOrScript world.tree command) context.searchPath word with
    | .error error =>
      let text := name ++ ": " ++ word ++ ": " ++ error.text ++ "\n"
      (.exited (if error == .notFound then 127 else 126), context.write 2 text world)
    | .ok executable =>
      let (ending, world) := start context command executable world
      let (text, worse, goesOn) := judge (name ++ ": " ++ word) ending
      let world := context.write 2 text world
      let code := if worse == 0 then code else worse
      if goesOn then runAll start name isShown context code commands world
      else (.exited code, world)

/-- Carries out a plan of a program; `start` starts others. -/
def carryOut (start : Launcher) (utility : Utility) (name : String) (context : Context)
    (plan : Plan) (world : World) : Ending × World :=
  let finish (outcome : Outcome) (world : World) : Ending × World :=
    apply utility name context outcome world
  match plan with
  | .finished outcome => finish outcome world
  | .launching errors inner words refused code =>
    let world := context.write 2 errors world
    match Tree.search (inner.program world.tree words) context.searchPath (words.headD "") with
    | .error error => finish (refused error) world
    | .ok executable =>
      let (ending, world) := start inner words executable world
      (.exited (code ending), world)
  | .replaced inner words refused =>
    startFound start inner words (fun error world => finish (refused error) world) world
  | .limited limit signal errors late inner words refused =>
    let (ending, after) :=
      startFound start inner words (fun error world => finish (refused error) world) world
    if limit == 0 || after.clock ≤ world.clock + limit then (ending, after)
    else
      (late.getD (.killed signal),
        context.write 2 errors { after with clock := world.clock + limit })
  | .repeated isShown errors failed inner commands =>
    let world := leaveInput context "" world
    let (ending, world) := runAll start name isShown inner (if failed then 1 else 0) commands world
    (ending, context.write 2 errors world)

/-- Starts a program: `plan` is what the launcher comes to, `run` runs the commands of shells, and
programs start others at most as many levels deep. -/
def start (plan : Planner) (run : Runner) : Nat → Launcher
  | 0, _, _, _, world => (.killed 9, world)
  | levels + 1, context, words, executable, world =>
    let start := start plan run levels
    let words := executable.words words
    let name := words.headD ""
    let world := context.write 2 (Loader.complaints context world.tree) world
    let (_, world) := world.enter executable words context
    let (ending, world) : Ending × World :=
      match executable.utility with
      | .launcher =>
        let plan := plan world.tree context (words.drop 1)
        carryOut start .launcher name context plan world
      | .shell => Shell.main .common run context words world
      | .bash => Shell.main .extended run context words world
      | .awk => Awk.main start context words world
      | .perl => Scripting.main start context words world
      | .find => Find.main start context (viewOf context words world) world
      | utility =>
        let plan := Tool.plan utility (viewOf context words world) context
        carryOut start utility name context plan world
    (ending, world.leaveProcess)

/-- How many programs may start one another. -/
def levels : Nat := 64

/-- Runs commands with at most as many levels inside. -/
def runnerOf (plan : Planner) : Nat → Runner
  | 0, _, _ => throw (.killed 9)
  | n + 1, last, command =>
    let run := runnerOf plan n
    step ⟨run, start plan run levels, n⟩ last command

/-- The levels that running a launch may take. Every script that ends takes fewer. -/
def depth : Nat := 1000000

/-- The launcher as a program. -/
def launcher : Tree.Executable := ⟨.launcher, Tree.launcherPlace, []⟩

/-- Starts the program that some words name in the first world, below the launcher, which has a
context of its own; `planner` makes the plans of launchers that run inside. -/
def run (planner : Planner) (own context : Context) (words : List String) :
    Except SystemError (Ending × World) := do
  let (_, world) := World.initial.enter launcher [Tree.pathOf launcher.place] own
  let executable ←
    Tree.search (context.program world.tree words) context.searchPath (words.headD "")
  return start planner (runnerOf planner depth) levels context words executable world

end Program

end PointerTagging.Host
