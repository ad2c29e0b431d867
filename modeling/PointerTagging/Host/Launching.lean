import PointerTagging.Host.World
/-!
# Launching programs

What starts a program on behalf of another one, and the ways in which programs have the shell run a
command.
-/

namespace PointerTagging.Host

/-- What starts a program: its context, the words of the command, the program, the world. -/
abbrev Launcher := Context → List String → Tree.Executable → World → Ending × World

namespace Launcher

/-- Has the shell run a command. -/
def shell (start : Launcher) (context : Context) (command : String) (world : World) :
    Ending × World :=
  let words := ["sh", "-c", command]
  match context.program world.tree words Tree.shellPath with
  | .ok executable => start context words executable world
  | .error _ => (.exited 127, world)

/-- Has the shell run a command whose standard output is kept. -/
def output (start : Launcher) (context : Context) (command : String) (world : World) :
    String × Ending × World :=
  let (sink, world) := world.addSink
  let inner := { context with descriptors := context.descriptors.assign 1 sink }
  let (ending, world) := start.shell inner command world
  (world.written sink, ending, world)

/-- Has the shell run a command that reads a text. -/
def input (start : Launcher) (context : Context) (command text : String) (world : World) :
    Ending × World :=
  let (source, world) := world.addSource text
  let inner := { context with descriptors := context.descriptors.assign 0 source }
  start.shell inner command world

end Launcher

/-! ## Files -/

namespace Context

/-- Writes a text to the file at a path, at its end or in place of what is there. -/
def writeFile (context : Context) (path text : String) (appends : Bool) (world : World) :
    Except SystemError World :=
  match world.tree.spot context.place path with
  | .error error => .error error
  | .ok ⟨place, none⟩ => .ok { world with tree := world.tree.create place text }
  | .ok ⟨place, some (.ordinary old mode)⟩ =>
    let all := if appends then old ++ text else text
    .ok { world with tree := world.tree.put place (.ordinary all mode) }
  | .ok ⟨_, some .directory⟩ => .error .isADirectory
  | .ok ⟨_, some (.descriptor n)⟩ => .ok (context.write n text world)
  | .ok ⟨_, some .full⟩ => if text.isEmpty then .ok world else .error .noSpace
  | .ok _ => .ok world

/-- The text of the file at a path, and the world behind reading it. -/
def readFile (context : Context) (path : String) (world : World) :
    Except SystemError (String × World) :=
  match world.tree.locate context.place path with
  | .error error => .error error
  | .ok (_, .ordinary text _) => .ok (text, world)
  | .ok (_, .zeros) => .ok (File.someZeros, world)
  | .ok (_, .directory) => .error .isADirectory
  | .ok (_, .descriptor n) =>
    match context.descriptors.channel? n with
    | some channel => .ok (world.pending channel, world.leave channel "")
    | none => .error .badDescriptor
  | .ok _ => .ok ("", world)

end Context

end PointerTagging.Host
