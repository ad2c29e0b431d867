import PointerTagging.Host.Tree
/-!
# The world of the running programs

What programs share: the file tree, the streams they write to and read from, and the signals under
way. A descriptor of a program leads to a channel of this world.
-/

namespace PointerTagging.Host

/-- How a program ends. -/
inductive Ending where
  | exited (code : UInt8)
  | killed (signal : Nat)
  deriving DecidableEq, Repr

/-- The status that a waiting shell reports for an ending. -/
def Ending.status : Ending → Nat
  | .exited code => code.toNat
  | .killed signal => 128 + signal

/-- What a descriptor leads to. -/
inductive Channel where
  /-- The null device. -/
  | nothing
  /-- A stream to write to, by its number. -/
  | sink (n : Nat)
  /-- A stream to read from, by its number. -/
  | source (n : Nat)
  /-- The end of a file. -/
  | file (place : List String)
  /-- The device that has no room for anything. -/
  | full
  deriving DecidableEq, Repr

/-- The descriptors of a program. -/
abbrev Descriptors := List (Nat × Channel)

namespace Descriptors

/-- The channel of a descriptor. -/
def channel? (descriptors : Descriptors) (n : Nat) : Option Channel :=
  (descriptors.find? fun d => d.1 == n).map (·.2)

/-- The descriptors without one of them. -/
def close (descriptors : Descriptors) (n : Nat) : Descriptors :=
  descriptors.filter fun d => d.1 != n

/-- The descriptors with one of them leading to a channel. -/
def assign (descriptors : Descriptors) (n : Nat) (channel : Channel) : Descriptors :=
  (n, channel) :: descriptors.close n

end Descriptors

/-- What programs share. -/
structure World where
  tree : Tree
  /-- What has been written to each stream. -/
  sinks : List String
  /-- What is left to read from each stream. -/
  sources : List String
  /-- The streams to read from that are files. -/
  fileSources : List Nat
  /-- The number of the next process. -/
  nextPid : Nat
  /-- The processes that run, the innermost first. -/
  processes : List Nat
  /-- The processes of the shells among them, the innermost first. -/
  shells : List Nat
  /-- Signals on their way: the process and the signal. -/
  signals : List (Nat × Nat)
  /-- The time that has passed, in thousandths of a second. -/
  clock : Nat
  deriving Repr

namespace World

/-- The world before the first program: an output stream, an error stream, an empty input. -/
def initial : World :=
  { tree := .initial
    sinks := ["", ""]
    sources := [""]
    fileSources := []
    nextPid := 4242
    processes := []
    shells := []
    signals := []
    clock := 0 }

/-- The seconds since the start of 1970. -/
def second (world : World) : Int := Tree.firstSecond + (world.clock / 1000 : Nat)

/-- The descriptors of the first program. -/
def standard : Descriptors := [(0, .source 0), (1, .sink 0), (2, .sink 1)]

/-- Writes to a channel. -/
def write (world : World) (channel : Channel) (text : String) : World :=
  match channel with
  | .sink n => { world with sinks := world.sinks.modify n (· ++ text) }
  | .file place =>
    match world.tree.at? place with
    | some (.ordinary old mode) =>
      { world with tree := world.tree.put place (.ordinary (old ++ text) mode) }
    | _ => world
  | _ => world

/-- What is left to read from a channel. -/
def pending (world : World) : Channel → String
  | .source n => (world.sources[n]?).getD ""
  | _ => ""

/-- Leaves `text` to read from a channel. -/
def leave (world : World) (channel : Channel) (text : String) : World :=
  match channel with
  | .source n => { world with sources := world.sources.set n text }
  | _ => world

/-- A new stream to write to. -/
def addSink (world : World) : Channel × World :=
  (.sink world.sinks.length, { world with sinks := world.sinks ++ [""] })

/-- A new stream to read `text` from. -/
def addSource (world : World) (text : String) : Channel × World :=
  (.source world.sources.length, { world with sources := world.sources ++ [text] })

/-- A new stream to read the text of a file from. -/
def addFileSource (world : World) (text : String) : Channel × World :=
  let (channel, next) := world.addSource text
  (channel, { next with fileSources := world.sources.length :: next.fileSources })

/-- True of a channel that a file is read from. -/
def isFileSource (world : World) : Channel → Bool
  | .source n => world.fileSources.contains n
  | _ => false

/-- What has been written to a channel. -/
def written (world : World) : Channel → String
  | .sink n => (world.sinks[n]?).getD ""
  | _ => ""

/-- A new process number. -/
def addProcess (world : World) : Nat × World :=
  (world.nextPid, { world with nextPid := world.nextPid + 1 })

end World

/-- What a program starts with. -/
structure Context where
  /-- Variables in the order in which they are listed. -/
  environment : List (String × String)
  /-- The current directory. -/
  place : List String
  descriptors : Descriptors
  /-- The permissions that new files do not have. -/
  mask : Nat
  deriving Repr

namespace Context

/-- The value of a variable. -/
def get? (context : Context) (name : String) : Option String :=
  (context.environment.find? fun v => v.1 == name).map (·.2)

/-- The context with a variable set, at its old place if it has one, else at the end. -/
def setVariable (context : Context) (name value : String) : Context :=
  { context with
    environment :=
      if context.environment.any fun v => v.1 == name then
        context.environment.map fun v => if v.1 == name then (name, value) else v
      else context.environment ++ [(name, value)] }

/-- The context without a variable. -/
def dropVariable (context : Context) (name : String) : Context :=
  { context with environment := context.environment.filter fun v => v.1 != name }

/-- The variables as lines of text without their ends. -/
def variableLines (context : Context) : List String :=
  context.environment.map fun v => v.1 ++ "=" ++ v.2

/-- The longest string that a program can be given, with the NUL behind it. -/
def longestString : Nat := 131072

/-- True if every string fits that a program is given. -/
def fits (context : Context) (words : List String) : Bool :=
  (words.all fun word => word.length < longestString) &&
    context.environment.all fun v => v.1.length + 1 + v.2.length < longestString

/-- The program that a path leads to, if it can be given its words. -/
def program (context : Context) (tree : Tree) (words : List String) (path : String) :
    Except SystemError Tree.Executable := do
  let found ← tree.program context.place path
  if context.fits words then .ok found else .error .argumentsTooLong

/-- The same where a text of no known format is run by the shell. -/
def programOrScript (context : Context) (tree : Tree) (words : List String) (path : String) :
    Except SystemError Tree.Executable := do
  let found ← tree.programOrScript context.place path
  if context.fits words then .ok found else .error .argumentsTooLong

/-- The search path of a context. -/
def searchPath (context : Context) : String := (context.get? "PATH").getD Tree.searchPath

/-- Writes to a descriptor. -/
def write (context : Context) (n : Nat) (text : String) (world : World) : World :=
  match context.descriptors.channel? n with
  | some channel => world.write channel text
  | none => world

/-- Why nothing can be written to a descriptor, if so. -/
def writeError? (context : Context) (n : Nat) : Option SystemError :=
  match context.descriptors.channel? n with
  | none => some .badDescriptor
  | some (.source _) => some .badDescriptor
  | some .full => some .noSpace
  | some _ => none

end Context

/-! ## Processes -/

namespace World

/-- The directory of the processes. -/
def processPlace : List String := ["proc"]

/-- What the tree shows of a process: its program, its words and its variables. -/
def processFiles (pid : Nat) (executable : Tree.Executable) (words : List String)
    (context : Context) : List (List String × File) :=
  let place := processPlace ++ [toString pid]
  let closed (lines : List String) : String := String.join (lines.map (· ++ "\x00"))
  let name := (executable.place.getLast?).getD ""
  (place, .directory) :: (place ++ ["exe"], .link (Tree.pathOf executable.place)) ::
    (place ++ ["cwd"], .link (Tree.pathOf context.place)) :: (place ++ ["root"], .link "/") ::
    (place ++ ["cmdline"], .holding (closed words)) ::
    (place ++ ["environ"], .holding (closed context.variableLines)) ::
    (place ++ ["comm"], .holding ((name.take 15).toString ++ "\n")) ::
    (place ++ ["fd"], .directory) ::
    context.descriptors.map fun d => (place ++ ["fd", toString d.1], .descriptor d.1)

/-- The place of the link to the process that looks at it. -/
def ownProcess : List String := processPlace ++ ["self"]

/-- The world as a process sees it. -/
def seenBy (world : World) (pid : Nat) : World :=
  { world with tree := world.tree.put ownProcess (.link (toString pid)) }

/-- The world in which a new process runs, and its number. -/
def enter (world : World) (executable : Tree.Executable) (words : List String)
    (context : Context) : Nat × World :=
  let (pid, world) := world.addProcess
  let files := processFiles pid executable words context ++ world.tree.files
  let tree := { world.tree with files, mask := context.mask, now := world.second }
  (pid, { world with tree, processes := pid :: world.processes }.seenBy pid)

/-- The world behind the innermost process. -/
def leaveProcess (world : World) : World :=
  match world.processes with
  | [] => world
  | pid :: rest =>
    let tree :=
      { world.tree.remove (processPlace ++ [toString pid]) with now := world.second }
    { world with tree, processes := rest }.seenBy (rest.headD 1)

end World

end PointerTagging.Host
