import PointerTagging.Host.Shell.Arithmetic
import PointerTagging.Host.Shell.State
/-!
# Texts, signals and copies of the shell

Runs the commands of a text, takes signals, and runs commands in a copy of the shell, of which
nothing lasts but what it does to the world.
-/

namespace PointerTagging.Host.Shell

open Shell.Action

/-! ## Texts -/

/-- A line of a text. -/
def lineOf (text : String) (line : Nat) : String := ((text.splitOn "\n")[line - 1]?).getD ""

/-- Complains about a line that breaks a rule; `origin` says where the text comes from, if it is no
file. The extended dialect shows the line as well. -/
def refuseLine (origin : Option String) (text : String) (line : Nat) (complaint : String) :
    Action Unit := do
  modify fun s => { s with line }
  if !(← isExtended) then fail ("Syntax error: " ++ complaint)
  let s ← get
  let place := (origin.map fun origin => origin ++ ": ").getD ""
  let head := speaker s ++ ": " ++ place ++ "line " ++ toString line ++ ": "
  for sentence in complaint.splitOn "\n" do
    write 2 (head ++ sentence ++ "\n")
  if ((complaint.splitOn "\n").any fun s => s.startsWith "syntax error near") then
    write 2 (head ++ "\x60" ++ lineOf text line ++ "'\n")
  setStatus 2

/-- Runs a command of a script. In the extended dialect an error ends no more than the line. -/
def runTopmost (run : Runner) (last : Bool) (command : Command) : Action Unit := do
  if ← isExtended then
    tryCatch (run last command) fun stop =>
      match stop with
      | .error => do if (← get).isCopy then throw .error
      | stop => throw stop
  else run false command

/-- Runs the commands of a script line by line, so that what precedes a line that breaks a rule is
done. `refuse` complains about such a line. `before` says that some have run already; the result
says it for the whole. -/
def runLines (run : Runner) (last : Bool) (refuse : Nat → String → Action Unit) :
    Nat → (before : Bool) → Source → Action Bool
  | 0, before, _ => return before
  | n + 1, before, source => do
    match readLine source with
    | (.ending, _) => return before
    | (.broken line complaint, _) =>
      refuse line complaint
      return true
    | (.commands none true, _) => return before
    | (.commands none false, source) => runLines run last refuse n before source
    | (.commands (some command) isLast, source) =>
      runTopmost run (last && source.rest.all Char.isWhitespace) command
      if isLast then return true else runLines run last refuse n true source

/-- Runs the commands of a text; the last one may take the place of the shell if `last`. Without any
the status is 0. -/
def runText (run : Runner) (last : Bool) (origin : Option String) (text : String) :
    Action Unit := do
  let source := Source.ofScript (← get).dialect text
  unless ← runLines run last (refuseLine origin text) (text.length + 2) false source do
    setStatus 0

/-! ## Signals -/

/-- The names of the signals by their numbers, with what is said of a program that one has ended. -/
def signals : List (Nat × String × String) :=
  [(1, "HUP", "Hangup"), (2, "INT", "Interrupt"), (3, "QUIT", "Quit"),
    (4, "ILL", "Illegal instruction"), (5, "TRAP", "Trace/breakpoint trap"),
    (6, "ABRT", "Aborted"), (7, "BUS", "Bus error"), (8, "FPE", "Floating point exception"),
    (9, "KILL", "Killed"), (10, "USR1", "User defined signal 1"),
    (11, "SEGV", "Segmentation fault"), (12, "USR2", "User defined signal 2"),
    (13, "PIPE", "Broken pipe"), (14, "ALRM", "Alarm clock"), (15, "TERM", "Terminated"),
    (16, "16", "Stack fault"), (17, "CHLD", "Child exited"), (18, "CONT", "Continued"),
    (19, "STOP", "Stopped (signal)"), (20, "TSTP", "Stopped"), (21, "TTIN", "Stopped (tty input)"),
    (22, "TTOU", "Stopped (tty output)"), (23, "URG", "Urgent I/O condition"),
    (24, "XCPU", "CPU time limit exceeded"), (25, "XFSZ", "File size limit exceeded"),
    (26, "VTALRM", "Virtual timer expired"), (27, "PROF", "Profiling timer expired"),
    (28, "WINCH", "Window changed"), (29, "IO", "I/O possible"), (30, "PWR", "Power failure"),
    (31, "SYS", "Bad system call")]

/-- The signals that end nothing. -/
def harmlessSignals : List Nat := [0, 17, 18, 19, 20, 21, 22, 23, 28]

/-- The number of the first signal that programs may use for any purpose. -/
def firstFreeSignal : Nat := 34

/-- The number of the last signal. -/
def lastSignal : Nat := 64

/-- The name of a signal: its number if it has no other. -/
def signalName (signal : Nat) : String :=
  match signals.find? fun s => s.1 == signal with
  | some (_, name, _) => name
  | none =>
    if signal == 0 then "EXIT"
    else if signal < firstFreeSignal then toString signal
    else if signal == firstFreeSignal then "RTMIN"
    else if signal < 50 then "RTMIN+" ++ toString (signal - firstFreeSignal)
    else if signal < lastSignal then "RTMAX-" ++ toString (lastSignal - signal)
    else "RTMAX"

/-- The signal that a number or a name stands for, in any case of letters. -/
def signalOf? (text : String) : Option Nat :=
  match naturalOf? text with
  | some n => if n ≤ lastSignal then some n else none
  | none => ((List.range lastSignal).map (· + 1)).find? fun n => signalName n == text.toUpper

/-- Takes the signals that are on their way to the shell: a trap runs, and without one the shell
ends, unless the signal is harmless. -/
def takeSignals (run : Runner) : Action Unit := do
  let s ← get
  unless s.isCopy || s.world.signals.isEmpty do
    let (own, others) := s.world.signals.partition fun signal => signal.1 == s.pid
    set { s with world := { s.world with signals := others } }
    for (_, signal) in own do
      match (s.traps.find? fun t => t.1 == signal).map (·.2) with
      | some command =>
        if signal == 9 then throw (.killed signal)
        unless command.isEmpty do
          let status := (← get).status
          runText run false (some "trap") command
          setStatus status
      | none => unless harmlessSignals.contains signal do throw (.killed signal)

/-! ## Copies -/

/-- Runs the trap for the end of the shell, if there is one; it may end the shell once more. -/
def runExitTrap (run : Runner) : Action Unit := do
  match ((← get).traps.find? fun t => t.1 == 0).map (·.2) with
  | none => return
  | some command =>
    let status := (← get).status
    modify fun s => { s with traps := s.traps.filter fun t => t.1 != 0 }
    tryCatch (runText run false (some "exit trap") command) fun stop =>
      match stop with
      | .leaveFunction => return
      | .leaveLoops _ => return
      | .nextRound _ => return
      | stop => throw stop
    setStatus status

/-- Carries out what a shell does up to its end. -/
def toEnd (run : Runner) (action : Action Unit) : StateM State Ending := do
  let finish : StateM State Ending := do return .exited (← get).status.toUInt8
  match ← action.run with
  | .error (.killed signal) => return .killed signal
  | _ =>
    match ← (runExitTrap run).run with
    | .error (.killed signal) => return .killed signal
    | _ => finish

/-- Ends the shell if a signal is on its way to it that is neither harmless nor trapped. -/
def dieOfSignals : Action Unit := do
  let s ← get
  unless s.isCopy do
    let isFatal (signal : Nat × Nat) : Bool :=
      signal.1 == s.pid && !harmlessSignals.contains signal.2 &&
        (signal.2 == 9 || s.traps.all fun t => t.1 != signal.2)
    match s.world.signals.find? isFatal with
    | some (_, signal) => throw (.killed signal)
    | none => return

/-- Carries out an action in a copy of the shell. -/
def inCopy (run : Runner) (action : Action Unit) : Action Ending := do
  let s ← get
  let traps := s.traps.filter fun t => t.2.isEmpty
  let copy := { s with isCopy := true, copies := s.copies + 1, traps, jobs := [] }
  let (ending, copy) := (toEnd run action).run copy
  set { s with world := copy.world }
  dieOfSignals
  return ending

/-- What is said of something that a signal has ended. -/
def signalText (signal : Nat) : String :=
  match signals.find? fun s => s.1 == signal with
  | some (_, _, text) => text
  | none => "Real-time signal " ++ toString (signal - firstFreeSignal)

/-- Says that a signal has ended something, unless it is one that is sent on purpose. -/
def announce (ending : Ending) : Action Unit := do
  match ending with
  | .killed signal =>
    unless signal == 2 || signal == 13 do
      if ← isExtended then
        let s ← get
        complain (toString (s.world.nextPid - 1) ++ " " ++ signalText signal)
      else write 2 (signalText signal ++ "\n")
  | .exited _ => return

/-- Takes the status of something that has run apart from the shell. -/
def await (ending : Ending) : Action Unit := do
  setStatus ending.status
  announce ending

/-- What an action prints that runs in a copy of the shell, and how the copy ends. -/
def captured (run : Runner) (action : Action Unit) : Action (String × Ending) := do
  let sink ← onWorld World.addSink
  let ending ← inCopy run do
    modify fun s => { s with descriptors := s.descriptors.assign 1 sink }
    action
  return ((← get).world.written sink, ending)

end PointerTagging.Host.Shell
