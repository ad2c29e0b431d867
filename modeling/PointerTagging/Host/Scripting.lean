import PointerTagging.Host.Scripting.Evaluation
import PointerTagging.Host.Utility
/-!
# Running scripts from the command line

The utility that runs scripts: those of its arguments, of a file, or of its standard input, once or
for each line of its input.
-/

namespace PointerTagging.Host.Scripting

open Text

/-- What the arguments of the utility say. -/
structure Command where
  /-- The lines of the script, if they are arguments. -/
  lines : Option (List String)
  /-- The modules that are asked for. -/
  uses : List String
  /-- All features of the language are there. -/
  hasLines : Bool
  /-- Values that are misused are warned of. -/
  warns : Bool
  /-- The script is run for each line of the input. -/
  isLoop : Bool
  /-- Each line is printed behind the script. -/
  prints : Bool
  /-- Each line is split at matches of a pattern, if one is given. -/
  splits : Option (Option String)
  /-- Line ends are taken from lines, and put behind what is printed. -/
  cutsLines : Bool
  ending : Option String
  /-- What separates the lines of the input, if that is not a line end. -/
  separator : Option Value
  inPlace : Option String
  /-- The script is only read. -/
  isCheck : Bool
  /-- A text that is printed in place of running a script. -/
  answer : Option String
  operands : List String

/-- The command without arguments. -/
def Command.initial : Command :=
  ⟨none, [], false, false, false, false, none, false, none, none, none, false, none, []⟩

/-- The first lines of what the utility says about itself. -/
def versionText : String :=
"
This is perl 5, version 36, subversion 0 (v5.36.0) built for x86_64-linux-gnu-thread-multi
(with 60 registered patches, see perl -V for more detail)
"

/-- The separator of lines that digits stand for. -/
def separatorOf (digits : List Char) : Value :=
  match digits with
  | 'x' :: cs => .text (String.ofList [Char.ofNat ((Numeral.valueFrom 16 0 cs).getD 0 % 256)])
  | cs =>
    let n := (Numeral.valueFrom 8 0 cs).getD 0
    if n ≥ 256 then .missing
    else if cs.length > 1 && n == 0 then .text ""
    else .text (String.ofList [Char.ofNat n])

/-- The statement that asks for a module. -/
def useText (argument : String) : String :=
  let (word, name) :=
    if argument.startsWith "-" then ("no ", (argument.drop 1).toString) else ("use ", argument)
  match name.splitOn "=" with
  | name :: rest@(_ :: _) =>
    let names := " ".intercalate (("=".intercalate rest).splitOn ",")
    word ++ name ++ " qw(" ++ names ++ ");"
  | _ => word ++ name ++ ";"

/-- Reads the letters of an option word; `words` are the words behind it. -/
def letters : Nat → Command → List Char → List String → Except String (Command × List String)
  | 0, command, _, words => .ok (command, words)
  | _, command, [], words => .ok (command, words)
  | n + 1, command, letter :: cs, words =>
    let text := String.ofList cs
    let script (command : Command) : Except String (Command × List String) :=
      match words with
      | [] => .error ("No code specified for -" ++ String.ofList [letter] ++ ".\n")
      | line :: words =>
        let lines := (command.lines.getD []) ++ [line]
        letters n { command with lines := some lines } cs words
    let flag (command : Command) : Except String (Command × List String) :=
      letters n command cs words
    match letter with
    | 'e' => script command
    | 'E' => script { command with hasLines := true }
    | 'n' => flag { command with isLoop := true }
    | 'p' => flag { command with isLoop := true, prints := true }
    | 'a' => flag { command with isLoop := true, splits := some (command.splits.getD none) }
    | 'F' =>
      if cs.isEmpty then .error "Missing argument to -F.\n"
      else .ok ({ command with isLoop := true, splits := some (some text) }, words)
    | 'i' => .ok ({ command with inPlace := some text }, words)
    | 'l' =>
      let digits := cs.takeWhile fun c => (Numeral.digit? 8 c).isSome
      let ending :=
        if digits.isEmpty then
          match command.separator with
          | some value => value.toText
          | none => "\n"
        else String.ofList [Char.ofNat ((Numeral.valueFrom 8 0 digits).getD 0 % 256)]
      letters n { command with cutsLines := true, ending := some ending } (cs.drop digits.length)
        words
    | '0' =>
      let isHex := cs.head?.any fun c => c == 'x' || c == 'X'
      let digits :=
        if isHex then 'x' :: (cs.drop 1).takeWhile fun c => (Numeral.digit? 16 c).isSome
        else '0' :: cs.takeWhile fun c => (Numeral.digit? 8 c).isSome
      let rest := if isHex then cs.drop digits.length else cs.drop (digits.length - 1)
      letters n { command with separator := some (separatorOf digits) } rest words
    | 'M' =>
      if cs.isEmpty then .error "Missing argument to -M.\n"
      else .ok ({ command with uses := command.uses ++ [useText text] }, words)
    | 'm' =>
      if cs.isEmpty then .error "Missing argument to -m.\n"
      else .ok ({ command with uses := command.uses ++ [useText (text ++ "=")] }, words)
    | 'I' => .ok (command, if cs.isEmpty then words.drop 1 else words)
    | 'c' => flag { command with isCheck := true }
    | 'v' => .ok ({ command with answer := some versionText }, words)
    | letter =>
      if letter == 'w' || letter == 'W' then flag { command with warns := true }
      else if "XsStTuUfx".toList.contains letter then flag command
      else if letter == '-' && cs.isEmpty then .ok (command, words)
      else
        .error ("Unrecognized switch: -" ++ String.ofList (letter :: cs) ++
          "  (-h will show valid options).\n")

/-- Reads the options up to the first operand. -/
def options : Nat → Command → List String → Except String Command
  | 0, command, words => .ok { command with operands := words }
  | _, command, [] => .ok command
  | n + 1, command, word :: words =>
    match word.toList with
    | ['-', '-'] => .ok { command with operands := words }
    | '-' :: c :: cs =>
      match letters (cs.length + 2) command (c :: cs) words with
      | .ok (command, words) => options n command words
      | .error complaint => .error complaint
    | _ => .ok { command with operands := word :: words }

/-- The statements that are run for each line of the input, around those of the script. -/
def looped (command : Command) (body : Block) : Block :=
  let topic : Expr := .named .scalar "_"
  let line : Expr := .function "defined" [.assign topic (.readLine (.text "ARGV"))]
  let cut : Block := if command.cutsLines then [.expression 1 (.function "chomp" [topic])] else []
  let split : Block :=
    match command.splits with
    | none => []
    | some pattern =>
      let trimmed (text : String) : String :=
        let cs := text.toList
        if cs.length > 1 && cs.head? == cs.getLast? && "/\"'".toList.contains (cs.headD 'x') then
          String.ofList (cs.drop 1).dropLast
        else text
      let separator : Expr :=
        match pattern with
        | some text => .pattern (.text (trimmed text)) ""
        | none => .text " "
      [.expression 1 (.assign (.named .array "F") (.function "split" [separator, topic]))]
  let step : Option Expr := if command.prints then some (.print .plain none [topic]) else none
  let isFirst (statement : Statement) : Bool :=
    match statement with
    | .block "BEGIN" _ => true
    | _ => false
  let (first, body) := body.partition isFirst
  first ++ [.loop 1 "LINE" (some line) (cut ++ split ++ body) step]

/-- The state in which a script starts. -/
def State.initial (start : Launcher) (context : Context) (file : String)
    (again : List Bool → Ending × World) (answers : List Bool) (world : World) : State where
  world := world
  context := context
  start := start
  file := file
  objects := #[]
  globals := []
  scope := []
  scriptScope := []
  depth := 0
  saved := []
  streams :=
    [("STDIN", ⟨.input, "", "", 0, 0⟩), ("STDOUT", ⟨.descriptor 1, "", "", 0, 0⟩),
      ("STDERR", ⟨.descriptor 2, "", "", 0, 0⟩), ("ARGV", ⟨.reading, "", "", 0, 0⟩)]
  selected := "STDOUT"
  printed := ""
  hasPrinted := false
  line := 0
  lastRead := none
  found := none
  positions := []
  wants := []
  argument := none
  hasArguments := false
  inPlace := none
  changed := none
  alarm := none
  ranges := []
  again := again
  answers := answers
  given := []
  children := []
  texts := 0
  source := .ofText false ""
  ending := []

/-- Sets the variables that every script starts with. -/
def prepare (command : Command) (arguments : List String) : Action Unit := do
  let s ← get
  let texts : List (String × String) :=
    [("0", s.file), ("\"", " "), (";", "\x1c"), ("^O", "linux"), ("]", "5.036000"),
      ("^V", "v5.36.0"), ("^X", "/usr/bin/perl"), ("@", ""), ("\\", command.ending.getD "")]
  for (name, text) in texts do
    setGlobalValue name (.text text)
  for name in ["!", "?", "^W", "|"] do
    setGlobalValue name (.whole 0)
  setGlobalValue "/" (command.separator.getD (.text "\n"))
  setGlobalValue "^T" (.whole s.world.second)
  setValues (← objectOf .array "ARGV") (arguments.map .text)
  setValues (← objectOf .array "INC") (modulePlaces.map .text)
  let environment := s.context.environment.flatMap fun v => [Value.text v.1, .text v.2]
  setPairs (← objectOf .hash "ENV") environment
  modify fun s => { s with inPlace := command.inPlace }

/-- The levels that expressions and blocks may have inside each other. Every script that ends has
fewer. -/
def depth : Nat := 1000000

/-- The code with which a script ends that has died. -/
def deathCode : Action Nat := do
  let number := (← globalValue "!").toInt.toNat % 256
  let status := (← globalValue "?").toInt.toNat / 256 % 256
  return if number != 0 then number else if status != 0 then status else 255

/-- Carries out a part of a script; none if it does not end the script. -/
def part (action : Action Unit) : StateM State (Option Ending) := do
  match ← action.run with
  | .ok _ => return none
  | .error (.ended ending) => return some ending
  | .error (.died value) =>
    let _ ← (say value.toText).run
    match ← deathCode.run with
    | .ok code => return some (.exited code.toUInt8)
    | .error _ => return some (.exited 255)
  | .error (.last label) => complain ("Can't \"last\" outside a loop block") label
  | .error (.next label) => complain ("Can't \"next\" outside a loop block") label
  | .error _ => return none
where
  /-- Says what is wrong, and where. -/
  complain (message label : String) : StateM State (Option Ending) := do
    let message := if label.isEmpty then message else "Label not found for \"last " ++ label ++ "\""
    let _ ← (do say (message ++ (← placeText)) : Action Unit).run
    return some (.exited 255)

/-- Runs a script to its end. -/
def runScript (command : Command) (script : Script) : StateM State Ending := do
  let body := if command.isLoop then looped command script.body else script.body
  let run := interpreter depth
  let main : Action Unit := do
    defineAll 1000000 body
    let _ ← run.block .nothing body
  let first ← part main
  match first with
  | some (.killed signal) => return .killed signal
  | ending =>
    let code : Nat :=
      match ending with
      | some (.exited code) => code.toNat
      | _ => 0
    let _ ← (if script.ending.isEmpty then return else setStatus code : Action Unit).run
    let last ← script.ending.foldlM
      (fun ending (body : Block) => do
        match ending with
        | some (.killed signal) => return some (.killed signal)
        | ending =>
          match ← part (do let _ ← enclosed (run.block .nothing body)) with
          | some other =>
            match other with
            | .exited code => let _ ← (setStatus code.toNat : Action Unit).run
            | _ => pure ()
            return some other
          | none => return ending) ending
    match last with
    | some (.killed signal) => return .killed signal
    | ending =>
      let _ ← (do closeChanged; closeAll; flush : Action Unit).run
      if script.ending.isEmpty then return ending.getD (.exited 0)
      match ← (globalValue "?").run with
      | .ok value => return .exited (value.toInt % 256).toNat.toUInt8
      | .error _ => return ending.getD (.exited 0)

/-- The ending of a script whose output may have been refused. -/
def conclude (context : Context) (ending : Ending) (final : State) : Ending × World :=
  match ending, context.writeError? 1 with
  | .exited code, some error =>
    if final.hasPrinted && code == 0 then
      let (complaint, code) := Tool.lostOutput .perl final.file error
      (.exited code.toUInt8, context.write 2 complaint final.world)
    else (ending, final.world)
  | ending, _ => (ending, final.world)

/-- How often a script may divide. -/
def divisions : Nat := 20

/-- Runs a script with answers at the places where it divides. -/
def runWith (start : Launcher) (context : Context) (command : Command) (file : String)
    (script : Script) (source : Source) (arguments : List String) (world : World) :
    Nat → List Bool → Ending × State
  | 0, answers =>
    let again (_ : List Bool) : Ending × World := (.killed 9, world)
    (.killed 9, State.initial start context file again answers world)
  | n + 1, answers =>
    let again (answers : List Bool) : Ending × World :=
      let (ending, final) :=
        runWith start context command file script source arguments world n answers
      (ending, final.world)
    let prepared : Action Unit := do
      prepare command arguments
      match script.data with
      | some data => setStream "DATA" ⟨.reading, data, "", 0, 0⟩
      | none => return
    let action : StateM State Ending := do
      let _ ← prepared.run
      modify fun s => { s with source }
      runScript command script
    action.run (State.initial start context file again answers world)

/-- Reads a script, and runs it. -/
def runText (start : Launcher) (context : Context) (command : Command) (file text : String)
    (arguments : List String) (world : World) : Ending × World :=
  let uses := " ".intercalate command.uses
  let source := { Source.ofText command.hasLines uses with warns := command.warns }
  let refused (refusal : Refusal) (code : UInt8) : Ending × World :=
    (.exited code, context.write 2 (refusal.message file) world)
  let result : Except Refusal (Script × Source) := do
    let (before, source) ← parse { source with line := 0 }
    let cs := text.toList
    let (script, source) ← parse { source with rest := cs, line := 1, recent := (cs, cs) }
    return ({ script with body := before.body ++ script.body }, source)
  match result with
  | .error (.noModule line name) => refused (.noModule line name) 2
  | .error refusal => refused refusal 255
  | .ok (script, source) =>
    if command.isCheck then (.exited 0, context.write 2 (file ++ " syntax OK\n") world)
    else
      let (ending, final) :=
        runWith start context command file script source arguments world divisions []
      conclude context ending final

/-- Runs the utility. -/
def main (start : Launcher) (context : Context) (words : List String) (world : World) :
    Ending × World :=
  let arguments := words.drop 1
  let say (text : String) (code : UInt8) : Ending × World :=
    (.exited code, context.write 2 text world)
  match options (arguments.length + 1) .initial arguments with
  | .error complaint => say complaint 29
  | .ok command =>
    match command.answer, command.lines, command.operands with
    | some text, _, _ => (.exited 0, context.write 1 text world)
    | none, some lines, operands =>
      let text := String.join (lines.map (· ++ "\n"))
      runText start context command "-e" text operands world
    | none, none, file :: operands =>
      if file == "-" then
        let (text, world) := inputOf world
        runText start context command "-" text operands world
      else
        let refuse (error : SystemError) (code : Nat) : Ending × World :=
          say ("Can't open perl script \"" ++ file ++ "\": " ++ error.text ++ "\n") code.toUInt8
        match context.readFile file world with
        | .ok (text, world) => runText start context command file text operands world
        | .error .isADirectory => refuse .isADirectory 25
        | .error error => refuse error error.number
    | none, none, [] =>
      let (text, world) := inputOf world
      runText start context command "-" text [] world
where
  /-- What the standard input has ready, and the world behind it. -/
  inputOf (world : World) : String × World :=
    match context.descriptors.channel? 0 with
    | some channel => (world.pending channel, world.leave channel "")
    | none => ("", world)

end PointerTagging.Host.Scripting
