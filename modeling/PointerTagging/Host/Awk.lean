import PointerTagging.Host.Awk.Evaluation
import PointerTagging.Host.Utility
/-!
# Scanning records

The utility that runs a program for each record of its input.
-/

namespace PointerTagging.Host.Awk

/-- What the arguments of the utility say. -/
structure Command where
  /-- Assignments, in their order. -/
  assignments : List String
  separator : Option String
  /-- The files that hold the program. -/
  files : List String
  operands : List String
  /-- An option asks for a description of the utility. -/
  isHelp : Bool

/-- Reads the options up to the first operand. -/
def options : Nat → Command → List String → Except String Command
  | 0, command, words => .ok { command with operands := words }
  | _, command, [] => .ok { command with operands := [] }
  | n + 1, command, word :: words =>
    match word.toList with
    | ['-', '-'] => .ok { command with operands := words }
    | '-' :: letter :: value =>
      if letter == '-' then
        if ["--help", "--usage", "--version"].contains word then
          .ok { command with isHelp := true }
        else .error ("not an option: " ++ word)
      else if !"FfvW".contains letter then .error ("not an option: " ++ word)
      else
        let found : Option (String × List String) :=
          match value, words with
          | [], [] => none
          | [], next :: words => some (next, words)
          | value, words => some (String.ofList value, words)
        match found with
        | none => .error ("option -" ++ String.ofList [letter] ++ " lacks argument")
        | some (value, words) =>
          match letter with
          | 'F' => options n { command with separator := some value } words
          | 'f' => options n { command with files := command.files ++ [value] } words
          | 'v' =>
            if (assignment? value).isNone then .error ("improper assignment: -v " ++ value)
            else options n { command with assignments := command.assignments ++ [value] } words
          | _ =>
            if value.startsWith "h" || value.startsWith "u" || value.startsWith "v" then
              .ok { command with isHelp := true }
            else options n command words
    | _ => .ok { command with operands := word :: words }

/-- How the utility is used. -/
def usage : String :=
"Usage: mawk [Options] [Program] [file ...]

Program:
    The -f option value is the name of a file containing program text.
    If no -f option is given, a \"--\" ends option processing; the following
    parameters are the program text.

Options:
    -f program-file  Program  text is read from file instead of from the
                     command-line.  Multiple -f options are accepted.
    -F value         sets the field separator, FS, to value.
    -v var=value     assigns value to program variable var.
    --               unambiguous end of options.

    Implementation-specific options are prefixed with \"-W\".  They can be
    abbreviated:

    -W version       show version information and exit.
    -W compat        pre-POSIX 2001.
    -W dump          show assembler-like listing of program and exit.
    -W help          show this message and exit.
    -W interactive   set unbuffered output, line-buffered input.
    -W exec file     use file as program as well as last option.
    -W posix         stricter POSIX checking.
    -W random=number set initial random seed.
    -W sprintf=number adjust size of sprintf buffer.
    -W usage         show this message and exit.
"

/-- The variables that every program starts with. -/
def firstVariables : List (String × Cell) :=
  let text (s : String) : Cell := .scalar (.text s)
  let number (x : Float) : Cell := .scalar (.number x)
  [("ENVIRON", .array 0), ("ARGV", .array 1), ("FS", text " "), ("OFS", text " "),
    ("RS", text "\n"), ("ORS", text "\n"), ("SUBSEP", text "\x1c"), ("CONVFMT", text "%.6g"),
    ("OFMT", text "%.6g"), ("NF", number 0.0), ("NR", number 0.0), ("FNR", number 0.0),
    ("RSTART", number 0.0), ("RLENGTH", number (-1.0)), ("FILENAME", text "")]

/-- The state in which a program starts. -/
def State.initial (start : Launcher) (context : Context) (title : String) (arguments : List String)
    (world : World) : State where
  world := world
  context := context
  start := start
  program := ⟨[], []⟩
  title := title
  globals := firstVariables ++ [("ARGC", .scalar (.ofNat arguments.length))]
  frames := []
  arrays :=
    [(0, context.environment.map fun v => (v.1, .input v.2)),
      (1, (arguments.zipIdx.map fun (word, n) => (toString n, Value.input word)).reverse)]
  nextArray := 2
  record := ""
  recordValue := .unset
  fields := some []
  printed := ""
  hasPrinted := false
  inputs := []
  outputs := []
  left := none
  nextArgument := 1
  hasRead := false
  ranges := []
  code := 0
  seed := 1.0

/-- The text of the program, from some files or the first operand, and the operands behind it. -/
def programText (command : Command) : Action (String × List String) := do
  match command.files with
  | [] => return (command.operands.headD "", command.operands.drop 1)
  | files =>
    let texts ← files.mapM fun path => do
      match ← textOfFile path with
      | .ok text => return text
      | .error error =>
        if error == .isADirectory then fail ("read error (" ++ error.text ++ ")")
        fail ("cannot open \"" ++ path ++ "\" (" ++ error.text ++ ")")
    return ("\n".intercalate texts, command.operands)

/-- Sets variables as arguments ask for it. -/
def assignAll (words : List String) : Action Unit :=
  words.forM fun word =>
    match assignment? word with
    | some (name, value) => setVariable name (.input value)
    | none => return

/-- The levels that expressions and commands may have inside each other. Every program that ends has
fewer. -/
def depth : Nat := 1000000

/-- Reads the program that the arguments give, and runs it. -/
def runCommand (command : Command) : Action Unit := do
  let (text, operands) ← programText command
  let arguments := "awk" :: operands
  modify fun s =>
    { s with
      globals := assignIn "ARGC" (.scalar (.ofNat arguments.length)) s.globals
      arrays := s.arrays.map fun a =>
        if a.1 == 1 then
          (1, (arguments.zipIdx.map fun (word, n) => (toString n, Value.input word)).reverse)
        else a }
  match parse text with
  | .error refusals =>
    let title := (← get).title
    let shown (refusal : Refusal) : String :=
      if refusal.line == 0 then "1: " ++ refusal.message
      else "line " ++ toString refusal.line ++ ": " ++ refusal.message
    fail (("\n" ++ title ++ ": ").intercalate (refusals.map shown))
  | .ok program =>
    modify fun s => { s with program }
    match command.separator with
    | some value =>
      setGlobal "FS" (.text (unescape (value.length + 1) value.toList))
    | none => pure ()
    assignAll command.assignments
    runProgram (interpreter depth)

/-- Runs the utility. -/
def main (start : Launcher) (context : Context) (words : List String) (world : World) :
    Ending × World :=
  let title := (((words.headD "").splitOn "/").getLast?).getD ""
  let say (text : String) (world : World) : World :=
    context.write 2 (title ++ ": " ++ text ++ "\n") world
  match words.drop 1 with
  | [] => (.exited 0, context.write 2 usage world)
  | arguments =>
    match options (arguments.length + 1) ⟨[], none, [], [], false⟩ arguments with
    | .error complaint => (.exited 2, say complaint world)
    | .ok command =>
      if command.isHelp then (.exited 0, context.write 1 usage world)
      else
        let first := State.initial start context title [] world
        let (result, final) := (ExceptT.run (runCommand command)).run first
        let conclude (code : Nat) (final : State) : Ending × World :=
          match context.writeError? 1 with
          | some error =>
            if final.hasPrinted then
              let (complaint, code) := Tool.lostOutput .awk title error
              (.exited code.toUInt8, context.write 2 complaint final.world)
            else (.exited code.toUInt8, final.world)
          | none => (.exited code.toUInt8, final.world)
        match result with
        | .ok _ => conclude final.code final
        | .error (.failed message) =>
          let (_, final) := (ExceptT.run finish).run { final with world := say message final.world }
          conclude 2 final
        | .error .killed => (.killed 9, final.world)
        | .error _ => conclude final.code final

end PointerTagging.Host.Awk
