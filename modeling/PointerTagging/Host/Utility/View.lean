import PointerTagging.Host.Calendar
import PointerTagging.Host.Quoting
import PointerTagging.Host.World
/-!
# What utilities are given and do

The view of the host that a utility has, and what comes of running it.
-/

namespace PointerTagging.Host

/-- What a utility is given. -/
structure View where
  /-- The word by which it was called. -/
  name : String
  arguments : List String
  environment : List (String × String)
  tree : Tree
  place : List String
  /-- What is left to read from its descriptors. -/
  inputs : List (Nat × String)
  /-- True if its standard input comes from a file. -/
  hasFileInput : Bool

/-- What a utility does. -/
structure Outcome where
  output : String
  errors : String
  code : Nat
  /-- The standard input has been read. -/
  drains : Bool
  /-- What it leaves of the standard input if it has read it. -/
  left : String
  /-- How long it waits, in thousandths of a second. -/
  delay : Nat
  /-- The file tree that it leaves, if it changes it. -/
  tree : Option Tree
  /-- What it writes to its descriptors at once, before the rest. -/
  turns : List (Nat × String)

namespace Outcome

/-- Nothing is printed. -/
def quiet (code : Nat) : Outcome := ⟨"", "", code, false, "", 0, none, []⟩

/-- A text is printed. -/
def printing (output : String) : Outcome := { quiet 0 with output }

/-- The outcome with one more complaint, which makes it fail. -/
def complaining (outcome : Outcome) (code : Nat) (text : String) : Outcome :=
  { outcome with errors := outcome.errors ++ text, code }

/-- The outcome with more text written to a descriptor at once. -/
def turn (outcome : Outcome) (descriptor : Nat) (text : String) : Outcome :=
  { outcome with turns := outcome.turns ++ [(descriptor, text)] }

/-- The outcome with more text printed. -/
def print (outcome : Outcome) (text : String) : Outcome :=
  { outcome with output := outcome.output ++ text }

end Outcome

/-- Why a file cannot be read: it cannot be opened, or what is open cannot be read. -/
structure Unreadable where
  isOpen : Bool
  error : SystemError
  deriving DecidableEq, Repr

namespace View

/-- What is left of the standard input. -/
def input (view : View) : String :=
  ((view.inputs.find? fun d => d.1 == 0).map (·.2)).getD ""

/-- The value of a variable. -/
def get? (view : View) (name : String) : Option String :=
  (view.environment.find? fun v => v.1 == name).map (·.2)

/-- A complaint under the name of the utility. -/
def complaint (view : View) (text : String) : String := view.name ++ ": " ++ text ++ "\n"

/-- What a utility does that complains and fails. -/
def failing (view : View) (code : Nat) (text : String) : Outcome :=
  { Outcome.quiet code with errors := view.complaint text }

/-- The line that follows a complaint about the arguments. -/
def hint (view : View) : String := "Try '" ++ view.name ++ " --help' for more information.\n"

/-- What a utility does that complains about its arguments. -/
def misused (view : View) (code : Nat) (text : String) : Outcome :=
  { Outcome.quiet code with errors := view.complaint text ++ view.hint }

/-- What a utility does that lacks an argument. -/
def lacking (view : View) : Outcome := view.misused 1 "missing operand"

/-- The text of a file; `-` is the standard input. -/
def read (view : View) (path : String) : Except Unreadable String :=
  if path == "-" then .ok view.input
  else
    match view.tree.locate view.place path with
    | .error error => .error ⟨false, error⟩
    | .ok (_, .ordinary text _) => .ok text
    | .ok (_, .zeros) => .ok File.someZeros
    | .ok (_, .full) => .ok File.someZeros
    | .ok (_, .directory) => .error ⟨true, .isADirectory⟩
    | .ok (_, .descriptor n) =>
      .ok (((view.inputs.find? fun d => d.1 == n).map (·.2)).getD "")
    | .ok _ => .ok ""

/-- The paths that a utility reads: the standard input if it is given none. -/
def sources (paths : List String) : List String := if paths.isEmpty then ["-"] else paths

/-- The texts of files, and the complaints about those that cannot be read, as `word` puts them. -/
def files (view : View) (word : String → Unreadable → String) (paths : List String) :
    List (String × String) × List String :=
  let paths := sources paths
  (paths.filterMap fun path => (view.read path).toOption.map fun text => (path, text),
    paths.filterMap fun path =>
      match view.read path with
      | .ok _ => none
      | .error why => some (word path why))

/-- The plain complaint about a file: its path and the reason. -/
def plainly (path : String) (why : Unreadable) : String :=
  Quoting.name path ++ ": " ++ why.error.text

/-- What a utility prints that does something to the texts of files. -/
def filteringBy (view : View) (word : String → Unreadable → String) (code : Nat)
    (paths : List String) (f : List (String × String) → String) : Outcome :=
  let (texts, complaints) := view.files word paths
  { output := f texts
    errors := String.join (complaints.map view.complaint)
    code := if complaints.isEmpty then 0 else code
    drains := (sources paths).contains "-"
    left := ""
    delay := 0
    tree := none
    turns := [] }

/-- The same with plain complaints. -/
def filtering (view : View) (paths : List String) (f : List (String × String) → String) : Outcome :=
  view.filteringBy plainly 1 paths f

end View

namespace View

/-- What a utility prints about one text after the other, each at once, and behind all of them. -/
def promptly (view : View) (paths : List String) (f : (path text : String) → String)
    (last : String) : Outcome :=
  let one (outcome : Outcome) (path : String) : Outcome :=
    match view.read path with
    | .ok text => outcome.turn 1 (f path text)
    | .error why => { outcome.turn 2 (view.complaint (plainly path why)) with code := 1 }
  let paths := sources paths
  { (paths.foldl one (.quiet 0)).turn 1 last with drains := paths.contains "-" }

/-- The zone of time of the environment. -/
def zone (view : View) : Zone := .ofVariable (view.get? "TZ")

end View

/-- The parts of a text that each end with a character, without their ends; what follows the last
one is a part too, if there is something. -/
def partsOf (ending : Char) (text : String) : List String :=
  match (text.splitOn (String.ofList [ending])).reverse with
  | "" :: rest => rest.reverse
  | parts => parts.reverse

/-- The names of files that a text holds, each up to a null character, and complaints in the places
of those that cannot be names; `source` is where the text comes from. -/
def View.namesInList (source text : String) : List (Except String String) :=
  (partsOf '\x00' text).zipIdx.map fun (name, n) =>
    if name.isEmpty then
      .error (Quoting.name source ++ ":" ++ toString (n + 1) ++ ": invalid zero-length file name")
    else if name == "-" && source == "-" then
      .error ("when reading file names from stdin, no file name of " ++ Quoting.always name ++
        " allowed")
    else .ok name

/-- The lines of a text, without their ends. -/
def linesOf (text : String) : List String := partsOf '\n' text

/-- Lines as a text. -/
def ofLines (lines : List String) : String := String.join (lines.map (· ++ "\n"))

/-- The lines of a text with their ends; the last one may have none. -/
def wholeLines (text : String) : List String :=
  let lines := linesOf text
  if text.endsWith "\n" || text.isEmpty then lines.map (· ++ "\n")
  else lines.dropLast.map (· ++ "\n") ++ [lines.getLastD ""]

/-- True of white space in texts of bytes. -/
def isSpace (c : Char) : Bool := c == ' ' || ('\t' ≤ c && c ≤ '\r')

/-- True of a blank inside a line. -/
def isBlank (c : Char) : Bool := c == ' ' || c == '\t'

/-- The fields of a text that blanks separate. -/
def blankFields (text : String) : List String :=
  (text.split isSpace).toList.map (·.toString) |>.filter (!·.isEmpty)

/-- Text brought to a width by blanks on its left. -/
def padLeft (width : Nat) (text : String) : String :=
  String.ofList (List.replicate (width - text.length) ' ') ++ text

/-- Text brought to a width by blanks on its right. -/
def padRight (width : Nat) (text : String) : String :=
  text ++ String.ofList (List.replicate (width - text.length) ' ')

end PointerTagging.Host
