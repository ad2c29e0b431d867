import PointerTagging.Host.Condition
import PointerTagging.Host.Format
import PointerTagging.Host.Utility.Options
/-!
# Reporting

The utilities that print their arguments, check conditions, or tell about the host.
-/

namespace PointerTagging.Host.Tool

open Shell Text

/-- Prints a format and its arguments. -/
def printf (view : View) : Outcome :=
  let arguments :=
    if view.arguments.head? == some "--" then view.arguments.drop 1 else view.arguments
  match arguments with
  | [] => view.lacking
  | format :: arguments =>
    let printing := Format.printf .utility format arguments
    { Outcome.printing printing.text with
      errors := String.join (printing.complaints.map fun c => view.complaint (c.message .utility))
      code := if printing.fails then 1 else 0 }

/-- Prints variables of the environment. -/
def printenv (view : View) : Outcome :=
  view.withOptions 2 ⟨"0", [("null", '0')], true⟩ fun arguments =>
    let ending := if arguments.has '0' then "\x00" else "\n"
    let all (texts : List String) : Outcome :=
      .printing (String.join (texts.map (· ++ ending)))
    match arguments.operands with
    | [] => all (view.environment.map fun v => v.1 ++ "=" ++ v.2)
    | names =>
      { all (names.filterMap view.get?) with
        code := if names.all fun name => (view.get? name).isSome then 0 else 1 }

/-- Checks a condition. -/
def test (view : View) : Outcome :=
  let name := if view.name.endsWith "[" then "[" else "test"
  match Condition.test ⟨view.tree, view.place⟩ name view.arguments, view.arguments with
  | .ok result, _ => .quiet (if result then 0 else 1)
  | .error (.unexpected _), [word, last] =>
    view.failing 2
      (if word.startsWith "-" && word.length == 2 then quotation word ++ ": unary operator expected"
        else "missing argument after " ++ quotation last)
  | .error (.unexpected _), [_, operator, _] =>
    view.failing 2 (quotation operator ++ ": binary operator expected")
  | .error complaint, _ => view.failing 2 (complaint.message .utility)

/-! ## Time -/

/-- The thousandths of a second that a text means: a number and a unit. -/
def duration? (text : String) : Option Nat := do
  let found ← Floating.atStart? .double text
  guard (!found.value.isNegative)
  let unit ←
    match found.rest with
    | [] => some 1
    | ['s'] => some 1
    | ['m'] => some 60
    | ['h'] => some 3600
    | ['d'] => some 86400
    | _ => none
  match found.value with
  | .finite _ mantissa exponent =>
    some (Floating.roundedTimes mantissa exponent 3 * unit)
  | .infinite _ => some (86400 * 86400 * 1000)
  | .undefined _ => none

/-- Waits. -/
def sleep (view : View) : Outcome :=
  view.withOptions 1 ⟨"", [], true⟩ fun arguments =>
    let invalid := arguments.operands.filter fun word => (duration? word).isNone
    if arguments.operands.isEmpty then view.lacking
    else if invalid.isEmpty then
      { Outcome.quiet 0 with
        delay := (arguments.operands.filterMap duration?).foldl (· + ·) 0 }
    else
      { Outcome.quiet 1 with
        errors := String.join (invalid.map fun word =>
          view.complaint ("invalid time interval " ++ quotation word)) ++ view.hint }

/-! ## The host -/

/-- Prints who runs the program. -/
def id (view : View) : Outcome :=
  let table : OptionTable :=
    ⟨"Ggnru", [("group", 'g'), ("groups", 'G'), ("name", 'n'), ("real", 'r'), ("user", 'u')], false⟩
  view.withOptions 1 table fun arguments =>
    let name := arguments.operands.headD "root"
    match Tree.users.find? fun u => u.1 == name || toString u.2.1 == name with
    | none => view.failing 1 (quotation name ++ ": no such user")
    | some (name, number, group, _) =>
      let groupName := if group == number then name else toString group
      let numbered (kind : String) (n : Nat) (name : String) : String :=
        kind ++ "=" ++ toString n ++ "(" ++ name ++ ")"
      let plainly (n : Nat) (name : String) : Outcome :=
        .printing ((if arguments.has 'n' then name else toString n) ++ "\n")
      match arguments.last? "Ggu" with
      | some 'u' => plainly number name
      | some _ => plainly group groupName
      | none =>
        if arguments.has 'n' || arguments.has 'r' then
          view.failing 1 "printing only names or real IDs requires -u, -g, or -G"
        else
          .printing (" ".intercalate [numbered "uid" number name, numbered "gid" group groupName,
            numbered "groups" group groupName] ++ "\n")

/-- Prints the name of the user. -/
def whoami (view : View) : Outcome :=
  view.withOptions 1 ⟨"", [], false⟩ fun arguments =>
    match arguments.operands with
    | [] => .printing "root\n"
    | word :: _ => view.misused 1 ("extra operand " ++ quotation word)

/-- Prints what the system is. -/
def uname (view : View) : Outcome :=
  let table : OptionTable :=
    ⟨"asnrvmpio", [("all", 'a'), ("kernel-name", 's'), ("nodename", 'n'), ("kernel-release", 'r'),
      ("kernel-version", 'v'), ("machine", 'm'), ("processor", 'p'), ("hardware-platform", 'i'),
      ("operating-system", 'o')], false⟩
  view.withOptions 1 table fun arguments =>
    let parts := [('s', "Linux"), ('n', "localhost"), ('r', "6.0.0"), ('v', "#1 SMP"),
      ('m', "x86_64"), ('p', "x86_64"), ('i', "x86_64"), ('o', "GNU/Linux")]
    let isChosen (letter : Char) : Bool :=
      arguments.has 'a' || arguments.has letter || (arguments.options.isEmpty && letter == 's')
    match arguments.operands with
    | [] =>
      let chosen := parts.filter fun p => isChosen p.1
      .printing (" ".intercalate (chosen.map (·.2)) ++ "\n")
    | word :: _ => view.misused 1 ("extra operand " ++ quotation word)

/-- Tells whether the standard input is a terminal, which it never is. -/
def tty (view : View) : Outcome :=
  view.withOptions 2 ⟨"s", [("quiet", 's'), ("silent", 's')], false⟩ fun arguments =>
    { Outcome.quiet 1 with output := if arguments.has 's' then "" else "not a tty\n" }

/-- Prints where programs are found. -/
def which (view : View) : Outcome :=
  let isAll := view.arguments.head? == some "-a"
  let words := view.arguments.filter fun word => !word.startsWith "-"
  let isProgram (path : String) : Bool := (view.tree.programOrScript view.place path).isOk
  let paths (word : String) : List String :=
    if word.contains '/' then [word]
    else (((view.get? "PATH").getD Tree.searchPath).splitOn ":").map fun directory =>
      Tree.inside (if directory.isEmpty then "." else directory) word
  let found (word : String) : List String :=
    let all := (paths word).filter isProgram
    if isAll then all else all.take 1
  { Outcome.printing (ofLines (words.flatMap found)) with
    code := if !words.isEmpty && words.all fun word => !(found word).isEmpty then 0 else 1 }

/-- Prints a line again and again, more often than programs read. -/
def yes (view : View) : Outcome :=
  view.withOptions 1 ⟨"", [], true⟩ fun arguments =>
    let line :=
      if arguments.operands.isEmpty then "y\n" else " ".intercalate arguments.operands ++ "\n"
    .printing (String.join (List.replicate 20000 line))

/-- Prints how many programs can run at once. -/
def nproc (view : View) : Outcome :=
  view.withOptions 1 ⟨"", [("all", 'a'), ("ignore=", 'i')], false⟩ fun _ => .printing "1\n"

/-- Prints a line about the host; there are no operands. -/
def remark (line : String) (view : View) : Outcome :=
  view.withOptions 1 ⟨"", [], false⟩ fun arguments =>
    match arguments.operands with
    | [] => .printing line
    | word :: _ => view.misused 1 ("extra operand " ++ quotation word)

/-- Prints the groups of users. -/
def groups (view : View) : Outcome :=
  view.withOptions 1 ⟨"", [], false⟩ fun arguments =>
    let one (outcome : Outcome) (name : String) : Outcome :=
      match Tree.users.find? fun u => u.1 == name with
      | some (_, number, group, _) =>
        let shown := if group == number then name else "nogroup"
        outcome.print (name ++ " : " ++ shown ++ "\n")
      | none => outcome.complaining 1 (view.complaint (quotation name ++ ": no such user"))
    match arguments.operands with
    | [] => .printing "root\n"
    | names => names.foldl one (.quiet 0)

/-- Prints the name under which the user has logged in; there is none. -/
def logname (view : View) : Outcome :=
  view.withOptions 1 ⟨"", [], false⟩ fun arguments =>
    match arguments.operands with
    | [] => view.failing 1 "no login name"
    | word :: _ => view.misused 1 ("extra operand " ++ quotation word)

/-! ## Orders -/

/-- The pairs of words of a list. -/
def pairsOf : List String → List (String × String)
  | a :: b :: rest => (a, b) :: pairsOf rest
  | _ => []

/-- Words in an order in which each pair stands in its own order. -/
def topological (pairs : List (String × String)) : Nat → List String → List String
  | 0, _ => []
  | n + 1, words =>
    let isFree (word : String) : Bool :=
      !pairs.any fun p => p.2 == word && p.1 != word && words.contains p.1
    let free := words.filter isFree
    if free.isEmpty then words
    else free ++ topological pairs n (words.filter fun word => !free.contains word)

/-- Prints words in an order in which given pairs of them stand. -/
def tsort (view : View) : Outcome :=
  view.filtering view.arguments fun texts =>
    let words := texts.flatMap fun t => blankFields t.2
    let all := (words.eraseDups).mergeSort (· ≤ ·)
    ofLines (topological (pairsOf words) (all.length + 1) all)

end PointerTagging.Host.Tool
