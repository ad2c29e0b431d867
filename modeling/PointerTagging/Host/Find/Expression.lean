import PointerTagging.Host.Calendar.Reading
import PointerTagging.Host.Regex.Reading
import PointerTagging.Host.Utility.Access
/-!
# Conditions on files

The expressions by which files are chosen, and how they are read from words.
-/

namespace PointerTagging.Host.Find

open Shell Text

/-- A number, or what is above or below one. -/
structure Amount where
  order : Ordering
  n : Nat
  deriving Repr

/-- True of numbers that an amount means. -/
def Amount.holds (amount : Amount) (n : Nat) : Bool := compare n amount.n == amount.order

/-- True of an age in seconds that an amount of units means: of so many whole days, and of so many
minutes that have begun. -/
def Amount.holdsOfAge (amount : Amount) (age : Int) (unit : Nat) : Bool :=
  if unit == 60 then
    let bound : Int := amount.n * 60
    match amount.order with
    | .eq => bound - 60 ≤ age && age < bound
    | .lt => age < bound
    | .gt => bound < age
  else compare (age.fdiv unit) (amount.n : Int) == amount.order

/-- Which of some permissions a file has to have. -/
inductive Share where
  | exactly
  | all
  | some
  deriving DecidableEq, Repr

/-- A test of a file, or an action on it, which holds if it succeeds. -/
inductive Test where
  | constant (value : Bool)
  | name (pattern : List Glob) (ignoresCase : Bool)
  | path (pattern : List Glob) (ignoresCase : Bool)
  | linkTo (pattern : List Glob) (ignoresCase : Bool)
  | regex (expression : Regex) (ignoresCase : Bool)
  | kind (letters : List Char) (beyondLinks : Bool)
  | size (amount : Amount) (unit : Nat)
  | empty
  | mode (share : Share) (bits : Nat)
  | links (amount : Amount)
  /-- The number by which the system knows the file. -/
  | number (amount : Amount)
  /-- How long ago the file was changed, in units of so many seconds. -/
  | age (amount : Amount) (unit : Nat)
  /-- The file was changed after a moment. -/
  | newer (than : Int × Nat)
  | user (amount : Amount)
  | group (amount : Amount)
  | ownerless
  | groupless
  | sameFile (path : String)
  | print (ending : String)
  | printTo (path ending : String)
  | format (text : String)
  | formatTo (path text : String)
  /-- Prints all that is known of the file, to a path if there is one. -/
  | list (path : Option String)
  /-- Runs a command if a question is answered with yes. -/
  | ask (words : List String) (inDirectory : Bool)
  /-- Runs a command with the path in place of a pair of braces. -/
  | run (words : List String) (inDirectory : Bool)
  /-- Runs a command once for many paths. -/
  | runOnce (words : List String) (inDirectory : Bool)
  | delete
  | prune
  | quit
  deriving Repr

/-- True of actions, without which every file that is chosen is printed. -/
def Test.isAction : Test → Bool
  | .print _ => true
  | .printTo .. => true
  | .format _ => true
  | .formatTo .. => true
  | .list _ => true
  | .ask .. => true
  | .run .. => true
  | .runOnce .. => true
  | .delete => true
  | _ => false

/-- An expression. -/
inductive Expr where
  | test (test : Test)
  | not (a : Expr)
  | both (a b : Expr)
  | either (a b : Expr)
  /-- The first one is evaluated for what it does. -/
  | sequence (a b : Expr)
  deriving Repr

/-- True of an expression with an action. -/
def Expr.hasAction : Expr → Bool
  | .test t => t.isAction
  | .not a => a.hasAction
  | .both a b => a.hasAction || b.hasAction
  | .either a b => a.hasAction || b.hasAction
  | .sequence a b => a.hasAction || b.hasAction

/-- The formats in an expression. -/
def Expr.formats : Expr → List String
  | .test (.format text) => [text]
  | .test (.formatTo _ text) => [text]
  | .test _ => []
  | .not a => a.formats
  | .both a b => a.formats ++ b.formats
  | .either a b => a.formats ++ b.formats
  | .sequence a b => a.formats ++ b.formats

/-- How directories are searched. -/
structure Settings where
  least : Nat
  most : Option Nat
  /-- What is in a directory comes before it. -/
  insideFirst : Bool
  /-- Links count as what they lead to; those among the operands alone, or all. -/
  followsOperands : Bool
  followsAll : Bool
  form : Regex.Dialect

/-! ## Reading -/

/-- What a reader holds. -/
structure Reader where
  words : List String
  settings : Settings
  /-- What the names and the users are known by. -/
  view : View

/-- Reading an expression; what fails is a complaint. -/
abbrev Reading := StateT Reader (Except String)

/-- The next word. -/
def peek : Reading (Option String) := do return (← get).words.head?

/-- Takes the next word. -/
def advance : Reading Unit := modify fun r => { r with words := r.words.drop 1 }

/-- Takes the value of a predicate. -/
def value (predicate : String) : Reading String := do
  match ← peek with
  | some word =>
    advance
    return word
  | none => throw ("missing argument to \x60" ++ predicate ++ "'")

/-- Refuses the value of a predicate. -/
def invalid {α : Type} (predicate text : String) : Reading α :=
  throw ("invalid argument \x60" ++ text ++ "' to \x60" ++ predicate ++ "'")

/-- The pattern that a text is. -/
def patternOf (ignoresCase : Bool) (text : String) : List Glob :=
  let text := if ignoresCase then text.toLower else text
  Glob.ofText text

/-- The amount that a text says, and what follows the digits. -/
def amountAtStart? (text : String) : Option (Amount × String) :=
  let (order, cs) : Ordering × List Char :=
    match text.toList with
    | '+' :: cs => (.gt, cs)
    | '-' :: cs => (.lt, cs)
    | cs => (.eq, cs)
  let digits := cs.takeWhile Char.isDigit
  if digits.isEmpty then none
  else
    (Numeral.valueFrom 10 0 digits).map fun n =>
      (⟨order, n⟩, String.ofList (cs.drop digits.length))

/-- The amount that is the value of a predicate. -/
def amount (predicate : String) : Reading Amount := do
  let text ← value predicate
  match amountAtStart? text with
  | some (amount, "") => return amount
  | _ => invalid predicate text

/-- The unit of a letter behind a size. -/
def unit? : String → Option Nat
  | "" => some 512
  | "b" => some 512
  | "c" => some 1
  | "w" => some 2
  | "k" => some 1024
  | "M" => some 1048576
  | "G" => some 1073741824
  | _ => none

/-- A depth that is the value of a predicate. -/
def depth (predicate : String) : Reading Nat := do
  let text ← value predicate
  match (Numeral.valueFrom 10 0 text.toList).filter fun _ => !text.isEmpty with
  | some n => return n
  | none =>
    throw ("Expected a positive decimal integer argument to " ++ predicate ++ ", but got " ++
      quotation text)

/-- Takes the words of a command up to its end; true if it is run once. -/
def command (predicate : String) : Nat → Reading (List String × Bool)
  | 0 => throw ("missing argument to \x60" ++ predicate ++ "'")
  | n + 1 => do
    let word ← value predicate
    if word == ";" then return ([], false)
    if word == "\x7b\x7d" && (← peek) == some "+" then
      advance
      return ([word], true)
    let (words, isOnce) ← command predicate n
    return (word :: words, isOnce)

/-- Changes the settings. -/
def change (f : Settings → Settings) : Reading (Option Test) := do
  modify fun r => { r with settings := f r.settings }
  return some (.constant true)

/-- The number of a user or a group. -/
def owner (predicate kind : String) (numberOf : String → Option Nat) : Reading Amount := do
  let text ← value predicate
  match numberOf text with
  | some n => return ⟨.eq, n⟩
  | none => throw (quotation text ++ " is not the name of " ++ kind)

/-- When the file at a path was changed. -/
def changedAt (path : String) : Reading (Int × Nat) := do
  let view := (← get).view
  match view.tree.locate view.place path with
  | .ok (place, _) => return (view.tree.detail place).modified
  | .error error => throw (Quoting.always path ++ ": " ++ error.text)

/-- The test for files that are newer than what a value says: the two letters say which times are
meant. -/
def newerThan (predicate : String) (letters : List Char) : Reading (Option Test) := do
  match letters with
  | [a, b] =>
    if !"aBcm".toList.contains a || !"aBcmt".toList.contains b then
      throw ("invalid predicate \x60" ++ predicate ++ "'")
    let text ← value predicate
    if b == 't' then
      let view := (← get).view
      match Calendar.read? view.zone view.tree.now text with
      | some moment => return some (.newer moment)
      | none =>
        throw ("I cannot figure out how to interpret " ++ Quoting.always text ++
          " as a date or time")
    return some (.newer (← changedAt text))
  | _ => throw ("invalid predicate \x60" ++ predicate ++ "'")

/-- The names of the forms of regular expressions. -/
def regexForms : List String :=
  ["findutils-default", "ed", "emacs", "gnu-awk", "grep", "posix-awk", "awk", "posix-basic",
    "posix-egrep", "egrep", "posix-extended", "posix-minimal-basic", "sed"]

/-- The test that a predicate is, if it is one. -/
def test? (predicate : String) : Reading (Option Test) := do
  let bits (n : Nat) : Reading (Option Test) := do return some (.mode .some n)
  let pattern (make : List Glob → Bool → Test) (ignoresCase : Bool) : Reading (Option Test) := do
    return some (make (patternOf ignoresCase (← value predicate)) ignoresCase)
  let expression (ignoresCase : Bool) : Reading (Option Test) := do
    let text ← value predicate
    match Regex.parse (← get).settings.form text with
    | .ok (found, _) => return some (.regex found ignoresCase)
    | .error error =>
      throw ("failed to compile regular expression '" ++ text ++ "': " ++ error.message)
  let kinds (beyondLinks : Bool) : Reading (Option Test) := do
    let text ← value predicate
    let letters := (text.splitOn ",").map String.toList
    match letters.find? fun cs => cs.length != 1 || !cs.all "bcdpflsD".toList.contains with
    | some cs =>
      throw ("Unknown argument to " ++ predicate ++ ": " ++ String.ofList (cs.take 1))
    | none => return some (.kind letters.flatten beyondLinks)
  let once (inDirectory : Bool) : Reading (Option Test) := do
    let (words, isOnce) ← command predicate ((← get).words.length + 1)
    if words.isEmpty then invalid predicate ";"
    return some (if isOnce then .runOnce words inDirectory else .run words inDirectory)
  let ask (inDirectory : Bool) : Reading (Option Test) := do
    let (words, _) ← command predicate ((← get).words.length + 1)
    if words.isEmpty then invalid predicate ";"
    return some (.ask words inDirectory)
  let age (unit : Nat) : Reading (Option Test) := do
    return some (.age (← amount predicate) unit)
  match predicate with
  | "-true" => return some (.constant true)
  | "-false" => return some (.constant false)
  | "-name" => pattern .name false
  | "-iname" => pattern .name true
  | "-path" => pattern .path false
  | "-wholename" => pattern .path false
  | "-ipath" => pattern .path true
  | "-iwholename" => pattern .path true
  | "-lname" => pattern .linkTo false
  | "-ilname" => pattern .linkTo true
  | "-regex" => expression false
  | "-iregex" => expression true
  | "-type" => kinds false
  | "-xtype" => kinds true
  | "-size" =>
    let text ← value predicate
    match amountAtStart? text with
    | some (amount, letter) =>
      match unit? letter with
      | some unit => return some (.size amount unit)
      | none => throw ("invalid -size type \x60" ++ letter ++ "'")
    | none => throw ("invalid -size type \x60" ++ (text.takeEnd 1).toString ++ "'")
  | "-empty" => return some .empty
  | "-perm" =>
    let text ← value predicate
    let (share, body) : Share × String :=
      if text.startsWith "-" then (.all, (text.drop 1).toString)
      else if text.startsWith "/" then (.some, (text.drop 1).toString)
      else (.exactly, text)
    match Tool.modeAfter? body 0 with
    | some mode =>
      if share == .some && mode == 0 then return some (.constant true)
      return some (.mode share mode)
    | none => throw ("invalid mode " ++ quotation text)
  | "-readable" => return some (.constant true)
  | "-writable" => return some (.constant true)
  | "-executable" => bits 0o111
  | "-links" => return some (.links (← amount predicate))
  | "-inum" => return some (.number (← amount predicate))
  | "-mtime" => age 86400
  | "-atime" => age 86400
  | "-ctime" => age 86400
  | "-mmin" => age 60
  | "-amin" => age 60
  | "-cmin" => age 60
  | "-newer" => return some (.newer (← changedAt (← value predicate)))
  | "-anewer" => return some (.newer (← changedAt (← value predicate)))
  | "-cnewer" => return some (.newer (← changedAt (← value predicate)))
  | "-samefile" =>
    let path ← value predicate
    let view := (← get).view
    match view.tree.locate view.place path with
    | .ok _ => return some (.sameFile path)
    | .error error => throw (quotation path ++ ": " ++ error.text)
  | "-user" => return some (.user (← owner predicate "a known user" Tool.userIn))
  | "-uid" => return some (.user (← amount predicate))
  | "-group" => return some (.group (← owner predicate "an existing group" Tool.groupIn))
  | "-gid" => return some (.group (← amount predicate))
  | "-nouser" => return some .ownerless
  | "-nogroup" => return some .groupless
  | "-print" => return some (.print "\n")
  | "-ls" => return some (.list none)
  | "-fls" => return some (.list (some (← value predicate)))
  | "-print0" => return some (.print "\x00")
  | "-printf" => return some (.format (← value predicate))
  | "-fprint" => return some (.printTo (← value predicate) "\n")
  | "-fprint0" => return some (.printTo (← value predicate) "\x00")
  | "-fprintf" =>
    let path ← value predicate
    return some (.formatTo path (← value predicate))
  | "-exec" => once false
  | "-execdir" => once true
  | "-ok" => ask false
  | "-okdir" => ask true
  | "-delete" =>
    let _ ← change fun s => { s with insideFirst := true }
    return some .delete
  | "-prune" => return some .prune
  | "-quit" => return some .quit
  | "-maxdepth" =>
    let n ← depth predicate
    change fun s => { s with most := some n }
  | "-mindepth" =>
    let n ← depth predicate
    change fun s => { s with least := n }
  | "-depth" => change fun s => { s with insideFirst := true }
  | "-d" => change fun s => { s with insideFirst := true }
  | "-follow" => change fun s => { s with followsOperands := true, followsAll := true }
  | "-regextype" =>
    let text ← value predicate
    if !regexForms.contains text then
      throw ("Unknown regular expression type " ++ quotation text ++ "; valid types are " ++
        ", ".intercalate (regexForms.map quotation) ++ ".")
    if (text.splitOn "-").any fun part => ["extended", "egrep", "awk"].contains part then
      change fun s => { s with form := Regex.Dialect.extended }
    else change fun s => { s with form := Regex.Dialect.basic }
  | _ =>
    if ["-xdev", "-mount", "-noleaf", "-daystart", "-warn", "-nowarn", "-ignore_readdir_race",
        "-noignore_readdir_race"].contains predicate then return some (.constant true)
    if predicate.startsWith "-newer" then newerThan predicate (predicate.drop 6).toString.toList
    else return none

/-- The words that join expressions. -/
def joints : List String := ["-a", "-and", "-o", "-or", ","]

mutual

/-- Reads a single test, one with a `!` in front, or an expression in parentheses. -/
def factor : Nat → Reading Expr
  | 0 => throw "too deep"
  | n + 1 => do
    match ← peek with
    | none => throw "missing"
    | some word =>
      advance
      if word == "!" || word == "-not" then
        if (← peek).isNone then throw ("expected an expression after '" ++ word ++ "'")
        return .not (← factor n)
      if word == "(" then
        match ← peek with
        | none =>
          throw ("invalid expression; expected to find a ')' but didn't see one. " ++
            "Perhaps you need an extra predicate after '('")
        | some ")" =>
          throw "invalid expression; empty parentheses are not allowed."
        | some _ => pure ()
        let inside ← list n
        if (← peek) == some ")" then
          advance
          return inside
        throw "invalid expression; I was expecting to find a ')' somewhere but did not see one."
      if word == ")" then
        throw "invalid expression; you have too many ')'"
      if joints.contains word then
        throw ("invalid expression; you have used a binary operator '" ++ word ++
          "' with nothing before it.")
      match ← test? word with
      | some found => return .test found
      | none =>
        if word.startsWith "-" && word.length > 1 then
          throw ("unknown predicate \x60" ++ word ++ "'")
        throw ("paths must precede expression: \x60" ++ word ++ "'")

/-- Reads expressions that all have to hold. -/
def conjunction : Nat → Reading Expr
  | 0 => throw "too deep"
  | n + 1 => do
    let first ← factor n
    match ← peek with
    | none => return first
    | some word =>
      if word == "-a" || word == "-and" then
        advance
        if (← peek).isNone then throw ("expected an expression after '" ++ word ++ "'")
        return .both first (← conjunction n)
      if joints.contains word || word == ")" then return first
      return .both first (← conjunction n)

/-- Reads expressions of which one has to hold. -/
def disjunction : Nat → Reading Expr
  | 0 => throw "too deep"
  | n + 1 => do
    let first ← conjunction n
    match ← peek with
    | some word =>
      if word == "-o" || word == "-or" then
        advance
        if (← peek).isNone then throw ("expected an expression after '" ++ word ++ "'")
        return .either first (← disjunction n)
      return first
    | none => return first

/-- Reads a whole expression. -/
def list : Nat → Reading Expr
  | 0 => throw "too deep"
  | n + 1 => do
    let first ← disjunction n
    if (← peek) == some "," then
      advance
      if (← peek).isNone then throw "expected an expression after ','"
      return .sequence first (← list n)
    return first

end

/-- True of a word that begins the expression. -/
def beginsExpression (word : String) : Bool :=
  (word.startsWith "-" && word.length > 1) || word == "(" || word == "!"

/-- How directories are searched if nothing is said. -/
def Settings.plain : Settings := ⟨0, none, false, false, false, Regex.Dialect.basic⟩

/-- The settings that the first words make, and the words behind them. -/
def leading : Settings → List String → Settings × List String
  | settings, word :: words =>
    match word with
    | "-H" => leading { settings with followsOperands := true, followsAll := false } words
    | "-L" => leading { settings with followsOperands := true, followsAll := true } words
    | "-P" => leading { settings with followsOperands := false, followsAll := false } words
    | word =>
      if word.startsWith "-O" then leading settings words
      else if word == "--" then (settings, words)
      else (settings, word :: words)
  | settings, [] => (settings, [])

/-- The paths, the expression and the settings that the arguments give. -/
def parse (view : View) : Except String (List String × Expr × Settings) := do
  let (settings, words) := leading .plain view.arguments
  let paths := words.takeWhile (!beginsExpression ·)
  let rest := words.drop paths.length
  let paths := if paths.isEmpty then ["."] else paths
  match rest with
  | [] => return (paths, .test (.print "\n"), settings)
  | rest =>
    let (expr, reader) ← (list (4 * rest.length + 4)).run ⟨rest, settings, view⟩
    match reader.words with
    | [] =>
      let expr := if expr.hasAction then expr else .both expr (.test (.print "\n"))
      return (paths, expr, reader.settings)
    | _ => throw "you have too many ')'"

end PointerTagging.Host.Find
