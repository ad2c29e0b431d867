import PointerTagging.Host.Regex.Reading
import PointerTagging.Host.Utility.Options
/-!
# Searching lines

The utility that prints the lines of texts which expressions match.
-/

namespace PointerTagging.Host.Tool

open Text

/-- How lines are chosen, and what is printed of them. -/
structure Search where
  matching : Matching
  regex : Regex
  /-- The lines are chosen that do not match. -/
  inverts : Bool
  /-- The character that ends lines. -/
  ending : Char
  /-- How many lines are chosen at most. -/
  most : Option Nat
  /-- How many lines are printed before and behind those that are chosen, if that is said. -/
  before : Option Nat
  after : Option Nat
  onlyMatches : Bool
  showsNames : Bool
  showsNumbers : Bool
  showsOffsets : Bool
  /-- A tab stands before each line. -/
  aligns : Bool
  /-- A null character stands behind names. -/
  closesNames : Bool

/-- A line of a text with its number and the offset at which it starts. -/
structure NumberedLine where
  number : Nat
  offset : Nat
  text : String
  isChosen : Bool

namespace Search

/-- True if a line is to be chosen. -/
def chooses (search : Search) (line : String) : Bool :=
  search.regex.isFoundIn search.matching line != search.inverts

/-- The lines of a text, up to `left` of which are chosen. -/
def mark (search : Search) : (left : Option Nat) → (number offset : Nat) → List String →
    List NumberedLine
  | _, _, _, [] => []
  | left, number, offset, line :: lines =>
    let isChosen := left != some 0 && search.chooses line
    let left := if isChosen then left.map (· - 1) else left
    ⟨number, offset, line, isChosen⟩ ::
      search.mark left (number + 1) (offset + line.length + 1) lines

/-- The lines of a text. -/
def lines (search : Search) (text : String) : List NumberedLine :=
  search.mark search.most 1 0 (partsOf search.ending text)

/-- What is left to read of a text behind the last line that may be chosen. -/
def leftOf (search : Search) (text : String) : String :=
  let chosen := (search.lines text).filter (·.isChosen)
  match search.most, chosen.getLast? with
  | some 0, _ => text
  | some most, some line =>
    if chosen.length < most then ""
    else (text.drop (line.offset + line.text.length + 1)).toString
  | _, _ => ""

/-- True for each line that is chosen, or one of the `reach` lines behind one that is; `left` is how
many lines are still within the reach. -/
def within (reach : Nat) : (left : Nat) → List NumberedLine → List Bool
  | _, [] => []
  | left, line :: lines =>
    if line.isChosen then true :: within reach reach lines
    else (left > 0) :: within reach (left - 1) lines

/-- The lines that are printed. -/
def shown (search : Search) (lines : List NumberedLine) : List NumberedLine :=
  let behind := within (search.after.getD 0) 0 lines
  let before := (within (search.before.getD 0) 0 lines.reverse).reverse
  ((lines.zip (behind.zip before)).filter fun (_, a, b) => a || b).map (·.1)

/-- What stands before a line; `mark` stands behind each part of it. -/
def head (search : Search) (name mark : String) (number offset : Nat) : String :=
  (if search.showsNames then name ++ if search.closesNames then "\x00" else mark else "") ++
    (if search.showsNumbers then toString number ++ mark else "") ++
    (if search.showsOffsets then toString offset ++ mark else "") ++
    (if search.aligns && (search.showsNames || search.showsNumbers || search.showsOffsets)
      then "\t" else "")

/-- A line as it is printed. -/
def showLine (search : Search) (name : String) (line : NumberedLine) : String :=
  let ending := String.ofList [search.ending]
  let mark := if line.isChosen then ":" else "-"
  if !search.onlyMatches then
    search.head name mark line.number line.offset ++ line.text ++ ending
  else if !line.isChosen || search.inverts then ""
  else
    let found := (Regex.matchesIn search.matching search.regex line.text).filter fun m =>
      m.1.index < m.2.index
    String.join (found.map fun m =>
      search.head name mark line.number (line.offset + m.1.index) ++ m.1.upTo m.2 ++ ending)

/-- Lines as they are printed, with a line between groups of them if their surroundings are printed
too; `last` is the number of the line printed before, 0 for one of another text. -/
def showLines (search : Search) (name : String) : (last : Option Nat) → List NumberedLine → String
  | _, [] => ""
  | last, line :: lines =>
    let hasGroups := search.before.isSome || search.after.isSome
    let isNew := last.any fun n => n + 1 != line.number
    (if hasGroups && isNew then "--\n" else "") ++ search.showLine name line ++
      search.showLines name (some line.number) lines

end Search

/-! ## Options -/

/-- What is printed of a text. -/
inductive SearchReport where
  | lines
  | count
  /-- The name, if lines are chosen or if none are. -/
  | name (isChosen : Bool)
  | nothing
  deriving DecidableEq, Repr

/-- The options of `grep`. -/
def grepOptions : OptionTable :=
  { letters := "0123456789A:B:C:EFGHILPTUZabcd:e:f:hilm:noqRrsvwxyz"
    names := [("after-context=", 'A'), ("before-context=", 'B'), ("basic-regexp", 'G'),
      ("byte-offset", 'b'), ("context=", 'C'), ("color==", '\x02'), ("colour==", '\x02'),
      ("count", 'c'), ("extended-regexp", 'E'), ("file=", 'f'), ("files-with-matches", 'l'),
      ("files-without-match", 'L'), ("fixed-strings", 'F'), ("ignore-case", 'i'),
      ("initial-tab", 'T'), ("invert-match", 'v'), ("line-number", 'n'),
      ("line-regexp", 'x'), ("max-count=", 'm'), ("no-filename", 'h'), ("no-messages", 's'),
      ("null", 'Z'), ("null-data", 'z'), ("only-matching", 'o'), ("perl-regexp", 'P'),
      ("quiet", 'q'), ("recursive", 'r'), ("regexp=", 'e'), ("silent", 'q'), ("text", 'a'),
      ("with-filename", 'H'), ("word-regexp", 'w')]
    stopsEarly := false }

/-- The expression that a text is which has no signs. -/
def literal (text : String) : Regex :=
  text.toList.foldr (fun c rest => .both (.char c) rest) .empty

/-- The text of an error for expressions in the rich form. -/
def richError : Regex.Error → String
  | .unmatchedBracket => "missing terminating ] for character class"
  | .unmatchedOpen => "missing closing parenthesis"
  | .unmatchedClose => "unmatched closing parenthesis"
  | .badRepetition => "quantifier does not follow a repeatable item"
  | .badBrace => "numbers out of order in \x7b\x7d quantifier"
  | .badRange => "range out of order in character class"
  | .badReference => "reference to non-existent subpattern"
  | .trailingBackslash => "\\ at end of pattern"
  | .badClass => "unknown POSIX class name"
  | error => error.message

/-- The expression for some patterns of which each is a line, in the form that a letter names, and
the repetitions in it that have nothing to repeat. -/
def grepRegex (form : Char) (patterns : List String) : Except String (Regex × List String) := do
  let one (pattern : String) : Except String (Regex × List String) :=
    match form with
    | 'F' => .ok (literal pattern, [])
    | 'E' => (Regex.parse .extended pattern).mapError Regex.Error.message
    | 'P' => (Regex.parse .rich pattern).mapError richError
    | _ => (Regex.parse .basic pattern).mapError Regex.Error.message
  let all ← patterns.mapM one
  match all.map (·.1) with
  | [] => return (.look true .empty, [])
  | first :: rest => return (rest.foldl .either first, (all.map (·.2)).flatten)

/-- The files that a path leads to, with those inside directories. -/
def filesBelow (tree : Tree) (place : List String) : Nat → String → List String
  | 0, path => [path]
  | n + 1, path =>
    match tree.locate place path with
    | .ok (inner, .directory) =>
      ((tree.namesIn inner).mergeSort (· ≤ ·)).flatMap fun name =>
        filesBelow tree place n ((if path.endsWith "/" then path else path ++ "/") ++ name)
    | _ => [path]

/-- What `grep` does with its options and its patterns. -/
def grepWith (view : View) (arguments : Arguments) (patterns operands : List String) :
    Outcome :=
  let has := arguments.has
  let form := (arguments.last? "EFGP").getD 'G'
  let amountOf (c : Char) : Option (Option Nat) :=
    match arguments.value? c with
    | none => some none
    | some text => (amount? text).map some
  let digits := String.ofList (((arguments.options.map (·.1))).filter Char.isDigit)
  match grepRegex form patterns, amountOf 'A', amountOf 'B', amountOf 'C', amountOf 'm' with
  | .error error, _, _, _, _ => view.failing 2 error
  | .ok (regex, idle), some after, some before, some around, some most =>
    let around := around.orElse fun _ => amount? digits
    let isDeep := has 'r' || has 'R'
    let paths := if operands.isEmpty && isDeep then ["."] else View.sources operands
    let files := if isDeep then paths.flatMap (filesBelow view.tree view.place 20) else paths
    let files :=
      if isDeep && operands.isEmpty then files.map fun f => (f.drop 2).toString else files
    let regex :=
      if has 'x' then .both (.edge .start) (.both regex (.edge .ending))
      else if has 'w' then .both (.edge .behindWords) (.both regex (.edge .beforeWords))
      else regex
    let search : Search :=
      { matching := ⟨has 'i' || has 'y', form != 'P'⟩
        regex
        inverts := has 'v'
        ending := if has 'z' then '\x00' else '\n'
        most
        before := before.orElse fun _ => around
        after := after.orElse fun _ => around
        onlyMatches := has 'o'
        showsNames :=
          match arguments.last? "hH" with
          | some c => c == 'H'
          | none => files.length > 1 || (isDeep && files != paths)
        showsNumbers := has 'n'
        showsOffsets := has 'b'
        aligns := has 'T'
        closesNames := has 'Z' }
    let kind : SearchReport :=
      if has 'q' then .nothing
      else
        match arguments.last? "lL" with
        | some c => .name (c == 'l')
        | none => if has 'c' then .count else .lines
    let report (path : String) (text : String) (outcome : Outcome × Bool × Bool) :
        Outcome × Bool × Bool :=
      let (outcome, hasChosen, hasPrinted) := outcome
      let name := if path == "-" then "(standard input)" else path
      let lines := search.lines text
      let count := (lines.filter (·.isChosen)).length
      let ending := if search.closesNames then "\x00" else "\n"
      let isBinary := text.toList.contains '\x00' && !has 'a' && !has 'z'
      let outcome :=
        match kind with
        | .nothing => outcome
        | .name isChosen =>
          if (count > 0) == isChosen then outcome.print (name ++ ending) else outcome
        | .count =>
          let head := search.showsNames
          let mark := if search.closesNames then "\x00" else ":"
          outcome.print ((if head then name ++ mark else "") ++ toString count ++ "\n")
        | .lines =>
          if isBinary then
            if count == 0 then outcome
            else
              { outcome with
                errors := outcome.errors ++ view.complaint (name ++ ": binary file matches") }
          else
            outcome.print
              (search.showLines name (if hasPrinted then some 0 else none) (search.shown lines))
      (outcome, hasChosen || count > 0, hasPrinted || count > 0)
    let one (state : Outcome × Bool × Bool) (path : String) : Outcome × Bool × Bool :=
      match view.read path with
      | .ok text => report path text state
      | .error why =>
        let errors := if has 's' then "" else view.complaint (View.plainly path why)
        (state.1.complaining 2 errors, state.2)
    let warnings := idle.map fun sign => view.complaint ("warning: " ++ sign ++
      " at start of expression")
    let start := { Outcome.quiet 0 with errors := String.join warnings }
    let (outcome, hasChosen, _) := files.foldl one (start, false, false)
    -- what has been read too early is lost unless the input is a file
    let keepsInput := view.hasFileInput && (kind == .lines || kind == .count)
    { outcome with
      code :=
        if has 'q' && hasChosen then 0
        else if outcome.code != 0 then outcome.code
        else if hasChosen then 0 else 1
      drains := files.contains "-"
      left := if keepsInput then search.leftOf view.input else "" }
  | _, none, _, _, _ => unclear 'A'
  | _, _, none, _, _ => unclear 'B'
  | _, _, _, none, _ => unclear 'C'
  | _, _, _, _, none => view.failing 2 "invalid max count"
where
  /-- What is done about a number of lines that is none. -/
  unclear (c : Char) : Outcome :=
    view.failing 2 ((arguments.value? c).getD "" ++ ": invalid context length argument")

/-- What `grep` says about its use. -/
def grepUsage (view : View) : Outcome :=
  { Outcome.quiet 2 with
    errors := "Usage: " ++ view.name ++ " [OPTION]... PATTERNS [FILE]...\n" ++ view.hint }

/-- Prints the lines that match. -/
def grep (view : View) : Outcome :=
  match grepOptions.arguments view.arguments with
  | .error error =>
    { grepUsage view with errors := view.complaint error.message ++ (grepUsage view).errors }
  | .ok arguments =>
    if arguments.has OptionTable.helpLetter then .quiet 0
    else if arguments.has 'P' && (arguments.last? "EFG").isSome then
      view.failing 2 "conflicting matchers specified"
    else
      let files := (arguments.values 'f').map fun path => (path, view.read path)
      let unread? := files.findSome? fun f =>
        match f.2 with
        | .error why => some (View.plainly f.1 why)
        | .ok _ => none
      let read := files.flatMap fun f => linesOf (f.2.toOption.getD "")
      let given := (arguments.values 'e').flatMap (·.splitOn "\n") ++ read
      match unread?, arguments.has 'e' || arguments.has 'f', arguments.operands with
      | some complaint, _, _ => view.failing 2 complaint
      | none, true, operands => grepWith view arguments given operands
      | none, false, [] => grepUsage view
      | none, false, pattern :: operands =>
        grepWith view arguments (pattern.splitOn "\n") operands

/-- Searches like `grep` with an option for the form of the patterns. -/
def oldGrep (option : String) (view : View) : Outcome :=
  grep { view with name := "grep", arguments := option :: view.arguments }

end PointerTagging.Host.Tool
