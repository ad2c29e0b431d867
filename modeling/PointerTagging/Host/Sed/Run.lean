import PointerTagging.Host.Sed.Reading
import PointerTagging.Host.Utility.Streams
/-!
# Running scripts for editing streams

The commands of a script are run once for each line of the input. What they print goes to the
standard output, to the standard error stream or to files.
-/

namespace PointerTagging.Host.Sed

open Text

/-- A line of the input. -/
structure Line where
  text : String
  /-- The line has an end. -/
  isEnded : Bool
  /-- The file it comes from. -/
  file : String

/-- Where a range stands. -/
inductive RangeState where
  | inactive
  /-- It goes on to the line with the number, if that is known. -/
  | active (last : Option Nat)
  | closed
  deriving DecidableEq, Repr

/-- Something that is written to: its name, its text, and whether its last line lacks an end. The
empty name is the output of the lines. -/
structure Sink where
  name : String
  text : String
  isOpen : Bool

/-- The state of a script that runs. -/
structure State where
  settings : Settings
  view : View
  /-- The line that is edited, and whether it has an end. -/
  space : String
  isEnded : Bool
  held : String
  /-- What is held has an end. -/
  isHeldEnded : Bool
  number : Nat
  file : String
  /-- The lines that have not been read. -/
  left : List Line
  sinks : List Sink
  /-- What is left of files that are read by lines. -/
  readers : List (String × List String)
  /-- What is printed behind the line; a text with its end, or a file as it is. -/
  queue : List String
  isReplaced : Bool
  /-- The expression that was used last. -/
  used : Option (Regex × Bool)
  /-- The states of the ranges by the places of their commands. -/
  ranges : List (Nat × RangeState)

/-- How a cycle ends. -/
inductive Flow where
  | done (prints : Bool)
  /-- The next cycle goes on with what is left of the line. -/
  | restarted
  | quit (prints : Bool) (code : Nat)
  deriving DecidableEq, Repr

/-- Running a script; it fails with a complaint. -/
abbrev Running := ExceptT String (StateM State)

/-! ## Output -/

/-- Writes a text to a sink; the line end that its last line lacks comes first. -/
def write (name text : String) (isOpen : Bool) : Running Unit :=
  modify fun s =>
    let one (sink : Sink) : Sink :=
      let ending := if sink.isOpen then String.ofList [s.settings.ending] else ""
      { sink with text := sink.text ++ ending ++ text, isOpen }
    if s.sinks.any fun sink => sink.name == name then
      { s with sinks := s.sinks.map fun sink => if sink.name == name then one sink else sink }
    else { s with sinks := s.sinks ++ [⟨name, text, isOpen⟩] }

/-- The name of the sink for a file. -/
def sinkName (settings : Settings) (path : String) : String :=
  if path == "/dev/stdout" && settings.inPlace.isNone then "" else path

/-- Writes a line to a sink; it ends like the line that is edited. -/
def writeLine (name text : String) : Running Unit := do
  let s ← get
  write name (text ++ if s.isEnded then String.ofList [s.settings.ending] else "") (!s.isEnded)

/-- Prints what waits behind the line. -/
def flush : Running Unit := do
  for text in (← get).queue do
    write "" text false
  modify fun s => { s with queue := [] }

/-- Reads the next line, if there is one. -/
def advance : Running Bool := do
  flush
  let s ← get
  match s.left with
  | [] => return false
  | line :: left =>
    set { s with
      space := line.text
      isEnded := line.isEnded
      number := s.number + 1
      file := line.file
      left
      isReplaced := false }
    return true

/-! ## Matching -/

/-- The expression of a pattern. -/
def resolve (pattern : Pattern) : Running (Regex × Bool) := do
  match pattern, (← get).used with
  | some found, _ =>
    modify fun s => { s with used := some found }
    return found
  | none, some found => return found
  | none, none => throw "-e expression #1, char 0: no previous regular expression"

/-- How expressions are matched. -/
def matching (ignoresCase : Bool) : Matching := ⟨ignoresCase, true⟩

/-- True if an address is that of the current line. -/
def isAt (address : Address) : Running Bool := do
  let s ← get
  match address with
  | .number n => return s.number == n
  | .stepped first step =>
    return if step == 0 then s.number == first
      else s.number ≥ first && (s.number - first) % step == 0
  | .last => return s.left.isEmpty
  | .matching pattern =>
    let (regex, ignoresCase) ← resolve pattern
    return regex.isFoundIn (matching ignoresCase) s.space
  | _ => return false

/-- Sets the state of a range. -/
def setRange (index : Nat) (state : RangeState) : Running Unit :=
  modify fun s => { s with ranges := (index, state) :: s.ranges.filter fun r => r.1 != index }

/-- The state of a range. -/
def rangeState (index : Nat) (selector : Selector) : Running RangeState := do
  match (← get).ranges.find? fun r => r.1 == index with
  | some (_, state) => return state
  | none =>
    return match selector.first, selector.last with
      | some (.number 0), some _ => .active none
      | _, _ => .inactive

/-- True if the current line is in a range. -/
def isInRange (index : Nat) (selector : Selector) (first stop : Address) : Running Bool := do
  let number := (← get).number
  match ← rangeState index selector with
  | .active (some final) =>
    if number ≥ final then setRange index .closed
    return number ≤ final
  | .active none =>
    if ← isAt stop then setRange index .closed
    return true
  | _ =>
    if !(← isAt first) then return false
    let upTo (final : Nat) : Running Unit :=
      setRange index (if final ≤ number then .closed else .active (some final))
    match stop with
    | .number n => upTo n
    | .count n => upTo (number + n)
    | .multiple n => upTo (if n == 0 then number else (number / n + 1) * n)
    | _ => setRange index (.active none)
    return true

/-- True if a command applies to the current line. -/
def applies (index : Nat) (selector : Selector) : Running Bool := do
  let found ←
    match selector.first, selector.last with
    | none, _ => pure true
    | some first, none => isAt first
    | some first, some stop => isInRange index selector first stop
  return found != selector.isNegated

/-! ## Substitutions -/

/-- What changes letters: those of the whole text, and the first one. -/
structure LetterCase where
  all : Option Char
  first : Option Char

/-- A text with its letters changed. -/
def LetterCase.change (state : LetterCase) (text : String) : String :=
  let whole (c : Char) : Char :=
    match state.all with
    | some 'U' => c.toUpper
    | some 'L' => c.toLower
    | _ => c
  match text.toList with
  | [] => ""
  | c :: cs =>
    let head :=
      match state.first with
      | some 'u' => c.toUpper
      | some 'l' => c.toLower
      | _ => whole c
    String.ofList (head :: cs.map whole)

/-- What stands in the place of a match. -/
def replacementText (start ending : Regex.Place) : LetterCase → List Part → String
  | _, [] => ""
  | state, .letters c :: parts =>
    let state : LetterCase :=
      match c with
      | 'E' => ⟨none, state.first⟩
      | 'u' => { state with first := some c }
      | 'l' => { state with first := some c }
      | c => { state with all := some c }
    replacementText start ending state parts
  | state, part :: parts =>
    let text :=
      match part with
      | .text text => text
      | .group 0 => start.upTo ending
      | .group n => (ending.group? n).getD ""
      | .letters _ => ""
    if text.isEmpty then replacementText start ending state parts
    else state.change text ++ replacementText start ending { state with first := none } parts

/-- Carries out a substitution. -/
def substitute (substitution : Substitution) : Running Unit := do
  let (regex, ignoresCase) ← resolve substitution.pattern
  let s ← get
  let found := (Regex.matchesIn (matching ignoresCase) regex s.space).drop (substitution.first - 1)
  let chosen := if substitution.isGlobal then found else found.take 1
  if chosen.isEmpty then return
  let space := Regex.replaced s.space chosen fun start ending =>
    replacementText start ending ⟨none, none⟩ substitution.replacement
  set { s with space, isReplaced := true }
  if substitution.prints then writeLine "" space
  match substitution.file with
  | some path => writeLine (sinkName s.settings path) space
  | none => return

/-! ## Commands -/

/-- A text with every character shown, in lines of a width. -/
def shownLine (width : Nat) (text : String) : String :=
  let shown (c : Char) : String :=
    match c with
    | '\\' => "\\\\"
    | '\x07' => "\\a"
    | '\x08' => "\\b"
    | '\x0c' => "\\f"
    | '\n' => "\\n"
    | '\r' => "\\r"
    | '\t' => "\\t"
    | '\x0b' => "\\v"
    | c =>
      if 32 ≤ c.toNat && c.toNat < 127 then String.ofList [c]
      else "\\" ++ String.ofList (Numeral.padded 8 3 c.toNat)
  let (text, _) := text.toList.foldl
    (fun (state : String × Nat) c =>
      let piece := shown c
      if width > 0 && state.2 + piece.length > width - 1 then
        (state.1 ++ "\\\n" ++ piece, piece.length)
      else (state.1 ++ piece, state.2 + piece.length)) ("", 0)
  text ++ "$\n"

/-- The start of a text up to a character. -/
def upTo (ending : Char) (text : String) : String :=
  String.ofList (text.toList.takeWhile (· != ending))

/-- Writes the first line of what is edited. -/
def writeFirst (name : String) (s : State) : Running Unit :=
  let ending := s.settings.ending
  if s.space.toList.contains ending then
    write name (upTo ending s.space ++ String.ofList [ending]) false
  else writeLine name s.space

/-- Takes the next line of a file that is read by lines. -/
def nextLineOf (path : String) : Running String := do
  let s ← get
  let lines :=
    match s.readers.find? fun r => r.1 == path with
    | some (_, lines) => lines
    | none => wholeLines ((s.view.read path).toOption.getD "")
  set { s with readers := (path, lines.drop 1) :: s.readers.filter fun r => r.1 != path }
  return lines.headD ""

/-- The place behind a label, or the end of the script. -/
def targetOf (script : Array Command) (name : String) : Nat :=
  let isLabel (command : Command) : Bool :=
    match command.action with
    | .label other => other == name
    | _ => false
  if name.isEmpty then script.size else (script.findIdx? isLabel).getD script.size

/-- Runs the commands from a place on. -/
def run (script : Array Command) : Nat → (index : Nat) → Running Flow
  | 0, _ => return .quit false 4
  | n + 1, index => do
    match script[index]? with
    | none => return .done true
    | some command =>
      let goOn : Running Flow := run script n (index + 1)
      let isChosen ← applies index command.selector
      let s ← get
      if !isChosen then
        match command.action with
        | .block ending => run script n (ending + 1)
        | _ => goOn
      else
        match command.action with
        | .block _ => goOn
        | .blockEnd => goOn
        | .nothing => goOn
        | .label _ => goOn
        | .jump kind name =>
          let jumps := kind == .always || s.isReplaced == (kind == .ifReplaced)
          unless kind == .always do set { s with isReplaced := false }
          if jumps then run script n (targetOf script name) else goOn
        | .append text =>
          set { s with queue := s.queue ++ [text] }
          goOn
        | .insert text =>
          write "" text false
          goOn
        | .change text =>
          let state ← rangeState index command.selector
          let isWithin :=
            match state with
            | .active _ => true
            | _ => false
          unless isWithin do write "" text false
          return .done false
        | .delete => return .done false
        | .deleteLine =>
          if s.space.toList.contains s.settings.ending then
            let rest := s.space.drop ((upTo s.settings.ending s.space).length + 1)
            set { s with space := rest.toString }
            return .restarted
          return .done false
        | .lineNumber =>
          write "" (toString s.number ++ "\n") false
          goOn
        | .fileName =>
          write "" (s.file ++ "\n") false
          goOn
        | .hold appends =>
          let ending := String.ofList [s.settings.ending]
          set { s with
            held := if appends then s.held ++ ending ++ s.space else s.space
            isHeldEnded := s.isEnded }
          goOn
        | .get appends =>
          let ending := String.ofList [s.settings.ending]
          set { s with
            space := if appends then s.space ++ ending ++ s.held else s.held
            isEnded := s.isHeldEnded }
          goOn
        | .exchange =>
          set { s with
            space := s.held
            isEnded := s.isHeldEnded
            held := s.space
            isHeldEnded := s.isEnded }
          goOn
        | .list width =>
          write "" (shownLine (width.getD s.settings.width) s.space) false
          goOn
        | .next appends =>
          if s.left.isEmpty then return .done true
          unless appends || s.settings.isQuiet do writeLine "" s.space
          let _ ← advance
          if appends then
            modify fun t =>
              { t with space := s.space ++ String.ofList [s.settings.ending] ++ t.space }
          goOn
        | .print =>
          writeLine "" s.space
          goOn
        | .printLine =>
          writeFirst "" s
          goOn
        | .quit prints code => return .quit prints code
        | .readFile path =>
          set { s with queue := s.queue ++ [((s.view.read path).toOption.getD "")] }
          goOn
        | .readLine path =>
          let line ← nextLineOf path
          unless line.isEmpty do modify fun s => { s with queue := s.queue ++ [line] }
          goOn
        | .substitute substitution =>
          substitute substitution
          goOn
        | .translate pairs =>
          let change (c : Char) : Char := ((pairs.find? fun p => p.1 == c).map (·.2)).getD c
          set { s with space := String.ofList (s.space.toList.map change) }
          goOn
        | .write path onlyLine =>
          let name := sinkName s.settings path
          if onlyLine then writeFirst name s else writeLine name s.space
          goOn
        | .clear =>
          set { s with space := "" }
          goOn

/-- How many commands a cycle may take. -/
def mostCommands : Nat := 1000000

/-- Runs cycles up to the end of the input; returned is the code if a command ends the script. -/
def cycles (script : Array Command) : Nat → (isFresh : Bool) → Running (Option Nat)
  | 0, _ => return some 4
  | n + 1, isFresh => do
    if isFresh then
      if !(← advance) then return none
    let flow ← run script mostCommands 0
    let s ← get
    let printLine (prints : Bool) : Running Unit := do
      if prints && !s.settings.isQuiet then writeLine "" s.space
      flush
    match flow with
    | .done prints =>
      printLine prints
      cycles script n true
    | .restarted =>
      printLine false
      cycles script n false
    | .quit prints code =>
      if prints then printLine true
      return some code

/-- The lines of a text of a file. -/
def linesOfFile (ending : Char) (file text : String) : List Line :=
  let parts := partsOf ending text
  let isEnded := text.toList.getLast? == some ending
  let ended := parts.dropLast.map fun part => Line.mk part true file
  match parts.getLast? with
  | none => []
  | some part => ended ++ [⟨part, isEnded, file⟩]

/-- The files that a script writes to. -/
def writtenFiles (script : Array Command) : List String :=
  (script.toList.filterMap fun command =>
    match command.action with
    | .write path _ => some path
    | .substitute s => s.file
    | _ => none).eraseDups

/-- What is written to one sink is put where it belongs. -/
def place (outcome : Outcome) (view : View) (sink : Sink) : Outcome :=
  if sink.name.isEmpty || sink.name == "/dev/stdout" then outcome.print sink.text
  else if sink.name == "/dev/stderr" then { outcome with errors := outcome.errors ++ sink.text }
  else
    Tool.writeTo view 4 sink.name sink.text false
      (fun error => "couldn't open file " ++ sink.name ++ ": " ++ error.text) outcome

/-- Edits files: all of them as one stream, or each on its own. -/
def edit (view : View) (settings : Settings) (script : Array Command) (paths : List String) :
    Outcome :=
  let paths := View.sources paths
  let complain (path : String) (why : Unreadable) : String :=
    (if why.isOpen then "read error on " else "can't read ") ++ path ++ ": " ++ why.error.text
  let (texts, complaints) := view.files complain paths
  let isAlone := settings.isSeparate || settings.inPlace.isSome
  let lines (file : String × String) : List Line := linesOfFile settings.ending file.1 file.2
  let groups : List (String × List Line) :=
    if isAlone then texts.map fun file => (file.1, lines file)
    else [("-", texts.flatMap lines)]
  let start : State :=
    { settings, view, space := "", isEnded := true, held := "", isHeldEnded := true, number := 0
      file := "-", left := [], sinks := (writtenFiles script).map fun path =>
        ⟨sinkName settings path, "", false⟩
      readers := [], queue := [], isReplaced := false, used := none, ranges := [] }
  let begun : Outcome :=
    { Outcome.quiet 0 with
      errors := String.join (complaints.map view.complaint)
      code :=
        if complaints.isEmpty then 0
        else if complaints.any fun c => c.startsWith "read error" then 4 else 2
      drains := paths.contains "-" }
  -- the sinks outlast a file, but what is edited in place goes to its own file
  let one (state : State × Outcome × Bool) (group : String × List Line) :
      State × Outcome × Bool :=
    let (s, outcome, isOver) := state
    if isOver then state
    else
      let s := { s with left := group.2, number := 0, ranges := [] }
      match ((cycles script (group.2.length + mostCommands) true).run).run s with
      | (.error complaint, s) => (s, outcome.complaining 1 (view.complaint complaint), true)
      | (.ok code?, s) =>
        let rest := if code?.isSome then ofLines (s.left.map (·.text)) else ""
        let text := ((s.sinks.find? fun sink => sink.name == "").map (·.text)).getD ""
        let outcome := if outcome.code == 0 then { outcome with code := code?.getD 0 } else outcome
        match settings.inPlace with
        | none => (s, outcome, code?.isSome)
        | some suffix =>
          let keep (outcome : Outcome) (path text : String) : Outcome :=
            Tool.writeTo view 4 path text false
              (fun error => "couldn't open file " ++ path ++ ": " ++ error.text) outcome
          let old := (view.read group.1).toOption.getD ""
          let outcome := if suffix.isEmpty then outcome else keep outcome (group.1 ++ suffix) old
          let outcome := keep outcome group.1 (text ++ rest)
          ({ s with sinks := s.sinks.filter fun sink => sink.name != "" }, outcome, code?.isSome)
  let (final, outcome, isOver) := groups.foldl one (start, begun, false)
  -- what has been read too early is lost unless the input is a file
  let keepsInput := isOver && (view.hasFileInput || settings.isUnbuffered)
  let whole (line : Line) : String := if line.isEnded then line.text.push settings.ending else line.text
  let unread := (final.left.filter fun line => line.file == "-").map whole
  let outcome := { outcome with left := if keepsInput then String.join unread else "" }
  final.sinks.foldl (fun outcome sink => place outcome view sink) outcome

end PointerTagging.Host.Sed
