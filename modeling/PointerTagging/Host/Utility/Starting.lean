import PointerTagging.Host.Plan
import PointerTagging.Host.Shell.Copy
import PointerTagging.Host.Utility.Reporting
/-!
# Starting programs

The plans of the utilities that start another program: under another environment, with another
priority, with a limit of time, or once for each group of words that they read.
-/

namespace PointerTagging.Host.Tool

open Text

/-- What is done about a program that cannot be started; `head` comes before the reason. -/
def notStarted (view : View) (head : String) (error : SystemError) : Outcome :=
  view.failing (if error == .notFound then 127 else 126) (head ++ ": " ++ error.text)

/-! ## Another environment -/

/-- Where a splitter of words is. -/
structure Splitting where
  /-- The characters of the current word so far, the last one first, if there is one. -/
  current : Option (List Char)
  /-- The words so far, the last one first. -/
  words : List String
  /-- The quote that is open. -/
  quote : Option Char

namespace Splitting

/-- One more character of the current word. -/
def push (s : Splitting) (c : Char) : Splitting :=
  { s with current := some (c :: s.current.getD []) }

/-- The end of the current word. -/
def finish (s : Splitting) : Splitting :=
  match s.current with
  | none => s
  | some cs => { s with current := none, words := String.ofList cs.reverse :: s.words }

/-- What a dollar sign stands for before some characters, and the rest of them. -/
def atDollar (get : String → String) (cs : List Char) : List Char × List Char :=
  match cs with
  | '\x7b' :: rest =>
    let name := rest.takeWhile (· != '\x7d')
    ((get (String.ofList name)).toList, rest.drop (name.length + 1))
  | cs => (['$'], cs)

/-- Splits a text at white space; quotes and backslashes take the meaning of white space away, and
names in braces behind a dollar sign stand for variables. -/
def run (get : String → String) : Nat → List Char → Splitting → Splitting
  | 0, _, s => s.finish
  | _, [], s => s.finish
  | n + 1, c :: cs, s =>
    match s.quote, c with
    | none, '\'' => run get n cs { s with quote := some c, current := some (s.current.getD []) }
    | none, '"' => run get n cs { s with quote := some c, current := some (s.current.getD []) }
    | some q, c =>
      if c == q then run get n cs { s with quote := none }
      else if c == '\\' && (q == '"' || cs.head? == some '\'' || cs.head? == some '\\') then
        match cs with
        | d :: cs => run get n cs (s.push (escaped d))
        | [] => s.finish
      else if c == '$' && q == '"' then
        let (value, rest) := atDollar get cs
        run get n rest { s with current := some (value.reverse ++ s.current.getD []) }
      else run get n cs (s.push c)
    | none, '\\' =>
      match cs with
      | '_' :: cs => run get n cs s.finish
      | 'c' :: _ => s.finish
      | d :: cs => run get n cs (s.push (escaped d))
      | [] => s.finish
    | none, '$' =>
      let (value, rest) := atDollar get cs
      run get n rest { s with current := some (value.reverse ++ s.current.getD []) }
    | none, '#' => if s.current.isNone then s.finish else run get n cs (s.push c)
    | none, c => if isSpace c then run get n cs s.finish else run get n cs (s.push c)
where
  /-- The character that a letter behind a backslash stands for. -/
  escaped (c : Char) : Char :=
    match c with
    | 'f' => '\x0c'
    | 'n' => '\n'
    | 'r' => '\r'
    | 't' => '\t'
    | 'v' => '\x0b'
    | '_' => ' '
    | c => c

end Splitting

/-- The words of a text. -/
def splitWords (get : String → String) (text : String) : List String :=
  (Splitting.run get (text.length + 1) text.toList ⟨none, [], none⟩).words.reverse

/-- The options of `env`. -/
def envOptions : OptionTable :=
  { letters := "0C:iS:u:v"
    names := [("chdir=", 'C'), ("debug", 'v'), ("ignore-environment", 'i'), ("null", '0'),
      ("split-string=", 'S'), ("unset=", 'u'), ("block-signal==", '\x02'),
      ("default-signal==", '\x02'), ("ignore-signal==", '\x02')]
    stopsEarly := true }

/-- The name and the value that a word assigns, if it assigns one. -/
def assignment? (word : String) : Option (String × String) :=
  let name := word.toList.takeWhile (· != '=')
  if name.length == word.length then none
  else some (String.ofList name, (word.drop (name.length + 1)).toString)

/-- The context behind the assignments at the start of some words, and the other words. -/
def assigned : Context → List String → Context × List String
  | context, [] => (context, [])
  | context, word :: words =>
    match assignment? word with
    | some (name, value) => assigned (context.setVariable name value) words
    | none => (context, word :: words)

/-- The words with what the option for splitting holds in its place. -/
def withSplit (get : String → String) : Nat → List String → List String
  | 0, words => words
  | _, [] => []
  | n + 1, word :: words =>
    if word == "-S" || word == "--split-string" then
      withSplit get n (splitWords get (words.headD "") ++ words.drop 1)
    else if word.startsWith "-S" then
      withSplit get n (splitWords get (word.drop 2).toString ++ words)
    else if word.startsWith "-vS" then
      withSplit get n (splitWords get (word.drop 3).toString ++ words)
    else if word.startsWith "--split-string=" then
      withSplit get n (splitWords get (word.drop 15).toString ++ words)
    else if word == "-u" || word == "-C" then word :: words.take 1 ++ withSplit get n (words.drop 1)
    else if word.startsWith "-" && word != "-" && word != "--" then word :: withSplit get n words
    else word :: words

/-- Runs a program under a changed environment, or prints that. -/
def env (view : View) (context : Context) : Plan :=
  let words := withSplit (fun name => (view.get? name).getD "") (view.arguments.length + 10)
    view.arguments
  match envOptions.arguments words with
  | .error error => .finished (view.misused 125 error.message)
  | .ok arguments =>
    let isBare := arguments.operands.head? == some "-"
    let operands := if isBare then arguments.operands.drop 1 else arguments.operands
    let unset := arguments.values 'u'
    let cleared : Context :=
      if arguments.has 'i' || isBare then { context with environment := [] }
      else unset.foldl Context.dropVariable context
    let (inner, command) := assigned cleared operands
    let badName := unset.find? fun name => name.isEmpty || name.contains '='
    let moved : Except Plan Context :=
      match arguments.value? 'C' with
      | none => .ok inner
      | some path =>
        let refuse (error : SystemError) : Except Plan Context :=
          .error (.finished (view.failing 125
            ("cannot change directory to " ++ quotation path ++ ": " ++ error.text)))
        match view.tree.locate view.place path with
        | .ok (place, .directory) => .ok { inner with place }
        | .ok _ => refuse .notADirectory
        | .error error => refuse error
    match badName, arguments.has OptionTable.helpLetter, command with
    | some name, _, _ =>
      .finished (view.failing 125 ("cannot unset " ++ quotation name ++ ": " ++
        SystemError.invalidArgument.text))
    | none, true, _ => .finished (.quiet 0)
    | none, false, [] =>
      if arguments.has 'C' then
        .finished (view.misused 125 "must specify command with --chdir (-C)")
      else
        let ending := if arguments.has '0' then "\x00" else "\n"
        .finished (.printing (String.join (inner.variableLines.map (· ++ ending))))
    | none, false, word :: words =>
      if arguments.has '0' then
        .finished (view.misused 125 "cannot specify --null (-0) with command")
      else
        match moved with
        | .error plan => plan
        | .ok inner =>
          .replaced inner (word :: words) fun error =>
            let outcome := notStarted view (quotation word) error
            if error == .notFound && word.toList.any isSpace then
              outcome.complaining 127
                (view.complaint "use -[v]S to pass options in shebang lines")
            else outcome

/-! ## Other conditions -/

/-- Runs a program with another priority, which nothing here depends on. -/
def nice (view : View) (context : Context) : Plan :=
  let words :=
    match view.arguments with
    | word :: words =>
      let digits := word.toList.drop 1
      if word.startsWith "-" && !digits.isEmpty && digits.all Char.isDigit then
        "-n" :: String.ofList digits :: words
      else word :: words
    | [] => []
  match OptionTable.arguments ⟨"n:", [("adjustment=", 'n')], true⟩ words with
  | .error error => .finished (view.misused 125 error.message)
  | .ok arguments =>
    match arguments.value? 'n', arguments.operands with
    | some text, operands =>
      if (Shell.numberOf? false text).isNone then
        .finished (view.failing 125 ("invalid adjustment " ++ quotation text))
      else
        match operands with
        | [] => .finished (view.misused 125 "a command must be given with an adjustment")
        | word :: words => .replaced context (word :: words) (notStarted view (quotation word))
    | none, [] => .finished (.printing "0\n")
    | none, word :: words => .replaced context (word :: words) (notStarted view (quotation word))

/-- Runs a program that the end of a terminal does not end. -/
def nohup (view : View) (context : Context) : Plan :=
  match OptionTable.arguments ⟨"", [], true⟩ view.arguments with
  | .error error => .finished (view.misused 125 error.message)
  | .ok arguments =>
    match arguments.operands with
    | [] => .finished (view.misused 125 "missing operand")
    | word :: words =>
      .replaced context (word :: words)
        (notStarted view ("failed to run command " ++ quotation word))

/-- Runs a program in a session of its own. -/
def setsid (view : View) (context : Context) : Plan :=
  let table : OptionTable := ⟨"cfw", [("ctty", 'c'), ("fork", 'f'), ("wait", 'w')], true⟩
  match table.arguments view.arguments with
  | .error error => .finished (view.misused 1 error.message)
  | .ok arguments =>
    match arguments.operands with
    | [] => .finished (view.misused 1 "no command specified")
    | word :: words =>
      .replaced context (word :: words) fun error =>
        view.failing (if error == .notFound then 127 else 126)
          ("failed to execute " ++ word ++ ": " ++ error.text)

/-- The library by which programs change their buffers. -/
def bufferLibrary : String := "/usr/libexec/coreutils/libstdbuf.so"

/-- Runs a program with other buffers for its streams. -/
def stdbuf (view : View) (context : Context) : Plan :=
  let table : OptionTable := ⟨"i:o:e:", [("input=", 'i'), ("output=", 'o'), ("error=", 'e')], true⟩
  match table.arguments view.arguments with
  | .error error => .finished (view.misused 125 error.message)
  | .ok arguments =>
    let isMode (c : Char) (text : String) : Bool :=
      (text == "L" && c != 'i') || (amount? text).isSome
    match arguments.options.find? fun o => !isMode o.1 o.2, arguments.operands with
    | some ('i', "L"), _ => .finished (view.misused 125 "line buffering stdin is meaningless")
    | some (_, text), _ => .finished (view.failing 125 ("invalid mode " ++ quotation text))
    | none, [] => .finished (view.misused 125 "missing operand")
    | none, word :: words =>
      if arguments.options.isEmpty then
        .finished (view.misused 125 "you must specify a buffering mode option")
      else
        let inner := arguments.options.foldl
          (fun context o =>
            context.setVariable ("_STDBUF_" ++ (String.ofList [o.1]).toUpper) o.2) context
        let preloaded := (context.get? "LD_PRELOAD").map (· ++ ":" ++ bufferLibrary)
        .replaced (inner.setVariable "LD_PRELOAD" (preloaded.getD bufferLibrary)) (word :: words)
          (notStarted view ("failed to run command " ++ quotation word))

/-- Runs a program with a limit of time. -/
def timeout (view : View) (context : Context) : Plan :=
  let table : OptionTable :=
    ⟨"fk:ps:v", [("foreground", 'f'), ("kill-after=", 'k'), ("preserve-status", 'p'),
      ("signal=", 's'), ("verbose", 'v')], true⟩
  let misused (text : String) : Plan := .finished (view.misused 125 text)
  match table.arguments view.arguments with
  | .error error => misused error.message
  | .ok arguments =>
    let signalText := (arguments.value? 's').getD "TERM"
    let bare := if signalText.startsWith "SIG" then (signalText.drop 3).toString else signalText
    let kill? := ((arguments.value? 'k').map duration?).getD (some 0)
    match kill?, Shell.signalOf? bare, arguments.operands with
    | none, _, _ =>
      misused ("invalid time interval " ++ quotation ((arguments.value? 'k').getD ""))
    | _, none, _ => misused (quotation signalText ++ ": invalid signal")
    | some _, some signal, text :: word :: words =>
      match duration? text with
      | none => misused ("invalid time interval " ++ quotation text)
      | some limit =>
        let errors :=
          if arguments.has 'v' then
            view.complaint ("sending signal " ++ Shell.signalName signal ++ " to command " ++
              quotation word)
          else ""
        let late : Option Ending :=
          if signal == 9 then some (.killed 9)
          else if arguments.has 'p' then some (.exited (UInt8.ofNat (128 + signal)))
          else some (.exited 124)
        .limited limit signal errors late context (word :: words)
          (notStarted view ("failed to run command " ++ quotation word))
    | some _, some _, _ => .finished { Outcome.quiet 125 with errors := view.hint }

/-! ## Groups of words -/

/-- A word that is read, and whether it ends its line. -/
structure ReadWord where
  text : String
  endsLine : Bool

/-- Reads words between blanks and line ends, or whole lines if `byLines`. Quotes and backslashes
take the meaning of these away. The complaint about a quote without its partner comes last. -/
def readWords (byLines : Bool) : Nat → List Char → (current : Option (List Char)) →
    List ReadWord × Option String
  | 0, _, _ => ([], none)
  | _, [], none => ([], none)
  | _, [], some cs => ([⟨String.ofList cs.reverse, true⟩], none)
  | n + 1, c :: cs, current =>
    let finish (cs : List Char) (endsLine : Bool) (rest : List Char) :
        List ReadWord × Option String :=
      let (more, complaint) := readWords byLines n rest none
      (⟨String.ofList cs.reverse, endsLine⟩ :: more, complaint)
    let isQuote := c == '\'' || c == '"'
    match current, c with
    | none, '\n' => readWords byLines n cs none
    | some word, '\n' => finish word true cs
    | current, '\\' =>
      match cs with
      | d :: cs => readWords byLines n cs (some (d :: current.getD []))
      | [] => readWords byLines n [] current
    | current, c =>
      if isQuote then
        let inside := cs.takeWhile fun d => d != c && d != '\n'
        match cs.drop inside.length with
        | d :: rest =>
          if d == c then
            readWords byLines n rest (some (inside.reverse ++ current.getD []))
          else ([], some (unmatched c))
        | [] => ([], some (unmatched c))
      else if isBlank c || c == '\x0b' || c == '\x0c' || c == '\r' then
        match current with
        | none => readWords byLines n cs none
        | some word =>
          if byLines || !isBlank c then readWords byLines n cs (some (c :: word))
          else finish word false cs
      else readWords byLines n cs (some (c :: current.getD []))
where
  /-- The complaint about a quote without its partner. -/
  unmatched (quote : Char) : String :=
    "unmatched " ++ (if quote == '"' then "double" else "single") ++
      " quote; by default quotes are special to xargs unless you use the -0 option"

/-- The bounds of a group of words; 0 stands for none. -/
structure GroupBounds where
  words : Nat
  lines : Nat
  /-- The number of characters, with one more for each word, and how many are taken at first. -/
  size : Nat
  used : Nat

/-- The words in groups: `group` is the current one, the last word first, with its number of lines
and its size. -/
def groupsOf (bounds : GroupBounds) : (group : List String) → (lines size : Nat) →
    List ReadWord → List (List String)
  | group, _, _, [] => if group.isEmpty then [] else [group.reverse]
  | group, lines, size, word :: words =>
    let taken := word.text.length + 1
    let isFull := bounds.size > 0 && size + taken > bounds.size && !group.isEmpty
    let (closed, group, lines, size) :=
      if isFull then ([group.reverse], [], 0, bounds.used) else ([], group, lines, size)
    let group := word.text :: group
    let lines := if word.endsLine then lines + 1 else lines
    let isDone := group.length == bounds.words || (bounds.lines > 0 && lines == bounds.lines)
    closed ++
      if isDone then group.reverse :: groupsOf bounds [] 0 bounds.used words
      else groupsOf bounds group lines (size + taken) words

/-- The options of `xargs`. -/
def xargsOptions : OptionTable :=
  { letters := "0a:d:E:e::i::I:L:l::n:P:prs:tx"
    names := [("arg-file=", 'a'), ("delimiter=", 'd'), ("eof==", 'e'), ("exit", 'x'),
      ("interactive", 'p'), ("max-args=", 'n'), ("max-chars=", 's'), ("max-lines==", 'l'),
      ("max-procs=", 'P'), ("no-run-if-empty", 'r'), ("null", '0'), ("replace==", 'i'),
      ("verbose", 't')]
    stopsEarly := true }

/-- Starts a command for groups of words from the input. -/
def xargs (view : View) (context : Context) : Plan :=
  match xargsOptions.arguments view.arguments with
  | .error error => .finished (view.misused 1 error.message)
  | .ok arguments =>
    let isInvalid (c : Char) : Option String :=
      match arguments.value? c with
      | none => none
      | some text =>
        match Shell.naturalOf? text with
        | none => some ("invalid number \"" ++ text ++ "\" for -" ++ String.ofList [c] ++ " option")
        | some 0 =>
          if c == 'P' then none
          else some ("value 0 for -" ++ String.ofList [c] ++ " option should be >= 1")
        | some _ => none
    let amount (c : Char) : Nat := ((arguments.value? c).bind Shell.naturalOf?).getD 0
    match ['n', 'L', 's', 'P'].findSome? isInvalid,
        (arguments.value? 'a').map fun path => (path, view.read path) with
    | some complaint, _ => .finished (view.misused 1 complaint)
    | none, some (path, .error why) =>
      .finished (view.failing 1
        ("Cannot open input file " ++ quotation path ++ ": " ++ why.error.text))
    | none, file? =>
      let text := (file?.bind fun f => f.2.toOption).getD view.input
      let pattern? : Option String :=
        match arguments.last? "Ii" with
        | some 'I' => arguments.value? 'I'
        | some _ =>
          (arguments.value? 'i').map fun text => if text.isEmpty then "\x7b\x7d" else text
        | none => none
      let delimiter? : Option Char :=
        match arguments.last? "0d" with
        | none => none
        | some '0' => some '\x00'
        | some _ =>
          match ((arguments.value? 'd').getD "").toList with
          | '\\' :: cs => some (Escape.loose .utility cs).1
          | c :: _ => some c
          | [] => some '\n'
      let (words, complaint?) : List ReadWord × Option String :=
        match delimiter? with
        | some delimiter => ((partsOf delimiter text).map fun part => ⟨part, true⟩, none)
        | none => readWords pattern?.isSome (2 * text.length + 1) text.toList none
      let words :=
        match arguments.value? 'E' with
        | some ending => if delimiter?.isSome then words
          else words.takeWhile fun (word : ReadWord) => word.text != ending
        | none => words
      let command := if arguments.operands.isEmpty then ["echo"] else arguments.operands
      let used := command.foldl (fun n word => n + word.length + 1) 0
      let lines :=
        match arguments.last? "Ll" with
        | some 'L' => amount 'L'
        | some _ =>
          (((arguments.value? 'l').bind Shell.naturalOf?).getD 1)
        | none => 0
      let commands : List (List String) :=
        match pattern? with
        | some pattern =>
          words.map fun word =>
            command.take 1 ++ (command.drop 1).map fun part =>
              word.text.intercalate (part.splitOn pattern)
        | none =>
          let groups := groupsOf ⟨amount 'n', lines, amount 's', used⟩ [] 0 used words
          let groups :=
            if groups.isEmpty && !arguments.has 'r' && complaint?.isNone then [[]] else groups
          let groups :=
            if complaint?.isSome && (groups.getLastD []).length != amount 'n' then groups.dropLast
            else groups
          groups.map fun group => command ++ group
      let clash := pattern?.isSome &&
        (arguments.last? "nIi") != some 'n' && arguments.has 'n'
      let warning := if clash then view.complaint ("warning: options --max-args and " ++
        "--replace/-I/-i are mutually exclusive, ignoring previous --max-args value") else ""
      let errors := warning ++ ((complaint?.map view.complaint).getD "")
      let inner := { context with descriptors := context.descriptors.assign 0 .nothing }
      .repeated (arguments.has 't' || arguments.has 'p') errors complaint?.isSome
        (if file?.isSome then context else inner) commands

end PointerTagging.Host.Tool
