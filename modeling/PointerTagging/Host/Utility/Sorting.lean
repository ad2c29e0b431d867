import PointerTagging.Host.Utility.Order
import PointerTagging.Host.Utility.Streams
/-!
# Sorting

The utility that sorts or merges lines, or tells whether they are in order.
-/

namespace PointerTagging.Host.Tool

open Text

/-- A key as it is written: letters say how it is compared. -/
structure KeyDraft where
  /-- The limit in front of the key; without it the key is the whole line. -/
  first : Option (Nat × Nat)
  last : Option (Nat × Nat)
  /-- Blanks in front of the first and of the last field do not count. -/
  skipsBlanks : Bool × Bool
  letters : List Char
  deriving Repr

namespace KeyDraft

/-- The key that is a whole line. -/
def whole (letters : List Char) : KeyDraft :=
  ⟨none, none, (letters.contains 'b', letters.contains 'b'), letters.filter (· != 'b')⟩

/-- True of a key that says nothing about its order. -/
def isPlain (key : KeyDraft) : Bool :=
  key.letters.isEmpty && key.skipsBlanks == (false, false)

/-- The key, with the letters of all lines if it has none of its own. -/
def inherit (key : KeyDraft) (letters : List Char) : KeyDraft :=
  if key.isPlain then { key with
    skipsBlanks := (letters.contains 'b', letters.contains 'b')
    letters := letters.filter (· != 'b') }
  else key

/-- The letters of a key that cannot be there together, if there are some. -/
def conflict? (key : KeyDraft) : Option String :=
  let has (c : Char) : Bool := key.letters.contains c
  let count (test : Bool) : Nat := if test then 1 else 0
  let kinds := count (has 'n') + count (has 'g') + count (has 'h') + count (has 'M') +
    count (has 'V' || has 'R' || has 'd' || has 'i')
  let shown := "dfghiMnRV".toList.filter fun c => has c && !(c == 'i' && has 'd')
  if kinds > 1 then some (String.ofList shown) else none

/-- The order that a letter asks for. -/
def orderOf? (c : Char) : Option KeyOrder :=
  match c with
  | 'n' => some .numeric
  | 'g' => some .floating
  | 'h' => some .amount
  | 'M' => some .month
  | 'V' => some .version
  | _ => none

/-- The key that is meant. -/
def key (draft : KeyDraft) : SortKey :=
  let has (c : Char) : Bool := draft.letters.contains c
  let first := draft.first.getD (0, 0)
  { first := ⟨first.1, first.2, draft.skipsBlanks.1⟩
    last := draft.last.map fun limit => ⟨limit.1, limit.2, draft.skipsBlanks.2⟩
    order := (draft.letters.findSome? orderOf?).getD .text
    onlyWords := has 'd'
    ignoresCase := has 'f'
    onlyPrinted := has 'i' && !has 'd'
    isReversed := has 'r' }

/-- The letters that say something about the order of a key. -/
def orderLetters : List Char := "bdfghiMnRrV".toList

/-- A number at the start of a text, and what follows; a complaint if there is none. -/
def number (what : String) (cs : List Char) : Except String (Nat × List Char) :=
  let digits := cs.takeWhile Char.isDigit
  match if digits.isEmpty then none else Numeral.valueFrom 10 0 digits with
  | some n => .ok (n, cs.drop digits.length)
  | none =>
    .error (what ++ ": invalid count at start of " ++ quotation (String.ofList cs))

/-- A field and a character behind a point, which may be missing, and what follows. -/
def limit (what : String) (cs : List Char) : Except String (Nat × Option Nat × List Char) := do
  let (field, rest) ← number what cs
  match rest with
  | '.' :: rest =>
    let (character, rest) ← number "invalid number after '.'" rest
    return (field, some character, rest)
  | rest => return (field, none, rest)

/-- The complaint about a text that says no key. -/
def refusal (what text : String) : String :=
  what ++ ": invalid field specification " ++ quotation text

/-- The key that a text says. Fields and characters are counted from 1 there. -/
def ofText (text : String) : Except String KeyDraft := do
  let (field, character, rest) ← limit "invalid number at field start" text.toList
  if field == 0 then throw (refusal "field number is zero" text)
  if character == some 0 then throw (refusal "character offset is zero" text)
  let letters := rest.takeWhile orderLetters.contains
  let (last, more, rest) ←
    match rest.drop letters.length with
    | ',' :: cs =>
      let (field, character, rest) ← limit "invalid number after ','" cs
      if field == 0 then throw (refusal "field number is zero" text)
      let more := rest.takeWhile orderLetters.contains
      pure (some (field - 1, character.getD 0), more, rest.drop more.length)
    | rest => pure (none, [], rest)
  if !rest.isEmpty then throw (refusal "stray character in field spec" text)
  return { first := some (field - 1, character.getD 1 - 1)
           last
           skipsBlanks := (letters.contains 'b', more.contains 'b')
           letters := (letters ++ more).filter (· != 'b') }

/-- The key that two positions say, behind a plus and a minus; the second one may be missing. Fields
and characters are counted from 0 there. -/
def ofPositions (start : String) (stop : Option String) : Except String KeyDraft := do
  let (field, character, letters) ← limit "invalid number after '+'" (start.toList.drop 1)
  let (last, more) ←
    match stop with
    | none => pure (none, [])
    | some stop =>
      let (field, character, more) ← limit "invalid number after '-'" (stop.toList.drop 1)
      if !more.all orderLetters.contains then
        throw (refusal "stray character in field spec" stop)
      let isWhole := character.getD 0 == 0
      pure (some (if isWhole then field - 1 else field, character.getD 0), more)
  return { first := some (field, character.getD 0)
           last
           skipsBlanks := (letters.contains 'b', more.contains 'b')
           letters := (letters ++ more).filter (· != 'b') }

/-- True of a word that is a position behind a plus. -/
def isPosition (word : String) : Bool :=
  match word.toList with
  | '+' :: cs =>
    match limit "" cs with
    | .ok (_, _, letters) => letters.all orderLetters.contains
    | .error _ => false
  | _ => false

end KeyDraft

/-- The name of the option that stands for keys that positions say. -/
def positionName : String := "\x02"

/-- Words with the positions among them written as options. -/
def withoutPositions : List String → List String
  | [] => []
  | word :: rest =>
    if word == "--" then word :: rest
    else if KeyDraft.isPosition word then
      let option := "--" ++ positionName ++ "=" ++ word
      match rest with
      | [] => [option]
      | next :: others =>
        match next.toList with
        | '-' :: c :: _ =>
          if c.isDigit then (option ++ " " ++ next) :: withoutPositions others
          else option :: withoutPositions (next :: others)
        | _ => option :: withoutPositions (next :: others)
    else word :: withoutPositions rest
termination_by words => words.length

/-- The options of `sort`. -/
def sortOptions : OptionTable :=
  { letters := "bcCdfghik:mMno:rRsS:t:T:uVy:z"
    names := [("ignore-leading-blanks", 'b'), ("check==", '?'), ("compress-program=", '\x08'),
      ("dictionary-order", 'd'), ("ignore-case", 'f'), ("files0-from=", '0'),
      ("general-numeric-sort", 'g'), ("ignore-nonprinting", 'i'), ("key=", 'k'), ("merge", 'm'),
      ("month-sort", 'M'), ("numeric-sort", 'n'), ("human-numeric-sort", 'h'),
      ("version-sort", 'V'), ("random-sort", 'R'), ("random-source=", '\x06'), ("sort=", '='),
      ("output=", 'o'), ("reverse", 'r'), ("stable", 's'), ("batch-size=", '\x07'),
      ("buffer-size=", '\x05'), ("field-separator=", 't'), ("temporary-directory=", 'T'),
      ("unique", 'u'), ("zero-terminated", 'z'), ("parallel=", 'p'),
      (positionName ++ "=", '\x02')]
    stopsEarly := false }

/-- What is asked of `sort`. -/
structure SortRequest where
  keys : List KeyDraft
  /-- The letters that say something about the order of all lines. -/
  letters : List Char
  tab : Option Char
  /-- The order is only checked: with a complaint if the letter is a `c`. -/
  check : Option Char
  target : Option String
  /-- The file with the names of the files to read. -/
  list : Option String
  compressor : Option String
  isStable : Bool
  isUnique : Bool
  merges : Bool
  isZeroEnded : Bool

namespace SortRequest

/-- The words for orders. -/
def orderWords : List (List String × Char) :=
  [(["general-numeric"], 'g'), (["human-numeric"], 'h'), (["month"], 'M'), (["numeric"], 'n'),
    (["random"], 'R'), (["version"], 'V')]

/-- The words for checks. -/
def checkWords : List (List String × Char) :=
  [(["quiet", "silent"], 'C'), (["diagnose-first"], 'c')]

/-- What is wrong with the value of an option that is a number, if something is; `units` may stand
behind it. -/
def numberError? (option units value : String) : Option String :=
  let (digits, unit) := value.toList.span Char.isDigit
  if digits.isEmpty then some ("invalid " ++ option ++ " argument " ++ quotation value)
  else
    match unit with
    | [] => none
    | [c] =>
      if units.contains c then none
      else some ("invalid suffix in " ++ option ++ " argument " ++ quotation value)
    | _ => some ("invalid suffix in " ++ option ++ " argument " ++ quotation value)

/-- The units of amounts of memory. -/
def memoryUnits : String := "EgGkKmMPtTYZb%"

/-- The request with a check. -/
def withCheck (request : SortRequest) (letter : Char) : Except String SortRequest :=
  if request.check.any (· != letter) then .error "options '-cC' are incompatible"
  else .ok { request with check := some letter }

/-- The request with a file to write to. -/
def withTarget (request : SortRequest) (path : String) : Except String SortRequest :=
  if request.target.any (· != path) then .error "multiple output files specified"
  else .ok { request with target := some path }

/-- The request with a character between fields. -/
def withTab (request : SortRequest) (value : String) : Except String SortRequest := do
  let tab ←
    match value.toList with
    | [] => throw "empty tab"
    | [c] => pure c
    | ['\\', '0'] => pure '\x00'
    | _ => throw ("multi-character tab " ++ quotation value)
  if request.tab.any (· != tab) then throw "incompatible tabs"
  return { request with tab := some tab }

/-- The request with a key. -/
def withKey (request : SortRequest) (key : KeyDraft) : SortRequest :=
  { request with keys := request.keys ++ [key] }

/-- The request with one more option that says nothing wrong by itself, or what is wrong. -/
def withSetting (request : SortRequest) (letter : Char) (value : String) :
    Except String SortRequest := do
  let expect (complaint : Option String) : Except String SortRequest :=
    complaint.elim (.ok request) .error
  match letter with
  | 'c' => request.withCheck 'c'
  | 'C' => request.withCheck 'C'
  | 'o' => request.withTarget value
  | 't' => request.withTab value
  | 'k' => return request.withKey (← KeyDraft.ofText value)
  | '\x02' =>
    let words := value.splitOn " "
    return request.withKey (← KeyDraft.ofPositions (words.headD "") words[1]?)
  | 'm' => return { request with merges := true }
  | 's' => return { request with isStable := true }
  | 'u' => return { request with isUnique := true }
  | 'z' => return { request with isZeroEnded := true }
  | '0' => return { request with list := some value }
  | 'S' => expect (numberError? "-S" memoryUnits value)
  | '\x05' => expect (numberError? "--buffer-size" memoryUnits value)
  | 'p' =>
    let isZero := !value.isEmpty && value.toList.all (· == '0')
    if isZero then throw "number in parallel must be nonzero"
    expect (numberError? "--parallel" "" value)
  | '\x07' =>
    expect (numberError? "--batch-size" "" value)
  | '\x08' =>
    if request.compressor.any (· != value) then throw "multiple compress programs specified"
    return { request with compressor := some value }
  | letter =>
    if KeyDraft.orderLetters.contains letter then
      return { request with letters := request.letters ++ [letter] }
    else return request

/-- The request with one more option. -/
def withOption (view : View) (request : SortRequest) (letter : Char) (value : String) :
    Except Outcome SortRequest := do
  let set (letter : Char) : Except Outcome SortRequest :=
    (request.withSetting letter value).mapError (view.failing 2)
  match letter with
  | '=' => set (← view.choose "sort" orderWords value)
  | '\x07' =>
    if ["0", "1"].contains value then
      throw ((view.failing 2 ("invalid --batch-size argument " ++ quotation value)).complaining 2
        (view.complaint "minimum --batch-size argument is '2'"))
    set '\x07'
  | '?' => if value.isEmpty then set 'c' else set (← view.choose "check" checkWords value)
  | letter => set letter

/-- The keys to compare, those of the whole line if there are no others. -/
def allKeys (request : SortRequest) : List KeyDraft :=
  let whole := KeyDraft.whole request.letters
  let isNeeded := request.letters.any (· != 'r')
  if request.keys.isEmpty then (if isNeeded then [whole] else [])
  else request.keys.map (·.inherit request.letters)

/-- How lines are sorted. -/
def sorting (request : SortRequest) : Sorting :=
  { keys := request.allKeys.map KeyDraft.key
    tab := request.tab
    isReversed := request.letters.contains 'r'
    isStable := request.isStable
    isUnique := request.isUnique }

/-- The lines of a text. -/
def linesIn (request : SortRequest) (text : String) : List String :=
  partsOf (if request.isZeroEnded then '\x00' else '\n') text

end SortRequest

/-- Tells whether the lines of a file are in order. -/
def checkOrder (view : View) (request : SortRequest) (letter : Char) (path : String) : Outcome :=
  match view.read path with
  | .error why =>
    let what := if why.isOpen then "read failed: " else "open failed: "
    view.failing 2 (what ++ View.plainly path why)
  | .ok text =>
    match request.sorting.disorder? 1 (request.linesIn text) with
    | none => .quiet 0
    | some (number, line) =>
      if letter == 'c' then
        view.failing 1 (path ++ ":" ++ toString number ++ ": disorder: " ++ line)
      else .quiet 1

/-- Sorts the lines of files. -/
def sortFiles (view : View) (request : SortRequest) (paths : List String) : Outcome :=
  let missing (path : String) : Option Outcome :=
    match view.read path with
    | .error ⟨false, error⟩ =>
      some (view.failing 2 ("cannot read: " ++ View.plainly path ⟨false, error⟩))
    | _ => none
  let unreadable (path : String) : Option Outcome :=
    match view.read path with
    | .error why => some (view.failing 2 ("read failed: " ++ View.plainly path why))
    | .ok _ => none
  let word (path : String) (error : SystemError) : String :=
    "open failed: " ++ Quoting.name path ++ ": " ++ error.text
  let opened (path : String) : Option Outcome :=
    match view.tree.spot view.place path with
    | .ok ⟨_, some .directory⟩ => some (view.failing 2 (word path .isADirectory))
    | .ok _ => none
    | .error error => some (view.failing 2 (word path error))
  let refusals :=
    [paths.findSome? missing, request.target.bind opened, paths.findSome? unreadable]
  match refusals.findSome? (fun refusal => refusal) with
  | some outcome => outcome
  | none =>
    let texts := paths.map fun path => request.linesIn ((view.read path).toOption.getD "")
    let lines :=
      if request.merges then request.sorting.merge texts else request.sorting.apply texts.flatten
    let ending := if request.isZeroEnded then '\x00' else '\n'
    let output := String.join (lines.map (·.push ending))
    match request.target with
    | none => .printing output
    | some path => writeTo view 2 path output false (word path) (.quiet 0)

/-- The files that `sort` reads, or what is wrong with their names. -/
def sortPaths (view : View) (request : SortRequest) (operands : List String) :
    Except Outcome (List String) :=
  match request.list, operands with
  | none, operands => .ok (View.sources operands)
  | some _, extra :: _ =>
    .error { Outcome.quiet 2 with
      errors := view.complaint ("extra operand " ++ Quoting.always extra) ++
        "file operands cannot be combined with --files0-from\n" ++ view.hint }
  | some source, [] =>
    match view.read source with
    | .error why =>
      .error (view.failing 2
        (if why.isOpen then "cannot read file names from " ++ Quoting.always source
        else "open failed: " ++ View.plainly source why))
    | .ok text =>
      let names := View.namesInList source text
      if names.isEmpty then .error (view.failing 2 ("no input from " ++ Quoting.always source))
      else
        let check (name : Except String String) : Except String String := do
          let name ← name
          if name == "-" then
            throw ("when reading file names from stdin, no file name of " ++ Quoting.always name ++
              " allowed")
          return name
        (names.mapM check).mapError (view.failing 2)

/-- Sorts lines. -/
def sort (view : View) : Outcome :=
  let view := { view with arguments := withoutPositions view.arguments }
  view.withOptions 2 sortOptions fun arguments =>
    let start : SortRequest :=
      ⟨[], [], none, none, none, none, none, false, false, false, false⟩
    let outcome : Except Outcome Outcome := do
      let request ← arguments.options.foldlM (fun r o => r.withOption view o.1 o.2) start
      let paths ← sortPaths view request arguments.operands
      if let some letters := request.allKeys.findSome? KeyDraft.conflict? then
        throw (view.failing 2 ("options '-" ++ letters ++ "' are incompatible"))
      let drains := paths.contains "-"
      match request.check, paths with
      | some letter, [path] =>
        if request.target.isSome then
          throw (view.failing 2
            ("options '-" ++ String.ofList [letter] ++ "o' are incompatible"))
        return { checkOrder view request letter path with drains }
      | some letter, _ :: extra :: _ =>
        throw (view.failing 2 ("extra operand " ++ Quoting.always extra ++
          " not allowed with -" ++ String.ofList [letter]))
      | _, paths => return { sortFiles view request paths with drains }
    match outcome with
    | .ok outcome => outcome
    | .error outcome => outcome

end PointerTagging.Host.Tool
