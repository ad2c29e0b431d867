import PointerTagging.Host.Utility.Options
/-!
# Columns of texts

The utilities that take fields out of lines, and those that put the lines of several texts side by
side.
-/

namespace PointerTagging.Host.Tool

open Text

/-! ## Ranges -/

/-- Numbers from one to another. -/
structure Range where
  low : Nat
  high : Nat
  deriving DecidableEq, Repr

/-- The end of a range that has none. -/
def Range.unbounded : Nat := UInt64.size

/-- Why a list of ranges is refused. -/
inductive RangeError where
  | zero
  | decreasing
  | withoutEnds
  | malformed
  | notANumber (text : String)
  deriving DecidableEq, Repr

/-- The text of the error; what is numbered are fields or else bytes. -/
def RangeError.message (ofFields : Bool) : RangeError → String
  | .zero =>
    (if ofFields then "fields" else "byte/character positions") ++ " are numbered from 1"
  | .decreasing => "invalid decreasing range"
  | .withoutEnds => "invalid range with no endpoint: -"
  | .malformed => if ofFields then "invalid field range" else "invalid byte or character range"
  | .notANumber text =>
    (if ofFields then "invalid field value '" else "invalid byte/character position '") ++ text ++
      "'"

/-- The number at an end of a range; `usual` if nothing is written. -/
def Range.limit (usual : Nat) (text : String) : Except RangeError Nat :=
  if text.isEmpty then .ok usual
  else
    let isDigits := text.toList.all Char.isDigit
    match if isDigits then Numeral.valueFrom 10 0 text.toList else none with
    | some 0 => .error .zero
    | some n => .ok n
    | none => .error (.notANumber (String.ofList (text.toList.dropWhile Char.isDigit)))

/-- The range that a text says. -/
def Range.ofText (text : String) : Except RangeError Range := do
  match text.splitOn "-" with
  | [n] =>
    if n.isEmpty then throw .zero
    let n ← limit 1 n
    return ⟨n, n⟩
  | ["", ""] => throw .withoutEnds
  | [low, high] =>
    let range : Range := ⟨← limit 1 low, ← limit unbounded high⟩
    if range.high < range.low then throw .decreasing
    return range
  | _ => throw .malformed

/-- Ranges in their order, those that overlap as one. -/
def Range.join : List Range → List Range
  | [] => []
  | range :: ranges =>
    match join ranges with
    | [] => [range]
    | next :: rest =>
      if next.low ≤ range.high then ⟨range.low, max range.high next.high⟩ :: rest
      else range :: next :: rest

/-- The numbers from `low` on that are in none of some ranges. -/
def Range.complement (low : Nat) : List Range → List Range
  | [] => [⟨low, unbounded⟩]
  | range :: ranges =>
    let rest := complement (range.high + 1) ranges
    if low < range.low then ⟨low, range.low - 1⟩ :: rest else rest

/-- The ranges that a list says. -/
def Range.list (text : String) : Except RangeError (List Range) := do
  let words := (text.split fun c : Char => c == ',' || isBlank c).toList.map (·.toString)
  let ranges ← words.mapM ofText
  return join (ranges.mergeSort fun a b => a.low ≤ b.low)

/-! ## Cutting -/

/-- How lines are cut. -/
structure Cut where
  ranges : List Range
  ofFields : Bool
  delimiter : String
  /-- What stands between the parts; for parts of bytes it may be nothing. -/
  joint : Option String
  /-- Lines without a delimiter are dropped. -/
  isStrict : Bool

/-- The parts of a row that the ranges contain, each with the sign that it begins a range. -/
def Cut.chosen {α : Type} (cut : Cut) (row : List α) : List (α × Bool) :=
  (row.zipIdx 1).filterMap fun (x, n) =>
    match cut.ranges.find? fun range => range.low ≤ n && n ≤ range.high with
    | some range => some (x, range.low == n)
    | none => none

/-- What is left of a line. -/
def Cut.line (cut : Cut) (line : String) : List String :=
  if cut.ofFields then
    let fields := line.splitOn cut.delimiter
    if fields.length > 1 then
      [(cut.joint.getD cut.delimiter).intercalate ((cut.chosen fields).map (·.1))]
    else if cut.isStrict then []
    else [line]
  else
    let chosen := cut.chosen line.toList
    let pieces := chosen.zipIdx.map fun ((c, begins), n) =>
      (if begins && n > 0 then cut.joint.getD "" else "") ++ String.ofList [c]
    [String.join pieces]

/-- The options of `cut`. -/
def cutOptions : OptionTable :=
  { letters := "b:c:d:f:nsz"
    names := [("bytes=", 'b'), ("characters=", 'c'), ("complement", '^'), ("delimiter=", 'd'),
      ("fields=", 'f'), ("only-delimited", 's'), ("output-delimiter=", 'o'),
      ("zero-terminated", 'z')]
    stopsEarly := false }

/-- Cuts parts out of lines. -/
def cut (view : View) : Outcome :=
  view.withOptions 1 cutOptions fun arguments =>
    let lists := arguments.options.filter fun o => "bcf".contains o.1
    let delimiter := (arguments.value? 'd').getD "\t"
    match lists with
    | [] => view.misused 1 "you must specify a list of bytes, characters, or fields"
    | _ :: _ :: _ => view.misused 1 "only one list may be specified"
    | [(letter, text)] =>
      let ofFields := letter == 'f'
      match Range.list text with
      | .error error => view.misused 1 (error.message ofFields)
      | .ok ranges =>
        if delimiter.length > 1 then
          view.misused 1 "the delimiter must be a single character"
        else if !ofFields && arguments.has 'd' then
          view.misused 1 "an input delimiter may be specified only when operating on fields"
        else if !ofFields && arguments.has 's' then
          view.misused 1
            "suppressing non-delimited lines makes sense\n\tonly when operating on fields"
        else
          let cut : Cut :=
            { ranges := if arguments.has '^' then Range.complement 1 ranges else ranges
              ofFields
              delimiter := if delimiter.isEmpty then "\x00" else delimiter
              joint := arguments.value? 'o'
              isStrict := arguments.has 's' }
          let ending := if arguments.has 'z' then '\x00' else '\n'
          view.filtering arguments.operands fun texts =>
            String.join ((texts.flatMap fun t => (partsOf ending t.2).flatMap cut.line).map
              (·.push ending))

/-! ## Pasting -/

/-- The delimiters that a list says; an escape may stand for none. There are none if the list ends in
the middle of an escape. -/
def pasteDelimiters? : List Char → Option (List String)
  | [] => some []
  | ['\\'] => none
  | '\\' :: c :: cs =>
    let text :=
      match c with
      | '0' => ""
      | 'n' => "\n"
      | 't' => "\t"
      | 'b' => "\x08"
      | 'f' => "\x0c"
      | 'r' => "\r"
      | 'v' => "\x0b"
      | c => String.ofList [c]
    (pasteDelimiters? cs).map (text :: ·)
  | c :: cs => (pasteDelimiters? cs).map (String.ofList [c] :: ·)

/-- The delimiter number `n` of a list that is used round and round. -/
def cycled (delimiters : List String) (n : Nat) : String :=
  (delimiters[n % delimiters.length]?).getD ""

/-- Texts with the delimiters between them. -/
def joinCycled (delimiters texts : List String) : String :=
  match texts with
  | [] => ""
  | first :: rest =>
    first ++ String.join (rest.zipIdx.map fun (text, n) => cycled delimiters n ++ text)

/-- Takes a line from each of several sources, which have numbers; a source may be there more than
once. What is left of the lines of each is given, too. -/
def takeRow (left : List (Nat × List String)) : List Nat →
    List (Option String) × List (Nat × List String)
  | [] => ([], left)
  | source :: sources =>
    match (left.find? fun l => l.1 == source).map (·.2) with
    | some (line :: lines) =>
      let left := left.map fun l => if l.1 == source then (source, lines) else l
      let (row, left) := takeRow left sources
      (some line :: row, left)
    | _ =>
      let (row, left) := takeRow left sources
      (none :: row, left)

/-- Lines of several sources side by side. -/
def pasteRows (delimiters : List String) (sources : List Nat) :
    Nat → List (Nat × List String) → List String
  | 0, _ => []
  | n + 1, left =>
    let (row, left) := takeRow left sources
    if row.all Option.isNone then []
    else joinCycled delimiters (row.map (·.getD "")) :: pasteRows delimiters sources n left

/-- The options of `paste`. -/
def pasteOptions : OptionTable :=
  { letters := "d:sz"
    names := [("delimiters=", 'd'), ("serial", 's'), ("zero-terminated", 'z')]
    stopsEarly := false }

/-- Puts the lines of each text one behind the other. -/
def pasteSerially (view : View) (ending : Char) (delimiters paths : List String) : Outcome :=
  let row (lines : List String) : String := (joinCycled delimiters lines).push ending
  let one (outcome : Outcome) (path : String) : Outcome :=
    match view.read path with
    | .ok text =>
      let text := if path == "-" && outcome.drains then "" else text
      { outcome.print (row (partsOf ending text)) with
        drains := outcome.drains || path == "-" }
    | .error why =>
      let outcome := if why.isOpen then outcome.print (row []) else outcome
      outcome.complaining 1 (view.complaint (View.plainly path why))
  paths.foldl one (.quiet 0)

/-- Puts the lines of several texts side by side. -/
def pasteTogether (view : View) (ending : Char) (delimiters paths : List String) : Outcome :=
  let reads := paths.zipIdx.map fun (path, n) =>
    (if path == "-" then 0 else n + 1, path, view.read path)
  let isMissing (read : Nat × String × Except Unreadable String) : Bool :=
    match read.2.2 with
    | .error why => !why.isOpen
    | .ok _ => false
  let complaint (read : Nat × String × Except Unreadable String) : Option String :=
    match read.2.2 with
    | .error why => some (View.plainly read.2.1 why)
    | .ok _ => none
  match (reads.find? isMissing).bind complaint with
  | some text => view.failing 1 text
  | none =>
    let lines := reads.map fun read => (read.1, partsOf ending (read.2.2.toOption.getD ""))
    let left := (lines.filter (·.1 != 0)) ++ (lines.filter (·.1 == 0)).take 1
    let room := lines.foldl (fun n l => n + l.2.length) 1
    let rows := pasteRows delimiters (reads.map (·.1)) room left
    let complaints := reads.filterMap complaint
    { Outcome.printing (String.join (rows.map (·.push ending))) with
      errors := String.join (complaints.map view.complaint)
      code := if complaints.isEmpty then 0 else 1 }

/-- Puts lines side by side. -/
def paste (view : View) : Outcome :=
  view.withOptions 1 pasteOptions fun arguments =>
    let paths := View.sources arguments.operands
    let list := (arguments.value? 'd').getD "\t"
    match pasteDelimiters? list.toList with
    | none =>
      view.failing 1 ("delimiter list ends with an unescaped backslash: " ++ list)
    | some delimiters =>
      let delimiters := if delimiters.isEmpty then [""] else delimiters
      let ending := if arguments.has 'z' then '\x00' else '\n'
      let outcome :=
        if arguments.has 's' then pasteSerially view ending delimiters paths
        else pasteTogether view ending delimiters paths
      { outcome with drains := paths.contains "-" }

end PointerTagging.Host.Tool
