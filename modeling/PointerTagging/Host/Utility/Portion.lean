import PointerTagging.Host.Floating
import PointerTagging.Host.Utility.Options
/-!
# Portions of texts

The utilities that print the start or the end of texts. The one that prints the start leaves the
rest of the standard input to the programs that come next, if it can.
-/

namespace PointerTagging.Host.Tool

open Text

/-- What is printed of texts. -/
structure Portion where
  /-- The parts that are counted are lines, otherwise characters. -/
  ofLines : Bool
  /-- The character that ends lines. -/
  ending : Char
  amount : Nat
  /-- All parts but so many are printed. -/
  isAllBut : Bool
  /-- What is printed begins with the part of that number. -/
  isFromStart : Bool
  /-- Whether names stand above the texts; without a choice they do if there are several. -/
  hasNames : Option Bool
  warnings : List String
  /-- Texts are followed as they grow. -/
  follows : Bool
  retries : Bool
  hasProcess : Bool

namespace Portion

/-- What is printed if nothing else is asked for. -/
def usual : Portion :=
  { ofLines := true, ending := '\n', amount := 10, isAllBut := false, isFromStart := false
    hasNames := none, warnings := [], follows := false, retries := false, hasProcess := false }

/-- What the parts are called. -/
def partName (portion : Portion) : String := if portion.ofLines then "lines" else "bytes"

/-- The portion with an amount that a text says. -/
def withAmount (view : View) (portion : Portion) (text : String) : Except Outcome Portion := do
  let what := "invalid number of " ++ portion.partName
  let amount ← (boundedAmount what "bkKmMGTPEZY0" 0 (UInt64.size - 1) text).mapError
    (view.failing 1)
  return { portion with amount }

/-- The parts of a text. -/
def split (portion : Portion) (text : String) : List String :=
  if !portion.ofLines then text.toList.map fun c => String.ofList [c]
  else
    let mark := String.ofList [portion.ending]
    let close (line : String) : String := line ++ mark
    let parts := partsOf portion.ending text
    if text.isEmpty || text.endsWith mark then parts.map close
    else parts.dropLast.map close ++ [parts.getLastD ""]

/-- The line above a text. -/
def title (portion : Portion) (count : Nat) (outcome : Outcome) (path : String) : String :=
  let name := if path == "-" then "standard input" else path
  if portion.hasNames.getD (count > 1) then
    (if outcome.output.isEmpty then "" else "\n") ++ "==> " ++ name ++ " <==\n"
  else ""

/-- Prints a portion of each file. `cut` divides the parts of a text into those that are printed and
those that are left behind; `leave` says what is left of the standard input. -/
def print (portion : Portion) (view : View) (paths : List String)
    (cut : List String → List String × List String)
    (leave : (text left : String) → String) : Outcome :=
  let one (state : Outcome × String) (path : String) : Outcome × String :=
    let (outcome, input) := state
    let title := portion.title paths.length outcome path
    let reading := if path == "-" then .ok input else view.read path
    let isIdle := portion.amount == 0 && !portion.isFromStart && !portion.isAllBut
    match reading with
    | .ok text =>
      let (shown, left) := cut (portion.split text)
      let outcome := outcome.print (title ++ String.join shown)
      (outcome, if path == "-" then leave text (String.join left) else input)
    | .error ⟨false, error⟩ =>
      (outcome.complaining 1 (view.complaint
        ("cannot open " ++ Quoting.always path ++ " for reading: " ++ error.text)), input)
    | .error ⟨true, error⟩ =>
      let outcome := outcome.print title
      if isIdle then (outcome, input)
      else
        (outcome.complaining 1 (view.complaint
          ("error reading " ++ Quoting.always path ++ ": " ++ error.text)), input)
  let warnings := String.join (portion.warnings.map view.complaint)
  let (outcome, input) := paths.foldl one ({ Outcome.quiet 0 with errors := warnings }, view.input)
  { outcome with drains := paths.contains "-", left := input }

end Portion

/-! ## The start -/

/-- The options of `head`. -/
def headOptions : OptionTable :=
  { letters := "c:n:qvz0123456789"
    names := [("bytes=", 'c'), ("lines=", 'n'), ("-presume-input-pipe", 'p'), ("quiet", 'q'),
      ("silent", 'q'), ("verbose", 'v'), ("zero-terminated", 'z')]
    stopsEarly := false }

/-- The portion that an option of `head` asks for. -/
def headOption (view : View) (portion : Portion) (letter : Char) (value : String) :
    Except Outcome Portion := do
  let amount (ofLines : Bool) : Except Outcome Portion :=
    let isAllBut := value.startsWith "-"
    let digits := if isAllBut then (value.drop 1).toString else value
    { portion with ofLines, isAllBut }.withAmount view digits
  match letter with
  | 'c' => amount false
  | 'n' => amount true
  | 'q' => return { portion with hasNames := some false }
  | 'v' => return { portion with hasNames := some true }
  | 'z' => return { portion with ending := '\x00' }
  | letter =>
    if letter.isDigit then
      throw (view.misused 1 ("invalid trailing option -- " ++ String.ofList [letter]))
    return portion

/-- The portion that letters behind digits ask for, and the unit of the number. -/
def headLetters (view : View) (portion : Portion) : (unit : List Char) → List Char →
    Except Outcome (Portion × List Char)
  | unit, [] => .ok (portion, unit)
  | unit, c :: cs =>
    if c == 'c' then headLetters view { portion with ofLines := false } [] cs
    else if c == 'b' || c == 'k' || c == 'm' then
      headLetters view { portion with ofLines := false } [c] cs
    else if c == 'l' then headLetters view { portion with ofLines := true } unit cs
    else if c == 'q' || c == 'v' then
      headLetters view { portion with hasNames := some (c == 'v') } unit cs
    else if c == 'z' then headLetters view { portion with ending := '\x00' } unit cs
    else .error (view.misused 1 ("invalid trailing option -- " ++ String.ofList [c]))

/-- The portion that a first argument of digits and letters asks for, if it is one. -/
def headShorthand (view : View) : Except Outcome (Portion × List String) := do
  match view.arguments with
  | [] => return (.usual, [])
  | word :: rest =>
    match word.toList with
    | '-' :: cs =>
      let (digits, letters) := cs.span Char.isDigit
      if digits.isEmpty then return (.usual, word :: rest)
      let (portion, unit) ← headLetters view .usual [] letters
      return (← portion.withAmount view (String.ofList (digits ++ unit)), rest)
    | _ => return (.usual, word :: rest)

/-- Prints the start of texts, or all but their end. -/
def head (view : View) : Outcome :=
  match headShorthand view with
  | .error outcome => outcome
  | .ok (start, words) =>
    let view := { view with arguments := words }
    view.withOptions 1 headOptions fun arguments =>
      match arguments.options.foldlM (fun p o => headOption view p o.1 o.2) start with
      | .error outcome => outcome
      | .ok portion =>
        let cut (parts : List String) : List String × List String :=
          parts.splitAt
            (if portion.isAllBut then parts.length - portion.amount else portion.amount)
        let leave (text left : String) : String :=
          -- what has been read too early is lost unless the input is a file
          let isExact := !portion.ofLines && !portion.isAllBut
          if view.hasFileInput || isExact then left
          else if portion.amount == 0 && !portion.isAllBut then text
          else ""
        portion.print view (View.sources arguments.operands) cut leave

/-! ## The end -/

/-- The options of `tail`. -/
def tailOptions : OptionTable :=
  { letters := "c:n:fFqs:vz0123456789"
    names := [("bytes=", 'c'), ("follow==", '='), ("lines=", 'n'),
      ("max-unchanged-stats=", 'm'), ("-disable-inotify", 'd'), ("pid=", 'p'),
      ("-presume-input-pipe", 'i'), ("quiet", 'q'), ("retry", 'r'), ("silent", 'q'),
      ("sleep-interval=", 's'), ("verbose", 'v'), ("zero-terminated", 'z')]
    stopsEarly := false }

/-- The words for ways to follow texts; the word says nothing about what is printed. -/
def followWords : List (List String × Bool) := [(["descriptor"], true), (["name"], true)]

/-- The portion that an option of `tail` asks for. -/
def tailOption (view : View) (portion : Portion) (letter : Char) (value : String) :
    Except Outcome Portion := do
  let amount (ofLines : Bool) : Except Outcome Portion :=
    let isFromStart := portion.isFromStart || value.startsWith "+"
    let digits := if value.startsWith "-" then (value.drop 1).toString else value
    match { portion with ofLines, isFromStart }.withAmount view digits with
    | .ok portion => .ok portion
    | .error outcome => .error outcome
  let number (what : String) (most : Nat) : Except Outcome Portion := do
    let _ ← (boundedAmount what "" 0 most value).mapError (view.failing 1)
    return portion
  match letter with
  | 'c' => amount false
  | 'n' => amount true
  | 'q' => return { portion with hasNames := some false }
  | 'v' => return { portion with hasNames := some true }
  | 'z' => return { portion with ending := '\x00' }
  | 'f' => return { portion with follows := true }
  | 'F' => return { portion with follows := true, retries := true }
  | '=' =>
    let follows ← if value.isEmpty then pure true else view.choose "follow" followWords value
    return { portion with follows }
  | 'r' => return { portion with retries := true }
  | 'm' => number "invalid maximum number of unchanged stats between opens" (UInt64.size - 1)
  | 'p' =>
    let portion ← number "invalid PID" 2147483647
    return { portion with hasProcess := true }
  | 's' =>
    let isNumber :=
      match Floating.atStart? .double value with
      | some found => found.rest.isEmpty && !found.value.isNegative
      | none => false
    if isNumber then return portion
    throw (view.failing 1 ("invalid number of seconds: " ++ quotation value))
  | letter =>
    if letter.isDigit then
      throw (view.failing 1 ("option used in invalid context -- " ++ String.ofList [letter]))
    return portion

/-- The portion that a first argument of a sign, digits and letters asks for, if it is one and at
most one file follows. -/
def tailShorthand (view : View) : Except Outcome (Portion × List String) := do
  let asUsual := (Portion.usual, view.arguments)
  let isShort (rest : List String) : Bool :=
    match rest with
    | [] => true
    | ["--"] => true
    | ["--", _] => true
    | [file] => !file.startsWith "-" || file == "-"
    | _ => false
  match view.arguments with
  | [] => return asUsual
  | word :: rest =>
    let cs := word.toList
    let isSigned := cs.head? == some '+' || (cs.head? == some '-' && cs != ['-'] && cs != ['-', 'c'])
    if !isSigned || !isShort rest then return asUsual
    let (digits, letters) := (cs.drop 1).span Char.isDigit
    let unit := if letters.head? == some 'b' then 512 else 1
    let ofLines := !(["b", "c"].contains (String.ofList (letters.take 1)))
    let letters := if "bcl".toList.contains (letters.headD ' ') then letters.drop 1 else letters
    if !(letters.isEmpty || letters == ['f']) then return asUsual
    let number := (if digits.isEmpty then 10 else (Numeral.valueFrom 10 0 digits).getD 0) * unit
    if number ≥ UInt64.size then
      throw (view.failing 1 ("invalid number: " ++ quotation word ++
        ": Numerical result out of range"))
    let portion : Portion :=
      { Portion.usual with ofLines, isFromStart := cs.head? == some '+', amount := number,
                           follows := !letters.isEmpty }
    return (portion, rest)

/-- Prints the end of texts, or what follows their start. -/
def tail (view : View) : Outcome :=
  match tailShorthand view with
  | .error outcome => outcome
  | .ok (start, words) =>
    let view := { view with arguments := words }
    view.withOptions 1 tailOptions fun arguments =>
      match arguments.options.foldlM (fun p o => tailOption view p o.1 o.2) start with
      | .error outcome => outcome
      | .ok portion =>
        let warn (test : Bool) (text : String) : List String :=
          if test then ["warning: " ++ text] else []
        let warnings :=
          warn (portion.retries && !portion.follows)
            "--retry ignored; --retry is useful only when following" ++
          warn (portion.hasProcess && !portion.follows)
            "PID ignored; --pid=PID is useful only when following"
        let portion := { portion with warnings }
        let cut (parts : List String) : List String × List String :=
          if portion.isFromStart then (parts.drop (portion.amount - 1), [])
          else (parts.drop (parts.length - portion.amount), [])
        if portion.amount == 0 && !portion.isFromStart then
          { Outcome.quiet 0 with errors := String.join (warnings.map view.complaint) }
        else portion.print view (View.sources arguments.operands) cut fun _ _ => ""

end PointerTagging.Host.Tool
