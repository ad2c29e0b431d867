import PointerTagging.Host.Utility.Showing
/-!
# Tabs

The utilities that replace tabs by blanks and blanks by tabs. Tabs lead to stops, which are columns
or follow one another at a distance.
-/

namespace PointerTagging.Host.Tool

open Text

/-- Stops of tabs: their columns, and what follows the last one. -/
structure TabStops where
  columns : List Nat
  /-- Further stops are the multiples of a number. -/
  multiple : Option Nat
  /-- Further stops are so far from the last one, and from one another. -/
  distance : Option Nat

namespace TabStops

/-- No stops. -/
def none : TabStops := ⟨[], Option.none, Option.none⟩

/-- What a number in a list of stops is. -/
inductive Mark where
  | column
  | multiple
  | distance
  deriving DecidableEq, Repr

/-- The stops with one more number. -/
def add (stops : TabStops) (mark : Mark) (n : Nat) : Except String TabStops :=
  let only (sign : String) : Except String TabStops :=
    .error ("'" ++ sign ++ "' specifier only allowed with the last value")
  match mark with
  | .column => .ok { stops with columns := stops.columns ++ [n] }
  | .multiple =>
    if stops.multiple.any (0 < ·) then only "/" else .ok { stops with multiple := some n }
  | .distance =>
    if stops.distance.any (0 < ·) then only "+" else .ok { stops with distance := some n }

/-- Reads a list of stops behind others; `value?` are the digits of a number that has begun. -/
def readFrom (stops : TabStops) (mark : Mark) : (value? : Option (List Char)) → List Char →
    Except String TabStops
  | value?, [] =>
    match value? with
    | some digits => stops.add mark ((Numeral.valueFrom 10 0 digits).getD 0)
    | Option.none => .ok stops
  | value?, c :: cs =>
    let early (sign : String) : Except String TabStops :=
      .error (quotation sign ++ " specifier not at start of number: " ++
        quotation (String.ofList (c :: cs)))
    if c == ',' || isBlank c then
      match value? with
      | some digits => do
        let stops ← stops.add mark ((Numeral.valueFrom 10 0 digits).getD 0)
        readFrom stops mark Option.none cs
      | Option.none => readFrom stops mark Option.none cs
    else if c == '/' then
      if value?.isSome then early "/" else readFrom stops .multiple Option.none cs
    else if c == '+' then
      if value?.isSome then early "+" else readFrom stops .distance Option.none cs
    else if c.isDigit then
      let digits := value?.getD [] ++ [c]
      if (Numeral.valueFrom 10 0 digits).getD 0 < UInt64.size then
        readFrom stops mark (some digits) cs
      else .error ("tab stop is too large " ++
        quotation (String.ofList (digits ++ cs.takeWhile Char.isDigit)))
    else
      .error ("tab size contains invalid character(s): " ++ quotation (String.ofList (c :: cs)))

/-- True of numbers each of which is greater than the one before. -/
def areAscending : (before : Nat) → List Nat → Bool
  | _, [] => true
  | before, n :: rest => before < n && areAscending n rest

/-- The stops if they can be used: where nothing is said of further ones, a single number is the
distance of all. -/
def checked (stops : TabStops) : Except String TabStops :=
  let given (n? : Option Nat) : Option Nat := n?.filter (0 < ·)
  let firstBad := stops.columns.findIdx? (· == 0)
  let lead := firstBad.elim stops.columns fun n => stops.columns.take n
  if !areAscending 0 lead then .error "tab sizes must be ascending"
  else if firstBad.isSome then .error "tab size cannot be 0"
  else
    match stops.columns, given stops.multiple, given stops.distance with
    | _, some _, some _ => .error "'/' specifier is mutually exclusive with '+'"
    | [], multiple, distance =>
      .ok ⟨[], some ((multiple.orElse fun _ => distance).getD 8), Option.none⟩
    | [n], Option.none, Option.none => .ok ⟨[], some n, Option.none⟩
    | columns, multiple, distance => .ok ⟨columns, multiple, distance⟩

/-- The next stop behind a column, if there is one. -/
def next? (stops : TabStops) (column : Nat) : Option Nat :=
  match stops.columns.find? (column < ·), stops.multiple, stops.distance with
  | some stop, _, _ => some stop
  | Option.none, some n, _ => some (column + n - column % n)
  | Option.none, Option.none, some n =>
    some (column + n - (column - stops.columns.getLastD 0) % n)
  | Option.none, Option.none, Option.none => Option.none

end TabStops

/-- A line with blanks in the place of tabs; only those in front of all else if `initial`. -/
def expandTabs (stops : TabStops) (initial : Bool) : (column : Nat) → List Char → List Char
  | _, [] => []
  | column, '\t' :: cs =>
    let next := (stops.next? column).getD (column + 1)
    List.replicate (next - column) ' ' ++ expandTabs stops initial next cs
  | column, c :: cs =>
    if initial && c != ' ' then c :: cs
    else
      let next := if c == '\x08' then column - 1 else column + 1
      c :: expandTabs stops initial next cs

/-- Where a line stands whose blanks become tabs. -/
structure Blanks where
  column : Nat
  /-- Blanks of which it is not known yet whether a tab takes their place. -/
  pending : List Char
  /-- A single blank stands right in front of a stop. -/
  isSingle : Bool
  isAfterBlank : Bool

/-- The blanks that are written in the end. -/
def Blanks.flush (b : Blanks) : List Char :=
  if b.pending.length > 1 && b.isSingle then '\t' :: b.pending.drop 1 else b.pending

/-- A line with tabs in the place of blanks before stops; only in front of all else unless
`all`. -/
def unexpandBlanks (stops : TabStops) (all : Bool) : Blanks → List Char → List Char
  | b, [] => b.flush
  | b, c :: cs =>
    match isBlank c, stops.next? b.column with
    | true, Option.none => b.flush ++ c :: cs
    | true, some next =>
      -- a tab that is written takes the place of all that is pending but for a single blank
      let tab (column : Nat) : List Char :=
        (if b.isSingle then ['\t'] else []) ++
          '\t' :: unexpandBlanks stops all ⟨column, [], false, true⟩ cs
      if c == '\t' then tab next
      else if b.isAfterBlank && b.column + 1 == next then tab (b.column + 1)
      else
        unexpandBlanks stops all
          ⟨b.column + 1, b.pending ++ [c], b.isSingle || b.column + 1 == next, true⟩ cs
    | false, _ =>
      if !all then b.flush ++ c :: cs
      else
        let column := if c == '\x08' then b.column - 1 else b.column + 1
        b.flush ++ c :: unexpandBlanks stops all ⟨column, [], false, false⟩ cs

/-- The options of `expand`. -/
def expandOptions : OptionTable :=
  { letters := "it:0::1::2::3::4::5::6::7::8::9::"
    names := [("initial", 'i'), ("tabs=", 't')]
    stopsEarly := false }

/-- The options of `unexpand`. -/
def unexpandOptions : OptionTable :=
  { letters := "at:,0123456789"
    names := [("all", 'a'), ("first-only", 'f'), ("tabs=", 't')]
    stopsEarly := false }

/-- The stops that options say. -/
def tabStopsOf (lists : List String) : Except String TabStops := do
  let stops ← lists.foldlM
    (fun stops text => TabStops.readFrom stops .column Option.none text.toList) TabStops.none
  stops.checked

/-- Prints lines with some of their characters replaced. -/
def retabbed (view : View) (arguments : Arguments) (lists : List String)
    (change : TabStops → List Char → List Char) : Outcome :=
  match tabStopsOf lists with
  | .error complaint => view.failing 1 complaint
  | .ok stops =>
    view.filtering arguments.operands fun texts =>
      let changed (line : String) : String :=
        let body := if line.endsWith "\n" then line.toList.dropLast else line.toList
        String.ofList (change stops body) ++ if line.endsWith "\n" then "\n" else ""
      String.join (texts.map fun t => String.join ((wholeLines t.2).map changed))

/-- Replaces tabs by blanks. -/
def expand (view : View) : Outcome :=
  view.withOptions 1 expandOptions fun arguments =>
    let lists := arguments.options.filterMap fun (letter, value) =>
      if letter == 't' then some value
      else if letter.isDigit then some (String.ofList [letter] ++ value)
      else Option.none
    retabbed view arguments lists fun stops => expandTabs stops (arguments.has 'i') 0

/-- Replaces blanks by tabs. -/
def unexpand (view : View) : Outcome :=
  view.withOptions 1 unexpandOptions fun arguments =>
    let digits := (arguments.options.map (·.1)).filter fun c => c.isDigit || c == ','
    let lists := arguments.values 't' ++ [String.ofList digits]
    let all := (arguments.has 'a' || arguments.has 't') && !arguments.has 'f'
    retabbed view arguments lists fun stops => unexpandBlanks stops all ⟨0, [], false, true⟩

end PointerTagging.Host.Tool
