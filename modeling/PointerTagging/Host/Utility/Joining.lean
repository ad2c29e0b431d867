import PointerTagging.Host.Utility.Options
/-!
# Sorted texts side by side

The utilities that go through the lines of two sorted texts together: one shows which lines the
texts share, the other joins lines that have a field in common. Both notice lines out of order, as
far as they come by them.
-/

namespace PointerTagging.Host.Tool

open Text

/-- When lines out of order are complained about. -/
inductive OrderCheck where
  | never
  /-- As soon as a line without a partner has been seen. -/
  | usually
  /-- From the start; the first one ends everything. -/
  | always
  deriving DecidableEq, Repr

/-- The check that options ask for, the last of which counts: `c` for one, `n` for none. -/
def OrderCheck.ofOptions (arguments : Arguments) : OrderCheck :=
  match arguments.last? "cn" with
  | some 'c' => .always
  | some _ => .never
  | none => .usually

/-- What has been done with two texts so far. -/
structure Merging where
  lines : List String
  errors : String
  /-- A line without a partner has been seen. -/
  hasUnpaired : Bool
  /-- The texts with lines out of order, by their numbers. -/
  unsorted : List Nat

/-- A step through two texts; a failure ends everything. -/
abbrev Merger := ExceptT Unit (StateM Merging)

namespace Merger

/-- Prints a line. -/
def say (line : String) : Merger Unit := modify fun m => { m with lines := line :: m.lines }

/-- Notes that a line has no partner. -/
def noteUnpaired : Merger Unit := modify fun m => { m with hasUnpaired := true }

/-- Complains about a line of a text that is out of order, if that is to be checked and has not
been noticed in the text before. -/
def notice (view : View) (check : OrderCheck) (file : Nat) (isOut : Bool) (text : String) :
    Merger Unit := do
  let m ← get
  let isChecked := check == .always || (check == .usually && m.hasUnpaired)
  if isOut && isChecked && !m.unsorted.contains file then
    set { m with
      errors := m.errors ++ view.complaint text
      unsorted := file :: m.unsorted }
    if check == .always then throw ()

/-- What comes of some steps. -/
def run (view : View) (ending : Char) (merger : Merger Unit) : Outcome :=
  let (result, m) :=
    StateT.run (m := Id) (ExceptT.run (m := StateM Merging) merger) ⟨[], "", false, []⟩
  let output := String.join (m.lines.reverse.map (·.push ending))
  let errors :=
    match result with
    | .ok _ =>
      if m.unsorted.isEmpty then m.errors
      else m.errors ++ view.complaint "input is not in sorted order"
    | .error _ => m.errors
  { Outcome.printing output with errors, code := if errors.isEmpty then 0 else 1 }

end Merger

/-- The complaint about the number of operands of a utility that takes two, if they are not two. -/
def notTwo? (view : View) (code : Nat) (operands : List String) : Option Outcome :=
  match operands with
  | [] => some (view.misused code "missing operand")
  | [one] => some (view.misused code ("missing operand after " ++ quotation one))
  | [_, _] => none
  | _ :: _ :: extra :: _ => some (view.misused code ("extra operand " ++ quotation extra))

/-! ## Common lines -/

/-- How common lines are shown. -/
structure Comm where
  view : View
  check : OrderCheck
  /-- What stands in front of a line for each column on its left. -/
  delimiter : String
  hides : Char → Bool

namespace Comm

/-- Prints a line in a column: the first, the second or the third. -/
def put (comm : Comm) (column : Char) (line : String) : Merger Unit := do
  let before := ['1', '2'].filter fun c => c < column && !comm.hides c
  if !comm.hides column then
    Merger.say (String.join (before.map fun _ => comm.delimiter) ++ line)

/-- Goes on behind a line of a text. At its end the line is compared with the one before it, since
there may have been no reason to do so before. -/
def stepOn (comm : Comm) (file : Nat) (before : Option String) (line : String)
    (rest : List String) : Merger Unit :=
  let isOut :=
    match rest, before with
    | next :: _, _ => next < line
    | [], some before => line < before
    | [], none => false
  Merger.notice comm.view comm.check file isOut
    ("file " ++ toString file ++ " is not in sorted order")

/-- Goes through two texts; what stands before their next lines is given as well. The numbers are
those of the lines of the first text, of the second and of both that have been seen. -/
def lines (comm : Comm) : (before₁ before₂ : Option String) → (seen : Nat × Nat × Nat) →
    List String → List String → Merger (Nat × Nat × Nat)
  | _, _, seen, [], [] => return seen
  | p, q, (m, n, k), x :: xs, [] => do
    Merger.noteUnpaired
    comm.put '1' x
    comm.stepOn 1 p x xs
    comm.lines (some x) q (m + 1, n, k) xs []
  | p, q, (m, n, k), [], y :: ys => do
    Merger.noteUnpaired
    comm.put '2' y
    comm.stepOn 2 q y ys
    comm.lines p (some y) (m, n + 1, k) [] ys
  | p, q, (m, n, k), x :: xs, y :: ys => do
    if x == y then
      comm.put '3' x
      comm.stepOn 1 p x xs
      comm.stepOn 2 q y ys
      comm.lines (some x) (some y) (m, n, k + 1) xs ys
    else if x < y then
      Merger.noteUnpaired
      comm.put '1' x
      comm.stepOn 1 p x xs
      comm.lines (some x) q (m + 1, n, k) xs (y :: ys)
    else
      Merger.noteUnpaired
      comm.put '2' y
      comm.stepOn 2 q y ys
      comm.lines p (some y) (m, n + 1, k) (x :: xs) ys
termination_by _ _ _ xs ys => xs.length + ys.length

end Comm

/-- The options of `comm`. -/
def commOptions : OptionTable :=
  { letters := "123z"
    names := [("check-order", 'c'), ("nocheck-order", 'n'), ("output-delimiter=", 'd'),
      ("total", 't'), ("zero-terminated", 'z')]
    stopsEarly := false }

/-- Shows which lines two texts share. -/
def comm (view : View) : Outcome :=
  view.withOptions 1 commOptions fun arguments =>
    let delimiters := arguments.values 'd'
    let path (n : Nat) : String := (arguments.operands[n]?).getD "-"
    if delimiters.eraseDups.length > 1 then
      view.failing 1 "multiple output delimiters specified"
    else
      match notTwo? view 1 arguments.operands, view.read (path 0), view.read (path 1) with
      | some outcome, _, _ => outcome
      | none, .error why, _ => view.failing 1 (View.plainly (path 0) why)
      | none, _, .error why => view.failing 1 (View.plainly (path 1) why)
      | none, .ok x, .ok y =>
        let ending := if arguments.has 'z' then '\x00' else '\n'
        let delimiter :=
          match delimiters with
          | [] => "\t"
          | text :: _ => if text.isEmpty then "\x00" else text
        let comm : Comm := ⟨view, .ofOptions arguments, delimiter, arguments.has⟩
        let steps : Merger Unit := do
          let (m, n, k) ← comm.lines none none (0, 0, 0) (partsOf ending x) (partsOf ending y)
          if arguments.has 't' then
            Merger.say (delimiter.intercalate [toString m, toString n, toString k, "total"])
        { Merger.run view ending steps with drains := arguments.operands.contains "-" }

/-! ## Joining -/

/-- A field that is printed for two lines. -/
inductive JoinColumn where
  /-- The field by which they are joined. -/
  | key
  | first (n : Nat)
  | second (n : Nat)
  deriving DecidableEq, Repr

/-- How texts are joined. Fields are numbered from 0. -/
structure Join where
  view : View
  check : OrderCheck
  /-- The fields to compare, if they are said. -/
  fields : Option Nat × Option Nat
  /-- What separates fields; a line break means that a line is one field. -/
  delimiter : Option Char
  ignoresCase : Bool
  /-- Lines of the first and of the second text that have no partner are printed. -/
  unpaired : Bool × Bool
  /-- Lines with a partner are printed. -/
  paired : Bool
  /-- The text for a field that is missing. -/
  filler : Option String
  columns : List JoinColumn
  /-- All lines have as many fields as the first ones. -/
  isUniform : Bool
  hasHeader : Bool
  isZeroEnded : Bool

/-- A line of a text to join. -/
structure JoinRow where
  number : Nat
  line : String
  fields : List String
  /-- What is compared. -/
  key : String

namespace Join

/-- The number of the field of a text that is compared. -/
def field (join : Join) (file : Nat) : Nat :=
  (if file == 1 then join.fields.1 else join.fields.2).getD 0

/-- The fields of a text that blanks separate; blanks at its end have an empty one behind them. -/
def blankSeparated (isBlank : Char → Bool) : (field : List Char) → List Char → List String
  | field, [] => [String.ofList field.reverse]
  | field, c :: cs =>
    if !isBlank c then blankSeparated isBlank (c :: field) cs
    else if field.isEmpty then blankSeparated isBlank [] cs
    else String.ofList field.reverse :: blankSeparated isBlank [] cs

/-- The fields of a line. -/
def split (join : Join) (line : String) : List String :=
  let isSeparator (c : Char) : Bool := isBlank c || c == '\n'
  match join.delimiter with
  | none => if line.toList.all isSeparator then [""] else blankSeparated isSeparator [] line.toList
  | some '\n' => [line]
  | some c => line.splitOn (String.ofList [c])

/-- The row of a line of a text. -/
def row (join : Join) (file number : Nat) (line : String) : JoinRow :=
  let fields := if line.isEmpty then [] else join.split line
  let key := (fields[join.field file]?).getD ""
  { number, line, fields, key := if join.ignoresCase then key.toUpper else key }

/-- The rows of a text. -/
def rows (join : Join) (file : Nat) (text : String) : List JoinRow :=
  let ending := if join.isZeroEnded then '\x00' else '\n'
  (partsOf ending text).zipIdx.map fun (line, n) => join.row file (n + 1) line

/-- A field of a row, or what stands in its place. -/
def fieldOf (join : Join) (row : Option JoinRow) (n : Nat) : String :=
  let text := ((row.bind fun row => row.fields[n]?)).getD ""
  if text.isEmpty then join.filler.getD "" else text

/-- The line that two rows make, one of which may be missing; `counts` are the numbers of fields
that rows have if they all have as many. -/
def line (join : Join) (counts : Nat × Nat) (a b : Option JoinRow) : String :=
  let joint := String.ofList [join.delimiter.getD ' ']
  let key := if a.isSome then join.fieldOf a (join.field 1) else join.fieldOf b (join.field 2)
  let others (file count : Nat) (row : Option JoinRow) : List String :=
    let count := if join.isUniform then count else (row.map (·.fields.length)).getD 0
    ((List.range count).filter (· != join.field file)).map (join.fieldOf row)
  match join.columns with
  | [] => joint.intercalate (key :: others 1 counts.1 a ++ others 2 counts.2 b)
  | columns =>
    joint.intercalate (columns.map fun column =>
      match column with
      | .key => key
      | .first n => join.fieldOf a n
      | .second n => join.fieldOf b n)

/-- Notices what is out of order among rows that are read one after the other. -/
def readOn (join : Join) (file : Nat) : List JoinRow → Merger Unit
  | row :: next :: rest => do
    let path := (join.view.arguments[file]?).getD ""
    Merger.notice join.view join.check file (next.key < row.key)
      (path ++ ":" ++ toString next.number ++ ": is not sorted: " ++ next.line)
    join.readOn file (next :: rest)
  | _ => return ()

/-- Goes through the rows of two texts, the first of which are read already, until one of them
ends; the rows that are left. -/
def pairUp (join : Join) (counts : Nat × Nat) : List JoinRow → List JoinRow →
    Merger (List JoinRow × List JoinRow)
  | x :: xs, y :: ys => do
    if x.key < y.key then
      if join.unpaired.1 then Merger.say (join.line counts (some x) none)
      join.readOn 1 ((x :: xs).take 2)
      Merger.noteUnpaired
      join.pairUp counts xs (y :: ys)
    else if y.key < x.key then
      if join.unpaired.2 then Merger.say (join.line counts none (some y))
      join.readOn 2 ((y :: ys).take 2)
      Merger.noteUnpaired
      join.pairUp counts (x :: xs) ys
    else
      let as := xs.takeWhile fun r => r.key == y.key
      let bs := ys.takeWhile fun r => r.key == x.key
      join.readOn 1 ((x :: xs).take (as.length + 2))
      join.readOn 2 ((y :: ys).take (bs.length + 2))
      if join.paired then
        for a in x :: as do
          for b in y :: bs do
            Merger.say (join.line counts (some a) (some b))
      join.pairUp counts (xs.drop as.length) (ys.drop bs.length)
  | xs, ys => return (xs, ys)
termination_by xs ys => xs.length + ys.length
decreasing_by all_goals simp only [List.length_cons, List.length_drop]; omega

/-- Goes through the rows of a text that are left, the first of which is read already. -/
def finish (join : Join) (file : Nat) (isPrinted : Bool) (shown : JoinRow → String) :
    List JoinRow → Merger Unit
  | [] => return ()
  | row :: rest => do
    if isPrinted then Merger.say (shown row)
    join.readOn file ((row :: rest).take 2)
    join.finish file isPrinted shown rest

/-- Joins two texts. -/
def texts (join : Join) (x y : String) : Merger Unit := do
  let xs := join.rows 1 x
  let ys := join.rows 2 y
  let count (rows : List JoinRow) : Nat := (rows.head?.map (·.fields.length)).getD 0
  let counts := (count xs, count ys)
  if join.hasHeader && !(xs.isEmpty && ys.isEmpty) then
    Merger.say (join.line counts xs.head? ys.head?)
  let (xs, ys) := if join.hasHeader then (xs.drop 1, ys.drop 1) else (xs, ys)
  let (xs, ys) ← join.pairUp counts xs ys
  if !xs.isEmpty && !ys.isEmpty then Merger.noteUnpaired
  join.finish 1 join.unpaired.1 (fun row => join.line counts (some row) none) xs
  join.finish 2 join.unpaired.2 (fun row => join.line counts none (some row)) ys

/-- The number of a field, which is counted from 1. -/
def fieldNumber (text : String) : Except String Nat :=
  match amountIn "" text with
  | .ok (n + 1) => .ok n
  | .error .tooLarge => .ok UInt64.size
  | _ => .error ("invalid field number: " ++ quotation text)

/-- A field to compare that is said once more. -/
def fieldSaid (old : Option Nat) (n : Nat) : Except String (Option Nat) :=
  match old with
  | none => .ok (some n)
  | some m =>
    if m == n then .ok old
    else .error ("incompatible join fields " ++ toString m ++ ", " ++ toString n)

/-- The column that a text says. -/
def column (text : String) : Except String JoinColumn :=
  match text.toList with
  | ['0'] => .ok .key
  | '1' :: '.' :: cs => (fieldNumber (String.ofList cs)).map .first
  | '2' :: '.' :: cs => (fieldNumber (String.ofList cs)).map .second
  | c :: _ =>
    if ['0', '1', '2'].contains c then .error ("invalid field specifier: " ++ quotation text)
    else .error ("invalid file number in field spec: " ++ quotation text)
  | [] => .error ("invalid file number in field spec: " ++ quotation text)

/-- The columns that a list says. -/
def columnsOf (text : String) : Except String (List JoinColumn) :=
  let isSeparator (c : Char) : Bool := c == ',' || isBlank c
  (text.split isSeparator).toList.mapM fun word => column word.toString

/-- What is known about joining behind one more option. -/
def withOption (join : Join) (letter : Char) (value : String) : Except String Join := do
  match letter with
  | '1' => return { join with fields := (← fieldSaid join.fields.1 (← fieldNumber value),
      join.fields.2) }
  | '2' => return { join with fields := (join.fields.1,
      ← fieldSaid join.fields.2 (← fieldNumber value)) }
  | 'j' =>
    let n ← fieldNumber value
    return { join with fields := (← fieldSaid join.fields.1 n, ← fieldSaid join.fields.2 n) }
  | 'o' =>
    if value == "auto" then return { join with isUniform := true }
    else return { join with columns := join.columns ++ (← columnsOf value) }
  | 't' =>
    let tab ←
      match value.toList with
      | [] => pure '\n'
      | [c] => pure c
      | ['\\', '0'] => pure '\x00'
      | _ => throw ("multi-character tab " ++ quotation value)
    if join.delimiter.any (· != tab) then throw "incompatible tabs"
    return { join with delimiter := some tab }
  | 'e' =>
    if join.filler.any (· != value) then throw "conflicting empty-field replacement strings"
    return { join with filler := some value }
  | 'i' => return { join with ignoresCase := true }
  | 'h' => return { join with hasHeader := true }
  | 'z' => return { join with isZeroEnded := true }
  | letter =>
    if letter != 'a' && letter != 'v' then return join
    let join := if letter == 'v' then { join with paired := false } else join
    match amountIn "" value with
    | .ok 1 => return { join with unpaired := (true, join.unpaired.2) }
    | .ok 2 => return { join with unpaired := (join.unpaired.1, true) }
    | _ => throw ("invalid field number: " ++ quotation value)

end Join

/-- The options of `join`. -/
def joinOptions : OptionTable :=
  { letters := "1:2:a:e:ij:o:t:v:z"
    names := [("ignore-case", 'i'), ("check-order", 'c'), ("nocheck-order", 'n'),
      ("header", 'h'), ("zero-terminated", 'z')]
    stopsEarly := false }

/-- Joins lines of two texts that have a field in common. -/
def join (view : View) : Outcome :=
  view.withOptions 1 joinOptions fun arguments =>
    let start : Join :=
      ⟨view, .ofOptions arguments, (none, none), none, false, (false, false), true, none, [],
        false, false, false⟩
    -- more operands than two are columns if there is a list of them
    let extra := if arguments.has 'o' then arguments.operands.length - 2 else 0
    let operands := arguments.operands.drop extra
    let options :=
      arguments.options ++ (arguments.operands.take extra).map fun word => ('o', word)
    let path (n : Nat) : String := (operands[n]?).getD "-"
    let isMissing (n : Nat) : Option Outcome :=
      match view.read (path n) with
      | .error why => if why.isOpen then none else view.failing 1 (View.plainly (path n) why)
      | .ok _ => none
    let isUnreadable (n : Nat) : Option Outcome :=
      match view.read (path n) with
      | .error why => some (view.failing 1 ("read error: " ++ why.error.text))
      | .ok _ => none
    match options.foldlM (fun join o => join.withOption o.1 o.2) start with
    | .error complaint => view.failing 1 complaint
    | .ok join =>
      let join := { join with view := { view with arguments := "" :: operands } }
      let refusals : List (Option Outcome) :=
        [notTwo? view 1 operands, isMissing 0, isMissing 1,
          if operands.all (· == "-") then
            some (view.failing 1 "both files cannot be standard input")
          else none,
          isUnreadable 0, isUnreadable 1]
      match refusals.findSome? (fun refusal => refusal), view.read (path 0), view.read (path 1) with
      | some outcome, _, _ => outcome
      | none, .ok x, .ok y =>
        let ending := if join.isZeroEnded then '\x00' else '\n'
        { Merger.run view ending (join.texts x y) with drains := operands.contains "-" }
      | none, _, _ => .quiet 1

end PointerTagging.Host.Tool
