import PointerTagging.Host.Escape
import PointerTagging.Host.Utility.Options
/-!
# Comparing texts line by line

The edits that lead from one text to another and keep as many lines as possible, the forms in which
they are shown, and the utility that compares files and directories.
-/

namespace PointerTagging.Host

open Text

/-- A line of a text; `ends` is false of a last line without an end. -/
structure Line where
  text : String
  ends : Bool
  deriving DecidableEq, Repr

/-- The lines of a text. -/
def Line.ofText (text : String) : List Line :=
  let lines := linesOf text
  if text.endsWith "\n" || text.isEmpty then lines.map (⟨·, true⟩)
  else lines.dropLast.map (⟨·, true⟩) ++ [⟨lines.getLastD "", false⟩]

/-- What happens to a line on the way from one text to another. -/
inductive Edit where
  /-- The line stays; both texts have it, maybe with differences that do not count. -/
  | keep (old new : Line)
  | drop (line : Line)
  | add (line : Line)
  deriving Repr

namespace Edit

/-- The lengths of the longest common parts of a list and the ends of another one, given those for
the list without its first element. The first length is that for the whole other list. -/
def row {α : Type} [BEq α] (a : α) : List α → (below : List Nat) → List Nat
  | b :: bs, n :: next :: below =>
    let rest := row a bs (next :: below)
    (if a == b then next + 1 else max n (rest.headD 0)) :: rest
  | _, _ => [0]

/-- The rows of a list: for each of its ends the lengths of the longest parts that it has in common
with the ends of another one. -/
def table {α : Type} [BEq α] (bs : List α) : List α → List (List Nat)
  | [] => [List.replicate (bs.length + 1) 0]
  | a :: as =>
    let rows := table bs as
    row a bs (rows.headD []) :: rows

/-- The edits that a table tells. -/
def trace (key : Line → String) : Nat → List Line → List Line → List (List Nat) → List Edit
  | 0, _, _, _ => []
  | _, [], bs, _ => bs.map .add
  | _, as, [], _ => as.map .drop
  | n + 1, a :: as, b :: bs, rows =>
    if key a == key b then
      .keep a b :: trace key n as bs ((rows.drop 1).map (·.drop 1))
    else
      let without := ((rows.drop 1).headD []).headD 0
      let keeping := ((rows.headD []).drop 1).headD 0
      if without ≥ keeping then .drop a :: trace key n as (b :: bs) (rows.drop 1)
      else .add b :: trace key n (a :: as) bs (rows.map (·.drop 1))

/-- The lines at the start of two texts that count as the same. -/
def common (key : Line → String) : List Line → List Line → List (Line × Line)
  | a :: as, b :: bs => if key a == key b then (a, b) :: common key as bs else []
  | _, _ => []

/-- The edits between two texts; lines with the same key count as the same. -/
def between (key : Line → String) (old new : List Line) : List Edit :=
  let head := common key old new
  let old := old.drop head.length
  let new := new.drop head.length
  let tail := (common key old.reverse new.reverse).reverse
  let old := old.take (old.length - tail.length)
  let new := new.take (new.length - tail.length)
  let kept (lines : List (Line × Line)) : List Edit := lines.map fun l => .keep l.1 l.2
  let rows := table (new.map key) (old.map key)
  kept head ++ trace key (old.length + new.length + 1) old new rows ++ kept tail

/-- True of an edit that changes nothing. -/
def isKeep : Edit → Bool
  | .keep .. => true
  | _ => false

end Edit

/-- A change: lines of the old text that are replaced by lines of the new one. -/
structure Change where
  /-- How many lines stand before it in both texts. -/
  oldStart : Nat
  newStart : Nat
  old : List Line
  new : List Line
  deriving Repr

namespace Change

/-- The changes that edits make, behind so many lines of both texts. -/
def ofEdits : Nat → (oldStart newStart : Nat) → List Edit → List Change
  | 0, _, _, _ => []
  | _, _, _, [] => []
  | n + 1, i, j, .keep .. :: edits => ofEdits n (i + 1) (j + 1) edits
  | n + 1, i, j, edits =>
    let block := edits.takeWhile (!·.isKeep)
    let old := block.filterMap fun e => match e with
      | .drop line => some line
      | _ => none
    let new := block.filterMap fun e => match e with
      | .add line => some line
      | _ => none
    ⟨i, j, old, new⟩ ::
      ofEdits n (i + old.length) (j + new.length) (edits.drop block.length)

/-- A range of lines: the numbers of the first and the last one; without lines the number of the one
before. -/
def range (start length : Nat) : String :=
  if length == 0 then toString start
  else if length == 1 then toString (start + 1)
  else toString (start + 1) ++ "," ++ toString (start + length)

/-- What follows a line without an end. -/
def missingEnd : String := "\n\\ No newline at end of file\n"

/-- A line behind a mark. -/
def shown (mark : String) (line : Line) : String :=
  mark ++ line.text ++ if line.ends then "\n" else missingEnd

/-- Lines behind a mark. -/
def shownAll (mark : String) (lines : List Line) : String := String.join (lines.map (shown mark))

/-- The letter for a change. -/
def letter (c : Change) : String :=
  if c.old.isEmpty then "a" else if c.new.isEmpty then "d" else "c"

/-- A change in the plain form. -/
def plain (space : String) (c : Change) : String :=
  range c.oldStart c.old.length ++ c.letter ++ range c.newStart c.new.length ++ "\n" ++
    shownAll ("<" ++ space) c.old ++
    (if c.old.isEmpty || c.new.isEmpty then "" else "---\n") ++ shownAll (">" ++ space) c.new

/-- A change as a command of a line editor. -/
def command (c : Change) : String :=
  let lines := String.join (c.new.map fun line => line.text ++ "\n")
  let body := if c.new.isEmpty then "" else lines ++ ".\n"
  range c.oldStart c.old.length ++ c.letter ++ "\n" ++ body

/-- A change as counts of lines to delete and to add. -/
def counted (c : Change) : String :=
  let dropped :=
    if c.old.isEmpty then ""
    else "d" ++ toString (c.oldStart + 1) ++ " " ++ toString c.old.length ++ "\n"
  let added :=
    if c.new.isEmpty then ""
    else
      "a" ++ toString (c.oldStart + c.old.length) ++ " " ++ toString c.new.length ++ "\n" ++
        String.join (c.new.map fun line => line.text ++ if line.ends then "\n" else "")
  dropped ++ added

/-- Groups of changes that stand so close that they share lines around them. -/
def groups (context : Nat) : List Change → List (List Change)
  | [] => []
  | c :: cs =>
    match groups context cs with
    | (d :: ds) :: rest =>
      if d.oldStart ≤ c.oldStart + c.old.length + 2 * context then (c :: d :: ds) :: rest
      else [c] :: (d :: ds) :: rest
    | other => [c] :: other

end Change

/-- A group of changes with the edits around it. -/
structure Hunk where
  oldStart : Nat
  newStart : Nat
  edits : List Edit

namespace Hunk

/-- The edits of a group of changes with at most so many lines around it. -/
def ofGroup (context : Nat) (all : List Edit) (group : List Change) : Hunk :=
  match group.head?, group.getLast? with
  | some first, some last =>
    let lead := min context (min first.oldStart first.newStart)
    let oldStart := first.oldStart - lead
    let newStart := first.newStart - lead
    -- every edit takes a line of one text or of both
    let before := skip oldStart newStart all
    let oldEnd := last.oldStart + last.old.length
    let newEnd := last.newStart + last.new.length
    let inside := upTo (oldEnd - oldStart) (newEnd - newStart) before
    let trail := (before.drop inside.length).takeWhile Edit.isKeep
    ⟨oldStart, newStart, inside ++ trail.take context⟩
  | _, _ => ⟨0, 0, []⟩
where
  /-- The edits behind so many lines of both texts. -/
  skip : Nat → Nat → List Edit → List Edit
    | i, j, edits => edits.drop (upTo i j edits).length
  /-- The edits that take so many lines of both texts. -/
  upTo : Nat → Nat → List Edit → List Edit
    | i + 1, j + 1, .keep a b :: edits => .keep a b :: upTo i j edits
    | i + 1, j, .drop a :: edits => .drop a :: upTo i j edits
    | i, j + 1, .add b :: edits => .add b :: upTo i j edits
    | _, _, _ => []

/-- How many lines of the old text a hunk has. -/
def oldLength (h : Hunk) : Nat := h.edits.countP fun e => match e with
  | .add _ => false
  | _ => true

/-- How many lines of the new text a hunk has. -/
def newLength (h : Hunk) : Nat := h.edits.countP fun e => match e with
  | .drop _ => false
  | _ => true

/-- A range as the number of its first line and the number of lines. -/
def span (start length : Nat) : String :=
  if length == 0 then toString start ++ ",0"
  else if length == 1 then toString (start + 1)
  else toString (start + 1) ++ "," ++ toString length

/-- Edits with the lines that are dropped before those that are added in each change. -/
def ordered : Nat → List Edit → List Edit
  | 0, edits => edits
  | _, [] => []
  | n + 1, .keep a b :: edits => .keep a b :: ordered n edits
  | n + 1, edits =>
    let block := edits.takeWhile (!·.isKeep)
    let isDrop : Edit → Bool
      | .drop _ => true
      | _ => false
    block.filter isDrop ++ block.filter (!isDrop ·) ++ ordered n (edits.drop block.length)

/-- A hunk with signs before its lines. -/
def unified (h : Hunk) : String :=
  let shown : Edit → String
    | .keep a _ => Change.shown " " a
    | .drop a => Change.shown "-" a
    | .add b => Change.shown "+" b
  "@@ -" ++ span h.oldStart h.oldLength ++ " +" ++ span h.newStart h.newLength ++ " @@\n" ++
    String.join ((ordered (h.edits.length + 1) h.edits).map shown)

/-- A hunk in two parts, one for each text; `isMixed` tells for each edit whether its change drops
and adds lines. -/
def twofold (h : Hunk) : String :=
  let range (start length : Nat) : String :=
    if length ≤ 1 then toString (start + length)
    else toString (start + 1) ++ "," ++ toString (start + length)
  let mark (plain : String) (isMixed : Bool) : String := if isMixed then "! " else plain
  let marked := marks (h.edits.length + 1) h.edits
  let isDrop : Edit → Bool
    | .drop _ => true
    | _ => false
  let isAdd : Edit → Bool
    | .add _ => true
    | _ => false
  let old := marked.map fun (e, isMixed) =>
    match e with
    | .keep a _ => Change.shown "  " a
    | .drop a => Change.shown (mark "- " isMixed) a
    | .add _ => ""
  let new := marked.map fun (e, isMixed) =>
    match e with
    | .keep _ b => Change.shown "  " b
    | .drop _ => ""
    | .add b => Change.shown (mark "+ " isMixed) b
  "***************\n*** " ++ range h.oldStart h.oldLength ++ " ****\n" ++
    (if h.edits.any isDrop then String.join old else "") ++
    "--- " ++ range h.newStart h.newLength ++ " ----\n" ++
    (if h.edits.any isAdd then String.join new else "")
where
  /-- The edits, each with whether its change drops and adds lines. -/
  marks : Nat → List Edit → List (Edit × Bool)
    | 0, _ => []
    | _, [] => []
    | n + 1, .keep a b :: edits => (.keep a b, false) :: marks n edits
    | n + 1, edits =>
      let block := edits.takeWhile (!·.isKeep)
      let isDrop : Edit → Bool
        | .drop _ => true
        | _ => false
      let isMixed := block.any isDrop && block.any (!isDrop ·)
      block.map (·, isMixed) ++ marks n (edits.drop block.length)

end Hunk

namespace Tool

/-- The forms in which differences are shown. -/
inductive DifferenceForm where
  | plain
  | unified (context : Nat)
  | twofold (context : Nat)
  | commands
  | counted
  | columns
  | brief
  deriving DecidableEq, Repr

/-- How files are compared. -/
structure Comparing where
  form : DifferenceForm
  arguments : Arguments
  /-- The options as they stand before names of files. -/
  shownOptions : String
  /-- The width of columns. -/
  width : Nat

/-- What a comparison has found: what is printed, what is complained about, and the code. -/
structure Compared where
  output : String
  errors : String
  code : Nat

namespace Compared

/-- Nothing has been found. -/
def none : Compared := ⟨"", "", 0⟩

/-- What two comparisons have found. -/
def and (a b : Compared) : Compared :=
  ⟨a.output ++ b.output, a.errors ++ b.errors, max a.code b.code⟩

end Compared

/-- The text by which lines are compared. -/
def Comparing.key (c : Comparing) (line : Line) : String :=
  let has := c.arguments.has
  let text := if has 'i' then line.text.toLower else line.text
  let cs := text.toList
  let trimmed (cs : List Char) : List Char := (cs.reverse.dropWhile isSpace).reverse
  if has 'w' then String.ofList (cs.filter (!isSpace ·))
  else if has 'b' then String.ofList (squeezed (trimmed cs))
  else if has 'Z' then String.ofList (trimmed cs)
  else text ++ if line.ends then "\n" else ""
where
  /-- A text with a single blank in place of each run of blanks. -/
  squeezed : List Char → List Char
    | a :: b :: cs =>
      if isSpace a && isSpace b then squeezed (b :: cs)
      else (if isSpace a then ' ' else a) :: squeezed (b :: cs)
    | [a] => [if isSpace a then ' ' else a]
    | [] => []

/-- A text cut to a width, and filled up to it by tabs. -/
def half (width : Nat) (text : String) : String := (text.take width).toString

/-- Tabs and blanks that lead from one column to another. -/
def gapTo : Nat → (column goal : Nat) → String
  | 0, _, _ => ""
  | n + 1, column, goal =>
    let next := (column / 8 + 1) * 8
    if next ≤ goal then "\t" ++ gapTo n next goal
    else String.ofList (List.replicate (goal - column) ' ')

/-- The edits of two texts in two columns. -/
def sideBySide (c : Comparing) (edits : List Edit) : String :=
  let offset := (c.width + 8 + 3) / 16 * 8
  let offset := if offset > c.width then c.width else offset
  let halfWidth := min (offset - 3) (c.width - offset)
  let signColumn := (halfWidth + offset - 1) / 2
  let both (sign : Char) (a b : String) : String :=
    let a := half halfWidth a
    let b := half halfWidth b
    let head :=
      if sign == ' ' then a
      else a ++ gapTo 100 a.length signColumn ++ String.ofList [sign]
    let column := if sign == ' ' then a.length else signColumn + 1
    head ++ (if b.isEmpty then "" else gapTo 100 column offset ++ b) ++ "\n"
  let changed (old new : List Line) : String :=
    let pairs := (old.zip new).map fun (a, b) =>
      both (if a.ends == b.ends then '|' else if a.ends then '/' else '\\') a.text b.text
    let dropped := (old.drop new.length).map fun a => both '<' a.text ""
    let added := (new.drop old.length).map fun b => both '>' "" b.text
    String.join (pairs ++ dropped ++ added)
  columns (edits.length + 1) changed both edits
where
  /-- Shows edits change by change. -/
  columns : Nat → (List Line → List Line → String) → (Char → String → String → String) →
      List Edit → String
    | 0, _, _, _ => ""
    | _, _, _, [] => ""
    | n + 1, changed, both, .keep a b :: edits =>
      (if c.arguments.has '\x02' then "" else both ' ' a.text b.text) ++
        columns n changed both edits
    | n + 1, changed, both, edits =>
      let block := edits.takeWhile (!·.isKeep)
      let old := block.filterMap fun e => match e with
        | .drop line => some line
        | _ => none
      let new := block.filterMap fun e => match e with
        | .add line => some line
        | _ => none
      changed old new ++ columns n changed both (edits.drop block.length)

/-- The moment at which every file counts as changed. -/
def shownMoment : String := "1970-01-01 00:00:00.000000000 +0000"

/-- The differences of two texts under their names. -/
def Comparing.texts (c : Comparing) (head oldName newName old new : String) : Compared :=
  let isBinary (text : String) : Bool := (text.take 4096).contains '\x00'
  let same : Compared :=
    if c.arguments.has 's' then
      ⟨"Files " ++ oldName ++ " and " ++ newName ++ " are identical\n", "", 0⟩
    else .none
  if old == new then same
  else if c.form == .brief then
    ⟨"Files " ++ oldName ++ " and " ++ newName ++ " differ\n", "", 1⟩
  else if (isBinary old || isBinary new) && !c.arguments.has 'a' then
    ⟨"Binary files " ++ oldName ++ " and " ++ newName ++ " differ\n", "", 1⟩
  else
    let edits := Edit.between c.key (Line.ofText old) (Line.ofText new)
    let changes := Change.ofEdits (edits.length + 1) 0 0 edits
    let isBlankLine (line : Line) : Bool := line.text.isEmpty
    let counts (change : Change) : Bool :=
      !(c.arguments.has 'B' && (change.old ++ change.new).all isBlankLine)
    let shownChanges := changes.filter counts
    if shownChanges.isEmpty && c.form != .columns then same
    else
      let labels := c.arguments.values 'L'
      let name (n : Nat) (path : String) : String :=
        (labels[n]?).getD (path ++ "\t" ++ shownMoment)
      let hunks (context : Nat) : List Hunk :=
        (Change.groups context shownChanges).map (Hunk.ofGroup context edits)
      let missing := match (Line.ofText new).getLast? with
        | some line => !line.ends
        | none => false
      match c.form with
      | .unified context =>
        ⟨head ++ "--- " ++ name 0 oldName ++ "\n+++ " ++ name 1 newName ++ "\n" ++
          String.join ((hunks context).map Hunk.unified), "", 1⟩
      | .twofold context =>
        ⟨head ++ "*** " ++ name 0 oldName ++ "\n--- " ++ name 1 newName ++ "\n" ++
          String.join ((hunks context).map Hunk.twofold), "", 1⟩
      | .commands =>
        let text := head ++ String.join (shownChanges.reverse.map Change.command)
        if missing then
          ⟨text, "diff: " ++ newName ++ ": No newline at end of file\n\n", 2⟩
        else ⟨text, "", 1⟩
      | .counted => ⟨head ++ String.join (shownChanges.map Change.counted), "", 1⟩
      | .columns => ⟨head ++ sideBySide c edits, "", if shownChanges.isEmpty then 0 else 1⟩
      | _ =>
        let space := if c.arguments.has 'T' then "\t" else " "
        ⟨head ++ String.join (shownChanges.map (Change.plain space)), "", 1⟩

/-- A name in a directory. -/
def joinedPath (directory name : String) : String :=
  if directory.endsWith "/" then directory ++ name else directory ++ "/" ++ name

/-- The kind of a file as it is named where kinds differ. -/
def kindNamed (file : File) : String :=
  match file with
  | .directory => "directory"
  | .ordinary "" _ => "regular empty file"
  | .ordinary .. => "regular file"
  | .program _ => "regular file"
  | .link _ => "symbolic link"
  | _ => "character special file"

/-- Compares two files or directories; `isInside` is true of those in directories. -/
def Comparing.paths (c : Comparing) (view : View) : Nat → (isInside : Bool) →
    (old new : String) → Compared
  | 0, _, _, _ => .none
  | n + 1, isInside, old, new =>
    let file (path : String) : Except SystemError File :=
      if path == "-" then .ok (.ordinary view.input File.newMode)
      else (view.tree.locate view.place path).map (·.2)
    let text (path : String) : String := (view.read path).toOption.getD ""
    let command := "diff " ++ c.shownOptions ++ old ++ " " ++ new ++ "\n"
    let head := if isInside then command else ""
    let newFiles := c.arguments.has 'N'
    match file old, file new with
    | .ok .directory, .ok .directory =>
      if isInside && !c.arguments.has 'r' then
        ⟨"Common subdirectories: " ++ old ++ " and " ++ new ++ "\n", "", 0⟩
      else
        let names (path : String) : List String :=
          match view.tree.locate view.place path with
          | .ok (place, .directory) => view.tree.namesIn place
          | _ => []
        let oldNames := names old
        let newNames := names new
        let all := (oldNames ++ newNames.filter (!oldNames.contains ·)).mergeSort fun a b => a ≤ b
        all.foldl
          (fun found name =>
            let oldPath := joinedPath old name
            let newPath := joinedPath new name
            let only (directory : String) : Compared :=
              ⟨"Only in " ++ directory ++ ": " ++ name ++ "\n", "", 1⟩
            found.and <|
              if !newNames.contains name then
                if newFiles then c.paths view n true oldPath newPath else only old
              else if !oldNames.contains name then
                if newFiles then c.paths view n true oldPath newPath else only new
              else c.paths view n true oldPath newPath) .none
    | .ok .directory, .ok other =>
      if isInside then mixed old new .directory other
      else c.paths view n false (joinedPath old (nameAtEnd new)) new
    | .ok other, .ok .directory =>
      if isInside then mixed old new other .directory
      else c.paths view n false old (joinedPath new (nameAtEnd old))
    | .ok _, .ok _ => c.texts head old new (text old) (text new)
    | .error .notFound, .ok _ =>
      if newFiles then c.texts head old new "" (text new) else refused old .notFound
    | .ok _, .error .notFound =>
      if newFiles then c.texts head old new (text old) "" else refused new .notFound
    | .error a, .error b => (refused old a).and (refused new b)
    | .error a, .ok _ => refused old a
    | .ok _, .error b => refused new b
where
  /-- A file that cannot be compared. -/
  refused (path : String) (error : SystemError) : Compared :=
    ⟨"", "diff: " ++ path ++ ": " ++ error.text ++ "\n", 2⟩
  /-- Files of different kinds. -/
  mixed (old new : String) (a b : File) : Compared :=
    let described (path : String) (file : File) : String := path ++ " is a " ++ kindNamed file
    ⟨"File " ++ described old a ++ " while file " ++ described new b ++ "\n", "", 1⟩
  /-- The last name of a path. -/
  nameAtEnd (path : String) : String := ((path.splitOn "/").getLast?).getD path

/-- The options of `diff`. -/
def diffOptions : OptionTable :=
  { letters := "0123456789abBcC:dD:eEfF:hHiI:lL:nNpPqrsS:tTuU:vwW:x:X:yZ"
    names := [("brief", 'q'), ("color==", '\x03'), ("context==", 'C'), ("ed", 'e'),
      ("expand-tabs", 't'), ("from-file=", '\x04'), ("ignore-all-space", 'w'),
      ("ignore-blank-lines", 'B'), ("ignore-case", 'i'), ("ignore-matching-lines=", 'I'),
      ("ignore-space-change", 'b'), ("ignore-tab-expansion", 'E'),
      ("ignore-trailing-space", 'Z'), ("initial-tab", 'T'), ("label=", 'L'), ("minimal", 'd'),
      ("new-file", 'N'), ("normal", '\x05'), ("rcs", 'n'), ("recursive", 'r'),
      ("report-identical-files", 's'), ("show-c-function", 'p'), ("side-by-side", 'y'),
      ("speed-large-files", 'H'), ("strip-trailing-cr", '\x06'),
      ("suppress-common-lines", '\x02'), ("text", 'a'), ("to-file=", '\x07'), ("unified==", 'U'),
      ("width=", 'W')]
    stopsEarly := false }

/-- The form that options ask for. -/
def DifferenceForm.of (arguments : Arguments) : Except String DifferenceForm := do
  let context (text : String) : Except String Nat :=
    if text.isEmpty then .ok 3
    else
      match Numeral.valueFrom 10 0 text.toList with
      | some n => .ok n
      | none => .error ("invalid context length '" ++ text ++ "'")
  match arguments.options.reverse.find? fun o => "uUcCenyq".toList.contains o.1 with
  | some ('u', _) => return .unified (digits.getD 3)
  | some ('U', text) => return .unified (← context text)
  | some ('c', _) => return .twofold (digits.getD 3)
  | some ('C', text) => return .twofold (← context text)
  | some ('e', _) => return .commands
  | some ('n', _) => return .counted
  | some ('y', _) => return .columns
  | some _ => return .brief
  | none => return .plain
where
  /-- The number that options of digits make. -/
  digits : Option Nat :=
    let cs := (arguments.options.map (·.1)).filter Char.isDigit
    if cs.isEmpty then none else Numeral.valueFrom 10 0 cs

/-- Compares files. -/
def diff (view : View) : Outcome :=
  let misused (text : String) : Outcome :=
    { Outcome.quiet 2 with errors := view.complaint text ++ view.name ++ ": " ++ view.hint }
  match diffOptions.arguments view.arguments with
  | .error error => misused error.message
  | .ok arguments =>
    if arguments.has OptionTable.helpLetter || arguments.has 'v' then .quiet 0 else
    match DifferenceForm.of arguments, arguments.operands with
    | .error complaint, _ => misused complaint
    | .ok _, [] => misused ("missing operand after " ++ quotation view.name)
    | .ok _, [path] => misused ("missing operand after " ++ quotation path)
    | .ok form, [old, new] =>
      let form := if arguments.has 'q' then .brief else form
      let words := view.arguments.filter fun word => word.startsWith "-" && word != "-"
      let comparing : Comparing :=
        { form, arguments
          shownOptions := String.join (words.map (· ++ " "))
          width := ((arguments.value? 'W').bind amount?).getD 130 }
      let found := comparing.paths view (view.tree.files.length + 2) false old new
      { Outcome.printing found.output with
        errors := found.errors
        code := found.code
        drains := old == "-" || new == "-" }
    | .ok _, _ :: _ :: word :: _ => misused ("extra operand " ++ quotation word)

end Tool

end PointerTagging.Host
