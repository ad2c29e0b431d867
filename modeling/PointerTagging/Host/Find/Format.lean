import PointerTagging.Host.Calendar.Format
import PointerTagging.Host.Utility.Particulars
import PointerTagging.Text.Numeral
/-!
# What is printed of files

The formats in which a search prints what is known of files.
-/

namespace PointerTagging.Host.Find

/-- A file that has been found. -/
structure Entry where
  /-- The path under which it has been found. -/
  path : String
  place : List String
  file : File
  /-- How deep it is below the operand, and that operand. -/
  depth : Nat
  operand : String

/-- What is known of the file of an entry. -/
def Entry.found (entry : Entry) (tree : Tree) : Tool.Found := ⟨tree, entry.place, entry.file⟩

/-- The letter of a kind of file. -/
def kindLetter (f : Tool.Found) : Char := if f.kindLetter == '-' then 'f' else f.kindLetter

/-- The last name of a path, which may end in slashes. -/
def nameOf (path : String) : String := Tool.lastName path

/-- What stands before the last name of a path. -/
def directoryOf (path : String) : String :=
  match (path.splitOn "/").reverse with
  | _ :: rest => if rest.isEmpty then "." else "/".intercalate rest.reverse
  | [] => "."

/-- The path without the operand at its start. -/
def belowOperand (entry : Entry) : String :=
  let rest := (entry.path.drop entry.operand.length).toString
  if rest.startsWith "/" then (rest.drop 1).toString else rest

/-- A number of billionths as ten digits behind a point. -/
def fraction (nano : Nat) : String :=
  "." ++ String.ofList ((toString (1000000000 + nano)).toList.drop 1) ++ "0"

/-- What a letter says of a moment. -/
def timeText (m : Moment) (seconds : Int) (letter : Char) : String :=
  match letter with
  | '@' => toString seconds ++ fraction m.nano
  | '+' => m.format "%Y-%m-%d+%H:%M:%S" ++ fraction m.nano
  | 'S' => m.format "%S" ++ fraction m.nano
  | 'T' => m.format "%H:%M:%S" ++ fraction m.nano
  | 'X' => m.format "%H:%M:%S" ++ fraction m.nano
  | letter =>
    if "abBcdDeFghGHIjklmMnpPrRstuUVwWxyYzZC".toList.contains letter then
      m.format (String.ofList ['%', letter])
    else String.ofList ['%', letter]

/-- The letters of directives that a moment's letter follows. -/
def isTimeLetter (c : Char) : Bool := c == 'A' || c == 'B' || c == 'C' || c == 'T'

/-- The text of a moment with all its parts. -/
def wholeTime (m : Moment) : String :=
  m.format "%a %b %e %H:%M:%S" ++ fraction m.nano ++ m.format " %Y"

/-- The letters of the other directives. -/
def directiveLetters : List Char := "abcdDfFgGhHiklmMnpPsStuUyYZ".toList

/-- What a directive of a format stands for. -/
def directive (zone : Zone) (tree : Tree) (entry : Entry) (flags : List Char) (letter : Char) :
    String :=
  let f := entry.found tree
  match letter with
  | 'p' => entry.path
  | 'f' => nameOf entry.path
  | 'h' => directoryOf entry.path
  | 'P' => belowOperand entry
  | 'H' => entry.operand
  | 'd' => (if flags.contains '+' then "+" else "") ++ toString entry.depth
  | 's' => toString f.size
  | 'b' => toString f.blocks
  | 'k' => toString ((f.blocks + 1) / 2)
  | 'm' =>
    let digits := String.ofList (Text.Numeral.digits 8 f.mode)
    if flags.contains '#' && f.mode != 0 then "0" ++ digits else digits
  | 'M' => f.letters
  | 'y' => String.ofList [kindLetter f]
  | 'Y' =>
    match tree.locate [] (Tree.pathOf entry.place) with
    | .ok (place, file) => String.ofList [kindLetter ⟨tree, place, file⟩]
    | .error .tooManyLinks => "L"
    | .error _ => "N"
  | 'l' =>
    match entry.file with
    | .link path => path
    | _ => ""
  | 'u' => f.ownerName
  | 'g' => f.groupName
  | 'U' => toString f.detail.owner
  | 'G' => toString f.detail.group
  | 'n' => toString f.links
  | 'i' => toString f.number
  | 'D' => "51"
  | 'F' => "overlay"
  | 'S' => "1"
  | 'Z' => ""
  | 't' => wholeTime (f.modified zone)
  | 'a' => wholeTime (f.modified zone)
  | 'c' => wholeTime (f.modified zone)
  | c => String.ofList ['%', c]

/-- A format with what is known of a file in place. -/
def formatText (zone : Zone) (tree : Tree) (entry : Entry) : Nat → List Char → String
  | 0, _ => ""
  | _, [] => ""
  | n + 1, '\\' :: cs =>
    match cs with
    | 'c' :: _ => ""
    | cs =>
      match Escape.number 8 3 cs, cs with
      | some (c, rest), _ => String.ofList [c] ++ formatText zone tree entry n rest
      | none, c :: rest =>
        let shown := match Escape.letter? c with
          | some d => [d]
          | none => ['\\', c]
        String.ofList shown ++ formatText zone tree entry n rest
      | none, [] => "\\"
  | n + 1, '%' :: '%' :: cs => "%" ++ formatText zone tree entry n cs
  | n + 1, '%' :: cs =>
    let (room, behind) := Tool.statRoom cs
    let pad (text : String) : String :=
      let text := room.precision.elim text fun n => (text.take n).toString
      if room.flags.contains '-' then padRight room.width text else padLeft room.width text
    match behind with
    | [] => "%"
    | c :: rest =>
      match isTimeLetter c, rest with
      | true, d :: rest =>
        let f := entry.found tree
        pad (timeText (f.modified zone) f.detail.modified.1 d) ++
          formatText zone tree entry n rest
      | _, rest =>
        if directiveLetters.contains c then
          pad (directive zone tree entry room.flags c) ++ formatText zone tree entry n rest
        else String.ofList ['%', c] ++ formatText zone tree entry n rest
  | n + 1, c :: cs => String.ofList [c] ++ formatText zone tree entry n cs

/-- What is odd about a format. -/
def formatWarnings : Nat → List Char → List String
  | 0, _ => []
  | _, [] => []
  | n + 1, '\\' :: cs =>
    match cs with
    | 'c' :: _ => []
    | cs =>
      match Escape.number 8 3 cs, cs with
      | some (_, rest), _ => formatWarnings n rest
      | none, c :: rest =>
        (if (Escape.letter? c).isSome then []
          else ["unrecognized escape \x60\\" ++ String.ofList [c] ++ "'"]) ++ formatWarnings n rest
      | none, [] => ["escape \x60\\' followed by nothing at all"]
  | n + 1, '%' :: '%' :: cs => formatWarnings n cs
  | n + 1, '%' :: cs =>
    match (Tool.statRoom cs).2 with
    | [] => []
    | c :: rest =>
      if isTimeLetter c && !rest.isEmpty then formatWarnings n (rest.drop 1)
      else if directiveLetters.contains c then formatWarnings n rest
      else
        ("unrecognized format directive \x60%" ++ String.ofList [c] ++ "'") :: formatWarnings n rest
  | n + 1, _ :: cs => formatWarnings n cs

/-- The line with all that is known of a file. -/
def listLine (zone : Zone) (f : Tool.Found) (entry : Entry) : String :=
  let seconds := f.detail.modified.1
  let isRecent := f.tree.now - 15778476 < seconds && seconds ≤ f.tree.now
  let time := (f.modified zone).format (if isRecent then "%b %e %H:%M" else "%b %e  %Y")
  let (major, minor) := f.deviceNumbers
  let size :=
    if f.isDevice then padLeft 3 (toString major) ++ ", " ++ padLeft 3 (toString minor)
    else padLeft 8 (toString f.size)
  let target :=
    match f.file with
    | .link path => " -> " ++ path
    | _ => ""
  padLeft 9 (toString f.number) ++ " " ++ padLeft 6 (toString ((f.blocks + 1) / 2)) ++ " " ++
    f.letters ++ " " ++ padLeft 3 (toString f.links) ++ " " ++ padRight 8 f.ownerName ++ " " ++
    padRight 8 f.groupName ++ " " ++ size ++ " " ++ time ++ " " ++ entry.path ++ target ++ "\n"

end PointerTagging.Host.Find
