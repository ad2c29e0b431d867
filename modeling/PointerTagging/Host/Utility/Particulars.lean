import PointerTagging.Host.Calendar.Format
import PointerTagging.Host.Permissions
import PointerTagging.Host.Utility.Paths
/-!
# What is known of files

The kind, the size, the permissions, the owner and the times of a file, and the utility that prints
them in a format.
-/

namespace PointerTagging.Host.Tool

open Text

/-- A file that has been found: where it stands, and what it is. -/
structure Found where
  tree : Tree
  place : List String
  file : File

namespace Found

/-- The number of bytes. -/
def size (f : Found) : Nat :=
  match f.file with
  | .ordinary text _ => text.length
  | .link path => path.length
  | .directory => 4096
  | .program _ => 35664
  | .library => 1926232
  | _ => 0

/-- The permissions. -/
def mode (f : Found) : Nat := f.tree.modeOf f.place f.file

/-- What else is known. -/
def detail (f : Found) : Detail := f.tree.detail f.place

/-- True of a device. -/
def isDevice (f : Found) : Bool :=
  match f.file with
  | .nothing => true
  | .zeros => true
  | .full => true
  | .device => true
  | _ => false

/-- The two numbers of a device. -/
def deviceNumbers (f : Found) : Nat × Nat :=
  match f.file, f.place.getLast? with
  | .nothing, _ => (1, 3)
  | .zeros, _ => (1, 5)
  | .full, _ => (1, 7)
  | .device, some "random" => (1, 8)
  | .device, some "urandom" => (1, 9)
  | .device, some "tty" => (5, 0)
  | _, _ => (0, 0)

/-- What kind of file it is. -/
def kind (f : Found) : String :=
  match f.file with
  | .directory => "directory"
  | .ordinary "" _ => "regular empty file"
  | .link _ => "symbolic link"
  | .pipe => "fifo"
  | .nothing => "character special file"
  | .zeros => "character special file"
  | .full => "character special file"
  | .device => "character special file"
  | _ => "regular file"

/-- The letter for the kind of file. -/
def kindLetter (f : Found) : Char :=
  match f.file with
  | .directory => 'd'
  | .link _ => 'l'
  | .pipe => 'p'
  | _ => if f.isDevice then 'c' else '-'

/-- The bits for the kind of file. -/
def kindBits (f : Found) : Nat :=
  match f.file with
  | .directory => 0o040000
  | .link _ => 0o120000
  | .pipe => 0o010000
  | _ => if f.isDevice then 0o020000 else 0o100000

/-- The letter for the kind of file with the permissions. -/
def letters (f : Found) : String :=
  String.ofList [f.kindLetter] ++ Permissions.letters f.mode

/-- The number of places at which the file stands; for a directory, those that lead to it. -/
def links (f : Found) : Nat :=
  match f.file with
  | .directory =>
    let below := (f.tree.namesIn f.place).filter fun name =>
      f.tree.at? (f.place ++ [name]) == some .directory
    2 + below.length
  | _ => (f.tree.twinsOf f.place).length

/-- The number of blocks of 512 bytes that the file takes. -/
def blocks (f : Found) : Nat :=
  match f.file with
  | .link _ => 0
  | _ => (f.size + 4095) / 4096 * 8

/-- The number by which the system knows the file. -/
def number (f : Found) : Nat :=
  let place := (f.tree.twinsOf f.place).getLastD f.place
  (Tree.pathOf place).toList.foldl (fun n c => (n * 31 + c.toNat) % 1000003) 7 + 1000000

/-- The name of the owner. -/
def ownerName (f : Found) : String := (Tree.userName? f.detail.owner).getD (toString f.detail.owner)

/-- The name of the group. -/
def groupName (f : Found) : String :=
  (Tree.groupName? f.detail.group).getD (toString f.detail.group)

/-- True of a file that can be run. -/
def isRunnable (f : Found) : Bool := Tree.isRunnable f.mode && f.kindLetter == '-'

/-- When the file was changed last, in a zone. -/
def modified (f : Found) (zone : Zone) : Moment :=
  let (seconds, nano) := f.detail.modified
  .ofSeconds zone seconds nano

end Found

/-- The file that a path leads to; a link at its end counts as a file unless `follows`. -/
def findFile (view : View) (tree : Tree) (follows : Bool) (path : String) :
    Except SystemError Found := do
  let (place, file) ← (if follows then tree.locate view.place path
    else tree.locateLink view.place path)
  return ⟨tree, place, file⟩

/-! ## Formats -/

/-- The room of a directive: its flags, its width and its precision. -/
structure StatRoom where
  flags : List Char
  width : Nat
  precision : Option Nat

namespace StatRoom

/-- A text in its room. -/
def text (room : StatRoom) (text : String) : String :=
  let text := room.precision.elim text fun n => (text.take n).toString
  if room.flags.contains '-' then padRight room.width text else padLeft room.width text

/-- A number in some base in its room, behind a mark if that is asked for. -/
def number (room : StatRoom) (base : Nat) (n : Int) : String :=
  let digits := Numeral.digits base n.natAbs
  let digits := List.replicate (room.precision.getD 0 - digits.length) '0' ++ digits
  let mark :=
    if !room.flags.contains '#' || n == 0 then []
    else if base == 16 then ['0', 'x'] else if base == 8 then ['0'] else []
  let sign :=
    if n < 0 then ['-']
    else if base != 10 then []
    else if room.flags.contains '+' then ['+'] else if room.flags.contains ' ' then [' '] else []
  let lead := sign ++ mark
  let gap := room.width - lead.length - digits.length
  if room.flags.contains '-' then
    String.ofList (lead ++ digits ++ List.replicate gap ' ')
  else if room.flags.contains '0' && room.precision.isNone then
    String.ofList (lead ++ List.replicate gap '0' ++ digits)
  else String.ofList (List.replicate gap ' ' ++ lead ++ digits)

/-- Seconds with as many places as the precision says. -/
def seconds (room : StatRoom) (time : Int × Nat) : String :=
  match room.precision with
  | none => room.number 10 time.1
  | some places =>
    let places := if places == 0 then 9 else places
    let all := (toString (1000000000 + time.2)).toList.drop 1
    let shown := (all ++ List.replicate (places - 9) '0').take places
    let text := toString time.1 ++ "." ++ String.ofList shown
    if room.flags.contains '-' then padRight room.width text
    else if room.flags.contains '0' then
      String.ofList (List.replicate (room.width - text.length) '0') ++ text
    else padLeft room.width text

end StatRoom

/-- The format of a moment with all that is known of it. -/
def fullMoment : String := "%Y-%m-%d %H:%M:%S.%N %z"

/-- What a letter of a format says of a file. -/
def statPart (path : String) (zone : Zone) (f : Found) (room : StatRoom)
    (modifier : Option Char) (letter : Char) : String :=
  let text := room.text
  let decimal (n : Nat) : String := room.number 10 n
  let octal (n : Nat) : String := room.number 8 n
  let hexadecimal (n : Nat) : String := room.number 16 n
  let time := f.detail.modified
  let (major, minor) := f.deviceNumbers
  match letter with
  | 'n' => text path
  | 'N' =>
    match f.file with
    | .link target => text (Quoting.always path ++ " -> " ++ Quoting.always target)
    | _ => text (Quoting.always path)
  | 's' => decimal f.size
  | 'a' => octal f.mode
  | 'A' => text f.letters
  | 'F' => text f.kind
  | 'f' => hexadecimal (f.kindBits + f.mode)
  | 'b' => decimal f.blocks
  | 'B' => decimal 512
  | 'o' => decimal 4096
  | 'h' => decimal f.links
  | 'i' => decimal f.number
  | 'u' => decimal f.detail.owner
  | 'g' => decimal f.detail.group
  | 'U' => text ((Tree.userName? f.detail.owner).getD "UNKNOWN")
  | 'G' => text ((Tree.groupName? f.detail.group).getD "UNKNOWN")
  | 'm' => text "/"
  | 'C' => text "?"
  | 'd' => decimal (if modifier == some 'H' then 0 else 51)
  | 'D' => hexadecimal 51
  | 'r' => decimal (major * 256 + minor)
  | 'R' => hexadecimal (major * 256 + minor)
  | 't' => hexadecimal major
  | 'T' => hexadecimal minor
  | 'x' => text ((f.modified zone).format fullMoment)
  | 'y' => text ((f.modified zone).format fullMoment)
  | 'z' => text ((f.modified zone).format fullMoment)
  | 'w' => text ((f.modified zone).format fullMoment)
  | 'X' => room.seconds time
  | 'Y' => room.seconds time
  | 'Z' => room.seconds time
  | 'W' => room.seconds time
  | _ => "?"

/-- What a letter of a format says of the file system that a file is in. -/
def systemPart (path : String) (f : Found) (room : StatRoom) (letter : Char) : String :=
  let kind :=
    match f.place.head? with
    | some "proc" => "proc"
    | some "sys" => "sysfs"
    | some "dev" => "tmpfs"
    | _ => "overlayfs"
  match letter with
  | 'n' => room.text path
  | 'T' => room.text kind
  | 'l' => room.number 10 255
  | 's' => room.number 10 4096
  | 'S' => room.number 10 4096
  | 'i' => room.text "0"
  | 't' => room.text (if kind == "proc" then "9fa0" else if kind == "overlayfs" then "794c7630"
      else "1021994")
  | 'a' => room.number 10 0
  | 'b' => room.number 10 0
  | 'c' => room.number 10 0
  | 'd' => room.number 10 0
  | 'f' => room.number 10 0
  | _ => "?"

/-- The flags, the width and the precision at the start of a directive, and what follows them. -/
def statRoom (cs : List Char) : StatRoom × List Char :=
  let flags := cs.takeWhile "'-+ #0".toList.contains
  let cs := cs.drop flags.length
  let width := cs.takeWhile Char.isDigit
  let cs := cs.drop width.length
  let number (digits : List Char) : Nat := (Numeral.valueFrom 10 0 digits).getD 0
  match cs with
  | '.' :: cs =>
    let digits := cs.takeWhile Char.isDigit
    (⟨flags, number width, some (number digits)⟩, cs.drop digits.length)
  | cs => (⟨flags, number width, none⟩, cs)

/-- A format with what is known of a file in the place of its directives. -/
def statText (part : StatRoom → Option Char → Char → String) : Nat → List Char → String
  | 0, _ => ""
  | _, [] => ""
  | n + 1, '%' :: cs =>
    let (room, rest) := statRoom cs
    match rest with
    | [] => "%" ++ String.ofList (cs.take (cs.length - rest.length))
    | '%' :: rest => "%" ++ statText part n rest
    | 'H' :: c :: rest =>
      if "dr".toList.contains c then part room (some 'H') c ++ statText part n rest
      else part room none 'H' ++ statText part n (c :: rest)
    | 'L' :: c :: rest =>
      if "dr".toList.contains c then part room (some 'L') c ++ statText part n rest
      else part room none 'L' ++ statText part n (c :: rest)
    | c :: rest => part room none c ++ statText part n rest
  | n + 1, c :: cs => String.ofList [c] ++ statText part n cs

/-- The format of all that is known of a file. -/
def usualStatFormat (f : Found) : String :=
  "  File: %N\n  Size: %-10s\tBlocks: %-10b IO Block: %-6o %F\n" ++
    "Device: %Hd,%Ld\tInode: %-10i  Links: " ++
    (if f.isDevice then "%-5h Device type: %Hr,%Lr\n" else "%h\n") ++
    "Access: (%04a/%10.10A)  Uid: (%5u/%8U)   Gid: (%5g/%8G)\n" ++
    "Access: %x\nModify: %y\nChange: %z\n Birth: %w\n"

/-- The options of `stat`. -/
def statOptions : OptionTable :=
  { letters := "c:Lft"
    names := [("cached=", '\x04'), ("dereference", 'L'), ("file-system", 'f'), ("format=", 'c'),
      ("printf=", 'p'), ("terse", 't')]
    stopsEarly := false }

/-- Prints what is known of files. -/
def stat (view : View) : Outcome :=
  view.withOptions 1 statOptions fun arguments =>
    let ofSystem := arguments.has 'f'
    let one (outcome : Outcome) (path : String) : Outcome :=
      match findFile view view.tree (arguments.has 'L' || ofSystem) path with
      | .error error =>
        outcome.complaining 1
          (view.complaint ((if ofSystem then "cannot read file system information for "
            else "cannot statx ") ++ Quoting.always path ++ ": " ++ error.text))
      | .ok f =>
        let part (room : StatRoom) (modifier : Option Char) (letter : Char) : String :=
          if ofSystem then systemPart path f room letter
          else statPart path view.zone f room modifier letter
        let shown (form : String) : String := statText part (form.length + 1) form.toList
        let last := (arguments.options.filter fun o => o.1 == 'c' || o.1 == 'p').getLast?
        match last with
        | some ('c', form) => outcome.print (shown form ++ "\n")
        | some (_, form) => outcome.print (shown (Escape.text .utility form).1)
        | none =>
          if ofSystem then
            outcome.print (shown (if arguments.has 't' then "%n %i %l %t %s %S %b %f %a %c %d\n"
              else "  File: \"%n\"\n    ID: %-8i Namelen: %-7l Type: %T\n" ++
                "Block size: %-10s Fundamental block size: %S\n" ++
                "Blocks: Total: %-10b Free: %-10f Available: %a\n" ++
                "Inodes: Total: %-10c Free: %d\n"))
          else if arguments.has 't' then
            outcome.print (shown "%n %s %b %f %u %g %D %i %h %t %T %X %Y %Z %W %o\n")
          else outcome.print (shown (usualStatFormat f))
    if arguments.operands.isEmpty then view.lacking
    else arguments.operands.foldl one (.quiet 0)

end PointerTagging.Host.Tool
