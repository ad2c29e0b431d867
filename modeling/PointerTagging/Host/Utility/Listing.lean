import PointerTagging.Host.Shell.Pattern
import PointerTagging.Host.Utility.Order
import PointerTagging.Host.Utility.Particulars
/-!
# Lists of files

The utility that lists files and what directories hold: their names in lines or columns, or all
that is known of them.
-/

namespace PointerTagging.Host.Tool

open Text

/-! ## Amounts in large units -/

/-- The unit in which sizes are shown. -/
inductive SizeUnit where
  /-- So many bytes, with a letter behind if there is one. -/
  | fixed (bytes : Nat) (letter : String)
  /-- The power of a base that suits the size. -/
  | suited (base : Nat)
  deriving DecidableEq, Repr

namespace SizeUnit

/-- A size with the letter of the power of a base that suits it, rounded up. -/
def suitedText (base : Nat) : Nat → (power unit : Nat) → (bytes : Nat) → String
  | 0, _, _, bytes => toString bytes
  | n + 1, power, unit, bytes =>
    if bytes < unit * base then
      if power == 0 then toString bytes
      else
        let letter := (powerNames[power - 1]?).getD 'K'
        let letter := if base == 1000 && power == 1 then 'k' else letter
        let tenths := (10 * bytes + unit - 1) / unit
        let whole := (bytes + unit - 1) / unit
        if tenths < 100 then
          toString (tenths / 10) ++ "." ++ toString (tenths % 10) ++ String.ofList [letter]
        else if whole < base then toString whole ++ String.ofList [letter]
        else suitedText base n (power + 1) (unit * base) bytes
    else suitedText base n (power + 1) (unit * base) bytes

/-- A size in the unit, rounded up. -/
def text (unit : SizeUnit) (bytes : Nat) : String :=
  match unit with
  | .fixed size letter => toString ((bytes + size - 1) / size) ++ letter
  | .suited base => suitedText base 10 0 1 bytes

/-- The unit that a word names. -/
def ofText? (text : String) : Option SizeUnit :=
  if text == "human-readable" then some (.suited 1024)
  else if text == "si" then some (.suited 1000)
  else
    match amountIn "EgGkKmMPQRtTYZ0" text with
    | .ok 0 => none
    | .ok n =>
      let hasDigit := text.toList.head?.any Char.isDigit
      some (.fixed n (if hasDigit then "" else text))
    | .error _ => none

end SizeUnit

/-! ## How files are listed -/

/-- The arrangement of a list. -/
inductive Arrangement where
  | lines
  | long
  | commas
  /-- In columns that are read downwards. -/
  | vertical
  /-- In columns that are read line by line. -/
  | horizontal
  deriving DecidableEq, Repr

/-- By what files are ordered. -/
inductive ListOrder where
  | unordered
  | name
  | time
  | size
  | suffix
  | version
  | width
  deriving DecidableEq, Repr

/-- How names are quoted. -/
inductive NameStyle where
  | literal
  | shell
  | shellAlways
  | double
  | escaped
  | locale
  deriving DecidableEq, Repr

/-- A name in a style. -/
def NameStyle.text (style : NameStyle) (name : String) : String :=
  match style with
  | .literal => name
  | .shell => Quoting.ifNeeded name
  | .shellAlways => Quoting.always name
  | .double => Quoting.double name
  | .escaped => Quoting.escaped name
  | .locale => quotation name

/-- How files are listed. -/
structure Listing where
  arrangement : Arrangement
  order : ListOrder
  style : NameStyle
  /-- Signs behind the names: for directories, for others, for programs. -/
  signs : Bool × Bool × Bool
  sizeUnit : SizeUnit
  blockUnit : SizeUnit
  /-- The format of times, for those of the last half year and for others. -/
  times : String × String
  zone : Zone
  lineWidth : Nat
  tabWidth : Nat
  ending : String
  arguments : Arguments

/-- A file under the name by which it is listed. -/
structure ListEntry where
  name : String
  found : Found

namespace Listing

/-- True if an option is given. -/
def has (listing : Listing) (letter : Char) : Bool := listing.arguments.has letter

/-- The sign behind the name of a file that says what it is. -/
def sign (listing : Listing) (f : Found) : String :=
  let (directories, others, programs) := listing.signs
  match f.kindLetter with
  | 'd' => if directories then "/" else ""
  | 'l' => if others then "@" else ""
  | 'p' => if others then "|" else ""
  | _ => if programs && f.isRunnable then "*" else ""

/-- The suffix of a name. -/
def suffixOf (name : String) : String :=
  let parts := name.splitOn "."
  if parts.length < 2 then "" else "." ++ parts.getLastD ""

/-- The order of two files. -/
def compare (listing : Listing) (a b : ListEntry) : Ordering :=
  let names := Ord.compare a.name b.name
  let first : Ordering :=
    match listing.order with
    | .unordered => .eq
    | .name => names
    | .time =>
      let x := a.found.detail.modified
      let y := b.found.detail.modified
      ((Ord.compare y.1 x.1).then (Ord.compare y.2 x.2)).then names
    | .size => (Ord.compare b.found.size a.found.size).then names
    | .suffix => (Ord.compare (suffixOf a.name) (suffixOf b.name)).then names
    | .version => (SortKey.compareNames a.name b.name).then names
    | .width => (Ord.compare a.name.length b.name.length).then names
  if listing.has 'r' then first.swap else first

/-- True of what counts as a directory where these come first. -/
def isGroupedFirst (e : ListEntry) : Bool :=
  match e.found.file with
  | .directory => true
  | .link path =>
    match e.found.tree.locate e.found.place.dropLast path with
    | .ok (_, .directory) => true
    | _ => false
  | _ => false

/-- Files in their order. -/
def sorted (listing : Listing) (entries : List ListEntry) : List ListEntry :=
  let entries :=
    if listing.order == .unordered then (if listing.has 'r' then entries.reverse else entries)
    else entries.mergeSort fun a b => listing.compare a b != .gt
  if listing.has '\x05' then
    entries.filter isGroupedFirst ++ entries.filter (!isGroupedFirst ·)
  else entries

/-- The size of the blocks of a file. -/
def blocksText (listing : Listing) (f : Found) : String := listing.blockUnit.text (f.blocks * 512)

/-- The greatest length of some texts. -/
def widest (texts : List String) : Nat := texts.foldl (fun n text => max n text.length) 0

/-- What stands in front of a name in each arrangement, in columns of some widths. -/
def lead (listing : Listing) (numberWidth blockWidth : Nat) (f : Found) : String :=
  (if listing.has 'i' then padLeft numberWidth (toString f.number) ++ " " else "") ++
    (if listing.has 's' then padLeft blockWidth (listing.blocksText f) ++ " " else "") ++
    if listing.has 'Z' && listing.arrangement != .long then "? " else ""

/-- The name of a file with its sign. -/
def nameText (listing : Listing) (e : ListEntry) : String :=
  listing.style.text e.name ++ listing.sign e.found

/-! ### All that is known -/

/-- The columns of a line with all that is known of a file: each a text, and whether it stands at
the right of its room. -/
def columns (listing : Listing) (f : Found) : List (String × Bool) :=
  let isNumeric := listing.has 'n'
  let owner := if isNumeric then toString f.detail.owner else f.ownerName
  let group := if isNumeric then toString f.detail.group else f.groupName
  let (major, minor) := f.deviceNumbers
  let size :=
    if f.isDevice then toString major ++ ", " ++ toString minor else listing.sizeUnit.text f.size
  [(f.letters, false), (toString f.links, true)] ++
    (if listing.has 'g' then [] else [(owner, isNumeric)]) ++
    (if listing.has 'o' || listing.has 'G' then [] else [(group, isNumeric)]) ++
    (if listing.has '\x07' then [(owner, isNumeric)] else []) ++
    (if listing.has 'Z' then [("?", false)] else []) ++ [(size, true)]

/-- The time of a file. -/
def timeText (listing : Listing) (f : Found) : String :=
  let now := f.tree.now
  let seconds := f.detail.modified.1
  let isRecent := now - 15778476 < seconds && seconds ≤ now
  (f.modified listing.zone).format (if isRecent then listing.times.1 else listing.times.2)

/-- The lines of files with all that is known of them. -/
def longLines (listing : Listing) (entries : List ListEntry) : List String :=
  let rows := entries.map fun e => listing.columns e.found
  let count := (rows.headD []).length
  let widths := (List.range count).map fun n =>
    widest (rows.map fun row => ((row[n]?).getD ("", false)).1)
  let numbers := widest (entries.map fun e => toString e.found.number)
  let blocks := widest (entries.map fun e => listing.blocksText e.found)
  (entries.zip rows).map fun (e, row) =>
    let cells := (row.zip widths).map fun ((text, isRight), width) =>
      if isRight then padLeft width text else padRight width text
    let target :=
      match e.found.file with
      | .link path => " -> " ++ listing.style.text path
      | _ => ""
    let sign := if target.isEmpty then listing.sign e.found else ""
    listing.lead numbers blocks e.found ++ " ".intercalate (cells ++ [listing.timeText e.found]) ++
      " " ++ listing.style.text e.name ++ target ++ sign

/-! ### Columns of names -/

/-- The widths of columns in which names of some widths stand, two apart. -/
def widthsOf (isVertical : Bool) (widths : List Nat) (count : Nat) : List Nat :=
  let rows := (widths.length + count - 1) / count
  (List.range count).map fun column =>
    (widths.zipIdx.foldl (fun n (width, i) =>
      let place := if isVertical then i / rows else i % count
      if place == column then max n (width + (if column + 1 == count then 0 else 2)) else n) 3)

/-- The most columns that fit into a line. -/
def columnCount (isVertical : Bool) (lineWidth : Nat) (widths : List Nat) : Nat → Nat
  | 0 => 1
  | n + 1 =>
    if n == 0 then 1
    else
      let total := (widthsOf isVertical widths (n + 1)).foldl (· + ·) 0
      if total < lineWidth then n + 1 else columnCount isVertical lineWidth widths n

/-- The gap from a column of a line to another one, with tabs as far as they reach. -/
def gap (tabWidth : Nat) : Nat → (start stop : Nat) → String
  | 0, _, _ => ""
  | n + 1, start, stop =>
    if start ≥ stop then ""
    else if tabWidth != 0 && stop / tabWidth > (start + 1) / tabWidth then
      "\t" ++ gap tabWidth n (start + tabWidth - start % tabWidth) stop
    else " " ++ gap tabWidth n (start + 1) stop

/-- A line of texts in columns; `start` is where the first one stands. -/
def row (tabWidth : Nat) : (start : Nat) → List (String × Nat) → String
  | _, [] => ""
  | _, [(text, _)] => text
  | start, (text, width) :: rest =>
    text ++ gap tabWidth (width + 1) (start + text.length) (start + width) ++
      row tabWidth (start + width) rest

/-- Texts in columns. -/
def inColumns (listing : Listing) (isVertical : Bool) (texts : List String) : List String :=
  let widths := texts.map String.length
  let most := min texts.length ((listing.lineWidth + 2) / 3)
  let count := columnCount isVertical listing.lineWidth widths most
  let columnWidths := widthsOf isVertical widths count
  let rows := (texts.length + count - 1) / count
  (List.range rows).map fun r =>
    let cells := (List.range count).filterMap fun c =>
      let i := if isVertical then c * rows + r else r * count + c
      (texts[i]?).map fun text => (text, (columnWidths[c]?).getD 0)
    row listing.tabWidth 0 cells

/-- Texts with commas between them, as many in a line as fit into it; `column` is where the next
one would stand. -/
def withCommas (lineWidth : Nat) : (column : Nat) → List String → String
  | _, [] => ""
  | column, [text] => if column == 0 then text else text
  | column, text :: next :: rest =>
    let column := column + text.length
    if lineWidth == 0 || column + next.length + 2 < lineWidth then
      text ++ ", " ++ withCommas lineWidth (column + 2) (next :: rest)
    else text ++ ",\n" ++ withCommas lineWidth 0 (next :: rest)

/-- The text of a list of files. -/
def text (listing : Listing) (entries : List ListEntry) : String :=
  let entries := listing.sorted entries
  let numbers := widest (entries.map fun e => toString e.found.number)
  let blocks := widest (entries.map fun e => listing.blocksText e.found)
  let isPlain := listing.arrangement == .commas
  let texts := entries.map fun e =>
    listing.lead (if isPlain then 0 else numbers) (if isPlain then 0 else blocks) e.found ++
      listing.nameText e
  let closed (lines : List String) : String := String.join (lines.map (· ++ listing.ending))
  if entries.isEmpty then ""
  else
    match listing.arrangement with
    | .long => closed (listing.longLines entries)
    | .lines => closed texts
    | .commas => withCommas listing.lineWidth 0 texts ++ listing.ending
    | .vertical =>
      if listing.lineWidth == 0 then "  ".intercalate texts ++ listing.ending
      else closed (listing.inColumns true texts)
    | .horizontal =>
      if listing.lineWidth == 0 then "  ".intercalate texts ++ listing.ending
      else closed (listing.inColumns false texts)

/-- The line with the blocks of all files of a directory. -/
def totalLine (listing : Listing) (entries : List ListEntry) : String :=
  if listing.arrangement == .long || listing.has 's' then
    let blocks := entries.foldl (fun n e => n + e.found.blocks) 0
    "total " ++ listing.blockUnit.text (blocks * 512) ++ listing.ending
  else ""

/-! ### Directories -/

/-- True of a name that is not listed. -/
def isLeftOut (listing : Listing) (name : String) : Bool :=
  let isOf (letter : Char) : Bool := (listing.arguments.values letter).any fun pattern =>
    Shell.Glob.isMatch (Shell.Glob.ofText pattern) name.toList
  let showsAll := listing.has 'a' || listing.has 'f'
  let showsHidden := showsAll || listing.has 'A'
  (name.startsWith "." && !showsHidden) || isOf 'I' || (isOf '\x06' && !showsHidden) ||
    (listing.has 'B' && name.endsWith "~")

/-- What a directory holds, and with it, if that is asked for, what the directories in it hold. -/
def directory (listing : Listing) (tree : Tree) (withHead : Bool) :
    Nat → (path : String) → (place : List String) → List String
  | 0, _, _ => []
  | n + 1, path, place =>
    let names := (tree.namesIn place).filter (!listing.isLeftOut ·)
    let names := if listing.has 'a' || listing.has 'f' then "." :: ".." :: names else names
    let entries := names.map fun name =>
      let inner :=
        if name == "." then place else if name == ".." then place.dropLast else place ++ [name]
      let found : Found := ⟨tree, inner, (tree.at? inner).getD .directory⟩
      let found :=
        if listing.has 'L' then
          match tree.locate place name with
          | .ok (place, file) => ⟨tree, place, file⟩
          | .error _ => found
        else found
      (⟨name, found⟩ : ListEntry)
    let head := if withHead then listing.style.text path ++ ":" ++ listing.ending else ""
    let below :=
      if listing.has 'R' then
        (listing.sorted entries).flatMap fun e =>
          if e.found.file == .directory && e.name != "." && e.name != ".." then
            listing.directory tree true n
              (if path.endsWith "/" then path ++ e.name else path ++ "/" ++ e.name) e.found.place
          else []
      else []
    (head ++ listing.totalLine entries ++ listing.text entries) :: below

end Listing

/-! ## Options -/

/-- The options of `ls`. -/
def lsOptions : OptionTable :=
  { letters := "1aAbBcCdDfF::gGhHiI:klLmnNopqQrRsStT:uUvw:xXZ"
    names := [("all", 'a'), ("almost-all", 'A'), ("author", '\x07'), ("block-size=", '\x08'),
      ("classify==", 'F'), ("color==", '\x0b'), ("context", 'Z'), ("dereference", 'L'),
      ("dereference-command-line", 'H'),
      ("dereference-command-line-symlink-to-dir", '\x0e'), ("directory", 'd'), ("dired", 'D'),
      ("escape", 'b'), ("file-type", '\x0f'), ("format=", '\x10'), ("full-time", '\x11'),
      ("group-directories-first", '\x05'), ("hide=", '\x06'), ("hide-control-chars", 'q'),
      ("human-readable", 'h'), ("hyperlink==", '\x0b'), ("ignore=", 'I'),
      ("ignore-backups", 'B'), ("indicator-style=", '\x12'), ("inode", 'i'), ("kibibytes", 'k'),
      ("literal", 'N'), ("no-group", 'G'), ("numeric-uid-gid", 'n'), ("quote-name", 'Q'),
      ("quoting-style=", '\x13'), ("recursive", 'R'), ("reverse", 'r'),
      ("show-control-chars", '\x14'), ("si", '\x15'), ("size", 's'), ("sort=", '\x16'),
      ("tabsize=", 'T'), ("time=", '\x17'), ("time-style=", '\x18'), ("width=", 'w'),
      ("zero", '\x19')]
    stopsEarly := false }

/-- The words for arrangements. -/
def arrangements : List (List String × Arrangement) :=
  [(["verbose", "long"], .long), (["commas"], .commas), (["horizontal", "across"], .horizontal),
    (["vertical"], .vertical), (["single-column"], .lines)]

/-- The words for orders. -/
def listOrders : List (List String × ListOrder) :=
  [(["none"], .unordered), (["time"], .time), (["size"], .size), (["extension"], .suffix),
    (["version"], .version), (["width"], .width)]

/-- The words for signs behind names. -/
def signStyles : List (List String × (Bool × Bool × Bool)) :=
  [(["none"], (false, false, false)), (["slash"], (true, false, false)),
    (["file-type"], (true, true, false)), (["classify"], (true, true, true))]

/-- The words for styles of names. -/
def nameStyles : List (List String × NameStyle) :=
  [(["literal"], .literal), (["shell"], .shell), (["shell-always"], .shellAlways),
    (["shell-escape"], .shell), (["shell-escape-always"], .shellAlways), (["c"], .double),
    (["c-maybe"], .double), (["escape"], .escaped), (["locale"], .locale), (["clocale"], .double)]

/-- The words for times of files. -/
def timeWords : List (List String × Unit) :=
  [(["atime", "access", "use"], ()), (["ctime", "status"], ()), (["mtime", "modification"], ()),
    (["birth", "creation"], ())]

/-- When something is done. -/
def whenWords : List (List String × Bool) :=
  [(["always", "yes", "force"], true), (["never", "no", "none"], false),
    (["auto", "tty", "if-tty"], false)]

/-- The formats of times that a word names, or what is wrong with it. -/
def timeFormats (view : View) (word : String) : Except Outcome (String × String) :=
  if word.startsWith "+" then
    match ((word.drop 1).toString).splitOn "\n" with
    | [old, recent] => .ok (recent, old)
    | _ => .ok ((word.drop 1).toString, (word.drop 1).toString)
  else
    let bare := if word.startsWith "posix-" then "locale" else word
    match ["full-iso", "long-iso", "iso", "locale"].filter fun name =>
        name == bare || (name.startsWith bare && bare.length > 1) with
    | "full-iso" :: _ => .ok ("%Y-%m-%d %H:%M:%S.%N %z", "%Y-%m-%d %H:%M:%S.%N %z")
    | "long-iso" :: _ => .ok ("%Y-%m-%d %H:%M", "%Y-%m-%d %H:%M")
    | "iso" :: _ => .ok ("%m-%d %H:%M", "%Y-%m-%d ")
    | "locale" :: _ => .ok ("%b %e %H:%M", "%b %e  %Y")
    | _ =>
      .error { Outcome.quiet 2 with
        errors := view.complaint ("invalid argument " ++ quotation word ++ " for 'time style'") ++
          "Valid arguments are:\n  - [posix-]full-iso\n  - [posix-]long-iso\n" ++
          "  - [posix-]iso\n  - [posix-]locale\n" ++
          "  - +FORMAT (e.g., +%H:%M) for a 'date'-style format\n" ++ view.hint }

/-- The arrangement that the last option on it asks for. -/
def arrangementOf (view : View) (usual : Arrangement) (arguments : Arguments) :
    Except Outcome Arrangement :=
  arguments.options.foldlM
    (fun arrangement (letter, value) =>
      match letter with
      | '1' => .ok (if arrangement == .long then .long else .lines)
      | 'l' => .ok .long
      | 'g' => .ok .long
      | 'n' => .ok .long
      | 'o' => .ok .long
      | '\x11' => .ok .long
      | 'm' => .ok .commas
      | 'C' => .ok .vertical
      | 'x' => .ok .horizontal
      | '\x19' => .ok (if arrangement == .long then .long else .lines)
      | '\x10' => view.choose "format" arrangements value
      | _ => .ok arrangement) usual

/-- The order that the last option on it asks for. -/
def listOrderOf (view : View) (arguments : Arguments) (arrangement : Arrangement) :
    Except Outcome ListOrder := do
  let order ← arguments.options.foldlM
    (fun (order : Option ListOrder) (letter, value) =>
      match letter with
      | 't' => .ok (some .time)
      | 'S' => .ok (some .size)
      | 'X' => .ok (some .suffix)
      | 'v' => .ok (some .version)
      | 'U' => .ok (some .unordered)
      | 'f' => .ok (some .unordered)
      | '\x16' => (view.choose "sort" listOrders value).map some
      | _ => .ok order) none
  let byTime := arguments.has 'c' || arguments.has 'u' || arguments.has '\x17'
  return order.getD (if byTime && arrangement != .long then .time else .name)

/-- How files are listed under some options. -/
def listingOf (view : View) (usual : Arrangement) (usualStyle : NameStyle)
    (arguments : Arguments) : Except Outcome Listing := do
  let arrangement ← arrangementOf view usual arguments
  let order ← listOrderOf view arguments arrangement
  let _ ← view.choice arguments '\x17' "time" timeWords
  let _ ← (match arguments.value? '\x0b' with
    | some word => if word.isEmpty then .ok true else view.choose "color" whenWords word
    | none => .ok false : Except Outcome Bool)
  let style ← arguments.options.foldlM
    (fun (style : NameStyle) (letter, value) =>
      match letter with
      | 'Q' => .ok .double
      | 'b' => .ok .escaped
      | 'N' => .ok .literal
      | '\x13' => view.choose "quoting-style" nameStyles value
      | _ => .ok style) usualStyle
  let signs ← arguments.options.foldlM
    (fun (signs : Bool × Bool × Bool) (letter, value) =>
      match letter with
      | 'p' => .ok (true, false, false)
      | '\x0f' => .ok (true, true, false)
      | 'F' =>
        if value.isEmpty then .ok (true, true, true)
        else (view.choose "classify" whenWords value).map fun isOn =>
          if isOn then (true, true, true) else signs
      | '\x12' => view.choose "indicator-style" signStyles value
      | _ => .ok signs) (false, false, false)
  let number (letter : Char) (what : String) (usual : Nat) : Except Outcome Nat :=
    match arguments.value? letter with
    | none => .ok usual
    | some text =>
      match (if text.startsWith "0" && text.toList.all Char.isDigit then
          Numeral.valueFrom 8 0 text.toList else (amountIn "" text).toOption) with
      | some n => .ok n
      | none => .error (view.failing 2 ("invalid " ++ what ++ ": " ++ quotation text))
  let columns := ((view.get? "COLUMNS").bind fun text => (amountIn "" text).toOption).getD 80
  let lineWidth ← number 'w' "line width" columns
  let tabWidth ← number 'T' "tab size" 8
  let units ← arguments.options.foldlM
    (fun (units : SizeUnit × SizeUnit) (letter, value) =>
      match letter with
      | 'h' => .ok (.suited 1024, .suited 1024)
      | '\x15' => .ok (.suited 1000, .suited 1000)
      | 'k' => .ok (units.1, .fixed 1024 "")
      | '\x08' =>
        match SizeUnit.ofText? value with
        | some unit => .ok (unit, unit)
        | none =>
          .error (view.failing 2 ("invalid --block-size argument " ++ quotation value))
      | _ => .ok units) (SizeUnit.fixed 1 "", SizeUnit.fixed 1024 "")
  let style? := (arguments.value? '\x18').orElse fun _ => view.get? "TIME_STYLE"
  let times ← timeFormats view
    (style?.getD (if arguments.has '\x11' then "full-iso" else "locale"))
  return {
    arrangement, order, style, signs, sizeUnit := units.1, blockUnit := units.2, times
    zone := view.zone, lineWidth, tabWidth, ending := if arguments.has '\x19' then "\x00" else "\n"
    arguments }

/-- Lists files and what directories hold, in an arrangement unless an option asks for another. -/
def list (usual : Arrangement) (usualStyle : NameStyle) (view : View) : Outcome :=
  view.withOptions 2 lsOptions fun arguments =>
    match listingOf view usual usualStyle arguments with
    | .error outcome => outcome
    | .ok listing =>
      let paths := if arguments.operands.isEmpty then ["."] else arguments.operands
      let isDeferred := arguments.has 'd' || listing.arrangement == .long || listing.signs.2.2
      let follows := arguments.has 'L' || arguments.has 'H' || !isDeferred
      let find (path : String) : Except SystemError Found :=
        if follows then
          match findFile view view.tree true path with
          | .error .notFound =>
            if arguments.has 'L' then .error .notFound else findFile view view.tree false path
          | found => found
        else findFile view view.tree false path
      let entries := paths.filterMap fun path =>
        (find path).toOption.map fun f => (⟨path, f⟩ : ListEntry)
      let errors := paths.filterMap fun path =>
        match find path with
        | .ok _ => none
        | .error error =>
          some (view.complaint ("cannot access " ++ Quoting.always path ++ ": " ++ error.text))
      let isListed (e : ListEntry) : Bool := e.found.file == .directory && !arguments.has 'd'
      let plain := entries.filter (!isListed ·)
      let order : ListOrder :=
        if listing.order == .unordered || listing.order == .time then listing.order else .name
      let listed := Listing.sorted { listing with order } (entries.filter isListed)
      let withHead := paths.length > 1 || arguments.has 'R'
      let blocks := (if plain.isEmpty then [] else [listing.text plain]) ++
        listed.flatMap fun (e : ListEntry) =>
          listing.directory view.tree withHead (view.tree.files.length + 1) e.name e.found.place
      { Outcome.printing (listing.ending.intercalate blocks) with
        errors := String.join errors
        code := if errors.isEmpty then 0 else 2 }

/-- Lists files and what directories hold. -/
def ls (view : View) : Outcome := list .lines .literal view

end PointerTagging.Host.Tool
