import PointerTagging.Host.Utility.Listing
import PointerTagging.Host.Utility.Streams
/-!
# Copying blocks

The utility that copies a stream in blocks, changes it on the way, and counts the blocks.
-/

namespace PointerTagging.Host.Tool

open Text

/-- An amount of blocks, or of bytes. -/
structure BlockAmount where
  count : Nat
  inBytes : Bool
  deriving DecidableEq, Repr

/-- The bytes of an amount of blocks of a size. -/
def BlockAmount.bytes (amount : BlockAmount) (size : Nat) : Nat :=
  if amount.inBytes then amount.count else amount.count * size

/-- What is to be copied, and how. -/
structure BlockCopy where
  input : Option String
  output : Option String
  inputSize : Nat
  outputSize : Nat
  /-- The size of blocks that are read and written as they are, if one is given. -/
  bothSize : Option Nat
  lineSize : Nat
  count : Option BlockAmount
  skip : BlockAmount
  seek : BlockAmount
  conversions : List String
  inputFlags : List String
  outputFlags : List String
  status : Option String

namespace BlockCopy

/-- Nothing is asked for. -/
def start : BlockCopy :=
  { input := none, output := none, inputSize := 512, outputSize := 512, bothSize := none
    lineSize := 0, count := none, skip := ⟨0, false⟩, seek := ⟨0, false⟩
    conversions := [], inputFlags := [], outputFlags := [], status := none }

/-- The conversions that there are. -/
def conversionNames : List String :=
  ["ascii", "ebcdic", "ibm", "block", "unblock", "lcase", "ucase", "sparse", "nocreat", "excl",
    "notrunc", "swab", "noerror", "sync", "fdatasync", "fsync"]

/-- The flags that there are for reading and writing. -/
def flagNames : List String :=
  ["append", "binary", "cio", "direct", "directory", "dsync", "noatime", "nocache", "noctty",
    "nofollow", "nolinks", "nonblock", "sync", "text", "fullblock", "count_bytes", "skip_bytes",
    "seek_bytes"]

/-- The number that a text says: amounts with an `x` between them are multiplied. -/
def number (text : String) : Except AmountError Nat :=
  let one (part : String) : Except AmountError Nat :=
    let digits := part.toList.takeWhile Char.isDigit
    let part := if part.toList.drop digits.length == ['B'] then String.ofList digits else part
    if digits.isEmpty then .error .malformed else amountIn "bcEGkKMPQRTwYZ0" part
  (text.splitOn "x").foldlM
    (fun n part => do
      let m ← one part
      if n * m < UInt64.size then return n * m else throw .tooLarge) 1

/-- Takes one word of the arguments, or says what is wrong with it. -/
def take (view : View) (c : BlockCopy) (word : String) : Except Outcome BlockCopy := do
  let name := String.ofList (word.toList.takeWhile (· != '='))
  let value := (word.drop (name.length + 1)).toString
  let unknown : Except Outcome BlockCopy :=
    .error (view.misused 1 ("unrecognized operand " ++ quotation word))
  if !word.contains '=' then unknown
  else
    let amount (least : Nat) : Except Outcome Nat :=
      let refuse (error : AmountError) : Except Outcome Nat :=
        .error (view.failing 1 ("invalid number: " ++ quotation value ++ error.trail))
      match number value with
      | .error error => refuse error
      | .ok n => if n < least then refuse .malformed else .ok n
    let blocks : Except Outcome BlockAmount :=
      (amount 0).map fun n => ⟨n, value.contains 'B'⟩
    let words (what : String) (known : List String) : Except Outcome (List String) :=
      match (value.splitOn ",").find? (!known.contains ·) with
      | some word => .error (view.misused 1 ("invalid " ++ what ++ ": " ++ quotation word))
      | none => .ok (value.splitOn ",")
    match name with
    | "if" => return { c with input := some value }
    | "of" => return { c with output := some value }
    | "ibs" => return { c with inputSize := ← amount 1 }
    | "obs" => return { c with outputSize := ← amount 1 }
    | "bs" => return { c with bothSize := some (← amount 1) }
    | "cbs" => return { c with lineSize := ← amount 1 }
    | "count" => return { c with count := some (← blocks) }
    | "skip" => return { c with skip := ← blocks }
    | "iseek" => return { c with skip := ← blocks }
    | "seek" => return { c with seek := ← blocks }
    | "oseek" => return { c with seek := ← blocks }
    | "conv" =>
      return { c with conversions := c.conversions ++ (← words "conversion" conversionNames) }
    | "iflag" => return { c with inputFlags := c.inputFlags ++ (← words "input flag" flagNames) }
    | "oflag" => return { c with outputFlags := c.outputFlags ++ (← words "output flag" flagNames) }
    | "status" =>
      if ["none", "noxfer", "progress"].contains value then return { c with status := some value }
      else .error (view.misused 1 ("invalid status level: " ++ quotation value))
    | _ => unknown

/-- True of a conversion that is asked for. -/
def has (c : BlockCopy) (name : String) : Bool := c.conversions.contains name

/-- What is wrong with all that is asked for, if something is. -/
def conflict? (c : BlockCopy) : Option String :=
  let count (names : List String) : Nat := (names.filter c.has).length
  if count ["ascii", "ebcdic", "ibm"] > 1 then
    some "cannot combine any two of \x7bascii,ebcdic,ibm\x7d"
  else if c.lineSize != 0 && count ["block", "unblock"] > 1 then
    some "cannot combine block and unblock"
  else if count ["lcase", "ucase"] > 1 then some "cannot combine lcase and ucase"
  else if count ["excl", "nocreat"] > 1 then some "cannot combine excl and nocreat"
  else none

/-- What is asked for, with all that follows from it. -/
def settled (c : BlockCopy) : BlockCopy :=
  let size := c.bothSize
  { c with
    inputSize := size.getD c.inputSize
    outputSize := size.getD c.outputSize
    conversions := if c.lineSize == 0 then c.conversions.filter fun name =>
      name != "block" && name != "unblock" else c.conversions
    count := c.count.map fun n => { n with
      inBytes := n.inBytes || c.inputFlags.contains "count_bytes" }
    skip := { c.skip with inBytes := c.skip.inBytes || c.inputFlags.contains "skip_bytes" }
    seek := { c.seek with inBytes := c.seek.inBytes || c.outputFlags.contains "seek_bytes" } }

/-! ## What happens to the text -/

/-- Neighbours changed places, two by two. -/
def swapped : List Char → List Char
  | a :: b :: cs => b :: a :: swapped cs
  | cs => cs

/-- Lines brought to a length by blanks at their ends, and how many of them were too long. -/
def blocked (size : Nat) (cs : List Char) : List Char × Nat :=
  let lines := linesOf (String.ofList cs)
  (lines.flatMap fun line => (padRight size line).toList.take size,
    (lines.filter fun line => line.length > size).length)

/-- Parts of a length as lines without the blanks at their ends. -/
def unblocked (size : Nat) : Nat → List Char → List Char
  | 0, _ => []
  | n + 1, cs =>
    if cs.isEmpty then []
    else
      let line := ((cs.take size).reverse.dropWhile (· == ' ')).reverse
      line ++ '\n' :: unblocked size n (cs.drop size)

/-- Parts of a text that have a size, except for the last one. -/
def parts (size : Nat) : Nat → List Char → List (List Char)
  | 0, _ => []
  | n + 1, cs => if cs.isEmpty then [] else cs.take size :: parts size n (cs.drop size)

/-- Whole blocks and others. -/
def counted (size : Nat) (records : List (List Char)) : Nat × Nat :=
  let whole := (records.filter fun r => r.length == size).length
  (whole, records.length - whole)

/-- What has been read and written. -/
structure Tally where
  read : Nat × Nat
  written : Nat × Nat
  cut : Nat
  text : List Char

/-- Copies a text that is left behind what is skipped. -/
def copy (c : BlockCopy) (cs : List Char) : Tally :=
  let records := parts c.inputSize (cs.length + 1) cs
  let read := counted c.inputSize records
  let filler := if c.has "block" || c.has "unblock" then ' ' else '\x00'
  let records :=
    if c.has "sync" then
      records.map fun r => r ++ List.replicate (c.inputSize - r.length) filler
    else records
  let changes := ["ascii", "ebcdic", "ibm", "block", "unblock", "lcase", "ucase", "swab"]
  if c.bothSize.isSome && !changes.any c.has then
    ⟨read, counted c.outputSize records, 0, records.flatten⟩
  else
    let all := records.flatten
    let all := if c.has "ucase" then all.map Char.toUpper else all
    let all := if c.has "lcase" then all.map Char.toLower else all
    let all := if c.has "swab" then swapped all else all
    let (all, cut) :=
      if c.has "block" then blocked c.lineSize all
      else if c.has "unblock" then (unblocked c.lineSize (all.length + 1) all, 0)
      else (all, 0)
    ⟨read, counted c.outputSize (parts c.outputSize (all.length + 1) all), cut, all⟩

/-- A number of bytes as the nearest multiple of a unit that suits it. -/
def nearest (base : Nat) (bytes : Nat) : String :=
  let text := go base 10 0 1 bytes
  let name (c : Char) : String :=
    if base == 1000 then (if c == 'K' then "k" else String.ofList [c])
    else String.ofList [c] ++ "i"
  match text with
  | (number, none) => number ++ " B"
  | (number, some c) => number ++ " " ++ name c ++ "B"
where
  /-- The number, and the name of the unit if it is not one byte. -/
  go (base : Nat) : Nat → (power unit : Nat) → (bytes : Nat) → String × Option Char
    | 0, _, _, bytes => (toString bytes, none)
    | n + 1, power, unit, bytes =>
      if bytes < base * unit then
        if power == 0 then (toString bytes, none)
        else
          let tenths := (20 * bytes + unit) / (2 * unit)
          if tenths < 100 then
            (toString (tenths / 10) ++ "." ++ toString (tenths % 10), powerNames[power - 1]?)
          else (toString ((2 * bytes + unit) / (2 * unit)), powerNames[power - 1]?)
      else go base n (power + 1) (unit * base) bytes

/-- The report on a copy. -/
def report (c : BlockCopy) (tally : Tally) (length : Nat) : String :=
  let records (n : Nat × Nat) (word : String) : String :=
    toString n.1 ++ "+" ++ toString n.2 ++ " records " ++ word ++ "\n"
  let cut :=
    if tally.cut == 0 then ""
    else toString tally.cut ++ (if tally.cut == 1 then " truncated record\n"
      else " truncated records\n")
  let known :=
    if length < 1000 then ""
    else if length < 1024 then " (" ++ nearest 1000 length ++ ")"
    else " (" ++ nearest 1000 length ++ ", " ++ nearest 1024 length ++ ")"
  let speed :=
    toString length ++ (if length == 1 then " byte" else " bytes") ++ known ++
      " copied, 0 s, Infinity B/s\n"
  if c.status == some "none" then ""
  else
    records tally.read "in" ++ records tally.written "out" ++ cut ++
      if c.status == some "noxfer" then "" else speed

/-- What a file holds when a text has been written into it behind some bytes. -/
def written (c : BlockCopy) (old text : List Char) : List Char :=
  let offset := c.seek.bytes c.outputSize
  if c.outputFlags.contains "append" then
    (if c.has "notrunc" then old else old.take offset) ++ text
  else
    let front := old.take offset ++ List.replicate (offset - old.length) '\x00'
    front ++ text ++ if c.has "notrunc" then old.drop (offset + text.length) else []

/-- Writes a text to the output, and then the report, or why it cannot be written. -/
def finish (c : BlockCopy) (view : View) (outcome : Outcome) (tally : Tally) : Outcome :=
  let length := tally.text.length
  let text := String.ofList tally.text
  let done (outcome : Outcome) : Outcome := outcome.turn 2 (c.report tally length)
  match c.output with
  | none =>
    if c.seek.count != 0 then
      { outcome.turn 2 (view.complaint "'standard output': cannot seek: Illegal seek") with
        code := 1 }
    else done (outcome.turn 1 text)
  | some path =>
    let failed (error : SystemError) : Outcome :=
      { outcome.turn 2 (view.complaint
          ("failed to open " ++ Quoting.always path ++ ": " ++ error.text)) with code := 1 }
    match view.tree.spot view.place path with
    | .error error => failed error
    | .ok ⟨_, some .directory⟩ => failed .isADirectory
    | .ok ⟨place, none⟩ =>
      if c.has "nocreat" then failed .notFound
      else
        let all := String.ofList (c.written [] tally.text)
        { done outcome with tree := some (view.tree.create place all) }
    | .ok ⟨place, some (.ordinary old mode)⟩ =>
      if c.has "excl" then failed .alreadyThere
      else
        let all := String.ofList (c.written old.toList tally.text)
        { done outcome with tree := some (view.tree.put place (.ordinary all mode)) }
    | .ok ⟨_, some (.descriptor n)⟩ => done (outcome.turn n text)
    | .ok ⟨_, some .full⟩ =>
      if length == 0 then done outcome
      else
        let refused := outcome.turn 2 (view.complaint
          ("error writing " ++ Quoting.always path ++ ": " ++ SystemError.noSpace.text))
        { refused.turn 2 (c.report { tally with written := (0, 0) } 0) with code := 1 }
    | .ok _ => done outcome

end BlockCopy

/-- Copies blocks of bytes. -/
def dd (view : View) : Outcome :=
  view.withOptions 1 ⟨"", [], false⟩ fun arguments =>
    match arguments.operands.foldlM (BlockCopy.take view) BlockCopy.start with
    | .error outcome => outcome
    | .ok c =>
      let warnings := arguments.operands.filter fun word =>
        let value := ((word.splitOn "=").drop 1).headD ""
        value.startsWith "0x" && (BlockCopy.number value).isOk
      let zero := view.complaint
        "warning: '0x' is a zero multiplier; use '00x' if that is intended"
      let start : Outcome :=
        { Outcome.quiet 0 with errors := String.join (warnings.map fun _ => zero) }
      let start := if start.errors.isEmpty then start
        else { (Outcome.quiet 0).turn 2 start.errors with errors := "" }
      match c.conflict? with
      | some text => view.failing 1 text
      | none =>
        let c := c.settled
        let path := c.input.getD "-"
        let found := if c.input.isSome then view.tree.locate view.place path
          else .ok ([], .descriptor 0)
        let wanted? := c.count.map (·.bytes c.inputSize)
        match found with
        | .error error =>
          view.failing 1 ("failed to open " ++ Quoting.always path ++ ": " ++ error.text)
        | .ok (_, .directory) =>
          let refused := start.turn 2 (view.complaint
            ("error reading " ++ Quoting.always path ++ ": " ++ SystemError.isADirectory.text))
          { c.finish view refused ⟨(0, 0), (0, 0), 0, []⟩ with code := 1 }
        | .ok (_, file) =>
          if c.inputFlags.contains "directory" then
            view.failing 1 ("failed to open " ++ Quoting.always path ++ ": " ++
              SystemError.notADirectory.text)
          else
            let isEndless := file == .zeros || file == .full
            let all := if isEndless then [] else
              match c.input with
              | none => view.input.toList
              | some path => ((view.read path).toOption.getD "").toList
            let skipped := c.skip.bytes c.inputSize
            let isShort := !isEndless && skipped > all.length
            let name := if c.input.isSome then Quoting.name path else "'standard input'"
            let start :=
              if isShort then
                start.turn 2 (view.complaint (name ++ ": cannot skip to specified offset"))
              else start
            let left := if isEndless then List.replicate (wanted?.getD 65536) '\x00'
              else all.drop skipped
            let cs := wanted?.elim left fun n => left.take n
            let outcome := c.finish view start (c.copy cs)
            { outcome with
              drains := c.input.isNone
              left := String.ofList (left.drop cs.length) }

end PointerTagging.Host.Tool
