import PointerTagging.Host.Utility.Streams
/-!
# Pieces of texts

The utilities that divide a text among files, and that choose lines of one.
-/

namespace PointerTagging.Host.Tool

open Text

/-! ## Division among files -/

/-- How a text is divided. -/
inductive Division where
  | lines (n : Nat)
  | bytes (n : Nat)
  /-- Whole lines with at most so many bytes. -/
  | lineBytes (n : Nat)
  /-- So many pieces of the same size. -/
  | pieces (n : Nat)
  /-- So many pieces of about the same size, of whole lines. -/
  | linePieces (n : Nat)
  /-- So many pieces among which the lines are dealt out one by one. -/
  | dealt (n : Nat)

/-- True of a division into a given number of pieces, and that number. -/
def Division.count? : Division → Option Nat
  | .pieces n => some n
  | .linePieces n => some n
  | .dealt n => some n
  | _ => none

/-- The lists of at most `n` elements that make a list. -/
def chunks {α : Type} (n : Nat) : Nat → List α → List (List α)
  | 0, _ => []
  | _, [] => []
  | room + 1, xs => xs.take n :: chunks n room (xs.drop n)

/-- Lines brought together as long as they have at most so many bytes; longer ones are cut. -/
def gathered (most : Nat) : Nat → List String → List String
  | 0, _ => []
  | _, [] => []
  | room + 1, line :: lines =>
    if line.length > most then
      (line.take most).toString :: gathered most room ((line.drop most).toString :: lines)
    else
      match lines with
      | next :: rest =>
        if line.length + next.length ≤ most then gathered most room ((line ++ next) :: rest)
        else line :: gathered most room lines
      | [] => if line.isEmpty then [] else [line]

/-- Texts with the numbers of the bytes in front of each. -/
def offsets : Nat → List String → List (Nat × String)
  | _, [] => []
  | start, text :: texts => (start, text) :: offsets (start + text.length) texts

/-- The parts of a text up to a character each, with that character. -/
def recordsOf (separator : Char) (text : String) : List String :=
  let parts := text.splitOn (String.ofList [separator])
  parts.dropLast.map (·.push separator) ++ parts.getLast?.toList.filter (!·.isEmpty)

/-- The pieces of a text whose lines end in a character. -/
def Division.split (division : Division) (separator : Char) (text : String) : List String :=
  let lines := recordsOf separator text
  let sizeOf (n : Nat) : Nat := max text.length n / n
  match division with
  | .lines n => (chunks n (text.length + 1) lines).map String.join
  | .bytes n => (chunks n (text.length + 1) text.toList).map String.ofList
  | .lineBytes n => gathered n (2 * text.length + 2) lines
  | .pieces n =>
    let size := sizeOf n
    (List.range n).map fun i =>
      ((text.drop (i * size)).take (if i + 1 == n then text.length else size)).toString
  | .linePieces n =>
    let placed := (offsets 0 lines).map fun (start, line) => (min (start / sizeOf n) (n - 1), line)
    (List.range n).map fun i => String.join ((placed.filter (·.1 == i)).map (·.2))
  | .dealt n =>
    let placed := lines.zipIdx
    (List.range n).map fun i => String.join ((placed.filter (·.2 % n == i)).map (·.1))

/-- How the pieces are called. -/
structure PieceNames where
  start : String
  digits : List Char
  width : Nat
  /-- The digits become more as they run out. -/
  grows : Bool
  first : Nat
  trail : String

namespace PieceNames

/-- The digits of a number in a width. -/
def number (names : PieceNames) (width n : Nat) : String :=
  let base := names.digits.length
  String.ofList ((List.range width).map fun i =>
    (names.digits[n / Nat.pow base (width - 1 - i) % base]?).getD 'a')

/-- The digits of the piece with a number, where the last digit of all in front stands for more
digits. -/
def growing (names : PieceNames) : Nat → (lead : String) → (width n : Nat) → String
  | 0, lead, width, n => lead ++ names.number width n
  | room + 1, lead, width, n =>
    let base := names.digits.length
    let count := (base - 1) * Nat.pow base (width - 1)
    if n < count then lead ++ names.number width n
    else
      names.growing room (lead.push ((names.digits.getLast?).getD 'z')) (width + 1) (n - count)

/-- The name of the piece with a number, if there is one. -/
def name? (names : PieceNames) (n : Nat) : Option String :=
  if names.grows then some (names.start ++ names.growing 60 "" names.width n ++ names.trail)
  else if names.first + n < Nat.pow names.digits.length names.width then
    some (names.start ++ names.number names.width (names.first + n) ++ names.trail)
  else none

/-- The number of digits that so many pieces need. -/
def widthFor (base : Nat) : Nat → (last : Nat) → Nat
  | 0, _ => 1
  | room + 1, last => if last < base then 1 else 1 + widthFor base room (last / base)

end PieceNames

/-- The options of `split`. -/
def splitOptions : OptionTable :=
  { letters := "a:b:C:del:n:t:ux"
    names := [("additional-suffix=", '\x02'), ("bytes=", 'b'), ("elide-empty-files", 'e'),
      ("filter=", '\x03'), ("hex-suffixes==", '\x06'), ("line-bytes=", 'C'), ("lines=", 'l'),
      ("number=", 'n'), ("numeric-suffixes==", '\x05'), ("separator=", 't'),
      ("suffix-length=", 'a'), ("unbuffered", 'u'), ("verbose", '\x04')]
    stopsEarly := false }

/-- The division that an option asks for, and the only piece that is wanted if there is one. -/
def divisionOf (letter : Char) (text : String) : Except String (Division × Option Nat) := do
  let refuse (what text : String) (error : AmountError) : Except String Nat :=
    .error ("invalid " ++ what ++ ": " ++ quotation text ++ error.trail)
  let amount (what units text : String) : Except String Nat :=
    match amountIn units text with
    | .error error => refuse what text error
    | .ok 0 => refuse what text .malformed
    | .ok n => .ok n
  match letter with
  | 'b' => return (.bytes (← amount "number of bytes" "bEGKkMmPQRTYZ0" text), none)
  | 'C' => return (.lineBytes (← amount "number of lines" "bEGKkMmPQRTYZ0" text), none)
  | 'l' => return (.lines (← amount "number of lines" "" text), none)
  | _ =>
    let parts := text.splitOn "/"
    let (make, parts) : (Nat → Division) × List String :=
      match parts with
      | "l" :: rest => (Division.linePieces, rest)
      | "r" :: rest => (Division.dealt, rest)
      | parts => (Division.pieces, parts)
    match parts with
    | [count] => return (make (← amount "number of chunks" "" count), none)
    | chosen :: rest =>
      let count ← amount "number of chunks" "" ("/".intercalate rest)
      let k ← amount "chunk number" "" chosen
      if k > count then throw ("invalid chunk number: " ++ quotation chosen)
      return (make count, some k)
    | [] => throw ("invalid number of chunks: " ++ quotation text)

/-- The character at which lines end. -/
def separatorOf (arguments : Arguments) : Except String Char :=
  match (arguments.values 't').eraseDups with
  | [] => .ok '\n'
  | [text] =>
    match text.toList with
    | [] => .error "empty record separator"
    | [c] => .ok c
    | ['\\', '0'] => .ok '\x00'
    | _ => .error ("multi-character separator " ++ quotation text)
  | _ => .error "multiple separator characters specified"

/-- How the pieces of a division are called, or what is wrong with the options for that. -/
def pieceNames (view : View) (arguments : Arguments) (division : Division) (start : String) :
    Except Outcome PieceNames := do
  let trail := (arguments.value? '\x02').getD ""
  if trail.contains '/' then
    throw (view.misused 1 ("invalid suffix " ++ quotation trail ++
      ", contains directory separator"))
  let last := (arguments.options.filter fun o => "dx\x05\x06".toList.contains o.1).getLast?
  let (digits, first) ← (match last with
    | none => .ok ("abcdefghijklmnopqrstuvwxyz", none)
    | some (letter, value) =>
      let isDecimal := letter == 'd' || letter == '\x05'
      let digits := if isDecimal then "0123456789" else "0123456789abcdef"
      if value.isEmpty then .ok (digits, none)
      else
        match Numeral.valueFrom digits.length 0 value.toList with
        | some n => .ok (digits, some n)
        | none =>
          .error (view.misused 1 (quotation value ++ ": invalid start value for " ++
            (if isDecimal then "numerical" else "hexadecimal") ++ " suffix")) :
    Except Outcome (String × Option Nat))
  let length ← (match arguments.value? 'a' with
    | none => .ok none
    | some text =>
      match amountIn "" text with
      | .ok 0 => .ok none
      | .ok n => .ok (some n)
      | .error error =>
        .error (view.failing 1 ("invalid suffix length: " ++ quotation text ++ error.trail)) :
    Except Outcome (Option Nat))
  let names (width : Nat) (grows : Bool) : PieceNames :=
    ⟨start, digits.toList, width, grows, first.getD 0, trail⟩
  match division.count?, length with
  | some count, length =>
    let needed := PieceNames.widthFor digits.length 64 (first.getD 0 + count - 1)
    if length.any (· < needed) then
      throw (view.failing 1 ("the suffix length needs to be at least " ++ toString needed))
    return names (length.getD (max 2 needed)) false
  | none, some length => return names length false
  | none, none => return names 2 first.isNone

/-- Writes pieces to the files with their names. -/
def writePieces (view : View) (isVerbose : Bool) (names : PieceNames) (pieces : List String) :
    Worker Unit := do
  for (piece, n) in pieces.zipIdx do
    match names.name? n with
    | none =>
      Worker.complain view "output file suffixes exhausted"
      return
    | some name =>
      if isVerbose then Worker.say ("creating file " ++ quotation name ++ "\n")
      match (← Worker.tree).spot view.place name with
      | .ok ⟨place, none⟩ => Worker.change (·.create place piece)
      | .ok ⟨place, some (.ordinary _ mode)⟩ =>
        Worker.change (·.put place (.ordinary piece mode))
      | .ok _ => pure ()
      | .error error =>
        Worker.complain view (Quoting.name name ++ ": " ++ error.text)
        return

/-- Divides a text among files. -/
def split (view : View) : Outcome :=
  -- a number behind a dash counts lines, and the last one is meant
  let isNumber (word : String) : Bool :=
    word.startsWith "-" && word.length > 1 && (word.toList.drop 1).all Char.isDigit
  let counts := (view.arguments.filter isNumber).getLast?.toList.map fun word => "-l" ++
    (word.drop 1).toString
  let view := { view with arguments := counts ++ view.arguments.filter (!isNumber ·) }
  view.withOptions 1 splitOptions fun arguments =>
    let ways := arguments.options.filter fun o => "bCln".toList.contains o.1
    let (letter, text) := ways.headD ('l', "1000")
    match divisionOf letter text, separatorOf arguments, arguments.operands with
    | .error complaint, _, _ => view.failing 1 complaint
    | _, .error complaint, _ => view.failing 1 complaint
    | _, _, _ :: _ :: word :: _ => view.misused 1 ("extra operand " ++ quotation word)
    | .ok (division, chosen?), .ok separator, operands =>
      if ways.length > 1 then view.misused 1 "cannot split in more than one way"
      else
        match pieceNames view arguments division ((operands.drop 1).headD "x") with
        | .error outcome => outcome
        | .ok names =>
          let path := operands.headD "-"
          match view.read path with
          | .error why =>
            if why.isOpen then view.failing 1 (Quoting.name path ++ ": " ++ why.error.text)
            else
              view.failing 1
                ("cannot open " ++ Quoting.always path ++ " for reading: " ++ why.error.text)
          | .ok text =>
            let pieces := division.split separator text
            match chosen? with
            | some k =>
              { Outcome.printing ((pieces[k - 1]?).getD "") with drains := path == "-" }
            | none =>
              let pieces := if arguments.has 'e' then pieces.filter (!·.isEmpty) else pieces
              let outcome := Worker.run view (writePieces view (arguments.has '\x04') names pieces)
              { outcome with drains := path == "-" }

/-! ## Choice of lines -/

/-- The options of `shuf`. -/
def shufOptions : OptionTable :=
  { letters := "ei:n:o:rz"
    names := [("echo", 'e'), ("head-count=", 'n'), ("input-range=", 'i'), ("output=", 'o'),
      ("random-source=", '\x02'), ("repeat", 'r'), ("zero-terminated", 'z')]
    stopsEarly := false }

/-- The numbers of a range, given by the first and the last one. -/
def rangeOf? (text : String) : Option (List String) :=
  match text.splitOn "-" with
  | [low, high] =>
    match amount? low, amount? high with
    | some low, some high => some ((List.range (high + 1 - low)).map fun n => toString (low + n))
    | _, _ => none
  | _ => none

/-- Prints lines in some order; here it is their own. -/
def shuf (view : View) : Outcome :=
  view.withOptions 1 shufOptions fun arguments =>
    let count := (arguments.value? 'n').bind amount?
    let take (lines : List String) : String :=
      ofLines (match count with
        | some n => lines.take n
        | none => lines)
    if arguments.has 'e' then .printing (take arguments.operands)
    else
      match arguments.value? 'i', arguments.operands with
      | some text, [] =>
        match rangeOf? text with
        | some lines => .printing (take lines)
        | none => view.failing 1 ("invalid input range: " ++ quotation text)
      | some _, word :: _ => view.misused 1 ("extra operand " ++ quotation word)
      | none, _ :: word :: _ => view.misused 1 ("extra operand " ++ quotation word)
      | none, operands =>
        view.filtering operands fun texts => take (texts.flatMap fun t => linesOf t.2)

end PointerTagging.Host.Tool
