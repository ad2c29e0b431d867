import PointerTagging.Host.Escape
import PointerTagging.Host.Floating.Digits
import PointerTagging.Host.Shell.Arithmetic
/-!
# Formats

What `printf` prints. A format is read into pieces once; the pieces are printed as often as it takes
to use up the arguments.
-/

namespace PointerTagging.Host

open Shell Text

namespace Format

/-- A width or a precision. -/
inductive Amount where
  | absent
  | fixed (n : Nat)
  /-- The next argument says how much. -/
  | argument
  deriving DecidableEq, Repr

/-- How an argument is printed. -/
structure Directive where
  flags : List Char
  width : Amount
  precision : Amount
  conversion : Char
  deriving DecidableEq, Repr

/-- Why a format or an argument is refused. -/
inductive Complaint where
  | notANumber (argument : String)
  | notOnlyANumber (argument : String)
  | outOfRange (argument : String)
  | missingConversion (directive : String)
  | badConversion (directive : String)
  /-- The format has no use for any argument. -/
  | unusedArguments (first : String)
  /-- An argument is no width or precision. -/
  | badAmount (isWidth : Bool) (argument : String)
  /-- A width or precision in the format is out of range. -/
  | tooLarge
  deriving DecidableEq, Repr

/-- A piece of a format. -/
inductive Piece where
  | char (c : Char)
  | directive (directive : Directive)
  /-- Nothing behind it is printed. -/
  | stop
  /-- A directive that cannot be carried out. -/
  | broken (complaint : Complaint)
  deriving DecidableEq, Repr

/-- The text of a complaint as each program words it. -/
def Complaint.message (printer : Printer) : Complaint → String
  | .notANumber argument =>
    match printer with
    | .builtin => argument ++ ": expected numeric value"
    | .utility => quotation argument ++ ": expected a numeric value"
    | .extended => argument ++ ": invalid number"
  | .notOnlyANumber argument =>
    match printer with
    | .builtin => argument ++ ": not completely converted"
    | .utility => quotation argument ++ ": value not completely converted"
    | .extended => argument ++ ": invalid number"
  | .outOfRange argument =>
    match printer with
    | .builtin => argument ++ ": Numerical result out of range"
    | .utility => quotation argument ++ ": Numerical result out of range"
    | .extended => "warning: " ++ argument ++ ": Numerical result out of range"
  | .missingConversion directive =>
    match printer with
    | .builtin => "missing format character"
    | .utility => directive ++ ": invalid conversion specification"
    | .extended => "\x60" ++ directive ++ "': missing format character"
  | .badConversion directive =>
    match printer with
    | .builtin => directive ++ ": invalid directive"
    | .utility => directive ++ ": invalid conversion specification"
    | .extended => "\x60" ++ (directive.takeEnd 1).toString ++ "': invalid format character"
  | .unusedArguments first =>
    "warning: ignoring excess arguments, starting with " ++ quotation first
  | .badAmount isWidth argument =>
    "invalid " ++ (if isWidth then "field width" else "precision") ++ ": " ++ quotation argument
  | .tooLarge =>
    match printer with
    | .builtin => "xvsnprintf failed"
    | _ => "write error"

/-- True of a complaint that does not count as a failure. -/
def Complaint.isWarning (printer : Printer) : Complaint → Bool
  | .unusedArguments _ => true
  | .outOfRange _ => printer == .extended
  | _ => false

/-- True of a complaint that ends the printing. -/
def Complaint.isFatal (printer : Printer) : Complaint → Bool
  | .missingConversion _ => true
  | .badConversion _ => true
  | .badAmount .. => true
  | .tooLarge => printer == .builtin
  | _ => false

/-! ## Reading a format -/

/-- The characters that may stand between `%` and a width. -/
def flagChars (printer : Printer) : List Char :=
  match printer with
  | .builtin => "#-+ 0".toList
  | _ => "#-+ 0'I".toList

/-- The width or precision at the start of a text. -/
def amountAtStart (cs : List Char) : Amount × List Char :=
  match cs with
  | '*' :: rest => (.argument, rest)
  | cs =>
    let digits := cs.takeWhile Char.isDigit
    if digits.isEmpty then (.absent, cs)
    else (.fixed ((Numeral.valueFrom 10 0 digits).getD 0), cs.drop digits.length)

/-- The conversions that a flag may not stand before. -/
def barred (flag : Char) : List Char :=
  match flag with
  | '\'' => "aAceEosxX".toList
  | 'I' => "aAceEosxX".toList
  | '#' => "cdisu".toList
  | '0' => "cs".toList
  | _ => []

/-- The conversions that are possible behind flags, a width and a precision. The utility knows some
that take none of these, and does not allow all flags with all others. -/
def conversions (printer : Printer) (flags : List Char) (width precision : Amount) : List Char :=
  match printer with
  | .builtin => "bcsdiouxXaAeEfFgG".toList
  | .extended => "bqcsdiouxXaAeEfFgG".toList
  | .utility =>
    let plain :=
      if flags.isEmpty && width == .absent && precision == .absent then ['b', 'q'] else []
    let others := "csdiouxXaAeEfFgG".toList.filter fun c =>
      !flags.any fun flag => (barred flag).contains c
    plain ++ if precision == .absent then others else others.filter (· != 'c')

/-- A text between quotes if it needs any, so that a shell reads it as it is. -/
def quoted (text : String) : String :=
  let isPlain (c : Char) : Bool := c.isAlphanum || "_@%+=:,./-".contains c
  let isActive (c : Char) : Bool := "\"$\\!".contains c || c == '\x60'
  if text.isEmpty then "''"
  else if text.toList.all isPlain then text
  else if text.contains '\'' && !text.toList.any isActive then
    "\"" ++ text ++ "\""
  else "'" ++ text.replace "'" "'\\''" ++ "'"

/-- A character as it stands between quotes behind a dollar sign. -/
def dollarChar (c : Char) : List Char := if c == '\x1b' then ['\\', 'E'] else quotedChar c

/-- True of a character that a backslash has to stand before, so that a shell reads it as it is;
`first` says that it begins a word. -/
def needsBackslash (first : Bool) (c : Char) : Bool :=
  " !\"$&'()*,;<>?[\\]^\x7b|\x7d".contains c || c == '\x60' || (first && (c == '#' || c == '~'))

/-- A text with backslashes where it needs some, so that a shell reads it as it is. Text that cannot
be printed stands between quotes behind a dollar sign. -/
def escaped (text : String) : String :=
  match text.toList with
  | [] => "''"
  | c :: cs =>
    if (c :: cs).any fun c => c.toNat < 32 || 126 < c.toNat then
      "$'" ++ String.ofList ((c :: cs).flatMap dollarChar) ++ "'"
    else
      let one (first : Bool) (c : Char) : List Char :=
        if needsBackslash first c then ['\\', c] else [c]
      String.ofList (one true c ++ cs.flatMap (one false))

/-- The piece behind a percent sign, and the rest. -/
def directiveAtStart (printer : Printer) (cs : List Char) : Piece × List Char :=
  let flags := cs.takeWhile (flagChars printer).contains
  let (width, rest) := amountAtStart (cs.drop flags.length)
  let (precision, rest) : Amount × List Char :=
    match rest with
    | '.' :: rest =>
      match amountAtStart rest with
      | (.absent, rest) => (.fixed 0, rest)
      | found => found
    | rest => (.absent, rest)
  let written := "%" ++ String.ofList (cs.take (cs.length - rest.length + 1))
  let rest :=
    match printer with
    | .builtin => rest
    | _ => rest.dropWhile "lLhjtz".toList.contains
  match rest with
  | [] => (.broken (.missingConversion written), [])
  | c :: rest =>
    if (conversions printer flags width precision).contains c then
      (.directive ⟨flags, width, precision, c⟩, rest)
    else (.broken (.badConversion written), rest)

/-- The pieces of a format. -/
def pieces (printer : Printer) : Nat → List Char → List Piece
  | 0, _ => []
  | _, [] => []
  | n + 1, '%' :: '%' :: cs => .char '%' :: pieces printer n cs
  | n + 1, '%' :: cs =>
    let (piece, rest) := directiveAtStart printer cs
    piece :: pieces printer n rest
  | n + 1, '\\' :: cs =>
    match printer, cs with
    | .utility, 'c' :: _ => [.stop]
    | .utility, '"' :: rest => .char '"' :: pieces printer n rest
    | _, cs =>
      let (c, rest) := Escape.one printer cs
      .char c :: pieces printer n rest
  | n + 1, c :: cs => .char c :: pieces printer n cs

/-! ## Printing -/

/-- Text brought to a width by blanks. -/
def pad (left : Bool) (width : Nat) (cs : List Char) : List Char :=
  let blanks := List.replicate (width - cs.length) ' '
  if left then cs ++ blanks else blanks ++ cs

/-- Digits brought to a length by zeros. -/
def zeros (length : Nat) (digits : List Char) : List Char :=
  List.replicate (length - digits.length) '0' ++ digits

/-- A number in the form that a directive gives it. -/
def formatNumber (d : Directive) (width : Nat) (precision : Option Nat) (n : Int) : List Char :=
  let unsigned := bitsOf n
  let (sign, digits) :=
    match d.conversion with
    | 'o' => ("", Numeral.digits 8 unsigned)
    | 'u' => ("", Numeral.digits 10 unsigned)
    | 'x' => ("", Numeral.digits 16 unsigned)
    | 'X' => ("", (Numeral.digits 16 unsigned).map Char.toUpper)
    | _ =>
      let sign := if n < 0 then "-" else if d.flags.contains '+' then "+"
        else if d.flags.contains ' ' then " " else ""
      (sign, Numeral.digits 10 n.natAbs)
  let digits := if precision == some 0 && n == 0 then [] else zeros (precision.getD 0) digits
  let mark :=
    if d.flags.contains '#' then
      match d.conversion with
      | 'o' => if digits.head? == some '0' then "" else "0"
      | 'x' => if n == 0 then "" else "0x"
      | 'X' => if n == 0 then "" else "0X"
      | _ => ""
    else ""
  let lead := (sign ++ mark).toList
  if d.flags.contains '0' && !d.flags.contains '-' && precision.isNone then
    lead ++ zeros (width - lead.length) digits
  else pad (d.flags.contains '-') width (lead ++ digits)

/-- What is being printed. -/
structure Printing where
  printer : Printer
  /-- The arguments that are left. -/
  arguments : List String
  /-- The characters so far. -/
  output : List Char
  complaints : List Complaint
  /-- Nothing more is printed. -/
  ended : Bool

/-- The text that has been printed. -/
def Printing.text (p : Printing) : String := String.ofList p.output

/-- True if printing has failed. The utility forgives all complaints when `\c` ends it. -/
def Printing.fails (p : Printing) : Bool :=
  p.complaints.any fun c => if p.ended then c.isFatal p.printer || p.printer == .builtin
    else !c.isWarning p.printer

/-- Adds a complaint. -/
def Printing.complain (p : Printing) (complaint : Complaint) : Printing :=
  { p with
    complaints := p.complaints ++ [complaint]
    ended := p.ended || complaint.isFatal p.printer }

/-- The next argument as text, and the printing without it. -/
def Printing.nextText (p : Printing) : String × Printing :=
  (p.arguments.headD "", { p with arguments := p.arguments.tail })

/-- The number of the character behind a quote. -/
def quotedNumber? (argument : String) : Option Nat :=
  match argument.toList with
  | '\'' :: cs => some (cs.headD '\x00').toNat
  | '"' :: cs => some (cs.headD '\x00').toNat
  | _ => none

/-- Complains about a number of which a rest is left, or that is out of range. -/
def Printing.check (p : Printing) (argument : String) (found : Bool) (rest : List Char)
    (isOutOfRange : Bool) : Printing :=
  let isFirst := p.printer == .utility && found && isOutOfRange
  if !rest.isEmpty && !isFirst then
    p.complain (if found then .notOnlyANumber argument else .notANumber argument)
  else if isOutOfRange then p.complain (.outOfRange argument)
  else p

/-- The next argument as a number, and the printing without it. A quote gives the number of the
character behind it. -/
def Printing.nextNumber (p : Printing) (signed : Bool) : Int × Printing :=
  match p.arguments with
  | [] => (0, p)
  | argument :: arguments =>
    let p := { p with arguments }
    match quotedNumber? argument with
    | some n => (n, p)
    | none =>
      let (value, found, rest) := numberAtStart true argument
      if signed then
        let isOutOfRange := value < leastNumber || greatestNumber < value
        (max leastNumber (min greatestNumber value), p.check argument found rest isOutOfRange)
      else
        let isOutOfRange := UInt64.size ≤ value.natAbs
        (if isOutOfRange then -1 else value, p.check argument found rest isOutOfRange)

/-- The numbers that a printer computes with. -/
def precisionOf (printer : Printer) : Precision :=
  match printer with
  | .builtin => .double
  | _ => .extended

/-- The next argument as a floating-point number, and the printing without it. -/
def Printing.nextFloating (p : Printing) : Floating × Printing :=
  match p.arguments with
  | [] => (.zero, p)
  | argument :: arguments =>
    let p := { p with arguments }
    match quotedNumber? argument, Floating.atStart? (precisionOf p.printer) argument with
    | some n, _ => (.ofNat n, p)
    | none, some found => (found.value, p.check argument true found.rest found.isOutOfRange)
    | none, none => (.zero, p.check argument false argument.toList false)

/-- The greatest width and precision. -/
def mostAmount : Nat := 2147483647

/-- The number that a width or precision comes to. The builtin drops the high bits of an argument
that is out of range. -/
def Printing.amount (isWidth : Bool) (p : Printing) : Amount → Option Int × Printing
  | .absent => (none, p)
  | .fixed n => (some n, if n ≤ mostAmount then p else p.complain .tooLarge)
  | .argument =>
    let (n, next) := p.nextNumber true
    match p.printer with
    | .builtin => (some (n.bmod UInt32.size), next)
    | _ =>
      if n ≤ mostAmount && (!isWidth || -(mostAmount : Int) - 1 ≤ n) then (some n, next)
      else (some 0, next.complain (.badAmount isWidth (p.arguments.headD "")))

/-- Prints the next argument in a form with a width and a precision. -/
def Printing.argument (p : Printing) (d : Directive) (width : Nat) (precision : Option Nat) :
    Printing :=
  let cut (cs : List Char) : List Char := (precision.map cs.take).getD cs
  let print (p : Printing) (cs : List Char) : Printing :=
    { p with output := p.output ++ pad (d.flags.contains '-') width cs }
  match d.conversion with
  | 's' =>
    let (text, p) := p.nextText
    print p (cut text.toList)
  | 'q' =>
    let (text, p) := p.nextText
    print p (if p.printer == .extended then escaped text else quoted text).toList
  | 'b' =>
    let (text, p) := p.nextText
    let (text, ended) := Escape.text p.printer text
    { print p (cut text.toList) with ended }
  | 'c' =>
    let (text, p) := p.nextText
    print p [text.toList.headD '\x00']
  | c =>
    if "aAeEfFgG".contains c then
      let (x, p) := p.nextFloating
      let leadBits := if p.printer == .builtin then 1 else 4
      let style : Floating.Style := ⟨d.flags, width, precision, c, leadBits⟩
      { p with output := p.output ++ (style.text x).toList }
    else
      let (n, p) := p.nextNumber (c == 'd' || c == 'i')
      { p with output := p.output ++ formatNumber d width precision n }

/-- Prints the next argument by a directive. If the width or precision is too large, the argument is
used and nothing is printed. -/
def Printing.directive (p : Printing) (d : Directive) : Printing :=
  let (width, p) := p.amount true d.width
  if p.ended then p
  else
    let (precision, p) := p.amount false d.precision
    let d := if width.getD 0 < 0 then { d with flags := '-' :: d.flags } else d
    let width := (width.getD 0).natAbs
    let precision := (precision.filter (0 ≤ ·)).map Int.toNat
    if p.ended then p
    else if mostAmount < width || mostAmount < precision.getD 0 then p.nextText.2
    else p.argument d width precision

/-- Prints a piece, unless printing is over. -/
def Printing.piece (p : Printing) (piece : Piece) : Printing :=
  if p.ended then p
  else
    match piece with
    | .char c => { p with output := p.output ++ [c] }
    | .directive d => p.directive d
    | .stop => { p with ended := true }
    | .broken complaint => p.complain complaint

/-- Prints the pieces as often as it takes to use up the arguments. Each round uses at least one, so
`rounds` need not exceed their number. -/
def print (pieces : List Piece) : (rounds : Nat) → Printing → Printing
  | 0, p => p
  | rounds + 1, p =>
    let next := pieces.foldl Printing.piece p
    if next.ended then next
    else
      match next.arguments with
      | [] => next
      | first :: rest =>
        if rest.length + 1 < p.arguments.length then print pieces rounds next
        else if p.printer == .utility then next.complain (.unusedArguments first)
        else next

/-- What `printf` prints for a format and arguments. -/
def printf (printer : Printer) (format : String) (arguments : List String) : Printing :=
  print (pieces printer (format.length + 1) format.toList) (arguments.length + 1)
    ⟨printer, arguments, [], [], false⟩

end Format

end PointerTagging.Host
