import PointerTagging.Host.Escape
import PointerTagging.Host.Floating.Digits
import PointerTagging.Host.Format
import PointerTagging.Host.Utility.Options
/-!
# Numbers with units

The utility that converts numbers from and to a form with letters for powers of 1000 or 1024. The
numbers are fractions, so nothing is lost before the last rounding.
-/

namespace PointerTagging.Host.Tool

open Text

/-- How numbers are written. -/
inductive Scale where
  | plain
  /-- With letters for powers of 1000. -/
  | decimal
  /-- With letters for powers of 1024. -/
  | binary
  /-- The same, with another letter behind. -/
  | binaryMarked
  /-- By the letters that stand there. -/
  | any
  deriving DecidableEq, Repr

/-- How a number is rounded that is not whole. -/
inductive Rounding where
  | up
  | down
  | fromZero
  | towardsZero
  | nearest
  deriving DecidableEq, Repr

/-- A number: its sign and a fraction. -/
structure Ratio where
  negative : Bool
  numerator : Nat
  denominator : Nat

/-- The fraction rounded to a whole number. -/
def Ratio.rounded (x : Ratio) (rounding : Rounding) : Nat :=
  let whole := x.numerator / x.denominator
  let hasRest := x.numerator % x.denominator != 0
  let away := if hasRest then whole + 1 else whole
  match rounding with
  | .up => if x.negative then whole else away
  | .down => if x.negative then away else whole
  | .fromZero => away
  | .towardsZero => whole
  | .nearest => if 2 * (x.numerator % x.denominator) ≥ x.denominator then whole + 1 else whole

/-- The letters of the powers. -/
def powerLetters : List Char := "KMGTPEZYRQ".toList

/-- The scale that a word names. -/
def Scale.ofWord? (isSource : Bool) : String → Option Scale
  | "none" => some .plain
  | "si" => some .decimal
  | "iec" => some .binary
  | "iec-i" => some .binaryMarked
  | "auto" => if isSource then some .any else none
  | _ => none

/-- The number at the start of a text: its sign, its digits as a number, how many of these are
behind the point, and the rest. -/
def decimalAtStart? (cs : List Char) : Option (Ratio × Nat × List Char) :=
  let (negative, cs) :=
    match cs with
    | '-' :: cs => (true, cs)
    | cs => (false, cs)
  let whole := cs.takeWhile Char.isDigit
  let cs := cs.drop whole.length
  let (part, cs) :=
    match cs with
    | '.' :: cs =>
      let part := cs.takeWhile Char.isDigit
      (part, cs.drop part.length)
    | cs => ([], cs)
  if whole.isEmpty then none
  else
    (Numeral.valueFrom 10 0 (whole ++ part)).map fun n =>
      (⟨negative, n, Nat.pow 10 part.length⟩, part.length, cs)

/-- The number that a text is in a scale, and how many places it has. -/
def Scale.read (scale : Scale) (text : String) : Except String (Ratio × Nat) :=
  match decimalAtStart? text.toList with
  | none => .error ("invalid number: " ++ quotation text)
  | some (x, places, []) =>
    .ok (x, places)
  | some (x, _, letter :: rest) =>
    match powerLetters.findIdx? (· == if letter == 'k' then 'K' else letter) with
    | none => .error ("invalid suffix in input: " ++ quotation text)
    | some n =>
      let scaled (base : Nat) : Except String (Ratio × Nat) :=
        .ok ({ x with numerator := x.numerator * Nat.pow base (n + 1) }, 0)
      let invalid : Except String (Ratio × Nat) :=
        .error ("invalid suffix in input " ++ quotation text ++ ": " ++
          quotation (String.ofList rest))
      match scale, rest with
      | .plain, _ =>
        .error ("rejecting suffix in input: " ++ quotation text ++ " (consider using --from)")
      | .decimal, [] => scaled 1000
      | .binary, [] => scaled 1024
      | .binaryMarked, ['i'] => scaled 1024
      | .binaryMarked, [] =>
        .error ("missing 'i' suffix in input: " ++ quotation text ++ " (e.g Ki/Mi/Gi)")
      | .any, [] => scaled 1000
      | .any, ['i'] => scaled 1024
      | _, _ => invalid

/-- A number with so many places. -/
def placedText (negative : Bool) (places n : Nat) : String :=
  let digits := Floating.pointed false places (Numeral.digits 10 n)
  String.ofList (if negative && n != 0 then '-' :: digits else digits)

/-- The power of a base by which a number is at least one and below the base, and the number divided
by it. -/
def scaledDown (base : Nat) : Nat → (power : Nat) → Ratio → Nat × Ratio
  | 0, power, x => (power, x)
  | n + 1, power, x =>
    if x.numerator < base * x.denominator then (power, x)
    else scaledDown base n (power + 1) { x with denominator := x.denominator * base }

/-- A number in a scale; `places` are given if a format says so. -/
def Scale.text (scale : Scale) (rounding : Rounding) (places : Option Nat) (own : Nat) (x : Ratio) :
    String :=
  let times (x : Ratio) (places : Nat) : Ratio :=
    { x with numerator := x.numerator * Nat.pow 10 places }
  let base : Option Nat :=
    match scale with
    | .decimal => some 1000
    | .binary => some 1024
    | .binaryMarked => some 1024
    | _ => none
  match base with
  | none =>
    let places := places.getD own
    placedText x.negative places ((times x places).rounded rounding)
  | some base =>
    let (power, y) := scaledDown base 10 0 x
    let ten : Ratio := times y 1
    let isSmall := power > 0 && y.numerator < 10 * y.denominator
    let shown := places.getD (if isSmall then 1 else 0)
    let n := (times y shown).rounded rounding
    let limit := base * Nat.pow 10 shown
    let (power, shown, n) :=
      if n ≥ limit then (power + 1, places.getD 1, Nat.pow 10 (places.getD 1))
      else if isSmall && places.isNone && n ≥ 100 then (power, 0, ten.rounded rounding / 10)
      else (power, shown, n)
    let letter :=
      if power == 0 then ""
      else
        String.ofList ((powerLetters[power - 1]?).toList) ++
          if scale == .binaryMarked then "i" else ""
    placedText x.negative shown n ++ letter

/-- The options of `numfmt`. -/
def numfmtOptions : OptionTable :=
  { letters := "d:z"
    names := [("debug", '\x02'), ("delimiter=", 'd'), ("field=", '\x03'), ("format=", '\x04'),
      ("from=", '\x05'), ("from-unit=", '\x06'), ("grouping", '\x07'), ("header==", '\x08'),
      ("invalid=", '\x0b'), ("padding=", '\x0c'), ("round=", '\x0e'), ("suffix=", '\x0f'),
      ("to=", '\x10'), ("to-unit=", '\x11'), ("zero-terminated", 'z')]
    stopsEarly := false }

/-- How a line of numbers is converted. -/
structure Conversion where
  source : Scale
  target : Scale
  sourceUnit : Nat
  targetUnit : Nat
  rounding : Rounding
  suffix : String
  padding : Int
  places : Option Nat
  lead : String
  trail : String
  field : Nat
  delimiter : Option Char

/-- A number converted. -/
def Conversion.number (c : Conversion) (text : String) : Except String String := do
  let body :=
    if !c.suffix.isEmpty && text.endsWith c.suffix then (text.dropEnd c.suffix.length).toString
    else text
  let (x, places) ← c.source.read body
  let x : Ratio :=
    { x with
      numerator := x.numerator * c.sourceUnit
      denominator := x.denominator * c.targetUnit }
  let isScaled := c.sourceUnit != 1 || c.targetUnit != 1
  let shown :=
    c.lead ++ c.target.text c.rounding c.places (if isScaled then 0 else places) x ++ c.trail ++
      c.suffix
  if c.padding < 0 then return padRight c.padding.natAbs shown
  else return padLeft c.padding.toNat shown

/-- The fields of a line between blanks, each with the blanks before it. -/
def leadingFields : Nat → List Char → List (String × String)
  | 0, _ => []
  | _, [] => []
  | n + 1, cs =>
    let blanks := cs.takeWhile isBlank
    let word := (cs.drop blanks.length).takeWhile (!isBlank ·)
    (String.ofList blanks, String.ofList word) ::
      leadingFields n (cs.drop (blanks.length + word.length))

/-- A line with the number in its field converted. -/
def Conversion.line (c : Conversion) (line : String) : Except String String := do
  match c.delimiter with
  | some d =>
    let parts := line.splitOn (String.ofList [d])
    let parts ← (parts.zipIdx 1).mapM fun (part, n) =>
      if n == c.field then c.number part else .ok part
    return (String.ofList [d]).intercalate parts
  | none =>
    let parts ← ((leadingFields (line.length + 1) line.toList).zipIdx 1).mapM
      fun ((blanks, word), n) => do
        if n == c.field then return (if n == 1 then "" else blanks) ++ (← c.number word)
        else return blanks ++ word
    return String.join parts

/-- The refusal of a word as the value of an option. -/
def refusedWord (view : View) (word option : String) (known : List String) : Outcome :=
  let lines := known.map fun k => "  - " ++ quotation k ++ "\n"
  { Outcome.quiet 1 with
    errors :=
      view.complaint ("invalid argument " ++ quotation word ++ " for " ++ quotation option) ++
      "Valid arguments are:\n" ++ String.join lines ++ view.hint }

/-- Converts numbers. -/
def numfmt (view : View) : Outcome :=
  view.withOptions 1 numfmtOptions fun arguments =>
    let source := (arguments.value? '\x05').getD "none"
    let target := (arguments.value? '\x10').getD "none"
    let unit (letter : Char) : Nat := ((arguments.value? letter).bind amount?).getD 1
    let rounding : Rounding :=
      match (arguments.value? '\x0e').getD "" with
      | "up" => .up
      | "down" => .down
      | "towards-zero" => .towardsZero
      | "nearest" => .nearest
      | _ => .fromZero
    let format := ((arguments.value? '\x04').getD "%f").toList
    let lead := format.takeWhile (· != '%')
    let behind := format.drop (lead.length + 1)
    let flags := behind.takeWhile "-0' ".toList.contains
    let width := (behind.drop flags.length).takeWhile Char.isDigit
    let rest := behind.drop (flags.length + width.length)
    let (places, rest) :=
      match rest with
      | '.' :: rest =>
        let digits := rest.takeWhile Char.isDigit
        (Numeral.valueFrom 10 0 digits, rest.drop digits.length)
      | rest => (none, rest)
    let widthNumber : Int := ((Numeral.valueFrom 10 0 width).getD 0 : Nat)
    let ownPadding : Int := if flags.contains '-' then -widthNumber else widthNumber
    match Scale.ofWord? true source, Scale.ofWord? false target with
    | none, _ => refusedWord view source "--from" ["none", "auto", "si", "iec", "iec-i"]
    | _, none => refusedWord view target "--to" ["none", "si", "iec", "iec-i"]
    | some source, some target =>
      let conversion : Conversion :=
        { source, target, rounding, places
          sourceUnit := unit '\x06'
          targetUnit := unit '\x11'
          suffix := (arguments.value? '\x0f').getD ""
          padding := (((arguments.value? '\x0c').bind String.toInt?)).getD ownPadding
          lead := String.ofList lead
          trail := String.ofList (rest.drop 1)
          field := ((arguments.value? '\x03').bind amount?).getD 1
          delimiter := (arguments.value? 'd').bind (·.toList.head?) }
      let lines := if arguments.operands.isEmpty then linesOf view.input else arguments.operands
      let stops := ((arguments.value? '\x0b').getD "abort") == "abort"
      let silent := arguments.value? '\x0b' == some "ignore"
      let one (outcome : Outcome) (line : String) : Outcome :=
        if outcome.code != 0 && stops then outcome
        else
          match conversion.line line with
          | .ok text => outcome.print (text ++ "\n")
          | .error complaint =>
            let outcome := if stops then outcome else outcome.print (line ++ "\n")
            if silent then outcome else outcome.complaining 2 (view.complaint complaint)
      lines.foldl one { Outcome.quiet 0 with drains := arguments.operands.isEmpty }

end PointerTagging.Host.Tool
