import PointerTagging.Host.Escape
import PointerTagging.Host.Floating.Digits
import PointerTagging.Host.Utility.Options
/-!
# Sequences of numbers

The utilities that print the numbers between two, and the prime factors of numbers.
-/

namespace PointerTagging.Host.Tool

open Text

/-! ## Formats -/

/-- A format for one number: the text before it, its style, and the text behind it. -/
structure NumberFormat where
  lead : String
  style : Floating.Style
  trail : String

namespace NumberFormat

/-- The text of a number. -/
def text (format : NumberFormat) (x : Floating) : String :=
  format.lead ++ format.style.text x ++ format.trail

/-- The style without flags. -/
def plain (letter : Char) (width : Nat) (precision : Option Nat) (flags : List Char) :
    NumberFormat := ⟨"", ⟨flags, width, precision, letter, 4⟩, ""⟩

/-- The text before the first directive of a format, and what follows its sign. -/
def literalPart : List Char → List Char × Option (List Char)
  | [] => ([], none)
  | '%' :: '%' :: cs =>
    let (text, rest) := literalPart cs
    ('%' :: text, rest)
  | '%' :: cs => ([], some cs)
  | c :: cs =>
    let (text, rest) := literalPart cs
    (c :: text, rest)

/-- The format that a text describes, or what is wrong with it. -/
def parse (text : String) : Except String NumberFormat :=
  let complain (what : String) : Except String NumberFormat :=
    .error ("format " ++ quotation text ++ " " ++ what)
  match literalPart text.toList with
  | (_, none) => complain "has no % directive"
  | (lead, some cs) =>
    let flags := cs.takeWhile "-+#0 '".toList.contains
    let cs := cs.drop flags.length
    let width := cs.takeWhile Char.isDigit
    let cs := cs.drop width.length
    let (precision, cs) :=
      match cs with
      | '.' :: cs =>
        let digits := cs.takeWhile Char.isDigit
        (some ((Numeral.valueFrom 10 0 digits).getD 0), cs.drop digits.length)
      | cs => (none, cs)
    let cs := if cs.head? == some 'L' then cs.drop 1 else cs
    match cs with
    | [] => complain "ends in %"
    | letter :: cs =>
      if !"aAeEfFgG".toList.contains letter then
        complain ("has unknown %" ++ String.ofList [letter] ++ " directive")
      else
        match literalPart cs with
        | (_, some _) => complain "has too many % directives"
        | (trail, none) =>
          let width := (Numeral.valueFrom 10 0 width).getD 0
          .ok ⟨String.ofList lead, ⟨flags, width, precision, letter, 4⟩, String.ofList trail⟩

end NumberFormat

/-! ## Sequences -/

/-- A number that is given as text: its value, the width of the text, and the number of places
behind the point if it is known. -/
structure Operand where
  value : Floating
  width : Nat
  places : Option Nat

namespace Operand

/-- The exponent in the text of a number. -/
def exponentOf (cs : List Char) : Int :=
  let digits := cs.filter Char.isDigit
  let n : Int := ((Numeral.valueFrom 10 0 digits).getD 0 : Nat)
  if cs.head? == some '-' then -n else n

/-- The number that a text is. -/
def parse? (text : String) : Option Operand := do
  let found ← Floating.atStart? .extended text
  guard found.rest.isEmpty
  let cs := text.toList.dropWhile fun c => isSpace c || c == '+'
  let hasPoint := cs.contains '.'
  let isFinite :=
    match found.value with
    | .finite .. => true
    | _ => false
  if cs.any "xX".toList.contains || !isFinite then
    return ⟨found.value, 0, if hasPoint || cs.contains 'p' then none else some 0⟩
  let isExponent (c : Char) : Bool := c == 'e' || c == 'E'
  let body := cs.takeWhile (!isExponent ·)
  let whole := body.takeWhile (· != '.')
  let part := (body.dropWhile (· != '.')).drop 1
  let width : Int := (body.length : Int) +
    if !hasPoint then 0
    else if part.isEmpty then -1
    else if (whole.getLast?.any Char.isDigit) then 0 else 1
  if body.length == cs.length then return ⟨found.value, width.toNat, some part.length⟩
  let exponent := exponentOf (cs.drop (body.length + 1))
  let places : Int :=
    if exponent < 0 then part.length - exponent else part.length - min (part.length : Int) exponent
  let change : Int :=
    if exponent < 0 then
      (if !hasPoint || part.isEmpty then 1 else 0) - exponent
    else
      (if hasPoint && places == 0 && !part.isEmpty then -1 else 0) +
        (exponent - min (part.length : Int) exponent)
  return ⟨found.value, (width + change).toNat, some places.toNat⟩

end Operand

/-- How a sequence is printed if nothing is said: with as many places as the first number and the
step have, and all of one width if `isEven`. -/
def usualFormat (isEven : Bool) (first step last : Operand) : NumberFormat :=
  match first.places, step.places, last.places with
  | some a, some b, some c =>
    let places := max a b
    if isEven then
      let point (n : Nat) : Nat := if n == 0 && places > 0 then 1 else 0
      let firstWidth := first.width + (places - a) + point a
      let lastWidth := last.width + places + point c - c - (if c > 0 && places == 0 then 1 else 0)
      .plain 'f' (max firstWidth lastWidth) (some places) ['0']
    else .plain 'f' 0 (some places) []
  | some a, some b, none =>
    if isEven then .plain 'g' 0 none [] else .plain 'f' 0 (some (max a b)) []
  | _, _, _ => .plain 'g' 0 none []

/-- True if a number is behind the last one. -/
def isPast (step last x : Floating) : Bool :=
  if step.isNegative then x.isLess last else last.isLess x

/-- The texts of the numbers of a sequence from the `i`-th on. A number past the last one is printed
too if it looks like the last one, but not like the one before it. -/
def sequence (format : NumberFormat) (first step last : Floating) :
    Nat → (i : Nat) → (previous : String) → List String
  | 0, _, _ => []
  | n + 1, i, previous =>
    let x := first.add .extended (Floating.multiply .extended (.ofNat i) step)
    let text := format.text x
    if isPast step last x then
      let body := ((text.drop format.lead.length).dropEnd format.trail.length).toString
      let looksLast := (Floating.atStart? .extended body).any fun found =>
        found.value.compare? last == some .eq
      if i > 0 && looksLast && text != previous then [text] else []
    else text :: sequence format first step last n (i + 1) text

/-- The longest sequence. -/
def longestSequence : Nat := 1000000

/-- The words with a mark before the first number, so that no sign is taken for an option. -/
def markNumbers : List String → List String
  | [] => []
  | "-f" :: value :: words => "-f" :: value :: markNumbers words
  | "-s" :: value :: words => "-s" :: value :: markNumbers words
  | word :: words =>
    match word.toList with
    | '-' :: c :: _ =>
      if c.isDigit || c == '.' then "--" :: word :: words else word :: markNumbers words
    | _ => word :: words

/-- The options of `seq`. -/
def seqOptions : OptionTable :=
  { letters := "f:s:w"
    names := [("equal-width", 'w'), ("format=", 'f'), ("separator=", 's')]
    stopsEarly := true }

/-- Prints a sequence of numbers. -/
def seq (view : View) : Outcome :=
  { view with arguments := markNumbers view.arguments }.withOptions 1 seqOptions fun arguments =>
    let format? := (arguments.value? 'f').map NumberFormat.parse
    let words := arguments.operands
    let one : Operand := ⟨.ofNat 1, 1, some 0⟩
    let invalid (word : String) : Outcome :=
      match Floating.atStart? .extended word with
      | some ⟨.undefined _, _, []⟩ =>
        view.misused 1 ("invalid 'not-a-number' argument: " ++ quotation word)
      | _ => view.misused 1 ("invalid floating point argument: " ++ quotation word)
    let isNumber (word : String) : Bool :=
      match Operand.parse? word with
      | some ⟨.undefined _, _, _⟩ => false
      | some _ => true
      | none => false
    match words[3]?, format?, words.find? (!isNumber ·), words.filterMap Operand.parse? with
    | some word, _, _, _ => view.misused 1 ("extra operand " ++ quotation word)
    | none, some (.error complaint), _, _ => view.failing 1 complaint
    | none, _, some word, _ => invalid word
    | none, format, none, operands =>
      let (first, step, last?) :=
        match operands with
        | [last] => (one, one, some last)
        | [first, last] => (first, one, some last)
        | first :: step :: rest => (first, step, rest.head?)
        | [] => (one, one, none)
      match last? with
      | none => view.lacking
      | some last =>
        if format.isSome && arguments.has 'w' then
          view.misused 1 "format string may not be specified when printing equal width strings"
        else if step.value.isZero then
          view.misused 1 ("invalid Zero increment value: " ++ quotation ((words[1]?).getD ""))
        else
          let usual := usualFormat (arguments.has 'w') first step last
          let format := ((format.bind Except.toOption).getD usual)
          let texts := sequence format first.value step.value last.value longestSequence 0 ""
          let separator := (arguments.value? 's').getD "\n"
          if texts.isEmpty then .quiet 0 else .printing (separator.intercalate texts ++ "\n")

/-! ## Factors -/

/-- The prime factors of a number that are at least `d`, the smallest first. -/
def factorsFrom : Nat → (d n : Nat) → List Nat
  | 0, _, n => if n > 1 then [n] else []
  | fuel + 1, d, n =>
    if n < 2 then []
    else if d * d > n then [n]
    else if n % d == 0 then d :: factorsFrom fuel d (n / d)
    else factorsFrom fuel (if d == 2 then 3 else d + 2) n

/-- How many divisors are tried. -/
def mostDivisors : Nat := 4000000

/-- Prints the prime factors of numbers. -/
def factor (view : View) : Outcome :=
  view.withOptions 1 ⟨"h", [("exponents", 'h')], false⟩ fun arguments =>
    let isRead := arguments.operands.isEmpty
    let words := if isRead then blankFields view.input else arguments.operands
    let power (factors : List Nat) (p : Nat) : String :=
      let count := factors.count p
      toString p ++ if count > 1 then "^" ++ toString count else ""
    let one (outcome : Outcome) (word : String) : Outcome :=
      let digits := word.toList.dropWhile fun c => isSpace c || c == '+'
      match digits.isEmpty, Numeral.valueFrom 10 0 digits with
      | false, some n =>
        let factors := factorsFrom mostDivisors 2 n
        let shown :=
          if arguments.has 'h' then factors.eraseDups.map (power factors)
          else factors.map toString
        outcome.print (toString n ++ ":" ++ String.join (shown.map (" " ++ ·)) ++ "\n")
      | _, _ =>
        outcome.complaining 1
          (view.complaint (quotation word ++ " is not a valid positive integer"))
    { words.foldl one (.quiet 0) with drains := isRead }

end PointerTagging.Host.Tool
