import PointerTagging.Text.Numeral
/-!
# Floating-point numbers

Numbers whose value is a whole number times a power of two, rounded to a given number of bits. A
result that lies half way between two numbers goes to the one whose last bit is zero.
-/

namespace PointerTagging.Host

open Text

/-- A floating-point number. -/
inductive Floating where
  /-- `mantissa` times two to the power of `exponent`. -/
  | finite (negative : Bool) (mantissa : Nat) (exponent : Int)
  | infinite (negative : Bool)
  /-- The result of an operation that has none. -/
  | undefined (negative : Bool)
  deriving DecidableEq, Repr

/-- Which numbers a format holds. -/
structure Precision where
  /-- The number of bits of a mantissa. -/
  bits : Nat
  /-- The exponent of the smallest number above zero. -/
  least : Int
  /-- All finite numbers are below two to this power. -/
  bound : Int

/-- The numbers of 64 bits. -/
def Precision.double : Precision := ⟨53, -1074, 1024⟩

/-- The numbers of 80 bits. -/
def Precision.extended : Precision := ⟨64, -16445, 16384⟩

namespace Floating

/-- The number zero. -/
def zero : Floating := .finite false 0 0

/-- A natural number. -/
def ofNat (n : Nat) : Floating := .finite false n 0

/-- A whole number. -/
def ofInt (n : Int) : Floating := .finite (n < 0) n.natAbs 0

/-- True of numbers with a minus sign. -/
def isNegative : Floating → Bool
  | .finite negative _ _ => negative
  | .infinite negative => negative
  | .undefined negative => negative

/-- True of zero. -/
def isZero : Floating → Bool
  | .finite _ mantissa _ => mantissa == 0
  | _ => false

/-- A quotient rounded to a natural number. -/
def roundedQuotient (numerator denominator : Nat) : Nat :=
  let quotient := numerator / denominator
  let twice := 2 * (numerator % denominator)
  if twice < denominator then quotient
  else if twice > denominator then quotient + 1
  else quotient + quotient % 2

/-- A fraction times two to the power of `-shift`, rounded to a natural number. -/
def roundedShift (numerator denominator : Nat) (shift : Int) : Nat :=
  if shift ≥ 0 then roundedQuotient numerator (denominator <<< shift.toNat)
  else roundedQuotient (numerator <<< (-shift).toNat) denominator

/-- The number of bits of a natural number. -/
def bitLength (n : Nat) : Nat := if n == 0 then 0 else n.log2 + 1

/-- A fraction rounded to a precision. -/
def ofFraction (p : Precision) (negative : Bool) (numerator denominator : Nat) : Floating :=
  if numerator == 0 || denominator == 0 then .finite negative 0 0
  else
    let size : Int := (bitLength numerator : Int) - bitLength denominator
    let near := max (size - p.bits) p.least
    let mantissa := roundedShift numerator denominator near
    let exponent := if bitLength mantissa > p.bits then max (near + 1) p.least else near
    let mantissa :=
      if exponent == near then mantissa else roundedShift numerator denominator exponent
    if (bitLength mantissa : Int) + exponent > p.bound then .infinite negative
    else .finite negative mantissa exponent

/-- A number rounded to a precision. -/
def round (p : Precision) : Floating → Floating
  | .finite negative mantissa exponent =>
    if exponent ≥ 0 then ofFraction p negative (mantissa <<< exponent.toNat) 1
    else ofFraction p negative mantissa (1 <<< (-exponent).toNat)
  | x => x

/-- A number as a whole number times two to the power of an exponent that is not above its own. -/
def scaled (mantissa : Nat) (exponent least : Int) : Nat := mantissa <<< (exponent - least).toNat

/-- The sum of two numbers. -/
def add (p : Precision) : Floating → Floating → Floating
  | .undefined negative, _ => .undefined negative
  | _, .undefined negative => .undefined negative
  | .infinite a, .infinite b => if a == b then .infinite a else .undefined true
  | .infinite a, _ => .infinite a
  | _, .infinite b => .infinite b
  | .finite a m e, .finite b n f =>
    let least := min e f
    let signed (negative : Bool) (n : Nat) : Int := if negative then -(n : Int) else n
    let sum := signed a (scaled m e least) + signed b (scaled n f least)
    if sum == 0 then .finite (a && b) 0 0
    else round p (.finite (sum < 0) sum.natAbs least)

/-- The product of two numbers. -/
def multiply (p : Precision) : Floating → Floating → Floating
  | .undefined negative, _ => .undefined negative
  | _, .undefined negative => .undefined negative
  | .finite a m e, .finite b n f => round p (.finite (a != b) (m * n) (e + f))
  | a, b =>
    if a.isZero || b.isZero then .undefined true else .infinite (a.isNegative != b.isNegative)

/-- The order of two numbers, if they have one. -/
def compare? : Floating → Floating → Option Ordering
  | .undefined _, _ => none
  | _, .undefined _ => none
  | .infinite a, .infinite b => some (Ord.compare b.toNat a.toNat)
  | .infinite a, _ => some (if a then .lt else .gt)
  | _, .infinite b => some (if b then .gt else .lt)
  | .finite a m e, .finite b n f =>
    let least := min e f
    let signed (negative : Bool) (n : Nat) : Int := if negative then -(n : Int) else n
    some (Ord.compare (signed a (scaled m e least)) (signed b (scaled n f least)))

/-- True if a number is less than another one. -/
def isLess (a b : Floating) : Bool := compare? a b == some .lt

/-- The whole part of a number, if it is finite. -/
def truncate? : Floating → Option Int
  | .finite negative mantissa exponent =>
    let n : Nat :=
      if exponent ≥ 0 then mantissa <<< exponent.toNat else mantissa >>> (-exponent).toNat
    some (if negative then -(n : Int) else n)
  | _ => none

/-! ## Numbers in texts -/

/-- A number read from the start of a text. -/
structure Found where
  value : Floating
  /-- The text means a number that the format does not hold. -/
  isOutOfRange : Bool
  rest : List Char

/-- The digits at the start of a text, with those behind a point: their value, how many stand behind
the point, how many there are, and the rest. -/
def digitsAtStart (base : Nat) (cs : List Char) : Nat × Nat × Nat × List Char :=
  let isDigit (c : Char) : Bool := (Numeral.digit? base c).isSome
  let whole := cs.takeWhile isDigit
  let (part, rest) : List Char × List Char :=
    match cs.drop whole.length with
    | '.' :: rest => (rest.takeWhile isDigit, rest.dropWhile isDigit)
    | rest => ([], rest)
  ((Numeral.valueFrom base 0 (whole ++ part)).getD 0, part.length, whole.length + part.length, rest)

/-- The exponent behind a letter, if one stands there, and the rest. -/
def exponentAtStart (letter : Char) (cs : List Char) : Int × List Char :=
  match cs with
  | c :: rest =>
    if c.toLower != letter then (0, cs)
    else
      let (negative, digits) :=
        match rest with
        | '-' :: digits => (true, digits)
        | '+' :: digits => (false, digits)
        | digits => (false, digits)
      let text := digits.takeWhile Char.isDigit
      if text.isEmpty then (0, cs)
      else
        let n : Int := (min ((Numeral.valueFrom 10 0 text).getD 0) 1000000 : Nat)
        (if negative then -n else n, digits.drop text.length)
  | [] => (0, [])

/-- The number that a value times a power of ten is. -/
def ofDecimal (p : Precision) (negative : Bool) (value : Nat) (power : Int) : Floating :=
  let size : Int := (bitLength value : Int) / 3 + power
  if value == 0 || size < -6000 then .finite negative 0 0
  else if size > 12000 then .infinite negative
  else if power ≥ 0 then ofFraction p negative (value * Nat.pow 10 power.toNat) 1
  else ofFraction p negative value (Nat.pow 10 (-power).toNat)

/-- The number that a value times a power of two is. -/
def ofBinary (p : Precision) (negative : Bool) (value : Nat) (power : Int) : Floating :=
  let size : Int := (bitLength value : Int) + power
  if value == 0 || size < -20000 then .finite negative 0 0
  else if size > 20000 then .infinite negative
  else if power ≥ 0 then ofFraction p negative (value <<< power.toNat) 1
  else ofFraction p negative value (1 <<< (-power).toNat)

/-- True of a value above zero whose number is zero, nearly zero or infinite. -/
def isLost (p : Precision) (value : Nat) (number : Floating) : Bool :=
  match number with
  | .finite _ mantissa exponent =>
    value != 0 && (bitLength mantissa : Int) + exponent < p.least + p.bits
  | _ => true

/-- A text without a word at its start, in any case of letters. -/
def behindWord? (word : String) (cs : List Char) : Option (List Char) :=
  if (cs.take word.length).map Char.toLower == word.toList then some (cs.drop word.length)
  else none

/-- The rest of a text behind the word for a number that is undefined, and what may stand between
parentheses behind it. -/
def behindUndefined (cs : List Char) : List Char :=
  match cs with
  | '(' :: rest =>
    match rest.dropWhile fun c => c.isAlphanum || c == '_' with
    | ')' :: rest => rest
    | _ => cs
  | cs => cs

/-- The number without a sign at the start of a text. -/
def magnitudeAtStart? (p : Precision) (negative : Bool) (cs : List Char) : Option Found :=
  match behindWord? "infinity" cs, behindWord? "inf" cs, behindWord? "nan" cs with
  | some rest, _, _ => some ⟨.infinite negative, false, rest⟩
  | none, some rest, _ => some ⟨.infinite negative, false, rest⟩
  | none, none, some rest => some ⟨.undefined negative, false, behindUndefined rest⟩
  | none, none, none =>
    let hexadecimal : Option Found := do
      let body ← Numeral.hexBody? cs
      let (value, places, count, rest) := digitsAtStart 16 body
      guard (count > 0)
      let (power, rest) := exponentAtStart 'p' rest
      let number := ofBinary p negative value (power - 4 * places)
      return ⟨number, isLost p value number, rest⟩
    hexadecimal.orElse fun _ => do
      let (value, places, count, rest) := digitsAtStart 10 cs
      guard (count > 0)
      let (power, rest) := exponentAtStart 'e' rest
      let number := ofDecimal p negative value (power - places)
      return ⟨number, isLost p value number, rest⟩

/-- The number at the start of a text, behind white space and a sign. -/
def atStart? (p : Precision) (text : String) : Option Found :=
  match text.toList.dropWhile fun c => c == ' ' || ('\t' ≤ c && c ≤ '\r') with
  | '-' :: cs => magnitudeAtStart? p true cs
  | '+' :: cs => magnitudeAtStart? p false cs
  | cs => magnitudeAtStart? p false cs

/-! ## The numbers of the processor -/

/-- The number that 64 bits stand for. -/
def ofFloat (x : Float) : Floating :=
  let bits := x.toBits.toNat
  let negative := bits >>> 63 == 1
  let exponent := (bits >>> 52) % 2048
  let fraction := bits % (1 <<< 52)
  if exponent == 2047 then (if fraction == 0 then .infinite negative else .undefined negative)
  else if exponent == 0 then .finite negative fraction (-1074)
  else .finite negative (fraction + (1 <<< 52)) ((exponent : Int) - 1075)

/-- The number as 64 bits. -/
def toFloat (x : Floating) : Float :=
  match x with
  | .infinite negative => if negative then -1.0 / 0.0 else 1.0 / 0.0
  | .undefined _ => 0.0 / 0.0
  | x =>
    match round .double x with
    | .finite negative mantissa exponent =>
      let magnitude := Float.scaleB (Float.ofNat mantissa) exponent
      if negative then -magnitude else magnitude
    | .infinite negative => if negative then -1.0 / 0.0 else 1.0 / 0.0
    | .undefined _ => 0.0 / 0.0

end Floating

end PointerTagging.Host
