import PointerTagging.Host.Floating
/-!
# The digits of floating-point numbers

Numbers as text: with a fixed number of places, with an exponent, or with as many digits as are
asked for.
-/

namespace PointerTagging.Host.Floating

open Text

/-- How a number is written. -/
structure Style where
  flags : List Char
  width : Nat
  precision : Option Nat
  /-- The letter of the form: `f`, `e`, `g` or `a`, or one of these as a capital. -/
  letter : Char
  /-- How many bits the first digit holds in base 16. -/
  leadBits : Nat

/-- A finite number times a power of ten as a fraction. -/
def fraction (mantissa : Nat) (exponent power : Int) : Nat × Nat :=
  let numerator := mantissa <<< exponent.toNat * Nat.pow 10 power.toNat
  let denominator := (1 <<< (-exponent).toNat) * Nat.pow 10 (-power).toNat
  (numerator, denominator)

/-- A finite number times a power of ten, rounded to a natural number. -/
def roundedTimes (mantissa : Nat) (exponent power : Int) : Nat :=
  let (numerator, denominator) := fraction mantissa exponent power
  roundedQuotient numerator denominator

/-- The power of ten of the first digit of a number that is not zero. -/
def leadingPower (mantissa : Nat) (exponent : Int) : Int :=
  let (numerator, denominator) := fraction mantissa exponent 0
  let size (n : Nat) : Int := ((Numeral.digits 10 n).length : Nat)
  let power := size numerator - size denominator
  let isAtMost :=
    denominator * Nat.pow 10 power.toNat ≤ numerator * Nat.pow 10 (-power).toNat
  if isAtMost then power else power - 1

/-- The digits of a number with as many behind the first one as are asked for, and the power of ten
of the first one. -/
def significant (mantissa : Nat) (exponent : Int) (places : Nat) : List Char × Int :=
  if mantissa == 0 then (List.replicate (places + 1) '0', 0)
  else
    let power := leadingPower mantissa exponent
    let digits := Numeral.digits 10 (roundedTimes mantissa exponent (places - power))
    if digits.length > places + 1 then (digits.take (places + 1), power + 1) else (digits, power)

/-- Digits with a point before the last ones; without any of these the point is there only if it is
asked for. -/
def pointed (hasPoint : Bool) (places : Nat) (digits : List Char) : List Char :=
  let digits := List.replicate (places + 1 - digits.length) '0' ++ digits
  let whole := digits.take (digits.length - places)
  let part := digits.drop (digits.length - places)
  if part.isEmpty && !hasPoint then whole else whole ++ '.' :: part

/-- A number with a fixed number of places. -/
def fixed (hasPoint : Bool) (places mantissa : Nat) (exponent : Int) : List Char :=
  pointed hasPoint places (Numeral.digits 10 (roundedTimes mantissa exponent places))

/-- An exponent of at least some digits behind a letter. -/
def exponentText (letter : Char) (width : Nat) (power : Int) : List Char :=
  let digits := Numeral.digits 10 power.natAbs
  letter :: (if power < 0 then '-' else '+') ::
    (List.replicate (width - digits.length) '0' ++ digits)

/-- A number with an exponent. -/
def scientific (hasPoint : Bool) (places mantissa : Nat) (exponent : Int) : List Char :=
  let (digits, power) := significant mantissa exponent places
  pointed hasPoint places digits ++ exponentText 'e' 2 power

/-- A text with a point without the zeros at its end, and without the point if nothing follows. -/
def withoutZeros (cs : List Char) : List Char :=
  if cs.contains '.' then
    match cs.reverse.dropWhile (· == '0') with
    | '.' :: rest => rest.reverse
    | rest => rest.reverse
  else cs

/-- A number with as many digits as are asked for, in the shorter of the two other forms. -/
def general (keepsZeros : Bool) (digits mantissa : Nat) (exponent : Int) : List Char :=
  let digits := max digits 1
  let (found, power) := significant mantissa exponent (digits - 1)
  if power < -4 || power ≥ digits then
    let body := pointed keepsZeros (digits - 1) found
    (if keepsZeros then body else withoutZeros body) ++ exponentText 'e' 2 power
  else
    let places := ((digits : Int) - 1 - power).toNat
    let body := pointed keepsZeros places found
    if keepsZeros then body else withoutZeros body

/-- A number in base 16 with an exponent of two. The first digit holds some of the highest bits. -/
def hexadecimal (leadBits : Nat) (hasPoint : Bool) (places : Option Nat) (mantissa : Nat)
    (exponent : Int) : List Char :=
  if mantissa == 0 then
    "0x0".toList ++ (if places.getD 0 > 0 then '.' :: List.replicate (places.getD 0) '0'
      else if hasPoint then ['.'] else []) ++ "p+0".toList
  else
    let size := bitLength mantissa
    let digitsBehind := size / 4 + 1
    let aligned := mantissa <<< (4 * digitsBehind + leadBits - size)
    let power := exponent + (size : Int) - leadBits
    let (digits, power) : List Char × Int :=
      match places with
      | none =>
        let digits := Numeral.digits 16 aligned
        (digits.take 1 ++ ((digits.drop 1).reverse.dropWhile (· == '0')).reverse, power)
      | some places =>
        let rounded := roundedQuotient (aligned <<< (4 * places)) (1 <<< (4 * digitsBehind))
        let digits := Numeral.digits 16 rounded
        if digits.length > places + 1 then (digits.take (places + 1), power + 4)
        else (digits, power)
    "0x".toList ++ pointed hasPoint (digits.length - 1) digits ++ exponentText 'p' 1 power

/-- A number in a style. -/
def Style.text (style : Style) (x : Floating) : String :=
  let has (c : Char) : Bool := style.flags.contains c
  let sign :=
    if x.isNegative then "-" else if has '+' then "+" else if has ' ' then " " else ""
  let places := style.precision.getD 6
  let body : List Char :=
    match x with
    | .infinite _ => "inf".toList
    | .undefined _ => "nan".toList
    | .finite _ mantissa exponent =>
      match style.letter.toLower with
      | 'f' => fixed (has '#') places mantissa exponent
      | 'e' => scientific (has '#') places mantissa exponent
      | 'g' => general (has '#') places mantissa exponent
      | _ => hexadecimal style.leadBits (has '#') style.precision mantissa exponent
  let body := if style.letter.isUpper then body.map Char.toUpper else body
  let isFinite := match x with
    | .finite .. => true
    | _ => false
  let lead := sign.toList ++ if body.take 2 == ['0', 'x'] || body.take 2 == ['0', 'X']
    then body.take 2 else []
  let rest := body.drop (lead.length - sign.length)
  let room := style.width - (lead.length + rest.length)
  if has '-' then String.ofList (lead ++ rest ++ List.replicate room ' ')
  else if has '0' && isFinite then String.ofList (lead ++ List.replicate room '0' ++ rest)
  else String.ofList (List.replicate room ' ' ++ lead ++ rest)

/-- A number in the general form with some digits. -/
def toText (digits : Nat) (x : Floating) : String := (Style.mk [] 0 (some digits) 'g' 1).text x

end PointerTagging.Host.Floating
