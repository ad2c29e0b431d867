/-!
# Numerals

Unsigned numerals in base 10 and 16: reading one below a bound, and writing a number with as few
digits as it needs or with a fixed number of them.
-/

namespace PointerTagging.Text.Numeral

/-- The value of an ASCII digit or letter as a digit of `base`. -/
def digit? (base : Nat) (c : Char) : Option Nat :=
  let d :=
    if '0' ≤ c ∧ c ≤ '9' then c.toNat - '0'.toNat
    else if 'a' ≤ c ∧ c ≤ 'z' then c.toNat - 'a'.toNat + 10
    else if 'A' ≤ c ∧ c ≤ 'Z' then c.toNat - 'A'.toNat + 10
    else base
  if d < base then some d else none

/-- The number that the digits go on to spell after `value`. -/
def valueFrom (base : Nat) : Nat → List Char → Option Nat
  | value, [] => some value
  | value, c :: cs => (digit? base c).bind fun d => valueFrom base (value * base + d) cs

/-- A numeral's text without its sign: one `+` may stand in front. -/
def unsigned : List Char → List Char
  | '+' :: cs => cs
  | cs => cs

/-- Reads an optional `+` and one or more digits of `base` whose value is below `bound`. -/
def read? (base bound : Nat) (cs : List Char) : Option Nat :=
  match unsigned cs with
  | [] => none
  | c :: cs => (valueFrom base 0 (c :: cs)).filter (· < bound)

/-- The text behind `0x` or `0X`, if it begins so. -/
def hexBody? : List Char → Option (List Char)
  | '0' :: 'x' :: cs => some cs
  | '0' :: 'X' :: cs => some cs
  | _ => none

/-- The character of a digit below 16, letters in lower case. -/
def digitChar (d : Nat) : Char :=
  if d < 10 then Char.ofNat ('0'.toNat + d) else Char.ofNat ('a'.toNat + (d - 10))

/-- The digits of `n`, as few as it takes, at least one. -/
def digits (base n : Nat) : List Char :=
  if n < base ∨ base < 2 then [digitChar n]
  else digits base (n / base) ++ [digitChar (n % base)]
termination_by n
decreasing_by exact Nat.div_lt_self (by omega) (by omega)

/-- The last `width` digits of `n`, zeros in front. -/
def padded (base : Nat) : (width n : Nat) → List Char
  | 0, _ => []
  | width + 1, n => padded base width (n / base) ++ [digitChar (n % base)]

/-- `n` in base 10. -/
def decimal (n : Nat) : String := String.ofList (digits 10 n)

/-- `n` in base 16 behind `0x`, as few digits as it takes. -/
def hex (n : Nat) : String := "0x" ++ String.ofList (digits 16 n)

/-- `n` in base 16 behind `0x`, with exactly `width` digits. -/
def hexPadded (width n : Nat) : String := "0x" ++ String.ofList (padded 16 width n)

end PointerTagging.Text.Numeral
