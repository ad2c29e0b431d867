import PointerTagging.Host.Format
import PointerTagging.Host.Scripting.Grammar
import PointerTagging.Host.Floating.Digits
/-!
# Values of scripts

The single values, what they are as numbers, as texts and as truth values, the operators on them,
and the texts of values in a given form.
-/

namespace PointerTagging.Host.Scripting

open Text

/-- A single value. -/
inductive Value where
  | missing
  | whole (n : Int)
  | real (x : Float)
  | text (s : String)
  /-- A number with a text of its own. -/
  | dual (n : Int) (s : String)
  /-- A reference to an object by its number. -/
  | reference (kind : Kind) (id : Nat)
  | stream (name : String)
  | pattern (text flags : String)
  deriving Repr

/-- A value as a number. -/
inductive Number where
  | whole (n : Int)
  | real (x : Float)
  deriving Repr

namespace Number

/-- The number as one with a floating point. -/
def toFloat : Number → Float
  | .whole n => (Floating.ofInt n).toFloat
  | .real x => x

/-- True of zero. -/
def isZero : Number → Bool
  | .whole n => n == 0
  | .real x => x == 0.0

/-- The number as a value. -/
def toValue : Number → Value
  | .whole n => .whole n
  | .real x => .real x

/-- The least whole number that is kept exactly. -/
def leastWhole : Int := -9223372036854775808

/-- The greatest whole number that is kept exactly. -/
def mostWhole : Int := 18446744073709551615

/-- A whole number, exact if it is within the bounds. -/
def ofInt (n : Int) : Number :=
  if leastWhole ≤ n && n ≤ mostWhole then .whole n else .real (Floating.ofInt n).toFloat

/-- The whole part of a number, within the bounds. -/
def toInt : Number → Int
  | .whole n => n
  | .real x =>
    match (Floating.ofFloat x).truncate? with
    | some n => max leastWhole (min n mostWhole)
    | none => if x > 0.0 then mostWhole else if x < 0.0 then leastWhole else 0

/-- The bits of the whole part of a number. -/
def toBits (x : Number) : Nat := (x.toInt % 18446744073709551616).toNat

/-- The text of a number. -/
def text : Number → String
  | .whole n => toString n
  | .real x =>
    match Floating.ofFloat x with
    | .infinite negative => if negative then "-Inf" else "Inf"
    | .undefined _ => "NaN"
    | y => if y.isZero then "0" else Floating.toText 15 y

/-- The number at the start of a text, and true if nothing but blanks follows. -/
def atStart (s : String) : Number × Bool :=
  let cs := s.toList.dropWhile fun c => c == ' ' || ('\t' ≤ c && c ≤ '\r')
  let sign := cs.head? == some '-'
  let body := if sign || cs.head? == some '+' then cs.drop 1 else cs
  let digits := body.takeWhile Char.isDigit
  let rest := body.drop digits.length
  let isBlank (cs : List Char) : Bool := cs.all fun c => c == ' ' || ('\t' ≤ c && c ≤ '\r')
  let isFraction := rest.head?.any fun c => c == '.' || c == 'e' || c == 'E'
  let isWord := body.head?.any fun c => "iInN".toList.contains c
  if digits.isEmpty && !isFraction && !isWord then (.whole 0, false)
  else if isFraction || isWord then
    match Floating.atStart? .double (String.ofList cs) with
    | some found => (.real found.value.toFloat, isBlank found.rest)
    | none => (.whole 0, false)
  else
    let n : Int := ((Numeral.valueFrom 10 0 digits).getD 0 : Nat)
    (ofInt (if sign then -n else n), isBlank rest)

end Number

namespace Value

/-- A truth value. -/
def ofBool (b : Bool) : Value := if b then .whole 1 else .dual 0 ""

/-- A natural number. -/
def ofNat (n : Nat) : Value := .whole n

/-- The address that is shown of an object. -/
def addressOf (id : Nat) : Nat := 0x55d0c0a01000 + 24 * id

/-- The word that is shown of references to a kind. -/
def kindWord : Kind → String
  | .scalar => "SCALAR"
  | .array => "ARRAY"
  | .hash => "HASH"
  | .code => "CODE"

/-- The flags of a pattern that are shown. -/
def shownFlags (flags : String) : String :=
  String.ofList ("msixn".toList.filter flags.toList.contains)

/-- The text of a value. -/
def toText : Value → String
  | .missing => ""
  | .whole n => toString n
  | .real x => (Number.real x).text
  | .text s => s
  | .dual _ s => s
  | .reference kind id => kindWord kind ++ "(" ++ Numeral.hex (addressOf id) ++ ")"
  | .stream _ => "GLOB(0x55d0c0a00f18)"
  | .pattern source flags => "(?^" ++ shownFlags flags ++ ":" ++ source ++ ")"

/-- The number of a value. -/
def toNumber : Value → Number
  | .missing => .whole 0
  | .whole n => .whole n
  | .real x => .real x
  | .text s => (Number.atStart s).1
  | .dual n _ => .whole n
  | .reference _ id => .whole (addressOf id)
  | .stream _ => .whole 0x55d0c0a00f18
  | .pattern .. => .whole 0x55d0c0a00f18

/-- The whole number of a value. -/
def toInt (value : Value) : Int := value.toNumber.toInt

/-- True of a value that counts as true. -/
def isTrue : Value → Bool
  | .missing => false
  | .whole n => n != 0
  | .real x => x != 0.0
  | .text s => !(s.isEmpty || s == "0")
  | .dual _ s => !(s.isEmpty || s == "0")
  | _ => true

/-- True of a value that is there. -/
def isDefined : Value → Bool
  | .missing => false
  | _ => true

/-- True of a value that is a number or looks like one. -/
def looksNumeric : Value → Bool
  | .whole _ => true
  | .real _ => true
  | .dual .. => true
  | .text s => (Number.atStart s).2
  | _ => false

end Value

/-! ## Operators -/

/-- Why an operator has no value. -/
inductive Failure where
  | divisionByZero
  | remainderByZero
  deriving DecidableEq, Repr

/-- The text of a failure. -/
def Failure.text : Failure → String
  | .divisionByZero => "Illegal division by zero"
  | .remainderByZero => "Illegal modulus zero"

/-- An operation on numbers that is exact on whole ones. -/
def arithmetic (whole : Int → Int → Int) (real : Float → Float → Float) (a b : Number) : Value :=
  match a, b with
  | .whole m, .whole n => (Number.ofInt (whole m n)).toValue
  | a, b => .real (real a.toFloat b.toFloat)

/-- How two numbers compare; none if one of them is not a number. -/
def compareNumbers (a b : Number) : Option Ordering :=
  match a, b with
  | .whole m, .whole n => some (Ord.compare m n)
  | a, b =>
    let x := a.toFloat
    let y := b.toFloat
    if x < y then some .lt else if x > y then some .gt else if x == y then some .eq else none

/-- The value of an order. -/
def orderValue : Ordering → Value
  | .lt => .whole (-1)
  | .eq => .whole 0
  | .gt => .whole 1

/-- A power. That of a whole number is exact if it cannot have more than 64 bits; a power of two is
only whole below the first number that a floating point skips. -/
def powerOf (a b : Number) : Value :=
  let real (x : Float) : Value :=
    let bound : Float := 9007199254740992.0
    if x.floor == x && -bound < x && x < bound then .whole ((Floating.ofFloat x).truncate?.getD 0)
    else .real x
  match a, b with
  | .whole m, .whole n =>
    let size := m.natAbs
    let isPowerOfTwo := size &&& (size - 1) == 0
    if n ≥ 0 && !isPowerOfTwo && Floating.bitLength size * n.toNat ≤ 64 then
      let magnitude : Int := Nat.pow size n.toNat
      (Number.ofInt (if m < 0 && n % 2 == 1 then -magnitude else magnitude)).toValue
    else real (a.toFloat ^ b.toFloat)
  | a, b => .real (a.toFloat ^ b.toFloat)

/-- A text several times. -/
def duplicated (s : String) (n : Int) : String := String.join (List.replicate n.toNat s)

/-- An operation on the bits of two values: those of their texts if neither is a number. -/
def bitwise (whole : Nat → Nat → Nat) (isShort : Bool) (a b : Value) : Value :=
  match a, b with
  | .text s, .text t =>
    let length := if isShort then min s.length t.length else max s.length t.length
    let bits (u : String) (i : Nat) : Nat := ((u.toList[i]?).map Char.toNat).getD 0
    let chars := (List.range length).map fun i => Char.ofNat (whole (bits s i) (bits t i))
    .text (String.ofList chars)
  | a, b => .whole (whole a.toNumber.toBits b.toNumber.toBits)

/-- A shift to the left; a negative one is a shift to the right. -/
def shifted (bits : Nat) (n : Int) : Nat :=
  if n ≤ -64 || n ≥ 64 then 0
  else if n ≥ 0 then (bits <<< n.toNat) % 18446744073709551616
  else bits >>> n.natAbs

/-- The value of an operator. -/
def Operator.apply (operator : Operator) (a b : Value) : Except Failure Value :=
  let x := a.toNumber
  let y := b.toNumber
  let test (f : Ordering → Bool) : Value := .ofBool ((compareNumbers x y).any f)
  let textOrder := Ord.compare (a.toText.toList.map Char.toNat) (b.toText.toList.map Char.toNat)
  match operator with
  | .add => .ok (arithmetic (· + ·) (· + ·) x y)
  | .subtract => .ok (arithmetic (· - ·) (· - ·) x y)
  | .multiply => .ok (arithmetic (· * ·) (· * ·) x y)
  | .divide =>
    if y.isZero then .error .divisionByZero
    else
      match x, y with
      | .whole m, .whole n =>
        if m % n == 0 then .ok (Number.ofInt (m / n)).toValue
        else .ok (.real (x.toFloat / y.toFloat))
      | x, y => .ok (.real (x.toFloat / y.toFloat))
  | .remainder =>
    if y.toInt == 0 then .error .remainderByZero
    else .ok (.whole (x.toInt.fmod y.toInt))
  | .power => .ok (powerOf x y)
  | .concatenate => .ok (.text (a.toText ++ b.toText))
  | .duplicate => .ok (.text (duplicated a.toText y.toInt))
  | .shiftLeft => .ok (.whole (shifted x.toBits y.toInt))
  | .shiftRight => .ok (.whole (shifted x.toBits (-y.toInt)))
  | .bitAnd => .ok (bitwise (· &&& ·) true a b)
  | .bitOr => .ok (bitwise (· ||| ·) false a b)
  | .bitXor => .ok (bitwise (· ^^^ ·) false a b)
  | .equal => .ok (test (· == .eq))
  | .different => .ok (.ofBool (compareNumbers x y != some .eq))
  | .less => .ok (test (· == .lt))
  | .greater => .ok (test (· == .gt))
  | .atMost => .ok (test (· != .gt))
  | .atLeast => .ok (test (· != .lt))
  | .compare => .ok (((compareNumbers x y).map orderValue).getD .missing)
  | .sameText => .ok (.ofBool (textOrder == .eq))
  | .otherText => .ok (.ofBool (textOrder != .eq))
  | .before => .ok (.ofBool (textOrder == .lt))
  | .behind => .ok (.ofBool (textOrder == .gt))
  | .notBehind => .ok (.ofBool (textOrder != .gt))
  | .notBefore => .ok (.ofBool (textOrder != .lt))
  | .compareText => .ok (orderValue textOrder)
  | .exclusive => .ok (.ofBool (a.isTrue != b.isTrue))

/-- The value of a sign. -/
def Sign.apply (sign : Sign) (a : Value) : Value :=
  match sign with
  | .plus => a
  | .not => .ofBool (!a.isTrue)
  | .complement => .whole (18446744073709551615 - a.toNumber.toBits)
  | .minus =>
    match a with
    | .text s =>
      match s.toList with
      | [] => .whole 0
      | c :: cs =>
        if c.isAlpha || c == '_' then .text ("-" ++ s)
        else if c == '-' && cs.head?.any Char.isAlpha then .text ("+" ++ String.ofList cs)
        else (arithmetic (· - ·) (· - ·) (.whole 0) a.toNumber)
    | a =>
      match a.toNumber with
      | .whole n => (Number.ofInt (-n)).toValue
      | .real x => .real (-x)

/-- The text that follows a text of letters and digits; both are given from behind. -/
def textBehind : List Char → List Char
  | [] => []
  | c :: cs =>
    let carried (zero one : Char) : List Char :=
      match cs with
      | [] => [zero, one]
      | cs => zero :: textBehind cs
    if c == 'z' then carried 'a' 'a'
    else if c == 'Z' then carried 'A' 'A'
    else if c == '9' then carried '0' '1'
    else Char.ofNat (c.toNat + 1) :: cs

/-- A value with one more. -/
def Value.next (value : Value) : Value :=
  let number : Value := arithmetic (· + ·) (· + ·) value.toNumber (.whole 1)
  match value with
  | .text s =>
    let cs := s.toList
    let letters := cs.takeWhile Char.isAlpha
    if !letters.isEmpty && (cs.drop letters.length).all Char.isDigit then
      .text (String.ofList (textBehind cs.reverse).reverse)
    else number
  | _ => number

/-! ## Values in a form -/

/-- A width or a precision in a form: a number, or the next value. -/
inductive Amount where
  | absent
  | fixed (n : Nat)
  | given

/-- Reads a width or a precision. -/
def amountAtStart (cs : List Char) : Amount × List Char :=
  match cs with
  | '*' :: cs => (.given, cs)
  | cs =>
    let digits := cs.takeWhile Char.isDigit
    if digits.isEmpty then (.absent, cs)
    else (.fixed ((Numeral.valueFrom 10 0 digits).getD 0), cs.drop digits.length)

/-- The amount itself, and the values that are left. -/
def Amount.taken (amount : Amount) (values : List Value) : Option Int × List Value :=
  match amount with
  | .absent => (none, values)
  | .fixed n => (some n, values)
  | .given => (some ((values.headD .missing).toInt), values.drop 1)

/-- The digits of a number in base 2. -/
def binaryText (flags : List Char) (precision : Option Nat) (letter : Char) (n : Nat) : List Char :=
  let digits := Format.zeros (precision.getD 0) (Numeral.digits 2 n)
  if flags.contains '#' && n != 0 then '0' :: letter :: digits else digits

/-- A value under a conversion. -/
def converted (flags : List Char) (width : Nat) (precision : Option Nat) (letter : Char)
    (value : Value) : List Char :=
  let left := flags.contains '-'
  let placed (cs : List Char) : List Char :=
    if flags.contains '0' && !left then List.replicate (width - cs.length) '0' ++ cs
    else Format.pad left width cs
  let whole (letter : Char) (n : Int) : List Char :=
    Format.formatNumber ⟨flags, .absent, .absent, letter⟩ width precision n
  match letter with
  | 'c' => placed [Char.ofNat (value.toInt.toNat % 256)]
  | 's' =>
    let cs := value.toText.toList
    placed ((precision.map cs.take).getD cs)
  | 'b' => placed (binaryText flags precision 'b' value.toNumber.toBits)
  | 'B' => placed (binaryText flags precision 'B' value.toNumber.toBits)
  | letter =>
    if letter == 'd' || letter == 'i' then
      match value.toNumber with
      | .real x =>
        if x.isFinite then whole 'd' value.toInt
        else Format.pad left width (Number.text (.real x)).toList
      | .whole n => whole 'd' n
    else if "ouxX".toList.contains letter then whole letter value.toNumber.toBits
    else
      let style : Floating.Style := ⟨flags, width, precision, letter, 1⟩
      match value.toNumber with
      | .real x =>
        if x.isFinite then (style.text (Floating.ofFloat x)).toList
        else Format.pad left width (Number.text (.real x)).toList
      | .whole n => (style.text (Floating.round .double (Floating.ofInt n))).toList

/-- A form with its values in place. -/
def formatted : Nat → List Char → (all rest : List Value) → List Char
  | 0, _, _, _ => []
  | _, [], _, _ => []
  | n + 1, '%' :: '%' :: cs, all, rest => '%' :: formatted n cs all rest
  | n + 1, '%' :: cs, all, rest =>
    let place := cs.takeWhile Char.isDigit
    let (place?, cs) :=
      match cs.drop place.length with
      | '$' :: more => ((Numeral.valueFrom 10 0 place), more)
      | _ => (none, cs)
    let flags := cs.takeWhile "-+ #0".toList.contains
    let (width, cs) := amountAtStart (cs.drop flags.length)
    let (precision, cs) :=
      match cs with
      | '.' :: cs =>
        match amountAtStart cs with
        | (.absent, cs) => (Amount.fixed 0, cs)
        | found => found
      | cs => (.absent, cs)
    let cs := cs.dropWhile "lhqLV".toList.contains
    let (width, rest) := width.taken rest
    let (precision, rest) := precision.taken rest
    let flags := if width.any (· < 0) then '-' :: flags else flags
    let precision := precision.bind fun p => if p < 0 then none else some p.toNat
    match cs with
    | [] => ['%']
    | letter :: cs =>
      if !"csdiuoxXbBeEfFgGaA".toList.contains letter then
        '%' :: letter :: formatted n cs all rest
      else
        let (value, rest) :=
          match place? with
          | some k => ((all[k - 1]?).getD .missing, rest)
          | none => (rest.headD .missing, rest.drop 1)
        converted flags ((width.map Int.natAbs).getD 0) precision letter value ++
          formatted n cs all rest
  | n + 1, c :: cs, all, rest => c :: formatted n cs all rest

end PointerTagging.Host.Scripting
