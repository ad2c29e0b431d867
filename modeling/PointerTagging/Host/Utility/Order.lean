import PointerTagging.Host.Floating
import PointerTagging.Host.Utility.Options
/-!
# The order of lines

Lines are ordered by keys: parts of them that are compared as texts, numbers, amounts, months or
versions.
-/

namespace PointerTagging.Host.Tool

open Text

/-- How keys are compared. -/
inductive KeyOrder where
  | text
  | numeric
  | floating
  | amount
  | month
  | version
  deriving DecidableEq, Repr

/-- A limit of a key: a field and a character in it, both from 0, and whether blanks in front of the
field do not count. -/
structure KeyLimit where
  field : Nat
  character : Nat
  skipsBlanks : Bool
  deriving Repr

/-- A part of a line by which lines are compared. -/
structure SortKey where
  first : KeyLimit
  /-- The limit behind the key: without it the key reaches to the end of the line. -/
  last : Option KeyLimit
  order : KeyOrder
  onlyWords : Bool
  ignoresCase : Bool
  onlyPrinted : Bool
  isReversed : Bool
  deriving Repr

namespace SortKey

/-- The text behind some fields. -/
def behindFields (tab : Option Char) : Nat → List Char → List Char
  | 0, cs => cs
  | _, [] => []
  | n + 1, cs =>
    match tab with
    | some c => behindFields tab n ((cs.dropWhile (· != c)).drop 1)
    | none => behindFields tab n ((cs.dropWhile isBlank).dropWhile (!isBlank ·))

/-- The text behind the end of some fields, before the delimiter that may follow. -/
def atFieldEnd (tab : Option Char) : Nat → List Char → List Char
  | 0, cs => cs
  | _, [] => []
  | n + 1, cs =>
    match tab with
    | some c =>
      let rest := cs.dropWhile (· != c)
      if n == 0 then rest else atFieldEnd tab n (rest.drop 1)
    | none => atFieldEnd tab n ((cs.dropWhile isBlank).dropWhile (!isBlank ·))

/-- What is left of a line from a limit on. -/
def fromLimit (tab : Option Char) (limit : KeyLimit) (cs : List Char) : List Char :=
  let rest := behindFields tab limit.field cs
  (if limit.skipsBlanks then rest.dropWhile isBlank else rest).drop limit.character

/-- What is left of a line behind the limit of a key. -/
def behindLimit (tab : Option Char) (limit : KeyLimit) (cs : List Char) : List Char :=
  if limit.character == 0 then atFieldEnd tab (limit.field + 1) cs
  else fromLimit tab limit cs

/-- The part of a line that a key means. -/
def part (key : SortKey) (tab : Option Char) (cs : List Char) : List Char :=
  let start := fromLimit tab key.first cs
  match key.last with
  | none => start
  | some limit => start.take (start.length - (behindLimit tab limit cs).length)

/-- A number at the start of a text: its sign, the digits before the point and those behind it. -/
def numberParts (cs : List Char) : Bool × List Char × List Char × List Char :=
  let cs := cs.dropWhile isBlank
  let (negative, cs) : Bool × List Char :=
    match cs with
    | '-' :: rest => (true, rest)
    | cs => (false, cs)
  let whole := cs.takeWhile Char.isDigit
  let rest := cs.drop whole.length
  let (places, rest) : List Char × List Char :=
    match rest with
    | '.' :: behind => (behind.takeWhile Char.isDigit, behind.dropWhile Char.isDigit)
    | rest => ([], rest)
  (negative, whole, places, rest)

/-- The order of the numbers that two texts begin with. -/
def compareNumeric (a b : List Char) : Ordering :=
  let (s, w, p, _) := numberParts a
  let (t, v, q, _) := numberParts b
  let places := max p.length q.length
  let value (negative : Bool) (whole part : List Char) : Int :=
    let digits := whole ++ part ++ List.replicate (places - part.length) '0'
    let n : Int := ((Numeral.valueFrom 10 0 digits).getD 0 : Nat)
    if negative then -n else n
  compare (value s w p) (value t v q)

/-- The rank of the unit behind a number. -/
def unitRank (cs : List Char) : Nat :=
  match cs with
  | 'k' :: _ => 1
  | c :: _ => if "KMGTPEZYRQ".contains c then ("KMGTPEZYRQ".toList.idxOf c) + 1 else 0
  | [] => 0

/-- The order of the amounts that two texts begin with: first by sign and unit. -/
def compareAmounts (a b : List Char) : Ordering :=
  let rank (cs : List Char) : Int :=
    let (negative, whole, places, rest) := numberParts cs
    let isZero := (whole ++ places).all (· == '0')
    let n : Int := if isZero then 0 else (unitRank rest : Int) + 1
    if negative then -n else n
  (compare (rank a) (rank b)).then (compareNumeric a b)

/-- The order of the floating-point numbers that two texts begin with: texts without one come first,
then numbers that are undefined. -/
def compareFloating (a b : List Char) : Ordering :=
  match Floating.atStart? .extended (String.ofList a),
    Floating.atStart? .extended (String.ofList b) with
  | none, none => .eq
  | none, some _ => .lt
  | some _, none => .gt
  | some x, some y =>
    match Floating.compare? x.value y.value, x.value, y.value with
    | some order, _, _ => order
    | none, .undefined _, .undefined _ => .eq
    | none, .undefined _, _ => .lt
    | none, _, _ => .gt

/-- The number of the month that a text begins with, 0 if it is none. -/
def monthOf (cs : List Char) : Nat :=
  let name := String.ofList (((cs.dropWhile isBlank).take 3).map Char.toUpper)
  let months :=
    ["JAN", "FEB", "MAR", "APR", "MAY", "JUN", "JUL", "AUG", "SEP", "OCT", "NOV", "DEC"]
  if months.contains name then months.idxOf name + 1 else 0

/-- The weight of the first character of what is left of a version. -/
def versionWeight (cs : List Char) : Int :=
  match cs with
  | [] => -1
  | c :: _ =>
    if c.isDigit then 0
    else if c.isAlpha then c.toNat
    else if c == '~' then -2
    else (c.toNat : Int) + 256

/-- The order of two versions: digits are compared as numbers, other parts by characters. -/
def compareVersions : Nat → List Char → List Char → Ordering
  | 0, _, _ => .eq
  | n + 1, a, b =>
    let isOther (cs : List Char) : Bool := !cs.isEmpty && !cs.head?.any Char.isDigit
    if a.isEmpty && b.isEmpty then .eq
    else if isOther a || isOther b then
      if versionWeight a != versionWeight b then compare (versionWeight a) (versionWeight b)
      else compareVersions n (a.drop 1) (b.drop 1)
    else
      let number (cs : List Char) : Nat :=
        (Numeral.valueFrom 10 0 (cs.takeWhile Char.isDigit)).getD 0
      match a, b with
      | [], _ => .lt
      | _, [] => .gt
      | a, b =>
        (compare (number a) (number b)).then
          (compareVersions n (a.dropWhile Char.isDigit) (b.dropWhile Char.isDigit))

/-- The number of characters of a name in front of what counts as its suffix: parts of letters and
digits that each begin with a point and a letter. -/
def versionLength (cs : List Char) : Nat :=
  let isStart (c : Char) : Bool := c.isAlpha || c == '~'
  let parts := (String.ofList cs).splitOn "."
  let isPart (part : String) : Bool :=
    part.toList.head?.any isStart && part.toList.all fun c => c.isAlphanum || c == '~'
  let trail := parts.reverse.takeWhile isPart
  let trail := if trail.length == parts.length then trail.dropLast else trail
  let length := cs.length - trail.foldl (fun n part => n + part.length + 1) 0
  if length == 0 then (parts.headD "").length + 1 + ((parts[1]?).getD "").length else length

/-- The order of two names by the versions that they hold. -/
def compareNames (a b : String) : Ordering :=
  let compare (a b : List Char) : Ordering := compareVersions (a.length + b.length + 1) a b
  let rank (name : String) : Nat :=
    if name.isEmpty then 0
    else if name == "." then 1
    else if name == ".." then 2
    else if name.startsWith "." then 3 else 4
  let bare (name : String) : List Char := name.toList.take (versionLength name.toList)
  (Ord.compare (rank a) (rank b)).then
    ((compare (bare a) (bare b)).then (compare a.toList b.toList))

/-- The order of two texts by their bytes. -/
def compareTexts (a b : List Char) : Ordering :=
  compare (String.ofList a) (String.ofList b)

/-- The order of two lines by a key. -/
def compareLines (key : SortKey) (tab : Option Char) (a b : List Char) : Ordering :=
  let a := key.part tab a
  let b := key.part tab b
  let kept (cs : List Char) : List Char :=
    let cs := if key.onlyWords then cs.filter fun c => isBlank c || c.isAlphanum else cs
    let cs :=
      if key.onlyPrinted then cs.filter fun c => 32 ≤ c.toNat && c.toNat < 127 else cs
    if key.ignoresCase then cs.map Char.toUpper else cs
  let order :=
    match key.order with
    | .text => compareTexts (kept a) (kept b)
    | .numeric => compareNumeric a b
    | .floating => compareFloating a b
    | .amount => compareAmounts a b
    | .month => compare (monthOf a) (monthOf b)
    | .version => compareNames (String.ofList (kept a)) (String.ofList (kept b))
  if key.isReversed then order.swap else order

end SortKey

/-- How lines are sorted. -/
structure Sorting where
  keys : List SortKey
  tab : Option Char
  isReversed : Bool
  isStable : Bool
  isUnique : Bool

namespace Sorting

/-- The order of two lines by the keys. -/
def byKeys (sorting : Sorting) (a b : String) : Ordering :=
  sorting.keys.foldl
    (fun order key => order.then (key.compareLines sorting.tab a.toList b.toList)) .eq

/-- The order of two lines. Lines with equal keys are compared as a whole, unless they keep their
places. -/
def compare (sorting : Sorting) (a b : String) : Ordering :=
  let order := sorting.byKeys a b
  if order != .eq || (!sorting.keys.isEmpty && (sorting.isStable || sorting.isUnique)) then order
  else
    let order := Ord.compare a b
    if sorting.isReversed then order.swap else order

/-- Lines without those that count as equal to the one before. -/
def dropRepeated (sorting : Sorting) : List String → List String
  | a :: b :: rest =>
    if sorting.compare a b == .eq then
      match dropRepeated sorting (b :: rest) with
      | _ :: kept => a :: kept
      | [] => [a]
    else a :: dropRepeated sorting (b :: rest)
  | lines => lines

/-- Sorted lines. -/
def apply (sorting : Sorting) (lines : List String) : List String :=
  let sorted := lines.mergeSort fun a b => sorting.compare a b != .gt
  if sorting.isUnique then sorting.dropRepeated sorted else sorted

/-- The lines of texts that are sorted already, merged. -/
def merge (sorting : Sorting) (texts : List (List String)) : List String :=
  let merged :=
    texts.foldl (fun all lines => all.merge lines fun a b => sorting.compare a b != .gt) []
  if sorting.isUnique then sorting.dropRepeated merged else merged

/-- The first line that is out of order, with its number. -/
def disorder? (sorting : Sorting) : (number : Nat) → List String → Option (Nat × String)
  | number, a :: b :: rest =>
    let order := sorting.compare a b
    if order == .gt || (sorting.isUnique && order == .eq) then some (number + 1, b)
    else disorder? sorting (number + 1) (b :: rest)
  | _, _ => none

end Sorting

end PointerTagging.Host.Tool
