import PointerTagging.Host.Escape
import PointerTagging.Host.Floating.Digits
import PointerTagging.Host.Utility.Showing
/-!
# Bytes shown one by one

The utilities that show the bytes of texts as numbers, and that find the first one in which two
texts differ.
-/

namespace PointerTagging.Host.Tool

open Text

/-! ## Units -/

/-- How a unit of some bytes is shown. -/
inductive UnitForm where
  | named
  | character
  | signed
  | unsigned
  | octal
  | hexadecimal
  | floating
  deriving DecidableEq, Repr

/-- A way to show bytes: the form and the number of the bytes of a unit, and whether the characters
are shown behind them. -/
structure UnitType where
  form : UnitForm
  size : Nat
  hasText : Bool
  deriving DecidableEq, Repr

/-- The names of the characters that are not printed. -/
def characterNames : List String :=
  ["nul", "soh", "stx", "etx", "eot", "enq", "ack", "bel", "bs", "ht", "nl", "vt", "ff", "cr",
    "so", "si", "dle", "dc1", "dc2", "dc3", "dc4", "nak", "syn", "etb", "can", "em", "sub", "esc",
    "fs", "gs", "rs", "us", "sp"]

/-- A character as `od -c` shows it. -/
def dumped (c : Char) : String :=
  match c with
  | '\x00' => "\\0"
  | '\x07' => "\\a"
  | '\x08' => "\\b"
  | '\x0c' => "\\f"
  | '\n' => "\\n"
  | '\r' => "\\r"
  | '\t' => "\\t"
  | '\x0b' => "\\v"
  | c =>
    if 32 ≤ c.toNat && c.toNat < 127 then String.ofList [c]
    else String.ofList (Numeral.padded 8 3 c.toNat)

namespace UnitType

/-- The numbers that a unit of some bytes can be as a floating-point number. -/
def precision (size : Nat) : Precision := if size == 4 then ⟨24, -149, 128⟩ else .double

/-- The number that the bits of a unit stand for. -/
def floatingOf (size n : Nat) : Floating :=
  let (fractionBits, exponentBits) : Nat × Nat := if size == 4 then (23, 8) else (52, 11)
  let fraction := n % (1 <<< fractionBits)
  let exponent := (n >>> fractionBits) % (1 <<< exponentBits)
  let negative := n >>> (fractionBits + exponentBits) == 1
  let bias : Int := (1 <<< (exponentBits - 1) : Nat) - 1 + (fractionBits : Int)
  if exponent + 1 == 1 <<< exponentBits then
    (if fraction == 0 then .infinite negative else .undefined negative)
  else if exponent == 0 then .finite negative fraction (1 - bias)
  else .finite negative (fraction + (1 <<< fractionBits)) ((exponent : Int) - bias)

/-- The shortest text of at least some digits that reads back as the number. -/
def shortest (p : Precision) (x : Floating) : Nat → Nat → String
  | 0, digits => x.toText digits
  | n + 1, digits =>
    let text := x.toText digits
    match Floating.atStart? p text with
    | some found => if Floating.compare? found.value x == some .eq then text
      else shortest p x n (digits + 1)
    | none => text

/-- The width of a unit, the blank in front of it apart. -/
def width (type : UnitType) : Nat :=
  let bySize (a b c d : Nat) : Nat :=
    match type.size with
    | 1 => a
    | 2 => b
    | 4 => c
    | _ => d
  match type.form with
  | .named => 3
  | .character => 3
  | .signed => bySize 4 6 11 20
  | .unsigned => bySize 3 5 10 20
  | .octal => bySize 3 6 11 22
  | .hexadecimal => bySize 2 4 8 16
  | .floating => bySize 15 15 15 24

/-- A unit as text. -/
def shown (type : UnitType) (bytes : List Char) : String :=
  let n := (bytes.reverse).foldl (fun n c => n * 256 + c.toNat) 0
  let range := 1 <<< (8 * type.size)
  match type.form with
  | .named =>
    let c := n % 128
    if c == 127 then "del"
    else (characterNames[c]?).getD (String.ofList [Char.ofNat c])
  | .character => dumped (Char.ofNat n)
  | .signed => toString (if 2 * n ≥ range then (n : Int) - range else (n : Int))
  | .unsigned => toString n
  | .octal => String.ofList (Numeral.padded 8 type.width n)
  | .hexadecimal => String.ofList (Numeral.padded 16 type.width n)
  | .floating =>
    let x := floatingOf type.size n
    shortest (precision type.size) x 20 (if type.size == 4 then 6 else 15)

/-- The type that letters say, and what follows them. -/
def atStart? (cs : List Char) : Option (UnitType × List Char) :=
  let finish (form : UnitForm) (size : Nat) (rest : List Char) : UnitType × List Char :=
    match rest with
    | 'z' :: rest => (⟨form, size, true⟩, rest)
    | rest => (⟨form, size, false⟩, rest)
  let sized (form : UnitForm) (rest : List Char) : Option (UnitType × List Char) :=
    match rest with
    | 'C' :: rest => some (finish form 1 rest)
    | 'S' :: rest => some (finish form 2 rest)
    | 'I' :: rest => some (finish form 4 rest)
    | 'L' :: rest => some (finish form 8 rest)
    | rest =>
      let digits := rest.takeWhile Char.isDigit
      let size := if digits.isEmpty then some 4 else Numeral.valueFrom 10 0 digits
      match size with
      | some size =>
        if [1, 2, 4, 8].contains size then some (finish form size (rest.drop digits.length))
        else none
      | none => none
  match cs with
  | 'a' :: rest => some (finish .named 1 rest)
  | 'c' :: rest => some (finish .character 1 rest)
  | 'd' :: rest => sized .signed rest
  | 'u' :: rest => sized .unsigned rest
  | 'o' :: rest => sized .octal rest
  | 'x' :: rest => sized .hexadecimal rest
  | 'f' :: 'F' :: rest => some (finish .floating 4 rest)
  | 'f' :: 'D' :: rest => some (finish .floating 8 rest)
  | 'f' :: '4' :: rest => some (finish .floating 4 rest)
  | 'f' :: '8' :: rest => some (finish .floating 8 rest)
  | 'f' :: rest => some (finish .floating 8 rest)
  | _ => none

/-- The types that a text says. -/
def list? : Nat → List Char → Option (List UnitType)
  | 0, _ => none
  | _, [] => some []
  | n + 1, cs => do
    let (type, rest) ← atStart? cs
    return type :: (← list? n rest)

/-- The type that an option with a letter of its own stands for. -/
def ofLetter? (c : Char) : Option UnitType :=
  match c with
  | 'a' => some ⟨.named, 1, false⟩
  | 'b' => some ⟨.octal, 1, false⟩
  | 'c' => some ⟨.character, 1, false⟩
  | 'd' => some ⟨.unsigned, 2, false⟩
  | 'f' => some ⟨.floating, 4, false⟩
  | 'i' => some ⟨.signed, 4, false⟩
  | 'l' => some ⟨.signed, 8, false⟩
  | 'o' => some ⟨.octal, 2, false⟩
  | 's' => some ⟨.signed, 2, false⟩
  | 'x' => some ⟨.hexadecimal, 2, false⟩
  | _ => none

end UnitType

/-! ## Dumps -/

/-- How bytes are shown. -/
structure Dump where
  types : List UnitType
  /-- The base of the addresses, if there are any. -/
  addressBase : Option Nat
  lineLength : Nat
  /-- Lines like the one before are shown too. -/
  showsAll : Bool

namespace Dump

/-- The room of an address. -/
def addressWidth (dump : Dump) : Nat := if dump.addressBase == some 16 then 6 else 7

/-- An address. -/
def address (dump : Dump) (offset : Nat) : String :=
  match dump.addressBase with
  | none => ""
  | some base =>
    let digits := Numeral.digits base offset
    String.ofList (List.replicate (dump.addressWidth - digits.length) '0' ++ digits)

/-- Bytes in units of a size; the last unit is brought to the size by null characters. -/
def units (size : Nat) : Nat → List Char → List (List Char)
  | 0, _ => []
  | n + 1, cs =>
    if cs.isEmpty then []
    else
      let unit := cs.take size
      (unit ++ List.replicate (size - unit.length) '\x00') :: units size n (cs.drop size)

/-- The widest room that a line takes in one of the types. -/
def lineWidth (dump : Dump) : Nat :=
  dump.types.foldl (fun n type => max n ((type.width + 1) * (dump.lineLength / type.size))) 0

/-- Bytes in a type. Units are moved apart so that all types take the same room. -/
def showIn (dump : Dump) (type : UnitType) (bytes : List Char) : String :=
  let count := dump.lineLength / type.size
  let room := dump.lineWidth - (type.width + 1) * count
  let edge (n : Nat) : Nat := room * (count - n) / count
  let shown := (units type.size (bytes.length + 1) bytes).zipIdx.map fun (unit, n) =>
    padLeft (type.width + 1 + edge n - edge (n + 1)) (type.shown unit)
  let text := String.join shown
  if type.hasText then
    let plain := String.ofList (bytes.map fun c =>
      if 32 ≤ c.toNat && c.toNat < 127 then c else '.')
    padRight dump.lineWidth text ++ "  >" ++ plain ++ "<"
  else text

/-- The lines of some bytes in all types. -/
def showLine (dump : Dump) (offset : Nat) (bytes : List Char) : String :=
  let indent := if dump.addressBase.isNone then "" else padLeft dump.addressWidth ""
  String.join (dump.types.zipIdx.map fun (type, n) =>
    (if n == 0 then dump.address offset else indent) ++ dump.showIn type bytes ++ "\n")

/-- All lines from an offset on. `before` are the bytes of the line before, and `isSkipping` says
that it was like the one before it. -/
def showAll (dump : Dump) :
    Nat → (offset : Nat) → (before : Option (List Char)) → (isSkipping : Bool) → List Char → String
  | 0, _, _, _, _ => ""
  | n + 1, offset, before, isSkipping, cs =>
    if cs.isEmpty then
      (if dump.addressBase.isNone then "" else dump.address offset ++ "\n")
    else
      let line := cs.take dump.lineLength
      let next := offset + line.length
      let rest := cs.drop dump.lineLength
      if !dump.showsAll && before == some line && line.length == dump.lineLength then
        (if isSkipping then "" else "*\n") ++ dump.showAll n next before true rest
      else dump.showLine offset line ++ dump.showAll n next (some line) false rest

end Dump

/-- The options of `od`. -/
def odOptions : OptionTable :=
  { letters := "abcdfilosxA:j:N:S:t:vw::"
    names := [("address-radix=", 'A'), ("skip-bytes=", 'j'), ("read-bytes=", 'N'),
      ("strings==", 'S'), ("format=", 't'), ("output-duplicates", 'v'), ("width==", 'w'),
      ("endian=", 'e')]
    stopsEarly := false }

/-- An amount that may be written in base 16 or 8. -/
def oddAmount? (text : String) : Option Nat :=
  match Numeral.hexBody? text.toList, text.toList with
  | some body, _ => if body.isEmpty then none else Numeral.valueFrom 16 0 body
  | none, '0' :: c :: rest => if (c :: rest).all Char.isDigit then Numeral.valueFrom 8 0 (c :: rest)
    else amount? text
  | none, _ => amount? text

/-- Shows bytes. -/
def od (view : View) : Outcome :=
  view.withOptions 1 odOptions fun arguments =>
    let types : List (Except String (List UnitType)) :=
      arguments.options.filterMap fun (c, value) =>
        if c == 't' then
          some ((UnitType.list? (value.length + 1) value.toList).elim (.error value) .ok)
        else (UnitType.ofLetter? c).map fun type => .ok [type]
    let bad := types.findSome? fun t =>
      match t with
      | .error text => some text
      | .ok _ => none
    let types := (types.filterMap Except.toOption).flatten
    let types := if types.isEmpty then [⟨.octal, 2, false⟩] else types
    let base? : Option (Option Nat) :=
      match arguments.value? 'A' with
      | none => some (some 8)
      | some "o" => some (some 8)
      | some "d" => some (some 10)
      | some "x" => some (some 16)
      | some "n" => some none
      | some _ => none
    match bad, base? with
    | some text, _ =>
      match text.toList.find? fun c => !"acdfoux0123456789CSILFDLz".toList.contains c with
      | some c =>
        view.failing 1
          ("invalid character '" ++ String.ofList [c] ++ "' in type string '" ++ text ++ "'")
      | none => view.failing 1 ("invalid type string '" ++ text ++ "'")
    | none, none =>
      view.failing 1 ("invalid output address radix '" ++ (arguments.value? 'A').getD "" ++
        "'; it must be one character from [doxn]")
    | none, some addressBase =>
      let length :=
        match arguments.value? 'w' with
        | none => 16
        | some "" => 32
        | some text => (amount? text).getD 16
      let dump : Dump := ⟨types, addressBase, max 1 length, arguments.has 'v'⟩
      let skipped := ((arguments.value? 'j').bind oddAmount?).getD 0
      let outcome := view.filtering arguments.operands fun texts =>
        let cs := (String.join (texts.map (·.2))).toList
        let cs := cs.drop skipped
        let cs := ((arguments.value? 'N').bind oddAmount?).elim cs cs.take
        dump.showAll (cs.length + 1) skipped none false cs
      let all := (view.files View.plainly arguments.operands).1
      let isInput := (View.sources arguments.operands) == ["-"]
      let unread (n : Nat) : String := (view.input.drop (skipped + n)).toString
      let limit? := if isInput then (arguments.value? 'N').bind oddAmount? else none
      let outcome := { outcome with left := (limit?.map unread).getD "" }
      if skipped > (String.join (all.map (·.2))).length then
        { outcome with output := "" }.complaining 1
          (view.complaint "cannot skip past end of combined input")
      else if all.isEmpty then { outcome with output := "" }
      else outcome

/-! ## Comparing -/

/-- The options of `cmp`. -/
def cmpOptions : OptionTable :=
  { letters := "bci:ln:sv"
    names := [("print-bytes", 'b'), ("ignore-initial=", 'i'), ("verbose", 'l'), ("bytes=", 'n'),
      ("quiet", 's'), ("silent", 's')]
    stopsEarly := false }

/-- The places in which two texts differ: the number of the byte, and both bytes. -/
def differences : (number : Nat) → List Char → List Char → List (Nat × Char × Char)
  | number, a :: as, b :: bs =>
    if a == b then differences (number + 1) as bs
    else (number, a, b) :: differences (number + 1) as bs
  | _, _, _ => []

/-- Finds the first byte in which two texts differ. -/
def cmp (view : View) : Outcome :=
  view.withOptions 2 cmpOptions fun arguments =>
    match arguments.operands with
    | [] => view.misused 2 ("missing operand after '" ++ view.name ++ "'")
    | first :: rest =>
      let second := rest.headD "-"
      let skips := ((arguments.value? 'i').getD "0").splitOn ":"
      let skip (n : Nat) : Nat :=
        let given := (rest[n + 1]?).orElse fun _ => (skips[n]?).orElse fun _ => skips.head?
        (given.bind amount?).getD 0
      let limited (cs : List Char) : List Char :=
        ((arguments.value? 'n').bind amount?).elim cs cs.take
      match view.read first, view.read second with
      | .error why, _ => view.failing 2 (View.plainly first why)
      | _, .error why => view.failing 2 (View.plainly second why)
      | .ok x, .ok y =>
        let xs := limited (x.toList.drop (skip 0))
        let ys := limited (y.toList.drop (skip 1))
        let found := differences 1 xs ys
        let common := min xs.length ys.length
        let lineAt (n : Nat) : Nat := ((xs.take n).filter (· == '\n')).length + 1
        let octal (c : Char) : String := padLeft 3 (String.ofList (Numeral.digits 8 c.toNat))
        let shown (c : Char) : String := padRight 4 (visible c)
        let shorter :=
          if xs.length < ys.length then some first
          else if ys.length < xs.length then some second
          else none
        let drains := first == "-" || second == "-"
        let close (outcome : Outcome) : Outcome :=
          match shorter with
          | none => outcome
          | some path =>
            let text :=
              if common == 0 then " which is empty"
              else " after byte " ++ toString common ++
                if arguments.has 'l' then ""
                else if (xs.take common).getLast? == some '\n' then
                  ", line " ++ toString (lineAt common - 1)
                else ", in line " ++ toString (lineAt common)
            if arguments.has 's' then { outcome with code := 1 }
            else outcome.complaining 1 (view.complaint ("EOF on " ++ path ++ text))
        if arguments.has 's' then { Outcome.quiet (if x.isEmpty && y.isEmpty then 0
          else if found.isEmpty && shorter.isNone then 0 else 1) with drains }
        else if arguments.has 'l' then
          let width := (toString (max xs.length ys.length)).length
          let line (d : Nat × Char × Char) : String :=
            padLeft width (toString d.1) ++ " " ++ octal d.2.1 ++
              (if arguments.has 'b' then " " ++ shown d.2.1 else "") ++ " " ++ octal d.2.2 ++
              (if arguments.has 'b' then " " ++ visible d.2.2 else "")
          close { Outcome.printing (ofLines (found.map line)) with
            code := if found.isEmpty then 0 else 1
            drains }
        else
          match found with
          | [] => close { Outcome.quiet 0 with drains }
          | (n, a, b) :: _ =>
            let bytes :=
              if arguments.has 'b' then
                " is " ++ octal a ++ " " ++ visible a ++ " " ++ octal b ++ " " ++ visible b
              else ""
            let place := "char " ++ toString n ++ ", line " ++ toString (lineAt (n - 1))
            let names := first ++ " " ++ second
            { Outcome.printing (names ++ " differ: " ++ place ++ bytes ++ "\n") with
              code := 1
              drains }

end PointerTagging.Host.Tool
