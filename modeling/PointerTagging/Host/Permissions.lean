import PointerTagging.Text.Numeral
/-!
# Permissions

The permissions of a file are twelve bits: three for each of the owner, the group and all others,
and three more. A change of permissions is a list of clauses that each add, take away or set bits.
-/

namespace PointerTagging.Host

open Text

namespace Permissions

/-- All bits. -/
def all : Nat := 0o7777

/-- How the bits of a clause are found. -/
inductive ClauseKind where
  /-- They are given. -/
  | given
  /-- They are those that one of the three has. -/
  | copied
  /-- With them all may run the file if one may, or if it is a directory. -/
  | runnable
  deriving DecidableEq, Repr

/-- A clause of a change: whose bits it may change, how, and which. -/
structure Clause where
  /-- The bits of those that are named; none if nobody is named. -/
  affected : Nat
  operator : Char
  kind : ClauseKind
  value : Nat
  /-- The bits that the clause speaks of. -/
  mentioned : Nat
  deriving DecidableEq, Repr

/-- The bits of those that a letter names. -/
def affected? : Char → Option Nat
  | 'u' => some 0o4700
  | 'g' => some 0o2070
  | 'o' => some 0o1007
  | 'a' => some all
  | _ => none

/-- The bits that a letter stands for. -/
def bits? : Char → Option Nat
  | 'r' => some 0o444
  | 'w' => some 0o222
  | 'x' => some 0o111
  | 'X' => some 0
  | 's' => some 0o6000
  | 't' => some 0o1000
  | _ => none

/-- True of a sign that begins what a clause does. -/
def isOperator (c : Char) : Bool := c == '+' || c == '-' || c == '='

/-- The permissions that digits of base 8 say. -/
def octal? (cs : List Char) : Option Nat :=
  if cs.isEmpty then none else (Numeral.valueFrom 8 0 cs).filter (· ≤ all)

/-- What is done by the clauses behind those that are named, and the rest of the text. -/
def actions? (affected : Nat) : Nat → List Char → Option (List Clause × List Char)
  | 0, _ => none
  | n + 1, operator :: cs =>
    if !isOperator operator then some ([], operator :: cs)
    else
      let copied (value : Nat) (rest : List Char) : Option (List Clause × List Char) := do
        let mentioned := if affected == 0 then value else affected &&& value
        let (more, rest) ← actions? affected n rest
        return (⟨affected, operator, .copied, value, mentioned⟩ :: more, rest)
      match cs with
      | 'u' :: rest => copied 0o700 rest
      | 'g' :: rest => copied 0o070 rest
      | 'o' :: rest => copied 0o007 rest
      | cs =>
        if cs.head?.any Char.isDigit then do
          let digits := cs.takeWhile Char.isDigit
          let rest := cs.drop digits.length
          guard (affected == 0 && (rest.isEmpty || rest.head? == some ','))
          let value ← octal? digits
          return ([⟨all, operator, .given, value, all⟩], rest)
        else do
          let letters := cs.takeWhile fun c => (bits? c).isSome
          let value := letters.foldl (fun bits c => bits ||| (bits? c).getD 0) 0
          let kind : ClauseKind := if letters.contains 'X' then .runnable else .given
          let mentioned := if affected == 0 then value else affected &&& value
          let (more, rest) ← actions? affected n (cs.drop letters.length)
          return (⟨affected, operator, kind, value, mentioned⟩ :: more, rest)
  | _, [] => some ([], [])

/-- The clauses of a text in letters. -/
def symbolic? : Nat → List Char → Option (List Clause)
  | 0, _ => none
  | n + 1, cs => do
    let names := cs.takeWhile fun c => (affected? c).isSome
    let affected := names.foldl (fun bits c => bits ||| (affected? c).getD 0) 0
    let rest := cs.drop names.length
    guard (rest.head?.any isOperator)
    let (clauses, rest) ← actions? affected (rest.length + 1) rest
    match rest with
    | [] => return clauses
    | ',' :: rest => return clauses ++ (← symbolic? n rest)
    | _ => none

/-- The clauses that a text says: digits of base 8, or letters. -/
def clauses? (text : String) : Option (List Clause) :=
  let cs := text.toList
  if cs.head?.any Char.isDigit then
    (octal? cs).map fun value =>
      let mentioned := if cs.length < 5 then (value &&& 0o6000) ||| 0o1777 else all
      [⟨all, '=', .given, value, mentioned⟩]
  else symbolic? (cs.length + 1) cs

/-- The bits that all three have if one of them has them. -/
def spread (bits : Nat) : Nat :=
  let bit (mask : Nat) : Nat := if bits &&& mask != 0 then mask else 0
  bit 0o444 ||| bit 0o222 ||| bit 0o111

/-- Permissions behind a clause. Where nobody is named, the mask takes bits away. -/
def Clause.apply (isDirectory : Bool) (mask mode : Nat) (clause : Clause) : Nat :=
  let kept := if isDirectory then 0o6000 &&& (all - clause.mentioned) else 0
  let value :=
    match clause.kind with
    | .given => clause.value
    | .copied => spread (clause.value &&& mode)
    | .runnable =>
      if mode &&& 0o111 != 0 || isDirectory then clause.value ||| 0o111 else clause.value
  let room := if clause.affected == 0 then all - mask else clause.affected
  let value := value &&& room &&& (all - kept)
  if clause.operator == '+' then mode ||| value
  else if clause.operator == '-' then mode &&& (all - value)
  else
    let preserved := (if clause.affected == 0 then 0 else all - clause.affected) ||| kept
    (mode &&& preserved) ||| value

/-- Permissions behind some clauses. -/
def apply (clauses : List Clause) (isDirectory : Bool) (mask mode : Nat) : Nat :=
  clauses.foldl (Clause.apply isDirectory mask) mode

/-- Permissions as nine letters. -/
def letters (mode : Nat) : String :=
  let bit (n : Nat) : Bool := (mode >>> n) % 2 == 1
  let three (shift extra : Nat) (c : Char) : List Char :=
    [if bit (shift + 2) then 'r' else '-', if bit (shift + 1) then 'w' else '-',
      if bit extra then (if bit shift then c else c.toUpper)
      else if bit shift then 'x' else '-']
  String.ofList (three 6 11 's' ++ three 3 10 's' ++ three 0 9 't')

/-- Permissions as digits of base 8, at least some of them. -/
def digits (width mode : Nat) : String :=
  let digits := Numeral.digits 8 mode
  String.ofList (List.replicate (width - digits.length) '0' ++ digits)

/-- The bits that a mask leaves to each of the three, as letters. -/
def leftBy (mask : Nat) : String :=
  let part (name : String) (shift : Nat) : String :=
    let mark (n : Nat) (letter : String) : String :=
      if (mask >>> (shift + n)) % 2 == 0 then letter else ""
    name ++ "=" ++ mark 2 "r" ++ mark 1 "w" ++ mark 0 "x"
  ",".intercalate [part "u" 6, part "g" 3, part "o" 0]

/-- The mask that a text makes of another one: digits of base 8, or a change of what is left. -/
def mask? (text : String) (mask : Nat) : Option Nat :=
  (clauses? text).map fun clauses =>
    if text.toList.head?.any Char.isDigit then
      clauses.foldl (fun _ clause => clause.value &&& 0o777) 0
    else 0o777 - (apply clauses false mask (0o777 - mask) &&& 0o777)

end Permissions

end PointerTagging.Host
