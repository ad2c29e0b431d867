import PointerTagging.Host.Utility.View
import PointerTagging.Text.Numeral
/-!
# Options of utilities

Arguments are sorted into options and operands by a table. Options are letters behind a dash or
names behind two; names may be cut short as long as it is clear which one is meant.
-/

namespace PointerTagging.Host

open Text

/-- The options that a utility knows. -/
structure OptionTable where
  /-- The letters. One with a colon behind it takes a value, one with two may have one attached. -/
  letters : String
  /-- The names with the letters that they stand for. One that takes a value ends in `=`, one that
  may have one attached ends in `==`. -/
  names : List (String × Char)
  /-- True if nothing behind the first operand is an option. -/
  stopsEarly : Bool

namespace OptionTable

/-- Whether an option takes a value. -/
inductive Arity where
  | never
  | maybe
  | always
  deriving DecidableEq, Repr

/-- The arity of a letter among letters and colons, if it is there. -/
def arityIn (c : Char) : List Char → Option Arity
  | [] => none
  | d :: cs =>
    if c == d && d != ':' then
      match cs with
      | ':' :: ':' :: _ => some .maybe
      | ':' :: _ => some .always
      | _ => some .never
    else arityIn c cs

/-- A name without the signs behind it, and its arity. -/
def nameAndArity (name : String) : String × Arity :=
  if name.endsWith "==" then ((name.dropEnd 2).toString, .maybe)
  else if name.endsWith "=" then ((name.dropEnd 1).toString, .always)
  else (name, .never)

/-- The letter of the option that every utility has which explains it. -/
def helpLetter : Char := '\x01'

/-- The names that a table knows, with their letters and arities. -/
def allNames (table : OptionTable) : List (String × Arity × Char) :=
  (table.names ++ [("help", helpLetter), ("version", helpLetter)]).map fun (name, letter) =>
    ((nameAndArity name).1, (nameAndArity name).2, letter)

end OptionTable

/-- Why options are refused. -/
inductive OptionError where
  | unknownLetter (c : Char)
  | lacksValue (c : Char)
  | unknownName (word : String)
  | ambiguous (word : String) (names : List String)
  | needless (name : String)
  | nameLacksValue (name : String)
  deriving DecidableEq, Repr

/-- The text of the error. -/
def OptionError.message : OptionError → String
  | .unknownLetter c => "invalid option -- '" ++ String.ofList [c] ++ "'"
  | .lacksValue c => "option requires an argument -- '" ++ String.ofList [c] ++ "'"
  | .unknownName word => "unrecognized option '--" ++ word ++ "'"
  | .ambiguous word names =>
    "option '--" ++ word ++ "' is ambiguous; possibilities:" ++
      String.join (names.map fun name => " '--" ++ name ++ "'")
  | .needless name => "option '--" ++ name ++ "' doesn't allow an argument"
  | .nameLacksValue name => "option '--" ++ name ++ "' requires an argument"

/-- Arguments sorted by a table. -/
structure Arguments where
  /-- The letters of the options in their order, with their values. -/
  options : List (Char × String)
  operands : List String
  deriving Repr

namespace Arguments

/-- The arguments with one more option in front. -/
def cons (c : Char) (value : String) (arguments : Arguments) : Arguments :=
  { arguments with options := (c, value) :: arguments.options }

/-- True if an option is given. -/
def has (arguments : Arguments) (c : Char) : Bool := arguments.options.any fun o => o.1 == c

/-- The values that an option is given. -/
def values (arguments : Arguments) (c : Char) : List String :=
  (arguments.options.filter fun o => o.1 == c).map (·.2)

/-- The last value that an option is given. -/
def value? (arguments : Arguments) (c : Char) : Option String := (arguments.values c).getLast?

/-- The last option that is given among some. -/
def last? (arguments : Arguments) (letters : String) : Option Char :=
  ((arguments.options.map (·.1)).filter letters.toList.contains).getLast?

end Arguments

namespace OptionTable

/-- The option of a name behind two dashes; `word` is the name with what is attached to it. -/
def named (table : OptionTable) (name word : String) : Except OptionError (String × Arity × Char) :=
  match table.allNames.find? fun n => n.1 == name with
  | some found => .ok found
  | none =>
    let found := table.allNames.filter fun n => n.1.startsWith name
    match found with
    | [] => .error (.unknownName word)
    | first :: rest =>
      if rest.all fun n => n.2 == first.2 then .ok first
      else .error (.ambiguous word (found.map (·.1)))

mutual

/-- Sorts arguments. -/
def sort (table : OptionTable) : Nat → List String → Except OptionError Arguments
  | 0, words => .ok ⟨[], words⟩
  | _, [] => .ok ⟨[], []⟩
  | n + 1, word :: words =>
    match word.toList with
    | ['-', '-'] => .ok ⟨[], words⟩
    | '-' :: '-' :: cs => do
      let name := String.ofList (cs.takeWhile (· != '='))
      let attached := cs.dropWhile (· != '=')
      let (name, arity, letter) ← table.named name (String.ofList cs)
      match arity, attached, words with
      | .always, [], [] => .error (.nameLacksValue name)
      | .always, [], value :: words => return (← table.sort n words).cons letter value
      | .never, _ :: _, _ => .error (.needless name)
      | _, attached, words =>
        return (← table.sort n words).cons letter (String.ofList (attached.drop 1))
    | '-' :: c :: cs => table.sortLetters n (c :: cs) words
    | _ => do
      if table.stopsEarly then return ⟨[], word :: words⟩
      let rest ← table.sort n words
      return { rest with operands := word :: rest.operands }

/-- Sorts arguments behind the letters that are left of a word. -/
def sortLetters (table : OptionTable) : Nat → List Char → List String →
    Except OptionError Arguments
  | 0, _, words => .ok ⟨[], words⟩
  | n + 1, [], words => table.sort n words
  | n + 1, c :: cs, words =>
    match arityIn c table.letters.toList, cs, words with
    | none, _, _ => .error (.unknownLetter c)
    | some .never, cs, words => do return (← table.sortLetters n cs words).cons c ""
    | some .maybe, cs, words => do return (← table.sort n words).cons c (String.ofList cs)
    | some .always, [], [] => .error (.lacksValue c)
    | some .always, [], value :: words => do return (← table.sort n words).cons c value
    | some .always, cs, words => do return (← table.sort n words).cons c (String.ofList cs)

end

/-- Sorts the arguments of a program. -/
def arguments (table : OptionTable) (words : List String) : Except OptionError Arguments :=
  let room := words.foldl (fun n word => n + word.length + 2) 1
  table.sort room words

end OptionTable

namespace View

/-- What a utility does with its arguments, sorted by a table; `code` says that they break a
rule. -/
def withOptions (view : View) (code : Nat) (table : OptionTable) (f : Arguments → Outcome) :
    Outcome :=
  match table.arguments view.arguments with
  | .error error => view.misused code error.message
  | .ok arguments => if arguments.has OptionTable.helpLetter then .quiet 0 else f arguments

end View

/-! ## Values of options -/

/-- The value that a word stands for among some, each of which has names; names may be cut short as
long as it is clear which value is meant. -/
def View.chooseFor {α : Type} (view : View) (what : String) (values : List (List String × α))
    (word : String) : Except Outcome α :=
  let exact := values.find? fun v => v.1.contains word
  let near := values.filter fun v => v.1.any fun name => name.startsWith word
  match exact, near with
  | some v, _ => .ok v.2
  | none, [v] => .ok v.2
  | none, near =>
    let kind := if near.isEmpty then "invalid" else "ambiguous"
    let row (names : List String) : String :=
      "  - " ++ ", ".intercalate (names.map quotation) ++ "\n"
    .error { Outcome.quiet 1 with
      errors := view.complaint (kind ++ " argument " ++ quotation word ++ " for " ++
          quotation what) ++
        "Valid arguments are:\n" ++ String.join (values.map fun v => row v.1) ++ view.hint }

/-- The value that a word stands for among those of an option. -/
def View.choose {α : Type} (view : View) (option : String) (values : List (List String × α))
    (word : String) : Except Outcome α := view.chooseFor ("--" ++ option) values word

/-- The value of an option among some, if it is given. -/
def View.choice {α : Type} (view : View) (arguments : Arguments) (letter : Char) (option : String)
    (values : List (List String × α)) : Except Outcome (Option α) :=
  match arguments.value? letter with
  | none => .ok none
  | some word => (view.choose option values word).map some

/-! ## Amounts -/

/-- Why a text says no amount. -/
inductive AmountError where
  | malformed
  | tooLarge
  | outOfRange
  deriving DecidableEq, Repr

/-- What follows the text of a wrong amount. -/
def AmountError.trail : AmountError → String
  | .malformed => ""
  | .tooLarge => ": Value too large for defined data type"
  | .outOfRange => ": Numerical result out of range"

/-- The letters that stand for powers of 1024, from the first on. -/
def powerNames : List Char := "KMGTPEZYRQ".toList

/-- The factor of a unit: one of some letters, for powers of 1024, or with `B` behind for powers of
1000 and with `iB` for those of 1024 again. -/
def unitFactor? (letters : String) (unit : List Char) : Option Nat :=
  match unit with
  | [] => some 1
  | ['b'] => if letters.contains 'b' then some 512 else none
  | ['c'] => if letters.contains 'c' then some 1 else none
  | ['w'] => if letters.contains 'w' then some 2 else none
  | ['B'] => if letters.contains 'B' then some 1024 else none
  | c :: rest =>
    if !letters.contains c then none
    else
      let power? := powerNames.findIdx? (· == c.toUpper)
      match power?, rest with
      | some n, [] => some (Nat.pow 1024 (n + 1))
      | some n, ['B'] => if letters.contains '0' then some (Nat.pow 1000 (n + 1)) else none
      | some n, ['i', 'B'] => if letters.contains '0' then some (Nat.pow 1024 (n + 1)) else none
      | _, _ => none

/-- The amount that a text says in units of some letters. -/
def amountIn (letters : String) (text : String) : Except AmountError Nat :=
  let cs := text.toList.dropWhile isSpace
  let cs := if cs.head? == some '+' then cs.drop 1 else cs
  let digits := cs.takeWhile Char.isDigit
  let unit := cs.drop digits.length
  if digits.isEmpty && (unit.isEmpty || !letters.contains (unit.headD ' ')) then .error .malformed
  else
    let n := if digits.isEmpty then 1 else (Numeral.valueFrom 10 0 digits).getD 0
    match unitFactor? letters unit with
    | none => .error .malformed
    | some factor => if n * factor < UInt64.size then .ok (n * factor) else .error .tooLarge

/-- The same for an amount between two bounds; the text of the error is `what` and the amount. -/
def boundedAmount (what letters : String) (least most : Nat) (text : String) : Except String Nat :=
  let refuse (error : AmountError) : Except String Nat :=
    .error (what ++ ": " ++ quotation text ++ error.trail)
  match amountIn letters text with
  | .error error => refuse error
  | .ok n =>
    if least ≤ n && n ≤ most then .ok n
    else if n > 1073741823 then refuse .tooLarge
    else refuse .outOfRange

/-- A whole number with a sign between two bounds; the text of the error is `what` and the
number. -/
def boundedNumber (what : String) (least most : Int) (text : String) : Except String Int :=
  let refuse (error : AmountError) : Except String Int :=
    .error (what ++ ": " ++ quotation text ++ error.trail)
  let cs := text.toList.dropWhile isSpace
  let (isNegative, digits) : Bool × List Char :=
    match cs with
    | '-' :: rest => (true, rest)
    | '+' :: rest => (false, rest)
    | cs => (false, cs)
  match (if digits.isEmpty then none else Numeral.valueFrom 10 0 digits) with
  | none => refuse .malformed
  | some n =>
    let value : Int := if isNegative then -(n : Int) else n
    if least ≤ value && value ≤ most then .ok value
    else if value.natAbs > 1073741823 then refuse .tooLarge
    else refuse .outOfRange

/-- The units that may stand behind an amount. -/
def units : List (String × Nat) :=
  let kilo := 1000
  let kibi := 1024
  [("b", 512), ("kB", kilo), ("KB", kilo), ("k", kibi), ("K", kibi), ("KiB", kibi),
    ("MB", kilo * kilo), ("M", kibi * kibi), ("m", kibi * kibi), ("MiB", kibi * kibi),
    ("GB", kilo * kilo * kilo), ("G", kibi * kibi * kibi), ("g", kibi * kibi * kibi),
    ("GiB", kibi * kibi * kibi), ("T", kibi * kibi * kibi * kibi),
    ("TB", kilo * kilo * kilo * kilo)]

/-- The amount that a text says, with a unit behind it if there is one. -/
def amount? (text : String) : Option Nat :=
  let cs := text.toList.dropWhile isSpace
  let cs := if cs.head? == some '+' then cs.drop 1 else cs
  let digits := cs.takeWhile Char.isDigit
  let unit := String.ofList (cs.drop digits.length)
  match Numeral.valueFrom 10 0 digits, unit with
  | none, _ => none
  | some n, "" => if digits.isEmpty then none else some n
  | some n, unit =>
    let n := if digits.isEmpty then 1 else n
    (units.find? fun u => u.1 == unit).map fun u => n * u.2

end PointerTagging.Host
