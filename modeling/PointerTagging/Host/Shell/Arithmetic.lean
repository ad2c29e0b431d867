import PointerTagging.Text.Numeral
/-!
# Arithmetic expressions of the shell

Signed 64-bit arithmetic with the usual operators apart from those that step a variable. An
expression is read first and computed then, with variables that it can look up and set.
-/

namespace PointerTagging.Host.Shell

open Text

/-! ## Numbers -/

/-- The least number. -/
def leastNumber : Int := Int64.minValue.toInt

/-- The greatest number. -/
def greatestNumber : Int := Int64.maxValue.toInt

/-- A number brought into range by dropping high bits. -/
def wrapNumber (n : Int) : Int := n.bmod UInt64.size

/-- The bits of a number. -/
def bitsOf (n : Int) : Nat := (n % UInt64.size).toNat

/-- The digits of a base at the start of a text: their value, whether there are any, and what
follows. -/
def digitsAtStart (base : Nat) (cs : List Char) : Nat × Bool × List Char :=
  let digits := cs.takeWhile fun c => (Numeral.digit? base c).isSome
  ((Numeral.valueFrom base 0 digits).getD 0, !digits.isEmpty, cs.drop digits.length)

/-- The number without a sign at the start of a text, in base 16 behind `0x`, in base 8 behind `0`,
else in base 10; only base 10 is tried unless `anyBase`. -/
def magnitudeAtStart (anyBase : Bool) (cs : List Char) : Nat × Bool × List Char :=
  match anyBase, Numeral.hexBody? cs, cs with
  | true, some body, _ =>
    let (value, found, rest) := digitsAtStart 16 body
    if found then (value, true, rest) else (0, true, cs.drop 1)
  | true, none, '0' :: _ => digitsAtStart 8 cs
  | _, _, cs => digitsAtStart 10 cs

/-- The number at the start of a text, behind white space and a sign: its value, which may be out of
range, whether there is one, and the rest. -/
def numberAtStart (anyBase : Bool) (text : String) : Int × Bool × List Char :=
  let cs := text.toList.dropWhile Char.isWhitespace
  let (negative, cs) :=
    match cs with
    | '-' :: cs => (true, cs)
    | '+' :: cs => (false, cs)
    | cs => (false, cs)
  let (value, found, rest) := magnitudeAtStart anyBase cs
  (if negative then -(value : Int) else value, found, if found then rest else text.toList)

/-- The number that a text is, between white space. Text without any number counts as 0 if
`anyBase`. -/
def numberOf? (anyBase : Bool) (text : String) : Option Int :=
  let (value, found, rest) := numberAtStart anyBase text
  if (found || anyBase) && (rest.all Char.isWhitespace) && leastNumber ≤ value &&
      value ≤ greatestNumber then some value
  else none

/-- The number that a text of digits is. -/
def naturalOf? (text : String) : Option Nat :=
  match text.toList with
  | [] => none
  | c :: cs => if (c :: cs).all Char.isDigit then Numeral.valueFrom 10 0 (c :: cs) else none

/-! ## Expressions -/

/-- The operators on two numbers. -/
inductive Binary where
  | times
  | over
  | rest
  | plus
  | minus
  | left
  | right
  | less
  | atMost
  | greater
  | atLeast
  | equal
  | different
  | and
  | xor
  | or
  deriving DecidableEq, Repr

/-- An arithmetic expression. -/
inductive Expression where
  | number (n : Int)
  | named (name : String)
  | negative (e : Expression)
  | isZero (e : Expression)
  | complement (e : Expression)
  | binary (operator : Binary) (a b : Expression)
  | both (a b : Expression)
  | either (a b : Expression)
  | choose (test a b : Expression)
  | assign (name : String) (e : Expression)
  /-- Sets a variable to what an operator makes of its value and another one, which is computed
  first. -/
  | update (operator : Binary) (name : String) (e : Expression)
  /-- The text cannot be read on behind an expression; the complaint comes when that is computed. -/
  | refused (e : Expression) (complaint : String)
  deriving Repr

namespace Expression

/-- The operators on two numbers from the one that binds tightest, by levels. -/
def levels : List (List (String × Binary)) :=
  [[("*", .times), ("/", .over), ("%", .rest)],
    [("+", .plus), ("-", .minus)],
    [("<<", .left), (">>", .right)],
    [("<=", .atMost), (">=", .atLeast), ("<", .less), (">", .greater)],
    [("==", .equal), ("!=", .different)],
    [("&", .and)],
    [("^", .xor)],
    [("|", .or)]]

/-- The operators that assign, with what they compute before. -/
def assignments : List (String × Option Binary) :=
  [("=", none), ("*=", some .times), ("/=", some .over), ("%=", some .rest), ("+=", some .plus),
    ("-=", some .minus), ("<<=", some .left), (">>=", some .right), ("&=", some .and),
    ("^=", some .xor), ("|=", some .or)]

/-- All signs, each before those that it begins with. -/
def signs : List String :=
  ["<<=", ">>=", "*=", "/=", "%=", "+=", "-=", "&=", "^=", "|=", "<<", ">>", "<=", ">=", "==", "!=",
    "&&", "||", "<", ">", "=", "!", "~", "*", "/", "%", "+", "-", "&", "^", "|", "(", ")", "?", ":"]

/-- A token of an expression. -/
inductive Token where
  | number (n : Int)
  | named (name : String)
  | sign (text : String)
  /-- A character that belongs to no token. -/
  | stray
  deriving DecidableEq, Repr

/-- The tokens of an expression. -/
def tokens : Nat → List Char → List Token
  | 0, _ => []
  | _, [] => []
  | n + 1, c :: cs =>
    if c == ' ' || c == '\t' || c == '\n' then tokens n cs
    else if c.isDigit then
      let (value, _, rest) := magnitudeAtStart true (c :: cs)
      .number (min value greatestNumber) :: tokens n rest
    else if c.isAlpha || c == '_' then
      let isNameChar (c : Char) : Bool := c.isAlphanum || c == '_'
      .named (String.ofList (c :: cs.takeWhile isNameChar)) :: tokens n (cs.dropWhile isNameChar)
    else
      match signs.find? fun s => s.toList.isPrefixOf (c :: cs) with
      | some sign => .sign sign :: tokens n ((c :: cs).drop sign.length)
      | none => [.stray]

/-- What a reader of expressions holds: the tokens that are left, and the first complaint. -/
structure Pending where
  tokens : List Token
  complaint : Option String

/-- Reading an expression from its tokens. -/
abbrev Reading := StateM Pending

/-- The next token, which is not taken. -/
def peek : Reading (Option Token) := do return (← get).tokens.head?

/-- Drops the next token. -/
def skip : Reading Unit := modify fun p => { p with tokens := p.tokens.tail }

/-- Takes the next token if it is a given sign. -/
def accept (sign : String) : Reading Bool := do
  if (← peek) == some (.sign sign) then
    skip
    return true
  return false

/-- Reads nothing more behind an expression because of a complaint; the first one counts. -/
def refuse (e : Expression) (complaint : String) : Reading Expression := do
  let first := ((← get).complaint).getD complaint
  set (⟨[], some first⟩ : Pending)
  return .refused e first

/-- Complains about an operand that is missing. -/
def missing : Reading Expression := refuse (.number 0) "expecting primary"

/-- Reads a number, a name, something in parentheses, or one of these behind signs; `whole` reads
an expression one level below. -/
def primary (whole : Reading Expression) : Nat → Reading Expression
  | 0 => missing
  | n + 1 => do
    match ← peek with
    | some (.number value) =>
      skip
      return .number value
    | some (.named name) =>
      skip
      return .named name
    | some (.sign sign) =>
      match sign with
      | "(" =>
        skip
        let e ← whole
        if ← accept ")" then return e else refuse e "expecting ')'"
      | "+" =>
        skip
        primary whole n
      | "-" =>
        skip
        return .negative (← primary whole n)
      | "!" =>
        skip
        return .isZero (← primary whole n)
      | "~" =>
        skip
        return .complement (← primary whole n)
      | _ => missing
    | _ => missing

/-- Reads on behind an operand: the operators of a level and their operands. -/
def chain (operators : List (String × Binary)) (operand : Reading Expression) :
    Nat → Expression → Reading Expression
  | 0, a => return a
  | n + 1, a => do
    match ← peek with
    | some (.sign sign) =>
      match operators.find? fun o => o.1 == sign with
      | some (_, operator) =>
        skip
        chain operators operand n (.binary operator a (← operand))
      | none => return a
    | _ => return a

/-- Reads operands and the operators of the given levels, the loosest of them first. -/
def operations (whole : Reading Expression) (room : Nat) :
    List (List (String × Binary)) → Reading Expression
  | [] => primary whole room
  | level :: levels => do
    let operand := operations whole room levels
    chain level operand room (← operand)

/-- Reads operands that are linked by a logical operator. -/
def logical (sign : String) (link : Expression → Expression → Expression)
    (operand : Reading Expression) : Nat → Reading Expression
  | 0 => operand
  | n + 1 => do
    let a ← operand
    if ← accept sign then return link a (← logical sign link operand n) else return a

/-- Reads a choice, or what can stand for its test. -/
def choice (whole : Reading Expression) (room : Nat) : Nat → Reading Expression
  | 0 => missing
  | n + 1 => do
    let conjunction := logical "&&" .both (operations whole room levels.reverse) room
    let test ← logical "||" .either conjunction room
    if ← accept "?" then
      let a ← whole
      if ← accept ":" then return .choose test a (← choice whole room n)
      else refuse (.choose test a (.number 0)) "expecting ':'"
    else return test

/-- What an assignment computes. -/
def assigned (name : String) (operator : Option Binary) (e : Expression) : Expression :=
  match operator with
  | none => .assign name e
  | some operator => .update operator name e

/-- Reads an expression with at most as many levels. -/
def expression : Nat → Reading Expression
  | 0 => missing
  | n + 1 => do
    let pending ← get
    let room := pending.tokens.length + 1
    match pending.tokens with
    | .named name :: .sign sign :: rest =>
      match assignments.find? fun a => a.1 == sign with
      | some (_, operator) =>
        set { pending with tokens := rest }
        return assigned name operator (← expression n)
      | none => choice (expression n) room room
    | _ => choice (expression n) room room

/-- The expression that a text is, and what is said of the text if it is not one as a whole. -/
def read (text : String) : Expression × Option String :=
  let ts := tokens (text.length + 1) text.toList
  let (e, pending) := (expression (ts.length + 1)).run ⟨ts, none⟩
  if pending.tokens.isEmpty then (e, pending.complaint)
  else (.refused e "expecting EOF", some "expecting EOF")

/-- The number of a truth value. -/
def ofBool (b : Bool) : Int := if b then 1 else 0

/-- What an operator gives. -/
def Binary.apply (operator : Binary) (a b : Int) : Except String Int :=
  match operator with
  | .times => .ok (wrapNumber (a * b))
  | .over => if b == 0 then .error "division by zero" else .ok (wrapNumber (a.tdiv b))
  | .rest => if b == 0 then .error "division by zero" else .ok (a.tmod b)
  | .plus => .ok (wrapNumber (a + b))
  | .minus => .ok (wrapNumber (a - b))
  | .left => .ok (wrapNumber (a <<< (bitsOf b % 64)))
  | .right => .ok (a >>> (bitsOf b % 64))
  | .less => .ok (ofBool (a < b))
  | .atMost => .ok (ofBool (a ≤ b))
  | .greater => .ok (ofBool (a > b))
  | .atLeast => .ok (ofBool (a ≥ b))
  | .equal => .ok (ofBool (a == b))
  | .different => .ok (ofBool (a != b))
  | .and => .ok (wrapNumber (bitsOf a &&& bitsOf b))
  | .xor => .ok (wrapNumber (bitsOf a ^^^ bitsOf b))
  | .or => .ok (wrapNumber (bitsOf a ||| bitsOf b))

/-- Computes an expression with variables that `lookup` reads and `assign` sets; `refuse` takes a
complaint about the expression. -/
def value {m : Type → Type} [Monad m] (lookup : String → m Int) (assign : String → Int → m Unit)
    (refuse : String → m Int) : Expression → m Int
  | .number n => return n
  | .named name => lookup name
  | .negative e => do return wrapNumber (-(← value lookup assign refuse e))
  | .isZero e => do return ofBool ((← value lookup assign refuse e) == 0)
  | .complement e => do return -(← value lookup assign refuse e) - 1
  | .binary operator a b => do
    let a ← value lookup assign refuse a
    let b ← value lookup assign refuse b
    match Binary.apply operator a b with
    | .ok n => return n
    | .error complaint => refuse complaint
  | .both a b => do
    if (← value lookup assign refuse a) == 0 then return 0
    else return ofBool ((← value lookup assign refuse b) != 0)
  | .either a b => do
    if (← value lookup assign refuse a) != 0 then return 1
    else return ofBool ((← value lookup assign refuse b) != 0)
  | .choose test a b => do
    if (← value lookup assign refuse test) != 0 then value lookup assign refuse a
    else value lookup assign refuse b
  | .assign name e => do
    let n ← value lookup assign refuse e
    assign name n
    return n
  | .update operator name e => do
    let b ← value lookup assign refuse e
    match Binary.apply operator (← lookup name) b with
    | .ok n =>
      assign name n
      return n
    | .error complaint => refuse complaint
  | .refused e complaint => do
    let _ ← value lookup assign refuse e
    refuse complaint

end Expression

end PointerTagging.Host.Shell
