import PointerTagging.Host.Escape
import PointerTagging.Host.Floating
/-!
# Words of programs that scan records

The text of a program as words. A slash begins an expression in the places where no operator can
stand.
-/

namespace PointerTagging.Host.Awk

open Text

/-- A word of a program. -/
inductive Token where
  | number (value : Float) (text : String)
  | text (value raw : String)
  | regex (body : String)
  /-- A name before an opening parenthesis. -/
  | function (name : String)
  | name (name : String)
  /-- A word with a meaning of its own. -/
  | word (text : String)
  | builtin (name : String)
  | sign (text : String)
  /-- A closing sign that nothing has opened. -/
  | extra (text : String)
  | newline
  | ending
  deriving Repr

/-- A word, its line, and whether parentheses are open around it. -/
structure PlacedToken where
  token : Token
  line : Nat
  isEnclosed : Bool
  deriving Repr

/-- The text of a word, as complaints show it. -/
def Token.shown : Token → String
  | .number _ digits => digits
  | .text _ raw => raw
  | .regex body => "/" ++ body ++ "/"
  | .function s => s
  | .name s => s
  | .word s => s
  | .builtin s => s
  | .sign s => s
  | .extra s => s
  | .newline => "end of line"
  | .ending => "end of file"

/-- The words with a meaning of their own. -/
def reserved : List String :=
  ["BEGIN", "END", "function", "func", "if", "else", "while", "for", "do", "break", "continue",
    "next", "nextfile", "exit", "return", "delete", "in", "getline", "print", "printf"]

/-- The names of the functions that every program has. -/
def builtins : List String :=
  ["length", "substr", "index", "split", "sub", "gsub", "match", "sprintf", "sin", "cos", "atan2",
    "exp", "log", "sqrt", "int", "rand", "srand", "tolower", "toupper", "system", "close",
    "fflush", "strftime", "systime", "mktime"]

/-- The operators and other signs, the longest first. -/
def signs : List String :=
  ["&&", "||", "==", "!=", "<=", ">=", ">>", "++", "--", "+=", "-=", "*=", "/=", "%=", "^=", "!~",
    "\x7b", "\x7d", "(", ")", "[", "]", ";", ",", "+", "-", "*", "/", "%", "^", "!", ">", "<", "|",
    "?", ":", "~", "$", "="]

/-- What a backslash and the characters behind it stand for in a text, and the rest. -/
def escaped : List Char → String × List Char
  | [] => ("\\", [])
  | '"' :: cs => ("\"", cs)
  | '\n' :: cs => ("", cs)
  | 'x' :: cs =>
    match Escape.number 16 2 cs with
    | some (c, rest) => (String.ofList [c], rest)
    | none => ("\\x", cs)
  | c :: cs =>
    match Escape.letter? c, Escape.number 8 3 (c :: cs) with
    | some d, _ => if c == 'e' then ("\\e", cs) else (String.ofList [d], cs)
    | none, some (d, rest) => (String.ofList [d], rest)
    | none, none => (String.ofList ['\\', c], cs)

/-- The text with its escapes replaced. -/
def unescape : Nat → List Char → String
  | 0, cs => String.ofList cs
  | _, [] => ""
  | n + 1, '\\' :: cs =>
    let (text, rest) := escaped cs
    text ++ unescape n rest
  | n + 1, c :: cs => String.ofList [c] ++ unescape n cs

/-- The characters up to a mark on the same line that no backslash precedes, and the rest behind the
mark. Between brackets the mark of an expression has no meaning. -/
def upToMark (mark : Char) : Nat → (inBrackets : Bool) → List Char →
    Option (List Char × List Char)
  | 0, _, _ => none
  | _, _, [] => none
  | n + 1, inBrackets, c :: cs =>
    if c == mark && !(inBrackets && mark == '/') then some ([], cs)
    else
      match c, cs with
      | '\n', _ => none
      | '\\', d :: cs =>
        (upToMark mark n inBrackets cs).map fun (taken, rest) => ('\\' :: d :: taken, rest)
      | '[', '^' :: ']' :: cs =>
        (upToMark mark n true cs).map fun (taken, rest) => ('[' :: '^' :: ']' :: taken, rest)
      | '[', ']' :: cs =>
        (upToMark mark n true cs).map fun (taken, rest) => ('[' :: ']' :: taken, rest)
      | '[', ':' :: cs =>
        if !inBrackets then
          (upToMark mark n true (':' :: cs)).map fun (taken, rest) => ('[' :: taken, rest)
        else
          let name := cs.takeWhile Char.isAlpha
          (upToMark mark n true ((cs.drop name.length).drop 2)).map fun (taken, rest) =>
            ('[' :: ':' :: name ++ (cs.drop name.length).take 2 ++ taken, rest)
      | '[', cs => (upToMark mark n true cs).map fun (taken, rest) => ('[' :: taken, rest)
      | ']', cs => (upToMark mark n false cs).map fun (taken, rest) => (']' :: taken, rest)
      | c, cs => (upToMark mark n inBrackets cs).map fun (taken, rest) => (c :: taken, rest)

/-- True if an operator can follow a word. -/
def Token.endsOperand : Token → Bool
  | .number .. => true
  | .text .. => true
  | .regex _ => true
  | .name _ => true
  | .builtin _ => true
  | .sign s => [")", "]", "$", "++", "--"].contains s
  | _ => false

/-- Why a text is no program: the line, and what is said. Without a line it is said at once. -/
structure Refusal where
  line : Nat
  message : String

/-- How many parentheses and braces are open. -/
structure Nesting where
  parentheses : Nat
  braces : Nat

/-- A sign in its place; `none` if it closes what is not open. -/
def Nesting.behind (nesting : Nesting) (sign : String) : Option Nesting :=
  match sign with
  | "(" => some { nesting with parentheses := nesting.parentheses + 1 }
  | ")" =>
    if nesting.parentheses == 0 then none
    else some { nesting with parentheses := nesting.parentheses - 1 }
  | "\x7b" => some { nesting with braces := nesting.braces + 1 }
  | "\x7d" =>
    if nesting.braces == 0 then none else some { nesting with braces := nesting.braces - 1 }
  | _ => some nesting

/-- The number at the start of a text, and the rest. -/
def constantAtStart (cs : List Char) : Float × List Char :=
  let whole := cs.takeWhile Char.isDigit
  let (_, rest) := (whole, cs.drop whole.length)
  let (part, rest) :=
    match rest with
    | '.' :: rest =>
      let digits := rest.takeWhile Char.isDigit
      ('.' :: digits, rest.drop digits.length)
    | rest => ([], rest)
  let exponent :=
    match rest with
    | e :: rest =>
      if e == 'e' || e == 'E' then
        let (sign, behind) :=
          match rest with
          | '+' :: cs => (['+'], cs)
          | '-' :: cs => (['-'], cs)
          | cs => ([], cs)
        let digits := behind.takeWhile Char.isDigit
        if digits.isEmpty then [] else e :: sign ++ digits
      else []
    | [] => []
  let text := String.ofList (whole ++ part ++ exponent)
  (((Floating.atStart? .double text).map fun f => f.value.toFloat).getD 0.0,
    rest.drop exponent.length)

/-- The words of a text; `last` is the word before, and `nesting` tells what is open. A line end
follows the last line. -/
def tokens : Nat → (line : Nat) → (nesting : Nesting) → (last : Token) → List Char →
    Except Refusal (List PlacedToken)
  | 0, line, _, _, _ => .ok [⟨.ending, line, false⟩]
  | _, line, nesting, _, [] =>
    let isEnclosed := nesting.parentheses > 0
    .ok [⟨.newline, line, isEnclosed⟩, ⟨.ending, line + 1, isEnclosed⟩]
  | n + 1, line, nesting, last, c :: cs =>
    let isEnclosed := nesting.parentheses > 0
    let found (token : Token) (rest : List Char) : Except Refusal (List PlacedToken) := do
      return ⟨token, line, isEnclosed⟩ :: (← tokens n line nesting token rest)
    if c == ' ' || c == '\t' || c == '\r' then tokens n line nesting last cs
    else if c == '\n' then do
      return ⟨.newline, line, isEnclosed⟩ :: (← tokens n (line + 1) nesting .newline cs)
    else if c == '#' then tokens n line nesting last (cs.dropWhile (· != '\n'))
    else if c == '\\' && cs.head? == some '\n' then tokens n (line + 1) nesting last (cs.drop 1)
    else if c == '\\' && cs.take 2 == ['\r', '\n'] then
      tokens n (line + 1) nesting last (cs.drop 2)
    else if c == '"' then
      match upToMark '"' (cs.length + 1) false cs with
      | some (body, rest) =>
        let raw := String.ofList ('"' :: body ++ ['"'])
        found (.text (unescape (body.length + 1) body) raw) rest
      | none => .error ⟨line, "runaway string constant " ++ start (c :: cs)⟩
    else if c == '/' && !last.endsOperand then
      match upToMark '/' (cs.length + 1) false cs with
      | some (body, rest) => found (.regex (String.ofList body)) rest
      | none => .error ⟨line, "runaway regular expression " ++ start (c :: cs)⟩
    else if c.isDigit || (c == '.' && cs.head?.any Char.isDigit) then
      let (value, rest) := constantAtStart (c :: cs)
      let text := String.ofList ((c :: cs).take (cs.length + 1 - rest.length))
      found (.number value text) rest
    else if c.isAlpha || c == '_' then
      let body := (c :: cs).takeWhile fun d => d.isAlphanum || d == '_'
      let rest := (c :: cs).drop body.length
      let name := String.ofList body
      let token : Token :=
        if reserved.contains name then .word name
        else if builtins.contains name then .builtin name
        else if rest.head? == some '(' then .function name
        else .name name
      found token rest
    else
      match signs.find? fun sign => sign.toList.isPrefixOf (c :: cs) with
      | some sign =>
        let rest := (c :: cs).drop sign.length
        match nesting.behind sign with
        | some nesting => do
          return ⟨.sign sign, line, isEnclosed⟩ :: (← tokens n line nesting (.sign sign) rest)
        | none => found (.extra sign) rest
      | none => .error ⟨0, "unexpected character '" ++ String.ofList [c] ++ "'"⟩
where
  /-- The start of a text that has no end, as complaints show it. -/
  start (cs : List Char) : String := String.ofList ((cs.takeWhile (· != '\n')).take 10) ++ " ..."

/-- The words of a program. -/
def tokenize (text : String) : Except Refusal (List PlacedToken) :=
  tokens (text.length + 1) 1 ⟨0, 0⟩ .newline text.toList

end PointerTagging.Host.Awk
