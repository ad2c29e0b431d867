import PointerTagging.Host.Escape
import PointerTagging.Host.Floating.Digits
import PointerTagging.Host.Scripting.Grammar
/-!
# Reading the text of a script

What the reader of a script holds, and the steps that take blanks, words, numbers and quoted texts
from the text that is left.
-/

namespace PointerTagging.Host.Scripting

open Text

/-- What the reader of a script holds. -/
structure Source where
  rest : List Char
  line : Nat
  /-- How many lines have been taken out of the text behind the current line. -/
  skipped : Nat
  /-- The text from the last place that has been looked at, and from the one before it. -/
  recent : List Char × List Char
  /-- How many braces and brackets are open. -/
  braces : Nat
  /-- The functions of the script and of its modules that need no parentheses. -/
  functions : List String
  /-- The functions without arguments. -/
  constants : List String
  /-- Values can be printed as lines. -/
  hasLines : Bool
  /-- Values that are missing, or are no numbers, are warned of where they are used. -/
  warns : Bool
  /-- Variables have to be declared. -/
  isStrict : Bool
  /-- The variables that have been declared, each with its sign. -/
  declared : List String
  /-- What is said of the script if it is refused at the end, the last one first. -/
  faults : List String
  /-- The blocks to run at the end. -/
  ending : List Block
  /-- The text behind the mark that ends the script. -/
  data : Option String

/-- Why a script is refused. -/
inductive Refusal where
  /-- Something is not allowed where it stands; shown is the text around it, and what is said of
  it before. -/
  | unexpected (line : Nat) (near hint : String)
  /-- The text ends too early; `isOpen` if a brace or a bracket is open. -/
  | unclosed (line : Nat) (isOpen : Bool)
  | noTerminator (line : Nat) (mark : String)
  | noPatternEnd (line : Nat) (what : String)
  | noModule (line : Nat) (name : String)
  /-- Some things are wrong that are only told when the script has been read. -/
  | faulty (messages : List String)
  | other (line : Nat) (message : String)

/-- Reading a script. -/
abbrev Reading := StateT Source (Except Refusal)

/-- Characters of names. -/
def isNameChar (c : Char) : Bool := c.isAlphanum || c == '_'

/-- Characters that names begin with. -/
def isNameStart (c : Char) : Bool := c.isAlpha || c == '_'

/-- True of blanks and line ends. -/
def isSpace (c : Char) : Bool := c == ' ' || c == '\t' || c == '\n' || c == '\r' || c == '\x0c'

/-- How many line ends some characters have. -/
def lineEnds (cs : List Char) : Nat := (cs.filter (· == '\n')).length

/-! ## Blanks -/

/-- The lines behind a description, which ends with the line of a certain mark. -/
def behindDescription : Nat → List Char → List Char
  | 0, cs => cs
  | _, [] => []
  | n + 1, cs =>
    let line := cs.takeWhile (· != '\n')
    let rest := cs.drop line.length
    if "=cut".toList.isPrefixOf line then rest else behindDescription n (rest.drop 1)

/-- What is left behind blanks, comments and descriptions. -/
def pastBlanks : Nat → (startsLine : Bool) → List Char → List Char
  | 0, _, cs => cs
  | _, _, [] => []
  | n + 1, startsLine, c :: cs =>
    if startsLine && c == '=' && cs.head?.any Char.isAlpha then
      pastBlanks n false (behindDescription (cs.length + 1) (c :: cs))
    else if isSpace c then pastBlanks n (c == '\n') cs
    else if c == '#' then pastBlanks n false (cs.dropWhile (· != '\n'))
    else c :: cs

/-- Goes on with a shorter rest of the text, and counts the lines before it. -/
def goOn (rest : List Char) : Reading Unit :=
  modify fun s =>
    let passed := lineEnds (s.rest.take (s.rest.length - rest.length))
    if passed == 0 then { s with rest }
    else { s with rest, line := s.line + passed + s.skipped, skipped := 0 }

/-- Skips blanks; returned is what comes next. -/
def ahead : Reading (List Char) := do
  let s ← get
  let rest := pastBlanks (s.rest.length + 1) false s.rest
  goOn rest
  modify fun s =>
    if s.recent.1.length == rest.length then s else { s with recent := (rest, s.recent.1) }
  return rest

/-- Takes some characters if they come next. -/
def accept (text : String) : Reading Bool := do
  let cs ← ahead
  if text.toList.isPrefixOf cs then
    goOn (cs.drop text.length)
    return true
  return false

/-- The name at the start of some characters, with the packages that it is in. -/
def nameAtStart : Nat → List Char → List Char
  | 0, _ => []
  | n + 1, cs =>
    let part := cs.takeWhile isNameChar
    match cs.drop part.length with
    | ':' :: ':' :: rest =>
      if rest.head?.any isNameStart then part ++ ':' :: ':' :: nameAtStart n rest
      else if part.isEmpty then [] else part
    | _ => part

/-- The word that comes next, if one does. -/
def wordAhead : Reading String := do
  let cs ← ahead
  if cs.head?.any isNameStart then return String.ofList (nameAtStart cs.length cs)
  return ""

/-- Takes a certain word if it comes next. -/
def acceptWord (word : String) : Reading Bool := do
  if (← wordAhead) == word then
    goOn ((← get).rest.drop word.length)
    return true
  return false

/-- What a token is called that stands where an operator is expected. -/
def tokenName? (c : Char) : Option String :=
  if c.isDigit then some "Number"
  else if c == '"' || c == '\'' then some "String"
  else if c == '$' then some "Scalar"
  else if c == '@' then some "Array"
  else if isNameStart c then some "Bareword" else none

/-- The token at the start of some characters, as messages show it. -/
def tokenAtStart (cs : List Char) : List Char :=
  match cs with
  | [] => []
  | c :: rest =>
    if isNameChar c then cs.takeWhile isNameChar
    else if c == '$' || c == '@' then c :: rest.takeWhile isNameChar
    else if c == '"' || c == '\'' then
      let inside := rest.takeWhile (· != c)
      c :: inside ++ (rest.drop inside.length).take 1
    else if c == ')' then c :: rest.takeWhile isSpace
    else [c]

/-- Refuses what comes next; `isOperand` says that an operator was expected. -/
def refuseNext {α : Type} (isOperand : Bool) : Reading α := do
  let cs ← ahead
  let s ← get
  if cs.isEmpty then throw (.unclosed s.line (s.braces > 0))
  let token := tokenAtStart cs
  let older := s.recent.2
  let shown := older.take (older.length - cs.length + token.length)
  let word := older.takeWhile isNameChar
  let lead := older.take (older.length - cs.length)
  let blanks := (lead.reverse.takeWhile isSpace).reverse
  let hint :=
    match cs.head?.bind tokenName? with
    | some name =>
      if !isOperand then ""
      else
        let reason :=
          if older.head?.any isNameStart then
            if (older.drop word.length).head?.any isSpace then
              "\t(Do you need to predeclare " ++ String.ofList word ++ "?)\n"
            else ""
          else "\t(Missing operator before " ++ String.ofList (blanks ++ token) ++ "?)\n"
        name ++ " found where operator expected|" ++ reason
    | none => ""
  throw (.unexpected s.line (String.ofList shown) hint)

/-- Refuses what comes next. -/
def refuse {α : Type} : Reading α := refuseNext false

/-- Reads something while one brace or bracket more is open. -/
def opened {α : Type} (reading : Reading α) : Reading α := do
  modify fun s => { s with braces := s.braces + 1 }
  let found ← reading
  modify fun s => { s with braces := s.braces - 1 }
  return found

/-- Takes characters that have to come next. -/
def expect (text : String) : Reading Unit := do
  unless ← accept text do refuse

/-! ## Quoted texts -/

/-- The sign that closes what a sign opens. -/
def closingOf (c : Char) : Char :=
  match c with
  | '(' => ')'
  | '[' => ']'
  | '<' => '>'
  | '\x7b' => '\x7d'
  | c => c

/-- The characters up to a closing sign and those behind it; signs inside come in pairs. -/
def upToClosing (opening closing : Char) : (depth : Nat) → List Char →
    Option (List Char × List Char)
  | _, [] => none
  | depth, '\\' :: c :: cs =>
    (upToClosing opening closing depth cs).map fun f => ('\\' :: c :: f.1, f.2)
  | depth, c :: cs =>
    if c == closing then
      match depth with
      | 0 => some ([], cs)
      | depth + 1 => (upToClosing opening closing depth cs).map fun f => (c :: f.1, f.2)
    else
      let depth := if c == opening then depth + 1 else depth
      (upToClosing opening closing depth cs).map fun f => (c :: f.1, f.2)

/-- Takes a text up to the sign that closes it; `what` names it if that is missing. -/
def quotedBehind (opening : Char) (what : String) : Reading (List Char) := do
  let s ← get
  let closing := closingOf opening
  match upToClosing opening closing 0 s.rest with
  | some (text, rest) =>
    goOn rest
    return text
  | none =>
    if what.isEmpty then
      let quote := if closing == '"' then "'" else "\""
      throw (.noTerminator s.line (quote ++ String.ofList [closing] ++ quote))
    else throw (.noPatternEnd s.line what)

/-- Takes the sign that opens a quoted text. -/
def openingSign : Reading Char := do
  let cs ←
    if (← get).rest.head? == some '#' then pure (← get).rest else ahead
  match cs with
  | c :: rest =>
    goOn rest
    return c
  | [] => refuse

/-- The letters that come next. -/
def flagsAhead : Reading String := do
  let cs := (← get).rest
  let flags := cs.takeWhile Char.isAlpha
  goOn (cs.drop flags.length)
  return String.ofList flags

/-- A text in which a backslash only stands for itself, unless another one or the closing sign
follows. -/
def plainText (opening : Char) : List Char → List Char
  | [] => []
  | '\\' :: c :: cs =>
    if c == '\\' || c == opening || c == closingOf opening then c :: plainText opening cs
    else '\\' :: plainText opening (c :: cs)
  | c :: cs => c :: plainText opening cs

/-- The words in some characters. -/
def wordsOf (cs : List Char) : List String :=
  ((cs.splitBy fun a b => isSpace a == isSpace b).filter fun w => !w.any isSpace).map String.ofList

/-! ## Texts that begin with the next line -/

/-- The lines up to the one that ends a text, and what follows; `isIndented` says that blanks may
stand before the mark. -/
def linesUpTo (mark : List Char) (isIndented : Bool) : Nat → List Char →
    Option (List (List Char) × List Char)
  | 0, _ => none
  | _, [] => none
  | n + 1, cs =>
    let line := cs.takeWhile (· != '\n')
    let rest := cs.drop (line.length + 1)
    let shown := if isIndented then line.dropWhile isSpace else line
    if shown == mark then some ([], rest)
    else (linesUpTo mark isIndented n rest).map fun f => (line :: f.1, f.2)

/-- Takes the text between the next line and the line of a mark. -/
def textUpTo (mark : List Char) (isIndented : Bool) : Reading (List Char) := do
  let s ← get
  let current := s.rest.takeWhile (· != '\n')
  match linesUpTo mark isIndented (s.rest.length + 1) (s.rest.drop (current.length + 1)) with
  | none => throw (.noTerminator s.line ("\"" ++ String.ofList mark ++ "\""))
  | some (lines, rest) =>
    let indents := (lines.filter fun l => !l.all isSpace).map fun l => (l.takeWhile isSpace).length
    let indent := if isIndented then (indents.min?).getD 0 else 0
    set { s with
      rest := current ++ '\n' :: rest
      skipped := s.skipped + lines.length + 1 }
    return lines.flatMap fun line => line.drop indent ++ ['\n']

/-! ## Numbers -/

/-- The number at the start of some characters, and what follows. -/
def numberAtStart (cs : List Char) : Expr × List Char :=
  let based (base : Nat) (cs : List Char) : Expr × List Char :=
    let isDigit (c : Char) : Bool := c == '_' || (Numeral.digit? base c).isSome
    let digits := (cs.takeWhile isDigit).filter (· != '_')
    (.whole ((Numeral.valueFrom base 0 digits).getD 0), cs.dropWhile isDigit)
  let isDigit (c : Char) : Bool := c.isDigit || c == '_'
  match cs with
  | '0' :: 'x' :: cs => based 16 cs
  | '0' :: 'X' :: cs => based 16 cs
  | '0' :: 'b' :: cs => based 2 cs
  | '0' :: 'B' :: cs => based 2 cs
  | cs =>
    let digits := cs.takeWhile isDigit
    let rest := cs.drop digits.length
    let (point, rest) :=
      match rest with
      | '.' :: '.' :: _ => ([], rest)
      | '.' :: more =>
        let places := more.takeWhile isDigit
        ('.' :: places, more.drop places.length)
      | rest => ([], rest)
    let (exponent, rest) :=
      match rest with
      | e :: more =>
        let sign := more.takeWhile fun c => c == '-' || c == '+'
        let power := (more.drop sign.length).takeWhile Char.isDigit
        if (e == 'e' || e == 'E') && sign.length ≤ 1 && !power.isEmpty then
          ('e' :: sign ++ power, more.drop (sign.length + power.length))
        else ([], rest)
      | [] => ([], rest)
    if point.isEmpty && exponent.isEmpty then
      if digits.head? == some '0' && digits.length > 1 then
        ((based 8 digits).1, rest)
      else
        let n := (Numeral.valueFrom 10 0 (digits.filter (· != '_'))).getD 0
        if n < 18446744073709551616 then (.whole n, rest)
        else (.real (Floating.ofNat n).toFloat, rest)
    else
      let text := String.ofList ((digits ++ point ++ exponent).filter (· != '_'))
      let value := (Floating.atStart? .double text).map fun f => f.value.toFloat
      (.real (value.getD 0.0), rest)

end PointerTagging.Host.Scripting
