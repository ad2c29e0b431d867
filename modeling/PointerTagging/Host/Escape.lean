import PointerTagging.Text.Numeral
/-!
# Backslash escapes

The escapes that programs for printing understand. Those of the common shell know letters and octal
numbers; those of the separate utilities and of the extended shell know hexadecimal numbers too.
-/

namespace PointerTagging.Host

open Text

/-- Which program prints. -/
inductive Printer where
  /-- A builtin of the common shell. -/
  | builtin
  /-- A utility of its own. -/
  | utility
  /-- A builtin of the extended shell. -/
  | extended
  deriving DecidableEq, Repr

namespace Escape

/-- The character that a letter behind a backslash stands for. -/
def letter? (c : Char) : Option Char :=
  match c with
  | '\\' => some '\\'
  | 'a' => some '\x07'
  | 'b' => some '\x08'
  | 'e' => some '\x1b'
  | 'f' => some '\x0c'
  | 'n' => some '\n'
  | 'r' => some '\r'
  | 't' => some '\t'
  | 'v' => some '\x0b'
  | _ => none

/-- The value of at most `most` digits at the start of a text, whether there are any, and the rest.
-/
def number (base most : Nat) (cs : List Char) : Option (Char × List Char) :=
  let digits := (cs.take most).takeWhile fun c => (Numeral.digit? base c).isSome
  if digits.isEmpty then none
  else
    let value := (Numeral.valueFrom base 0 digits).getD 0
    some (Char.ofNat (value % 256), cs.drop digits.length)

/-- The ASCII character whose number is written in base 16 at the start of a text. -/
def codePoint (most : Nat) (cs : List Char) : Option (Char × List Char) :=
  let digits := (cs.take most).takeWhile fun c => (Numeral.digit? 16 c).isSome
  let value := (Numeral.valueFrom 16 0 digits).getD 0
  if digits.isEmpty || value > 127 then none else some (Char.ofNat value, cs.drop digits.length)

/-- The character that one of the escapes stands for that only the extended shell knows, and the
rest. -/
def extended? (c : Char) (rest : List Char) : Option (Char × List Char) :=
  match c with
  | 'E' => some ('\x1b', rest)
  | '\'' => some ('\'', rest)
  | '"' => some ('"', rest)
  | '?' => some ('?', rest)
  | 'u' => codePoint 4 rest
  | 'U' => codePoint 8 rest
  | _ => none

/-- What a backslash and the text behind it stand for, and the rest. A backslash without a meaning
stands for itself. -/
def one (printer : Printer) (cs : List Char) : Char × List Char :=
  match cs with
  | [] => ('\\', [])
  | c :: rest =>
    match letter? c, number 8 3 cs with
    | some d, _ => (d, rest)
    | none, some found => found
    | none, none =>
      match (if printer == .extended then extended? c rest else none) with
      | some found => found
      | none =>
        if printer != .builtin && c == 'x' then (number 16 2 rest).getD ('\\', cs)
        else ('\\', cs)

/-- The same where octal numbers may have one more zero in front. -/
def loose (printer : Printer) (cs : List Char) : Char × List Char :=
  match cs with
  | '0' :: rest => (number 8 3 rest).getD (Char.ofNat 0, rest)
  | cs => one printer cs

/-- The text with its escapes replaced, and whether `\c` ended it early. -/
def all (printer : Printer) : Nat → List Char → List Char × Bool
  | 0, _ => ([], false)
  | _, [] => ([], false)
  | _, '\\' :: 'c' :: _ => ([], true)
  | n + 1, '\\' :: cs =>
    let (c, rest) := loose printer cs
    let (text, ended) := all printer n rest
    (c :: text, ended)
  | n + 1, c :: cs =>
    let (text, ended) := all printer n cs
    (c :: text, ended)

/-- The text with its escapes replaced, and whether `\c` ended it early. -/
def text (printer : Printer) (s : String) : String × Bool :=
  let (cs, ended) := all printer (s.length + 1) s.toList
  (String.ofList cs, ended)

end Escape

/-- How a character stands in a text that a complaint quotes. -/
def quotedChar (c : Char) : List Char :=
  match c with
  | '\'' => ['\\', '\'']
  | '\\' => ['\\', '\\']
  | '\x07' => ['\\', 'a']
  | '\x08' => ['\\', 'b']
  | '\x0c' => ['\\', 'f']
  | '\n' => ['\\', 'n']
  | '\r' => ['\\', 'r']
  | '\t' => ['\\', 't']
  | '\x0b' => ['\\', 'v']
  | c =>
    if 32 ≤ c.toNat && c.toNat < 127 then [c]
    else
      let digits := Numeral.digits 8 c.toNat
      '\\' :: (List.replicate (3 - digits.length) '0' ++ digits)

/-- A text between quotes, as the utilities show one in a complaint. -/
def quotation (text : String) : String :=
  "'" ++ String.ofList (text.toList.flatMap quotedChar) ++ "'"

/-- The letters of a word that is an option of `echo`. -/
def echoOption? (word : String) : Option (List Char) :=
  match word.toList with
  | '-' :: cs => if !cs.isEmpty && cs.all "neE".toList.contains then some cs else none
  | _ => none

/-- The options of `echo` at the start of its arguments, and the other arguments. -/
def echoOptions : List String → List Char × List String
  | [] => ([], [])
  | word :: words =>
    match echoOption? word with
    | some letters =>
      let (more, rest) := echoOptions words
      (letters ++ more, rest)
    | none => ([], word :: words)

/-- What `echo` prints: its arguments in a line, a blank between two. The common builtin knows no
option but `-n` and always replaces escapes; the others replace them only behind `-e`. -/
def echo (printer : Printer) (arguments : List String) : String :=
  let (letters, words) :=
    match printer, arguments with
    | .builtin, "-n" :: words => (['n'], words)
    | .builtin, words => ([], words)
    | _, words => echoOptions words
  let escapes :=
    match printer with
    | .builtin => true
    | _ => (letters.filter (· != 'n')).getLast? == some 'e'
  let line := String.intercalate " " words
  let (line, ended) := if escapes then Escape.text printer line else (line, false)
  if ended || letters.contains 'n' then line else line ++ "\n"

end PointerTagging.Host
