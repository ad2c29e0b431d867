import PointerTagging.Host.Escape
import PointerTagging.Host.Shell.Arithmetic
import PointerTagging.Host.Shell.Grammar
import PointerTagging.Host.Shell.Pattern
/-!
# Shaping values

What the forms of parameters in the extended dialect make of a value, and the words that
alternatives in braces stand for.
-/

namespace PointerTagging.Host.Shell

namespace Shaping

/-! ## Values -/

/-- A part of a value. A start below zero counts from the end, and so does the end that a length
below zero gives; nothing comes of an end before the start. -/
def slice (start : Int) (length : Option Int) (value : String) : Option String :=
  let size : Int := value.length
  let start := if start < 0 then size + start else start
  let rest := value.toList.drop start.toNat
  if start < 0 || size < start then some ""
  else
    match length with
    | none => some (String.ofList rest)
    | some n =>
      if 0 ≤ n then some (String.ofList (rest.take n.toNat))
      else if size + n < start then none
      else some (String.ofList (rest.take (size + n - start).toNat))

/-- The length of the longest start of a text that a pattern matches. -/
def matchLength (globs : List Glob) (cs : List Char) : Option Nat :=
  (Glob.lengths cs).reverse.find? fun n => Glob.isMatch globs (cs.take n)

/-- The text in place of a match: a bare ampersand stands for what was matched. -/
def replacementFor (replacement : List PatternChar) (found : List Char) : List Char :=
  replacement.flatMap fun c => if c == ('&', false) then found else [c.1]

/-- A text with what a pattern matches replaced, wherever it does or the first time. -/
def replaceIn (isRepeated : Bool) (globs : List Glob) (replacement : List PatternChar) :
    Nat → List Char → List Char
  | 0, cs => cs
  | n + 1, cs =>
    match cs, matchLength globs cs with
    | c :: rest, none => c :: replaceIn isRepeated globs replacement n rest
    | c :: rest, some 0 => c :: replaceIn isRepeated globs replacement n rest
    | [], _ => []
    | c :: rest, some length =>
      let text := replacementFor replacement ((c :: rest).take length)
      let behind := (c :: rest).drop length
      text ++ if isRepeated then replaceIn isRepeated globs replacement n behind else behind

/-- A value with something in place of what a pattern matches. -/
def replace (spot : Spot) (globs : List Glob) (replacement : List PatternChar) (value : String) :
    String :=
  let cs := value.toList
  match spot with
  | .first => String.ofList (replaceIn false globs replacement (cs.length + 1) cs)
  | .all => String.ofList (replaceIn true globs replacement (cs.length + 1) cs)
  | .start =>
    match matchLength globs cs with
    | some n => String.ofList (replacementFor replacement (cs.take n) ++ cs.drop n)
    | none => value
  | .ending =>
    match (Glob.lengths cs).find? fun n => Glob.isMatch globs (cs.drop n) with
    | some n => String.ofList (cs.take n ++ replacementFor replacement (cs.drop n))
    | none => value

/-- A letter with its case changed. -/
def changed (change : CaseChange) (c : Char) : Char :=
  match change with
  | .raise => c.toUpper
  | .lower => c.toLower
  | .swap => if c.isUpper then c.toLower else c.toUpper

/-- A value with its first letter or all of its letters changed where a pattern matches them; no
pattern matches all. -/
def recase (change : CaseChange) (changesAll : Bool) (globs : List Glob) (value : String) :
    String :=
  let one (c : Char) : Char :=
    if globs.isEmpty || Glob.isMatch globs [c] then changed change c else c
  match changesAll, value.toList with
  | true, cs => String.ofList (cs.map one)
  | false, c :: cs => String.ofList (one c :: cs)
  | false, [] => ""

/-- True of a character that cannot be shown between plain quotes. -/
def isControl (c : Char) : Bool := c.toNat < 32 || 126 < c.toNat

/-- A text between quotes, so that a shell reads it as it is. -/
def quoted (text : String) : String :=
  if text.toList.any isControl then
    "$'" ++ String.ofList (text.toList.flatMap quotedChar) ++ "'"
  else "'" ++ text.replace "'" "'\\''" ++ "'"

/-- A text between double quotes, as declarations show it. -/
def doubleQuoted (text : String) : String :=
  let one (c : Char) : List Char :=
    if c == '"' || c == '\\' || c == '$' || c == '\x60' then ['\\', c] else [c]
  if text.toList.any isControl then quoted text
  else "\"" ++ String.ofList (text.toList.flatMap one) ++ "\""

/-- What a letter asks to be done with a value. -/
def transform (letter : Char) (value : String) : String :=
  match letter with
  | 'Q' => quoted value
  | 'E' => (Escape.text .extended value).1
  | 'U' => value.map Char.toUpper
  | 'L' => value.map Char.toLower
  | 'u' => recase .raise false [] value
  | _ => value

/-! ## Alternatives -/

/-- True of a part that is a given unquoted character. -/
def isBare (c : Char) (part : Part) : Bool := Word.bareChar? part == some c

/-- The alternatives up to the brace that closes the start of a word, and the rest behind it;
`current` is the open alternative in reverse. -/
def splitAlternatives : (depth : Nat) → (current : Word) → Word → Option (List Word × Word)
  | _, _, [] => none
  | depth, current, part :: word =>
    let goOn (depth : Nat) : Option (List Word × Word) :=
      splitAlternatives depth (part :: current) word
    match Word.bareChar? part, depth with
    | some '\x7d', 0 => some ([current.reverse], word)
    | some '\x7d', depth + 1 => goOn depth
    | some '\x7b', depth => goOn (depth + 1)
    | some ',', 0 =>
      (splitAlternatives 0 [] word).map fun (rest, behind) => (current.reverse :: rest, behind)
    | _, depth => goOn depth

/-- The number that a text is, with its sign. -/
def signedNumber? (text : String) : Option Int :=
  let digits := if text.startsWith "-" || text.startsWith "+" then (text.drop 1).toString else text
  (naturalOf? digits).map fun n => if text.startsWith "-" then -(n : Int) else n

/-- The numbers from one to another by steps. -/
def stepped (first last step : Int) : List Int :=
  let size := if step == 0 then 1 else step.natAbs
  let count := (last - first).natAbs / size + 1
  (List.range count).map fun (k : Nat) =>
    if first ≤ last then first + (k * size : Nat) else first - (k * size : Nat)

/-- The width of the numbers of a sequence: they are brought to it if one is written with a zero in
front. -/
def paddedWidth (first last : String) : Nat :=
  let isPadded (text : String) : Bool :=
    let digits := text.toList.dropWhile (· == '-')
    digits.length > 1 && digits.head? == some '0'
  if isPadded first || isPadded last then max first.length last.length else 0

/-- A number brought to a width by zeros. -/
def padded (width : Nat) (n : Int) : String :=
  let digits := toString n.natAbs
  let sign := if n < 0 then "-" else ""
  sign ++ String.ofList (List.replicate (width - sign.length - digits.length) '0') ++ digits

/-- The texts of a sequence between braces: numbers or letters from one to another. -/
def sequence? (text : String) : Option (List String) :=
  let between (first last : String) (step : Int) : Option (List String) :=
    match signedNumber? first, signedNumber? last, first.toList, last.toList with
    | some a, some b, _, _ => some ((stepped a b step).map (padded (paddedWidth first last)))
    | _, _, [c], [d] =>
      if c.isAlpha && d.isAlpha then
        some ((stepped c.toNat d.toNat step).map fun n => String.ofList [Char.ofNat n.toNat])
      else none
    | _, _, _, _ => none
  match text.splitOn ".." with
  | [first, last] => between first last 1
  | [first, last, step] => (signedNumber? step).bind fun step => between first last step
  | _ => none

/-- The words that a word with alternatives in braces stands for; `rounds` bounds the braces. -/
def expandBraces : (rounds : Nat) → Word → List Word
  | 0, word => [word]
  | n + 1, word =>
    let head := word.takeWhile fun part => !isBare '\x7b' part
    match word.drop head.length with
    | [] => [word]
    | brace :: inner =>
      let literal : List Word := (expandBraces n inner).map fun rest => head ++ brace :: rest
      match splitAlternatives 0 [] inner with
      | none => literal
      | some ([single], behind) =>
        match (Word.bare? single).bind sequence? with
        | some texts =>
          let rests := expandBraces n behind
          texts.flatMap fun text =>
            let parts : Word := text.toList.map fun c => .char c true
            rests.map fun rest => head ++ parts ++ rest
        | none => literal
      | some (alternatives, behind) =>
        let rests := expandBraces n behind
        (alternatives.flatMap (expandBraces n)).flatMap fun alternative =>
          rests.map fun rest => head ++ alternative ++ rest

/-- The words that a word with alternatives in braces stands for. One that stands for no text at all
is none. -/
def alternatives (word : Word) : List Word :=
  match expandBraces (word.length + 1) word with
  | [word] => [word]
  | words => words.filter fun word => !word.isEmpty

end Shaping

end PointerTagging.Host.Shell
