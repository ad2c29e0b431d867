import PointerTagging.Host.Condition
import PointerTagging.Host.Regex.Reading
import PointerTagging.Host.Shell.Expansion
/-!
# Conditions of the extended dialect

What `test` says about its arguments, whose number decides how they are understood, and what a
condition between double brackets says, whose words are neither split nor taken for operators.
-/

namespace PointerTagging.Host.Shell

open Shell.Action

namespace Bracket

/-- The comparisons that `test` knows. -/
def comparisons : List String :=
  ["=", "==", "!=", "<", ">", "-eq", "-ne", "-lt", "-le", "-gt", "-ge", "-nt", "-ot", "-ef"]

/-- Where questions about files are asked. -/
def scene : Action Condition.Scene := do
  let s ← get
  return ⟨s.world.tree, s.place⟩

/-- True of the name of an option that is on. -/
def isOptionOn (name : String) (longNames : List (String × Char)) : Action Bool := do
  let s ← get
  match longNames.find? fun o => o.1 == name with
  | some (_, letter) => return s.options.contains letter
  | none => return s.features.contains name

/-- The long names of the options with letters. -/
def optionNames : List (String × Char) :=
  [("allexport", 'a'), ("braceexpand", 'B'), ("errexit", 'e'), ("errtrace", 'E'),
    ("functrace", 'T'), ("hashall", 'h'), ("histexpand", 'H'), ("keyword", 'k'), ("monitor", 'm'),
    ("noclobber", 'C'), ("noexec", 'n'), ("noglob", 'f'), ("notify", 'b'), ("nounset", 'u'),
    ("onecmd", 't'), ("physical", 'P'), ("privileged", 'p'), ("verbose", 'v'), ("xtrace", 'x')]

/-- True of a variable, an element or a parameter that is set. -/
def isSet (word : String) : Action Bool := do
  if !(isName word || word.contains '[') then return false
  let value ← parameterValue (← parameterNamed word)
  return value.isSome

/-- The answer to a question about a word. -/
def unary (operator operand : String) : Action Bool := do
  match operator with
  | "-a" => return (← scene).unary "-e" operand
  | "-o" => isOptionOn operand optionNames
  | "-v" => isSet operand
  | "-N" => return false
  | "-R" => return (← binding operand).isReference
  | operator => return (← scene).unary operator operand

/-- The number that an operand of `test` has to be. -/
def integer (operand : String) : Action Int := do
  match numberOf? false operand with
  | some n => return n
  | none => failWith 2 (operand ++ ": integer expression expected")

/-- The answer to a comparison of numbers. -/
def compareNumbers (operator : String) (a b : Int) : Bool :=
  match operator with
  | "-eq" => a == b
  | "-ne" => a != b
  | "-lt" => a < b
  | "-le" => a ≤ b
  | "-gt" => a > b
  | _ => a ≥ b

/-- True of a comparison of numbers. -/
def comparesNumbers (operator : String) : Bool :=
  ["-eq", "-ne", "-lt", "-le", "-gt", "-ge"].contains operator

/-- The answer to a comparison of two words. -/
def binary (operator a b : String) : Action Bool := do
  if comparesNumbers operator then
    let m ← integer a
    return compareNumbers operator m (← integer b)
  match (← scene).binary (if operator == "==" then "=" else operator) a b with
  | .ok answer => return answer
  | .error _ => return false

/-! ## Arguments of `test` -/

/-- What one argument says. -/
def one (word : String) : Bool := !word.isEmpty

/-- What two arguments say. -/
def two (first second : String) : Action Bool := do
  if first == "!" then return !one second
  if unaryTests.contains first then unary first second
  else failWith 2 (first ++ ": unary operator expected")

/-- What three arguments say. -/
def three (first second third : String) : Action Bool := do
  if comparisons.contains second then binary second first third
  else if second == "-a" then return one first && one third
  else if second == "-o" then return one first || one third
  else if first == "!" then return !(← two second third)
  else if first == "(" && third == ")" then return one second
  else failWith 2 (second ++ ": binary operator expected")

/-- What arguments say at their start, and those that are left; `whole` reads what is inside
parentheses. -/
def term (whole : List String → Action (Bool × List String)) :
    Nat → List String → Action (Bool × List String)
  | 0, words => return (false, words)
  | _, [] => failWith 2 "argument expected"
  | n + 1, word :: words => do
    if word == "!" then
      let (answer, rest) ← term whole n words
      return (!answer, rest)
    if word == "(" then
      let (answer, rest) ← whole words
      match rest with
      | ")" :: rest => return (answer, rest)
      | [] => failWith 2 "\x60)' expected"
      | found :: _ => failWith 2 ("\x60)' expected, found " ++ found)
    match words with
    | operator :: second :: rest =>
      if comparisons.contains operator then return (← binary operator word second, rest)
      if unaryTests.contains word then return (← unary word operator, second :: rest)
      return (one word, words)
    | [operand] =>
      if unaryTests.contains word then return (← unary word operand, [])
      return (one word, words)
    | [] => return (one word, [])

/-- What arguments say that are linked by an operator. -/
def linked (operator : String) (link : Bool → Bool → Bool)
    (operand : List String → Action (Bool × List String)) :
    Nat → List String → Action (Bool × List String)
  | 0, words => operand words
  | n + 1, words => do
    let (a, rest) ← operand words
    match rest with
    | word :: rest =>
      if word == operator then
        let (b, rest) ← linked operator link operand n rest
        return (link a b, rest)
      return (a, word :: rest)
    | [] => return (a, [])

/-- What arguments say with at most as many levels of parentheses. -/
def expression : Nat → List String → Action (Bool × List String)
  | 0, words => return (false, words)
  | n + 1, words =>
    let room := words.length + 1
    let conjunction := linked "-a" and (term (expression n) room) room
    linked "-o" or conjunction room words

/-- What more than three arguments say. -/
def many (words : List String) : Action Bool := do
  let (answer, rest) ← expression (words.length + 1) words
  unless rest.isEmpty do failWith 2 "too many arguments"
  return answer

/-- What arguments say. -/
def holds (words : List String) : Action Bool := do
  match words with
  | [] => return false
  | [a] => return one a
  | [a, b] => two a b
  | [a, b, c] => three a b c
  | [a, b, c, d] =>
    if a == "!" then return !(← three b c d)
    else if a == "(" && d == ")" then two b c
    else many words
  | words => many words

/-- What `test` says; under the name `[` the last argument closes the brackets. -/
def test (name : String) (arguments : List String) : Action Nat := do
  let words ←
    if name != "[" then pure arguments
    else if arguments.getLast? == some "]" then pure arguments.dropLast
    else failWith 2 "missing \x60]'"
  return if ← holds words then 0 else 1

/-! ## Double brackets -/

/-- Keeps what a regular expression and its groups have matched. -/
def keepMatch (start ending : Regex.Place) (count : Nat) : Action Unit := do
  let group (n : Nat) : Nat × String := (n, (ending.group? n).getD "")
  let all : Nat × String := (0, start.upTo ending)
  let elements := all :: (List.range count).map fun n => group (n + 1)
  change "BASH_REMATCH" fun b => b.withArray (.indexed elements)

/-- True if a regular expression matches somewhere in a text. -/
def matchesRegex (text pattern : String) : Action Bool := do
  match Regex.parse .extended pattern with
  | .error _ => failWith 2 ("invalid regular expression \x60" ++ pattern ++ "'")
  | .ok (regex, _) =>
    let ignoresCase := (← get).features.contains "nocasematch"
    match Regex.search? ⟨ignoresCase, true⟩ regex text with
    | some (start, ending) =>
      keepMatch start ending regex.groupCount
      return true
    | none =>
      change "BASH_REMATCH" fun b => b.withArray (.indexed [])
      return false

/-- The answer to a comparison of two words, the second of which can be a pattern. -/
def compareWords (run : Runner) (operator : String) (first second : Word) : Action Bool := do
  let a ← expandText run first
  if operator == "=~" then matchesRegex a (← expandRegex run second)
  else if operator == "=" || operator == "==" || operator == "!=" then
    let globs ← expandPattern run second
    let ignoresCase := (← get).features.contains "nocasematch"
    let isFitting :=
      if ignoresCase then Glob.isMatch (globs.map Glob.lowered) (a.map Char.toLower).toList
      else Glob.isMatch globs a.toList
    return isFitting != (operator == "!=")
  else
    let b ← expandText run second
    if comparesNumbers operator then
      let m ← computeIn "[[: " mostLookups a
      return compareNumbers operator m (← computeIn "[[: " mostLookups b)
    binary operator a b

/-- The answer to a condition between double brackets. -/
def answer (run : Runner) : Test → Action Bool
  | .unary operator word => do unary operator (← expandText run word)
  | .binary operator first second => compareWords run operator first second
  | .negation test => do return !(← answer run test)
  | .conjunction first second => do
    if ← answer run first then answer run second else return false
  | .disjunction first second => do
    if ← answer run first then return true else answer run second

end Bracket

end PointerTagging.Host.Shell
