import PointerTagging.Text.Utf8
/-!
# Command-line arguments

The words of a command line, sorted into options, positional words and the words behind `--`, and
the invocations that they stand for.

An option is written `--name` or `--name=value`. One that takes a value takes the next word if it
has none attached, unless that word begins with a dash and goes on. No option may be given twice.
-/

namespace PointerTagging.CommandLine

open Text

/-- The options that a command knows. -/
structure Options where
  /-- Those that take a value. -/
  valued : List String
  /-- Those that do not. -/
  switches : List String

/-- The words of a command line, sorted. -/
structure Sorted where
  values : List (String × List UInt8)
  switches : List String
  positional : List (List UInt8)
  /-- The words behind `--`. -/
  trailing : List (List UInt8)
  deriving DecidableEq, Repr

/-- The byte of a dash. -/
def dash : UInt8 := 0x2D

/-- True of a word that cannot be the value of an option: it begins with a dash and goes on. -/
def looksLikeOption : List UInt8 → Bool
  | b :: _ :: _ => b == dash
  | _ => false

/-- The name and the attached value of a word behind its two dashes. -/
def splitOption (word : List UInt8) : Option String × Option (List UInt8) :=
  let name := Utf8.toString? (word.takeWhile (· != 0x3D))
  match word.dropWhile (· != 0x3D) with
  | [] => (name, none)
  | _ :: value => (name, some value)

namespace Sorted

/-- No word. -/
def empty : Sorted := ⟨[], [], [], []⟩

/-- The words with the value of an option added, if it has none yet. -/
def addValue? (sorted : Sorted) (name : String) (value : List UInt8) : Option Sorted :=
  if sorted.values.any fun v => v.1 == name then none
  else some { sorted with values := sorted.values ++ [(name, value)] }

/-- The words with a switch added, if it is not given yet. -/
def addSwitch? (sorted : Sorted) (name : String) : Option Sorted :=
  if sorted.switches.contains name then none
  else some { sorted with switches := sorted.switches ++ [name] }

/-- The value of an option as text, if it is given: nothing if it is not text. -/
def text? (sorted : Sorted) (name : String) : Option (Option String) :=
  match sorted.values.find? fun v => v.1 == name with
  | none => some none
  | some (_, value) => (Utf8.toString? value).map some

end Sorted

/-- Sorts words, after those that are sorted already; nothing if they break a rule. -/
def sort? (options : Options) (sorted : Sorted) : List (List UInt8) → Option Sorted
  | [] => some sorted
  | word :: words =>
    if word == [dash, dash] then some { sorted with trailing := words }
    else if word.take 2 == [dash, dash] then
      match splitOption (word.drop 2) with
      | (some name, attached) =>
        if options.valued.contains name then
          match attached, words with
          | some value, words => (sorted.addValue? name value).bind fun s => sort? options s words
          | none, value :: words =>
            if looksLikeOption value then none
            else (sorted.addValue? name value).bind fun s => sort? options s words
          | none, [] => none
        else if options.switches.contains name then
          match attached with
          | some _ => none
          | none => (sorted.addSwitch? name).bind fun s => sort? options s words
        else none
      | (none, _) => none
    else if looksLikeOption word then none
    else sort? options { sorted with positional := sorted.positional ++ [word] } words

/-- What a command line asks for. -/
inductive Invocation where
  /-- Shows the configuration that the environment gives. -/
  | config
  /-- Classifies addresses, under a tag if one is given. -/
  | classify (addresses : List String) (tag : Option String)
  /-- Runs a command with the library preloaded. -/
  | run (library : List UInt8) (trace : Bool) (threshold tag policy : Option String)
      (command : List String)
  deriving DecidableEq, Repr

namespace Invocation

/-- The words of `config`. -/
def parseConfig (words : List (List UInt8)) : Option Invocation := do
  let sorted ← sort? ⟨[], []⟩ .empty words
  guard (sorted.positional.isEmpty && sorted.trailing.isEmpty)
  some .config

/-- The words of `classify`. -/
def parseClassify (words : List (List UInt8)) : Option Invocation := do
  let sorted ← sort? ⟨["tag"], []⟩ .empty words
  let addresses ← (sorted.positional ++ sorted.trailing).mapM Utf8.toString?
  guard (!addresses.isEmpty)
  some (.classify addresses (← sorted.text? "tag"))

/-- The words of `run`. -/
def parseRun (words : List (List UInt8)) : Option Invocation := do
  let sorted ← sort? ⟨["preload", "threshold", "tag", "realloc-policy"], ["trace"]⟩ .empty words
  guard sorted.positional.isEmpty
  let (_, library) ← sorted.values.find? fun v => v.1 == "preload"
  guard (!library.isEmpty)
  let command ← sorted.trailing.mapM Utf8.toString?
  guard (!command.isEmpty)
  some (.run library (sorted.switches.contains "trace") (← sorted.text? "threshold")
    (← sorted.text? "tag") (← sorted.text? "realloc-policy") command)

/-- What the words of a command line ask for; nothing if they break a rule. -/
def parse? : List (List UInt8) → Option Invocation
  | [] => none
  | word :: words =>
    match Utf8.toString? word with
    | some "config" => parseConfig words
    | some "classify" => parseClassify words
    | some "run" => parseRun words
    | _ => none

end Invocation

end PointerTagging.CommandLine
