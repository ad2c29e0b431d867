import PointerTagging.Host.Regex
/-!
# Scripts for editing streams

The commands of a script, the lines that they apply to, and what replaces a match.
-/

namespace PointerTagging.Host.Sed

/-- A regular expression of a script; none stands for the one that was used last. -/
abbrev Pattern := Option (Regex × Bool)

/-- An address of a line. -/
inductive Address where
  | number (n : Nat)
  /-- Every line that is `first` and a multiple of `step` behind it. -/
  | stepped (first step : Nat)
  | last
  | matching (pattern : Pattern)
  /-- As many lines behind the start of a range. -/
  | count (n : Nat)
  /-- The next line whose number is a multiple. -/
  | multiple (n : Nat)
  deriving Repr

/-- The lines that a command applies to. -/
structure Selector where
  first : Option Address
  /-- The end of a range. -/
  last : Option Address
  /-- The command applies to all other lines. -/
  isNegated : Bool
  deriving Repr

/-- A part of what replaces a match. -/
inductive Part where
  | text (text : String)
  /-- What a group has matched; number 0 is the whole match. -/
  | group (n : Nat)
  /-- The letters behind are changed: `U` and `L` all of them, `u` and `l` the first one; `E` ends
  this. -/
  | letters (kind : Char)
  deriving DecidableEq, Repr

/-- A substitution. -/
structure Substitution where
  pattern : Pattern
  replacement : List Part
  /-- The number of the match that is replaced first. -/
  first : Nat
  /-- All later matches are replaced too. -/
  isGlobal : Bool
  prints : Bool
  /-- The file that a changed line is written to. -/
  file : Option String
  deriving Repr

/-- When a jump is made. -/
inductive Jump where
  | always
  | ifReplaced
  | unlessReplaced
  deriving DecidableEq, Repr

/-- What a command does. -/
inductive Action where
  /-- The commands up to the brace that closes the block, by its place in the script. -/
  | block (ending : Nat)
  | blockEnd
  | nothing
  | label (name : String)
  | jump (kind : Jump) (label : String)
  | append (text : String)
  | insert (text : String)
  | change (text : String)
  | delete
  | deleteLine
  | lineNumber
  | fileName
  | hold (appends : Bool)
  | get (appends : Bool)
  | exchange
  | list (width : Option Nat)
  | next (appends : Bool)
  | print
  | printLine
  | quit (prints : Bool) (code : Nat)
  | readFile (path : String)
  | readLine (path : String)
  | substitute (substitution : Substitution)
  | translate (pairs : List (Char × Char))
  | write (path : String) (onlyLine : Bool)
  | clear
  deriving Repr

/-- A command. -/
structure Command where
  selector : Selector
  action : Action
  deriving Repr

/-- How a script is run. -/
structure Settings where
  /-- Nothing is printed but by commands. -/
  isQuiet : Bool
  /-- Each file is edited on its own. -/
  isSeparate : Bool
  /-- Files are changed in place; a copy with this ending is kept if it is not empty. -/
  inPlace : Option String
  /-- The character that ends lines. -/
  ending : Char
  /-- The width of lines that show every character. -/
  width : Nat
  /-- No more is read than is needed. -/
  isUnbuffered : Bool

end PointerTagging.Host.Sed
