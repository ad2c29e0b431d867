import PointerTagging.Host.Utility.Streams
/-!
# Repeated lines

The utility that prints lines that repeat the one before only once, or prints or counts those that
are repeated.
-/

namespace PointerTagging.Host.Tool

open Text

/-- Where empty lines stand between groups of lines. -/
inductive GroupGaps where
  | none
  | before
  | behind
  | between
  | around
  deriving DecidableEq, Repr

/-- Groups of lines with empty lines at some of their ends; groups without a line do not count. -/
def GroupGaps.spread (gaps : GroupGaps) (groups : List (List String)) : List String :=
  let groups := groups.filter (!·.isEmpty)
  match gaps with
  | .none => groups.flatten
  | .before => groups.flatMap ("" :: ·)
  | .behind => groups.flatMap (· ++ [""])
  | .between => (groups.intersperse [""]).flatten
  | .around => if groups.isEmpty then [] else "" :: groups.flatMap (· ++ [""])

/-- What is printed of repeated lines. -/
structure Uniq where
  skippedFields : Nat
  skippedChars : Nat
  /-- How many characters are compared, if not all. -/
  checked : Option Nat
  ignoresCase : Bool
  counts : Bool
  /-- Lines that stand alone are printed. -/
  printsSingle : Bool
  /-- Of lines that are repeated one is printed. -/
  printsRepeated : Bool
  /-- The others of them are printed. -/
  printsOthers : Bool
  gaps : GroupGaps
  /-- All lines are printed, with gaps between groups. -/
  groups : Bool
  isZeroEnded : Bool
  /-- Digits make up one number of fields as long as no other number is given. -/
  hasDigits : Bool

namespace Uniq

/-- A line without its first fields. -/
def withoutFields : Nat → List Char → List Char
  | 0, cs => cs
  | _, [] => []
  | n + 1, cs =>
    let isSeparator (c : Char) : Bool := isBlank c || c == '\n'
    withoutFields n ((cs.dropWhile isSeparator).dropWhile (!isSeparator ·))

/-- What is compared of a line. -/
def key (uniq : Uniq) (line : String) : List Char :=
  let cs := (withoutFields uniq.skippedFields line.toList).drop uniq.skippedChars
  let cs := uniq.checked.elim cs cs.take
  if uniq.ignoresCase then cs.map Char.toUpper else cs

/-- Lines in groups of those that follow each other and have equal keys, with the keys. -/
def groupsOf (uniq : Uniq) : List String → List (List Char × List String)
  | [] => []
  | line :: lines =>
    let key := uniq.key line
    match groupsOf uniq lines with
    | (next, group) :: rest =>
      if key == next then (key, line :: group) :: rest
      else (key, [line]) :: (next, group) :: rest
    | [] => [(key, [line])]

/-- What is printed of a group. -/
def shown (uniq : Uniq) (group : List String) : List String :=
  let count := group.length
  if uniq.groups then group
  else if uniq.printsOthers then
    if count == 1 then (if uniq.printsSingle then group else [])
    else if uniq.printsRepeated then group
    else group.dropLast
  else if count == 1 && !uniq.printsSingle then []
  else if count > 1 && !uniq.printsRepeated then []
  else if uniq.counts then [padLeft 7 (toString count) ++ " " ++ group.headD ""]
  else group.take 1

/-- What is printed of lines. -/
def lines (uniq : Uniq) (lines : List String) : List String :=
  uniq.gaps.spread ((uniq.groupsOf lines).map fun g => uniq.shown g.2)

/-- The amount that a text says; what follows the text if it says none. -/
def amount (what text : String) : Except String Nat :=
  match amountIn "" text with
  | .ok n => .ok n
  | .error .tooLarge => .ok UInt64.size
  | .error _ => .error (text ++ ": invalid number of " ++ what)

/-- The settings with one more option, or what is wrong with it. -/
def withOption (view : View) (uniq : Uniq) (letter : Char) (value : String) :
    Except Outcome Uniq := do
  let size (what : String) : Except Outcome Nat := (amount what value).mapError (view.failing 1)
  match letter with
  | 'c' => return { uniq with counts := true }
  | 'd' => return { uniq with printsSingle := false }
  | 'u' => return { uniq with printsRepeated := false }
  | 'i' => return { uniq with ignoresCase := true }
  | 'z' => return { uniq with isZeroEnded := true }
  | 'f' =>
    return { uniq with skippedFields := ← size "fields to skip", hasDigits := false }
  | 's' => return { uniq with skippedChars := ← size "bytes to skip" }
  | 'w' => return { uniq with checked := some (← size "bytes to compare") }
  | 'D' =>
    let words : List (List String × GroupGaps) :=
      [(["none"], .none), (["prepend"], .before), (["separate"], .between)]
    let gaps ← if value.isEmpty then pure GroupGaps.none else view.choose "all-repeated" words value
    return { uniq with printsSingle := false, printsOthers := true, gaps }
  | 'g' =>
    let words : List (List String × GroupGaps) :=
      [(["prepend"], .before), (["append"], .behind), (["separate"], .between),
        (["both"], .around)]
    let gaps ← if value.isEmpty then pure GroupGaps.between else view.choose "group" words value
    return { uniq with groups := true, gaps }
  | letter =>
    if !letter.isDigit then return uniq
    let before := if uniq.hasDigits then uniq.skippedFields else 0
    return { uniq with
      skippedFields := before * 10 + (letter.toNat - '0'.toNat)
      hasDigits := true }

end Uniq

/-- The options of `uniq`. -/
def uniqOptions : OptionTable :=
  { letters := "0123456789cdDf:is:uw:z"
    names := [("count", 'c'), ("repeated", 'd'), ("all-repeated==", 'D'), ("skip-fields=", 'f'),
      ("group==", 'g'), ("ignore-case", 'i'), ("skip-chars=", 's'), ("unique", 'u'),
      ("check-chars=", 'w'), ("zero-terminated", 'z')]
    stopsEarly := false }

/-- The number of characters to skip that an operand with a plus says. -/
def skippedChars? (word : String) : Option Nat :=
  if word.startsWith "+" then (amountIn "" word).toOption else none

/-- Prints lines, those that repeat the one before only once. -/
def uniq (view : View) : Outcome :=
  view.withOptions 1 uniqOptions fun arguments =>
    let start : Uniq :=
      ⟨0, 0, none, false, false, true, true, false, .none, false, false, false⟩
    let hasOutput := arguments.options.any fun o => "cdDu".toList.contains o.1
    let skipped := arguments.operands.filterMap skippedChars?
    let paths := arguments.operands.filter fun word => (skippedChars? word).isNone
    let source := paths.headD "-"
    match arguments.options.foldlM (fun uniq o => uniq.withOption view o.1 o.2) start with
    | .error outcome => outcome
    | .ok uniq =>
      let uniq := { uniq with skippedChars := skipped.getLastD uniq.skippedChars }
      let ending := if uniq.isZeroEnded then '\x00' else '\n'
      let print (text : String) : String :=
        String.join ((uniq.lines (partsOf ending text)).map (·.push ending))
      let reading (why : Unreadable) : Outcome :=
        view.failing 1
          (if why.isOpen then "error reading " ++ Quoting.always source ++ ": " ++ why.error.text
          else View.plainly source why)
      if paths.length > 2 then
        view.misused 1 ("extra operand " ++ quotation ((paths[2]?).getD ""))
      else if uniq.groups && hasOutput then
        view.misused 1 "--group is mutually exclusive with -c/-d/-D/-u"
      else if uniq.counts && uniq.printsOthers then
        view.misused 1 "printing all duplicated lines and repeat counts is meaningless"
      else
        match view.read source, (paths[1]?).filter (· != "-") with
        | .error why, none => reading why
        | .ok text, none => { Outcome.printing (print text) with drains := source == "-" }
        | .error ⟨false, error⟩, some _ => reading ⟨false, error⟩
        | _, some target =>
          let word (error : SystemError) : String := View.plainly target ⟨false, error⟩
          -- the target is emptied before anything is read
          let emptied := writeTo view 1 target "" false word (.quiet 0)
          if emptied.code != 0 then emptied
          else
            match { view with tree := emptied.tree.getD view.tree }.read source with
            | .ok text =>
              { writeTo view 1 target (print text) false word emptied with drains := source == "-" }
            | .error why => { reading why with tree := emptied.tree }

end PointerTagging.Host.Tool
