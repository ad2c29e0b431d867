import PointerTagging.Host.Regex.Reading
import PointerTagging.Host.Utility.Options
/-!
# Texts backwards

The utilities that print the parts of texts in the opposite order, and lines backwards.
-/

namespace PointerTagging.Host.Tool

/-- What stands between the parts of a text. -/
inductive Separator where
  | text (mark : String)
  | found (regex : Regex)

namespace Separator

/-- An expression in the form in which plus and question marks need no backslash, in the basic
form. -/
def basicForm : List Char → List Char
  | [] => []
  | '\\' :: c :: cs => if c == '+' || c == '?' then c :: basicForm cs else '\\' :: c :: basicForm cs
  | c :: cs => if c == '+' || c == '?' then '\\' :: c :: basicForm cs else c :: basicForm cs

/-- The start and the end of the last place in some characters where an expression matches. -/
def lastMatch? (regex : Regex) (cs : List Char) : Option (Nat × Nat) :=
  let start := Regex.Place.start (String.ofList cs)
  let tries := (List.range cs.length).reverse
  tries.findSome? fun n =>
    (regex.matchAt? ⟨false, true⟩ (start.forward n)).map fun stop => (n, stop.index)

/-- The parts of a text that separators end, or begin if they stand `before` them, in the opposite
order. What is given is the text up to where the last separator began, and what follows the one that
was looked for last. -/
def partsFound (regex : Regex) (before : Bool) : Nat → (isFirst : Bool) → (cs behind : List Char) →
    List String
  | 0, _, cs, behind => [String.ofList (cs ++ behind)]
  | n + 1, isFirst, cs, behind =>
    match lastMatch? regex cs with
    | none => [String.ofList (cs ++ behind)]
    | some (start, stop) =>
      let rest := cs.take start
      if before then
        String.ofList (cs.drop start ++ behind) :: partsFound regex before n false rest []
      else
        let part := cs.drop stop ++ behind
        let mark := (cs.take stop).drop start
        if isFirst && part.isEmpty then partsFound regex before n false rest mark
        else String.ofList part :: partsFound regex before n false rest mark

/-- The parts of a text in the opposite order. -/
def parts (separator : Separator) (before : Bool) (text : String) : List String :=
  match separator with
  | .found regex => partsFound regex before (text.length + 1) true text.toList []
  | .text mark =>
    let parts := text.splitOn mark
    if before then
      match parts with
      | [] => []
      | first :: rest => (first :: rest.map (mark ++ ·)).reverse
    else
      let closed := parts.dropLast.map (· ++ mark)
      let last := parts.getLastD ""
      (if last.isEmpty then closed else closed ++ [last]).reverse

end Separator

/-- The options of `tac`. -/
def tacOptions : OptionTable :=
  { letters := "bs:r"
    names := [("before", 'b'), ("separator=", 's'), ("regex", 'r')]
    stopsEarly := false }

/-- Prints the lines of texts in the opposite order. -/
def tac (view : View) : Outcome :=
  view.withOptions 1 tacOptions fun arguments =>
    let mark := (arguments.value? 's').getD "\n"
    let separator : Except String Separator :=
      if arguments.has 'r' then
        if mark.isEmpty then .error "separator cannot be empty"
        else
          let form := { Regex.Dialect.basic with hasLines := true }
          match Regex.parse form (String.ofList (Separator.basicForm mark.toList)) with
          | .ok (regex, _) => .ok (.found regex)
          | .error error => .error error.message
      else .ok (.text (if mark.isEmpty then "\x00" else mark))
    match separator with
    | .error complaint => view.failing 1 complaint
    | .ok separator =>
      let word (path : String) (why : Unreadable) : String :=
        if why.isOpen then path ++ ": read error: " ++ why.error.text
        else "failed to open " ++ Quoting.always path ++ " for reading: " ++ why.error.text
      view.filteringBy word 1 arguments.operands fun texts =>
        String.join (texts.flatMap fun t => separator.parts (arguments.has 'b') t.2)

/-- Prints each line of texts backwards. -/
def rev (view : View) : Outcome :=
  view.withOptions 1 ⟨"", [], false⟩ fun arguments =>
    let word (path : String) (why : Unreadable) : String :=
      "cannot open " ++ path ++ ": " ++ why.error.text
    view.filteringBy word 1 arguments.operands fun texts =>
      String.join (texts.map fun t =>
        let reversed (line : String) : String :=
          if line.endsWith "\n" then String.ofList (line.toList.dropLast.reverse ++ ['\n'])
          else String.ofList line.toList.reverse
        String.join ((wholeLines t.2).map reversed))

end PointerTagging.Host.Tool
