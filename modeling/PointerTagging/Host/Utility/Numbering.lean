import PointerTagging.Host.Regex.Reading
import PointerTagging.Host.Utility.Options
/-!
# Numbered lines

The utility that prints lines with numbers. A text is a row of pages with a header, a body and a
footer, which begin at lines of signs of their own.
-/

namespace PointerTagging.Host.Tool

open Text

/-- Which lines of a part of a page have numbers. -/
inductive Numbered where
  | all
  | filled
  | none
  /-- Those in which an expression is found. -/
  | found (regex : Regex)

/-- The lines that a text means, if it means some; an expression may be wrong. -/
def Numbered.ofText? (text : String) : Option (Except String Numbered) :=
  match text.toList with
  | ['a'] => some (.ok .all)
  | ['t'] => some (.ok .filled)
  | ['n'] => some (.ok Numbered.none)
  | 'p' :: cs =>
    match Regex.parse .basic (String.ofList cs) with
    | .ok (regex, _) => some (.ok (.found regex))
    | .error error => some (.error error.message)
  | _ => Option.none

/-- How lines are numbered. -/
structure NumberStyle where
  header : Numbered
  body : Numbered
  footer : Numbered
  /-- The sign of which the lines between parts of pages are made. -/
  sign : String
  start : Int
  step : Int
  /-- Of so many empty lines in a row one has a number. -/
  emptyLines : Nat
  width : Nat
  /-- On which side the number stands, and whether zeros fill its room. -/
  format : String
  separator : String
  /-- Every part of a page starts again. -/
  restarts : Bool

namespace NumberStyle

/-- A number in its room. -/
def column (style : NumberStyle) (n : Int) : String :=
  match style.format with
  | "ln" => padRight style.width (toString n)
  | "rz" =>
    let digits := toString n.natAbs
    let sign := if n < 0 then "-" else ""
    sign ++ String.ofList (List.replicate (style.width - sign.length - digits.length) '0') ++ digits
  | _ => padLeft style.width (toString n)

/-- True of a line with a number; `isCounted` says that it is the last of so many empty ones. -/
def isNumbered (part : Numbered) (isCounted : Bool) (line : String) : Bool :=
  match part with
  | .all => !line.isEmpty || isCounted
  | .filled => !line.isEmpty
  | .none => false
  | .found regex => regex.isFoundIn ⟨false, false⟩ line

/-- Lines with their numbers, in a part of a page; `empty` lines are counted that were empty. -/
def showAll (style : NumberStyle) : (part : Numbered) → (number : Int) → (empty : Nat) →
    List String → List String
  | _, _, _, [] => []
  | part, number, empty, line :: lines =>
    let sign (n : Nat) : String := String.join (List.replicate n style.sign)
    let next := if style.restarts then style.start else number
    if !style.sign.isEmpty && line == sign 3 then
      "" :: style.showAll style.header next empty lines
    else if !style.sign.isEmpty && line == sign 2 then
      "" :: style.showAll style.body next empty lines
    else if !style.sign.isEmpty && line == sign 1 then
      "" :: style.showAll style.footer next empty lines
    else
      let isCounted := empty + 1 ≥ style.emptyLines
      let isShown := isNumbered part isCounted line
      let counts :=
        match part with
        | .all => true
        | _ => false
      let empty := if !counts then empty else if isShown then 0 else empty + 1
      if isShown then
        (style.column number ++ style.separator ++ line) ::
          style.showAll part (number + style.step) empty lines
      else
        (padLeft (style.width + style.separator.length) "" ++ line) ::
          style.showAll part number empty lines

end NumberStyle

/-- The options of `nl`. -/
def nlOptions : OptionTable :=
  { letters := "b:d:f:h:i:l:n:ps:v:w:"
    names := [("body-numbering=", 'b'), ("footer-numbering=", 'f'), ("header-numbering=", 'h'),
      ("join-blank-lines=", 'l'), ("line-increment=", 'i'), ("no-renumber", 'p'),
      ("number-format=", 'n'), ("number-separator=", 's'), ("number-width=", 'w'),
      ("section-delimiter=", 'd'), ("starting-line-number=", 'v')]
    stopsEarly := false }

/-- What is usual, and what is wrong with the options so far, apart from what ends the utility at
once. -/
structure NlReading where
  style : NumberStyle
  complaints : List String

/-- Takes an option. -/
def NlReading.take (r : NlReading) (option : Char × String) : Except String NlReading := do
  let (letter, value) := option
  let largest : Int := 9223372036854775807
  let number (what : String) (least most : Int) : Except String Int :=
    boundedNumber ("invalid " ++ what) least most value
  let part (what : String) (set : Numbered → NumberStyle) : Except String NlReading :=
    match Numbered.ofText? value with
    | some (.ok part) => .ok { r with style := set part }
    | some (.error complaint) => .error complaint
    | none =>
      .ok { r with complaints := r.complaints ++
        ["invalid " ++ what ++ " numbering style: " ++ quotation value] }
  match letter with
  | 'b' => part "body" fun body => { r.style with body }
  | 'h' => part "header" fun header => { r.style with header }
  | 'f' => part "footer" fun footer => { r.style with footer }
  | 'd' =>
    let sign := if value.length == 1 then value ++ ":" else value
    return { r with style := { r.style with sign } }
  | 'i' => return { r with style := { r.style with
      step := ← number "line number increment" (-largest - 1) largest } }
  | 'v' => return { r with style := { r.style with
      start := ← number "starting line number" (-largest - 1) largest } }
  | 'l' => return { r with style := { r.style with
      emptyLines := (← number "line number of blank lines" 1 largest).toNat } }
  | 'w' => return { r with style := { r.style with
      width := (← number "line number field width" 1 2147483647).toNat } }
  | 'n' =>
    if ["ln", "rn", "rz"].contains value then
      return { r with style := { r.style with format := value } }
    else
      return { r with complaints := r.complaints ++
        ["invalid line numbering format: " ++ quotation value] }
  | 's' => return { r with style := { r.style with separator := value } }
  | 'p' => return { r with style := { r.style with restarts := false } }
  | _ => return r

/-- Prints lines with numbers. -/
def nl (view : View) : Outcome :=
  view.withOptions 1 nlOptions fun arguments =>
    let usual : NumberStyle :=
      { header := .none, body := .filled, footer := .none, sign := "\\:", start := 1, step := 1
        emptyLines := 1, width := 6, format := "rn", separator := "\t", restarts := true }
    match arguments.options.foldlM NlReading.take ⟨usual, []⟩ with
    | .error complaint => view.failing 1 complaint
    | .ok ⟨style, complaints⟩ =>
      if !complaints.isEmpty then
        { Outcome.quiet 1 with
          errors := String.join (complaints.map view.complaint) ++ view.hint }
      else
        view.filtering arguments.operands fun texts =>
          ofLines (style.showAll style.body style.start 0 (texts.flatMap fun t => linesOf t.2))

end PointerTagging.Host.Tool
