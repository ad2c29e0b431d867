import PointerTagging.Host.Calendar.Format
import PointerTagging.Host.Calendar.Reading
import PointerTagging.Host.Utility.Options
/-!
# Dates

The utility that prints moments: the present one, those that texts describe, or when a file was
changed.
-/

namespace PointerTagging.Host.Tool

/-- The options of `date`. -/
def dateOptions : OptionTable :=
  { letters := "d:f:I::r:Rs:u"
    names := [("date=", 'd'), ("debug", 'g'), ("file=", 'f'), ("iso-8601==", 'I'),
      ("reference=", 'r'), ("resolution", 'n'), ("rfc-822", 'R'), ("rfc-2822", 'R'),
      ("rfc-email", 'R'), ("rfc-3339=", '\x03'), ("set=", 's'), ("uct", 'u'), ("utc", 'u'),
      ("universal", 'u')]
    stopsEarly := false }

/-- The format of a date and a time up to a unit, each with the offset of the zone. -/
def isoFormats : List (List String × String) :=
  [(["hours"], "%Y-%m-%dT%H%:z"), (["minutes"], "%Y-%m-%dT%H:%M%:z"), (["date"], "%Y-%m-%d"),
    (["seconds"], "%Y-%m-%dT%H:%M:%S%:z"), (["ns"], "%Y-%m-%dT%H:%M:%S,%N%:z")]

/-- The same with a blank in front of the time. -/
def spacedFormats : List (List String × String) :=
  [(["date"], "%Y-%m-%d"), (["seconds"], "%Y-%m-%d %H:%M:%S%:z"),
    (["ns"], "%Y-%m-%d %H:%M:%S.%N%:z")]

/-- The formats that options ask for, or what is wrong with them. -/
def dateFormats (view : View) (arguments : Arguments) : Except Outcome (List String) :=
  arguments.options.foldlM
    (fun formats (letter, value) =>
      match letter with
      | 'R' => .ok (formats ++ ["%a, %d %b %Y %H:%M:%S %z"])
      | 'n' => .ok (formats ++ ["%s.%N"])
      | 'I' =>
        if value.isEmpty then .ok (formats ++ ["%Y-%m-%d"])
        else (view.choose "iso-8601" isoFormats value).map (formats ++ [·])
      | '\x03' => (view.choose "rfc-3339" spacedFormats value).map (formats ++ [·])
      | _ => .ok formats) []

/-- The second that the digits of a word mean: month, day, hour and minute, with the year in two or
four digits in front of them or behind them, and the second behind a point. -/
def digitMoment? (yearFirst : Bool) (zone : Zone) (now : Int) (text : String) : Option Int := do
  let body := text.toList.takeWhile (· != '.')
  let behind := text.toList.drop body.length
  guard (body.all Char.isDigit && [8, 10, 12].contains body.length)
  let yearLength := body.length - 8
  let yearDigits := if yearFirst then body.take yearLength else body.drop 8
  let rest := if yearFirst then body.drop yearLength else body
  let pair (n : Nat) : Int := Calendar.signed false ((rest.drop (2 * n)).take 2)
  let second : Int ← (match behind with
    | [] => some 0
    | '.' :: digits =>
      if digits.length == 2 && digits.all Char.isDigit then some (Calendar.signed false digits)
      else none
    | _ => none : Option Int)
  let year : Int :=
    if yearLength == 0 then (Moment.ofSeconds zone now 0).year
    else Calendar.fullYear (Calendar.signed false yearDigits, yearLength)
  (secondOf? zone year (pair 0) (pair 1) (pair 2) (pair 3) second)
where
  /-- The second of a date and a time that there are. -/
  secondOf? (zone : Zone) (year month day hour minute second : Int) : Option Int := do
    guard (1 ≤ month && month ≤ 12 && 1 ≤ day && hour < 24 && minute < 60 && second ≤ 60)
    let start := Calendar.dayNumber year month.toNat 1
    guard (start + day - 1 < Calendar.dayAt year month 1)
    zone.second? ((start + day - 1) * Calendar.daySeconds + hour * 3600 + minute * 60 + second)

/-- Prints moments. -/
def date (view : View) : Outcome :=
  view.withOptions 1 dateOptions fun arguments =>
    let zone := if arguments.has 'u' then Zone.universal else view.zone
    let isSource (c : Char) : Bool := c == 'd' || c == 'f' || c == 'n' || c == 'r'
    let sources := (arguments.options.map (·.1)).filter isSource
    match dateFormats view arguments with
    | .error outcome => outcome
    | .ok formats =>
      match formats, arguments.operands with
      | _ :: _ :: _, _ => view.failing 1 "multiple output formats specified"
      | formats, operands =>
        let word? := operands.head?
        let isFormat := word?.any (·.startsWith "+")
        if sources.length > 1 && (sources.eraseDups.length > 1 || sources.head? != some 'd') then
          view.misused 1 "the options to specify dates for printing are mutually exclusive"
        else if !sources.isEmpty && arguments.has 's' then
          view.misused 1 "the options to print and set the time may not be used together"
        else if operands.length > 1 then
          view.misused 1 ("extra operand " ++ quotation ((operands[1]?).getD ""))
        else if isFormat && !formats.isEmpty then
          view.failing 1 "multiple output formats specified"
        else if !isFormat && !operands.isEmpty && (!sources.isEmpty || arguments.has 's') then
          view.misused 1 ("the argument " ++ quotation (word?.getD "") ++
            " lacks a leading '+';\nwhen using an option to specify date(s), any non-option\n" ++
            "argument must be a format string beginning with '+'")
        else
          let form :=
            if isFormat then ((word?.getD "").drop 1).toString
            else formats.headD "%a %b %e %H:%M:%S %Z %Y"
          let print (moment : Int × Nat) : String :=
            (Moment.ofSeconds zone moment.1 moment.2).format form ++ "\n"
          let invalid (text : String) : String := "invalid date " ++ quotation text
          let read (text : String) : Option (Int × Nat) :=
            Calendar.read? zone view.tree.now text
          let refused (moment? : Option (Int × Nat)) (text : String) : Outcome :=
            match moment? with
            | none => view.failing 1 (invalid text)
            | some moment =>
              { Outcome.printing (print moment) with
                errors := view.complaint
                  ("cannot set date: " ++ SystemError.notPermitted.text)
                code := 1 }
          match sources.head?, word?, isFormat with
          | some 'd', _, _ =>
            let text := (arguments.value? 'd').getD ""
            match read text with
            | some moment => .printing (print moment)
            | none => view.failing 1 (invalid text)
          | some 'r', _, _ =>
            let path := (arguments.value? 'r').getD ""
            match view.tree.locate view.place path with
            | .ok (place, _) => .printing (print (view.tree.detail place).modified)
            | .error error => view.failing 1 (Quoting.name path ++ ": " ++ error.text)
          | some 'f', _, _ =>
            let path := (arguments.value? 'f').getD ""
            match view.read path with
            | .error why => view.failing 1 (View.plainly path why)
            | .ok text =>
              let one (outcome : Outcome) (line : String) : Outcome :=
                match read line with
                | some moment => outcome.print (print moment)
                | none => outcome.complaining 1 (view.complaint (invalid line))
              { (linesOf text).foldl one (.quiet 0) with drains := path == "-" }
          | some _, _, _ => .printing "0.000000001\n"
          | none, some text, false =>
            refused ((digitMoment? false zone view.tree.now text).map fun s => (s, 0)) text
          | none, _, _ =>
            match arguments.value? 's' with
            | some text => refused (read text) text
            | none => .printing (print (view.tree.now, 0))

end PointerTagging.Host.Tool
