import PointerTagging.Host.Calendar
/-!
# Formats of moments

A format is a text with directives: a percent sign, flags, a width, a modifier and a letter. What a
directive stands for is a number in a room filled with zeros or blanks, a name, or what another
format stands for.
-/

namespace PointerTagging.Host

namespace Moment

/-- How a directive is written. -/
structure Directive where
  /-- What fills the room: `0`, `_` for blanks, `-` for nothing, `+` for zeros behind a sign. -/
  fill : Option Char
  isUpper : Bool
  /-- The case of letters is changed. -/
  isChanged : Bool
  width : Option Nat

namespace Directive

/-- The directive without flags. -/
def plain : Directive := ⟨none, false, false, none⟩

/-- A text in the room of a directive. -/
def pad (d : Directive) (text : String) : String :=
  let room := if d.fill == some '-' then 0 else d.width.getD 0
  let filler := if d.fill == some '0' || d.fill == some '+' then '0' else ' '
  String.ofList (List.replicate (room - text.length) filler) ++ text

/-- A text with its letters in the case that the flags ask for, in its room. -/
def text (d : Directive) (lower : Bool) (text : String) : String :=
  d.pad (if lower then text.toLower else if d.isUpper then text.toUpper else text)

/-- A number with at least some digits; `usual` fills the room if no flag says what does. -/
def numberWith (d : Directive) (usual : Char) (digits : Nat) (isSigned : Bool) (n : Int) :
    String :=
  let fill := d.fill.getD usual
  let width := d.width.getD digits
  let shown := toString n.natAbs
  let sign := if n < 0 then "-" else if isSigned then "+" else ""
  let room := if fill == '-' then 0 else width - sign.length - shown.length
  if fill == '_' then String.ofList (List.replicate room ' ') ++ sign ++ shown
  else sign ++ String.ofList (List.replicate room '0') ++ shown

/-- A number that zeros fill up. -/
def number (d : Directive) (digits : Nat) (n : Int) : String := d.numberWith '0' digits false n

/-- A number that blanks fill up. -/
def spaced (d : Directive) (digits : Nat) (n : Int) : String := d.numberWith '_' digits false n

/-- The number of a year or a century. -/
def yearly (d : Directive) (digits : Nat) (n : Int) : String :=
  let most : Int := if digits == 2 then 99 else 9999
  let isSigned := d.fill == some '+' && (most < n || digits < d.width.getD digits)
  d.numberWith '0' digits isSigned n

/-- The offset of a zone: hours and minutes, with as many colons. -/
def offset (d : Directive) (colons : Nat) (seconds : Int) : String :=
  let n := seconds.natAbs
  let two (n : Nat) : String := (if n < 10 then "0" else "") ++ toString n
  let hours := n / 3600
  let minutes := n / 60 % 60
  let rest := n % 60
  let colons :=
    if colons != 3 then colons
    else if rest != 0 then 2 else if minutes != 0 then 1 else 3
  let behind :=
    match colons with
    | 0 => two minutes
    | 1 => ":" ++ two minutes
    | 2 => ":" ++ two minutes ++ ":" ++ two rest
    | _ => ""
  let usual := 3 + behind.length
  let width := d.width.getD usual
  let fill := d.fill.getD '0'
  let sign := if seconds < 0 then "-" else "+"
  let shown := (if fill == '_' || fill == '-' then toString hours else two hours) ++ behind
  let room := if fill == '-' then 0 else width - 1 - shown.length
  if fill == '_' then String.ofList (List.replicate room ' ') ++ sign ++ shown
  else sign ++ String.ofList (List.replicate room '0') ++ shown

/-- The billionths of a second, cut to a width; at its end blanks or nothing may stand for zeros. -/
def billionths (d : Directive) (nano : Nat) : String :=
  let width := if d.width.getD 0 == 0 then 9 else d.width.getD 9
  let all := (toString (1000000000 + nano)).toList.drop 1
  let kept := all.take width
  let bare := (kept.reverse.dropWhile (· == '0')).reverse
  let bare := if bare.isEmpty then kept.take 1 else bare
  let room := width - bare.length
  match d.fill with
  | some '-' => String.ofList bare
  | some '_' => String.ofList (bare ++ List.replicate room ' ')
  | _ => String.ofList (bare ++ List.replicate room '0')

end Directive

/-- The formats that letters stand for. -/
def shorthand? : Char → Option String
  | 'c' => some "%a %b %e %H:%M:%S %Y"
  | 'D' => some "%m/%d/%y"
  | 'R' => some "%H:%M"
  | 'r' => some "%I:%M:%S %p"
  | 'T' => some "%H:%M:%S"
  | 'X' => some "%H:%M:%S"
  | 'x' => some "%m/%d/%y"
  | _ => none

/-- True of a letter that may follow a modifier. -/
def allows (modifier : Option Char) (letter : Char) : Bool :=
  match modifier with
  | none => true
  | some 'E' => "cCxXyY".toList.contains letter
  | some _ => "dekHIlmMSuUVwWyqbBjsCGgN".toList.contains letter

/-- What a letter stands for that stands for no other format, if it stands for something. -/
def simple? (m : Moment) (d : Directive) (letter : Char) : Option String :=
  let name (names : List String) (n : Nat) : String := (names[n]?).getD ""
  let short (text : String) : String := (text.take 3).toString
  let day := name Calendar.dayNames m.dayOfWeek
  let month := name Calendar.monthNames (m.month - 1)
  let named (text : String) : Option String :=
    some ({ d with isUpper := d.isUpper || d.isChanged }.text false text)
  let half := if m.hour < 12 then "AM" else "PM"
  match letter with
  | '%' => some (d.pad "%")
  | 'n' => some (d.pad "\n")
  | 't' => some (d.pad "\t")
  | 'a' => named (short day)
  | 'A' => named day
  | 'b' => named (short month)
  | 'h' => named (short month)
  | 'B' => named month
  | 'p' => some (d.text d.isChanged half)
  | 'P' => some (d.text true half)
  | 'Z' => some (d.text d.isChanged m.zone)
  | 'z' => some (d.offset 0 m.offset)
  | 'Y' => some (d.yearly 4 m.year)
  | 'G' => some (d.yearly 4 m.week.1)
  | 'C' => some (d.yearly 2 (m.year.fdiv 100))
  | 'y' => some (d.number 2 (m.year % 100))
  | 'g' => some (d.number 2 (m.week.1 % 100))
  | 'q' => some (d.number 1 ((m.month - 1) / 3 + 1 : Nat))
  | 'm' => some (d.number 2 m.month)
  | 'd' => some (d.number 2 m.day)
  | 'e' => some (d.spaced 2 m.day)
  | 'H' => some (d.number 2 m.hour)
  | 'k' => some (d.spaced 2 m.hour)
  | 'I' => some (d.number 2 m.halfHour)
  | 'l' => some (d.spaced 2 m.halfHour)
  | 'M' => some (d.number 2 m.minute)
  | 'S' => some (d.number 2 (m.second % 60 : Nat))
  | 'N' => some (d.billionths m.nano)
  | 's' => some (d.number 1 m.seconds)
  | 'j' => some (d.number 3 (m.dayOfYear + 1 : Nat))
  | 'u' => some (d.number 1 (if m.dayOfWeek == 0 then 7 else m.dayOfWeek))
  | 'w' => some (d.number 1 m.dayOfWeek)
  | 'U' => some (d.number 2 ((m.dayOfYear + 7 - m.dayOfWeek) / 7 : Nat))
  | 'W' => some (d.number 2 ((m.dayOfYear + 7 - (m.dayOfWeek + 6) % 7) / 7 : Nat))
  | 'V' => some (d.number 2 m.week.2)
  | _ => none

/-- The flags in front of a directive, and what follows them. -/
def flagsAtStart (d : Directive) : List Char → Directive × List Char
  | '^' :: cs => flagsAtStart { d with isUpper := true } cs
  | '#' :: cs => flagsAtStart { d with isChanged := true } cs
  | c :: cs =>
    if c == '_' || c == '-' || c == '0' || c == '+' then
      flagsAtStart { d with fill := some c } cs
    else (d, c :: cs)
  | [] => (d, [])

/-- A moment in a format, in which letters may stand for formats only to some depth. -/
def formatTo (m : Moment) : (depth : Nat) → Nat → (isUpper : Bool) → List Char → String
  | _, 0, _, _ => ""
  | _, _, _, [] => ""
  | depth, n + 1, isUpper, '%' :: cs =>
    let (d, rest) := flagsAtStart { Directive.plain with isUpper } cs
    let digits := rest.takeWhile Char.isDigit
    let width := if digits.isEmpty then none else (String.ofList digits).toNat?
    let rest := rest.drop digits.length
    let (modifier, rest) : Option Char × List Char :=
      match rest with
      | 'E' :: rest => (some 'E', rest)
      | 'O' :: rest => (some 'O', rest)
      | rest => (none, rest)
    let d := { d with width }
    let colons := (rest.takeWhile (· == ':')).length
    let written (rest : List Char) : String :=
      d.text false (String.ofList ('%' :: cs.take (cs.length - rest.length)))
    match rest.drop colons with
    | [] => written [] ++ formatTo m depth n isUpper []
    | letter :: after =>
      let next := formatTo m depth n isUpper after
      if colons > 0 then
        if letter == 'z' && colons ≤ 3 && modifier.isNone then d.offset colons m.offset ++ next
        else written (rest.drop 1) ++ formatTo m depth n isUpper (rest.drop 1)
      else if !allows modifier letter then written after ++ next
      else
        let inner (form : String) : String :=
          match depth with
          | 0 => ""
          | depth + 1 => formatTo m depth (form.length + 1) d.isUpper form.toList
        match shorthand? letter, m.simple? d letter with
        | some form, _ => d.pad (inner form) ++ next
        | none, some text => text ++ next
        | none, none =>
          if letter == 'F' then
            let fill := d.fill.getD '+'
            let room := if d.fill.isNone && d.width.isNone then 4 else d.width.getD 0 - 6
            let year := { d with fill := some fill, width := some room }.yearly 4 m.year
            d.pad (year ++ inner "-%m-%d") ++ next
          else written after ++ next
  | depth, n + 1, isUpper, c :: cs => String.ofList [c] ++ formatTo m depth n isUpper cs

/-- A moment in a format. -/
def format (m : Moment) (form : String) : String :=
  formatTo m 2 (form.length + 1) false form.toList

end Moment

end PointerTagging.Host
