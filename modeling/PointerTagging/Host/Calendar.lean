import PointerTagging.Text.Numeral
/-!
# The calendar

Days, counted from the first of January 1970, as years, months and days; zones of time, which say
how far clocks are ahead in summer and in winter; and moments as clocks in a zone show them.
-/

namespace PointerTagging.Host

open Text

namespace Calendar

/-- The names of the days, from Sunday on. -/
def dayNames : List String :=
  ["Sunday", "Monday", "Tuesday", "Wednesday", "Thursday", "Friday", "Saturday"]

/-- The names of the months. -/
def monthNames : List String :=
  ["January", "February", "March", "April", "May", "June", "July", "August", "September",
    "October", "November", "December"]

/-- The number of a day, counted from the first of January 1970. -/
def dayNumber (year : Int) (month day : Nat) : Int :=
  -- years that start in March have the day that some years lack at their end
  let y := if month ≤ 2 then year - 1 else year
  let era := y.fdiv 400
  let yearOfEra := y - era * 400
  let shifted : Int := ((month + 9) % 12 : Nat)
  let dayOfYear := (153 * shifted + 2) / 5 + (day : Int) - 1
  era * 146097 + yearOfEra * 365 + yearOfEra / 4 - yearOfEra / 100 + dayOfYear - 719468

/-- The year, the month and the day of a day by its number. -/
def civil (days : Int) : Int × Nat × Nat :=
  let z := days + 719468
  let era := z.fdiv 146097
  let dayOfEra := z - era * 146097
  let yearOfEra := (dayOfEra - dayOfEra / 1460 + dayOfEra / 36524 - dayOfEra / 146096) / 365
  let shiftedDay := dayOfEra - (365 * yearOfEra + yearOfEra / 4 - yearOfEra / 100)
  let shifted := (5 * shiftedDay + 2) / 153
  let day := (shiftedDay - (153 * shifted + 2) / 5 + 1).toNat
  let month := if shifted < 10 then shifted.toNat + 3 else shifted.toNat - 9
  (yearOfEra + era * 400 + (if month ≤ 2 then 1 else 0), month, day)

/-- The number of days from Sunday to a day by its number. -/
def weekday (days : Int) : Nat := ((days + 4) % 7).toNat

/-- The number of a day in a year and a month counted from 0, which may lie outside the year, and a
day, which may lie outside the month. -/
def dayAt (year month day : Int) : Int :=
  dayNumber (year + month.fdiv 12) ((month % 12).toNat + 1) 1 + day - 1

/-- The seconds of a day. -/
def daySeconds : Int := 86400

end Calendar

/-! ## Zones of time -/

/-- The day of a year on which clocks change. -/
inductive ChangeDay where
  /-- The day with a number from 1, where the last of February never counts in a leap year. -/
  | common (n : Nat)
  /-- The day with a number from 0. -/
  | ordinal (n : Nat)
  /-- A weekday of a month: the first, second, third or fourth, or the last one if `week` is 5. -/
  | weekday (month week day : Nat)
  deriving DecidableEq, Repr

/-- When clocks change: the day, and the seconds of the clock on that day. -/
structure ClockChange where
  day : ChangeDay
  second : Int
  deriving DecidableEq, Repr

/-- The number of the day of a change in a year. -/
def ClockChange.dayIn (change : ClockChange) (year : Int) : Int :=
  let first := Calendar.dayNumber year 1 1
  match change.day with
  | .common n =>
    let isLeap := Calendar.dayNumber year 3 1 - Calendar.dayNumber year 2 28 == 2
    first + n - 1 + (if isLeap && n ≥ 60 then 1 else 0)
  | .ordinal n => first + n
  | .weekday month week day =>
    let start := Calendar.dayNumber year month 1
    let next := Calendar.dayAt year month 1
    let ahead := (day + 7 - Calendar.weekday start) % 7
    let found := start + ahead + 7 * (week - 1 : Nat)
    if found ≥ next then found - 7 else found

/-- A zone of time. -/
structure Zone where
  name : String
  /-- How many seconds clocks are ahead. -/
  offset : Int
  /-- The name and the offset in summer, with the changes to summer and back. -/
  summer : Option (String × Int × ClockChange × ClockChange)
  deriving DecidableEq, Repr

namespace Zone

/-- The zone in which clocks are neither ahead nor behind. -/
def universal : Zone := ⟨"UTC", 0, none⟩

/-- What clocks in a zone show at a second: the name, the offset, and whether it is summer. -/
def clock (zone : Zone) (seconds : Int) : String × Int × Bool :=
  match zone.summer with
  | none => (zone.name, zone.offset, false)
  | some (name, offset, start, finish) =>
    let year := (Calendar.civil ((seconds + zone.offset).fdiv Calendar.daySeconds)).1
    let begins := start.dayIn year * Calendar.daySeconds + start.second - zone.offset
    let ends := finish.dayIn year * Calendar.daySeconds + finish.second - offset
    let isSummer :=
      if begins < ends then begins ≤ seconds && seconds < ends
      else !(ends ≤ seconds && seconds < begins)
    if isSummer then (name, offset, true) else (zone.name, zone.offset, false)

/-- The second at which clocks show a second of their own, if they ever do. -/
def second? (zone : Zone) (shown : Int) : Option Int :=
  let offsets := zone.offset :: (zone.summer.map fun s => s.2.1).toList
  (offsets.map fun offset => (offset, shown - offset)).findSome? fun (offset, seconds) =>
    if (zone.clock seconds).2.1 == offset then some seconds else none

/-- The name at the start of a text that describes a zone. -/
def nameAtStart? (cs : List Char) : Option (String × List Char) :=
  match cs with
  | '<' :: cs =>
    let name := cs.takeWhile fun c => c.isAlphanum || c == '+' || c == '-'
    match cs.drop name.length with
    | '>' :: rest => if name.length < 3 then none else some (String.ofList name, rest)
    | _ => none
  | cs =>
    let name := cs.takeWhile Char.isAlpha
    if name.length < 3 then none else some (String.ofList name, cs.drop name.length)

/-- Hours, minutes and seconds at the start of a text, as seconds. -/
def clockAtStart? (cs : List Char) : Option (Int × List Char) :=
  let (negative, cs) : Bool × List Char :=
    match cs with
    | '-' :: cs => (true, cs)
    | '+' :: cs => (false, cs)
    | cs => (false, cs)
  let number (cs : List Char) : Nat × List Char :=
    let digits := cs.takeWhile Char.isDigit
    ((Numeral.valueFrom 10 0 digits).getD 0, cs.drop digits.length)
  let part (cs : List Char) : Nat × List Char :=
    match cs with
    | ':' :: rest => if rest.head?.any Char.isDigit then number rest else (0, cs)
    | cs => (0, cs)
  if !cs.head?.any Char.isDigit then none
  else
    let (hours, cs) := number cs
    let (minutes, cs) := part cs
    let (seconds, cs) := part cs
    let total : Int := (hours * 3600 + minutes * 60 + seconds : Nat)
    some (if negative then -total else total, cs)

/-- A change that a text describes behind a comma. -/
def changeAtStart? (cs : List Char) : Option (ClockChange × List Char) := do
  let number (cs : List Char) : Option (Nat × List Char) :=
    let digits := cs.takeWhile Char.isDigit
    if digits.isEmpty then none
    else (Numeral.valueFrom 10 0 digits).map fun n => (n, cs.drop digits.length)
  let point (cs : List Char) : Option (List Char) :=
    if cs.head? == some '.' then some (cs.drop 1) else none
  let (day, cs) ← (match cs with
    | 'M' :: cs => do
      let (month, cs) ← number cs
      let (week, cs) ← number (← point cs)
      let (day, cs) ← number (← point cs)
      return (ChangeDay.weekday month week day, cs)
    | 'J' :: cs => (number cs).map fun (n, cs) => (ChangeDay.common n, cs)
    | cs => (number cs).map fun (n, cs) => (ChangeDay.ordinal n, cs) :
      Option (ChangeDay × List Char))
  match cs with
  | '/' :: cs =>
    let (second, cs) ← clockAtStart? cs
    return (⟨day, second⟩, cs)
  | cs => return (⟨day, 7200⟩, cs)

/-- The changes of a zone that says nothing else. -/
def usualChanges : ClockChange × ClockChange := (⟨.weekday 3 2 0, 7200⟩, ⟨.weekday 11 1 0, 7200⟩)

/-- The zone that a text describes: a name and how far clocks are behind, the same for summer, and
the changes. -/
def described? (text : String) : Option Zone := do
  let (name, cs) ← nameAtStart? text.toList
  let (behind, cs) ← clockAtStart? cs
  let plain : Zone := ⟨name, -behind, none⟩
  match nameAtStart? cs with
  | none => if cs.isEmpty then return plain else none
  | some (summerName, cs) =>
    let (offset, cs) :=
      match clockAtStart? cs with
      | some (behind, cs) => (-behind, cs)
      | none => (3600 - behind, cs)
    let (start, finish) :=
      match cs with
      | ',' :: cs =>
        match changeAtStart? cs with
        | some (start, ',' :: cs) =>
          match changeAtStart? cs with
          | some (finish, []) => (start, finish)
          | _ => usualChanges
        | _ => usualChanges
      | _ => usualChanges
    return { plain with summer := some (summerName, offset, start, finish) }

/-- Zones that have names of their own, and their descriptions. -/
def known : List (String × String) :=
  let central := "CET-1CEST,M3.5.0,M10.5.0/3"
  let western := "GMT0BST,M3.5.0/1,M10.5.0"
  let eastern := "EST5EDT,M3.2.0,M11.1.0"
  [("GMT", "GMT0"), ("Greenwich", "GMT0"), ("Etc/GMT", "GMT0"), ("EST", "EST5"), ("MST", "MST7"),
    ("HST", "HST10"), ("CET", central), ("MET", "MET-1MEST,M3.5.0,M10.5.0/3"),
    ("EET", "EET-2EEST,M3.5.0/3,M10.5.0/4"), ("WET", "WET0WEST,M3.5.0/1,M10.5.0"),
    ("Europe/London", western), ("GB", western), ("Europe/Paris", central),
    ("Europe/Berlin", central), ("Europe/Madrid", central), ("Europe/Rome", central),
    ("Europe/Amsterdam", central), ("Europe/Brussels", central), ("Europe/Vienna", central),
    ("Europe/Zurich", central), ("Europe/Stockholm", central), ("Europe/Oslo", central),
    ("Europe/Copenhagen", central), ("Europe/Prague", central), ("Europe/Warsaw", central),
    ("Europe/Budapest", central), ("Europe/Moscow", "MSK-3"),
    ("Europe/Athens", "EET-2EEST,M3.5.0/3,M10.5.0/4"),
    ("Europe/Helsinki", "EET-2EEST,M3.5.0/3,M10.5.0/4"), ("America/New_York", eastern),
    ("US/Eastern", eastern), ("America/Toronto", eastern),
    ("America/Chicago", "CST6CDT,M3.2.0,M11.1.0"), ("US/Central", "CST6CDT,M3.2.0,M11.1.0"),
    ("America/Denver", "MST7MDT,M3.2.0,M11.1.0"), ("US/Mountain", "MST7MDT,M3.2.0,M11.1.0"),
    ("America/Los_Angeles", "PST8PDT,M3.2.0,M11.1.0"), ("US/Pacific", "PST8PDT,M3.2.0,M11.1.0"),
    ("America/Sao_Paulo", "<-03>3"), ("Asia/Tokyo", "JST-9"), ("Japan", "JST-9"),
    ("Asia/Seoul", "KST-9"), ("Asia/Shanghai", "CST-8"), ("PRC", "CST-8"),
    ("Asia/Hong_Kong", "HKT-8"), ("Asia/Singapore", "<+08>-8"), ("Asia/Kolkata", "IST-5:30"),
    ("Asia/Calcutta", "IST-5:30"), ("Asia/Kathmandu", "<+0545>-5:45"), ("Asia/Dubai", "<+04>-4"),
    ("Australia/Sydney", "AEST-10AEDT,M10.1.0,M4.1.0/3"), ("Australia/Brisbane", "AEST-10"),
    ("Pacific/Auckland", "NZST-12NZDT,M9.5.0,M4.1.0/3"), ("Africa/Cairo", "EET-2"),
    ("Africa/Johannesburg", "SAST-2")]

/-- Other names of the universal zone. -/
def universalNames : List String :=
  ["", "UTC", "UCT", "Universal", "Zulu", "Etc/UTC", "Etc/UCT", "Etc/Universal", "Etc/Zulu"]

/-- The zone that the value of a variable names; one that is not known counts as the universal one
under another name. -/
def ofText (text : String) : Zone :=
  let text := if text.startsWith ":" then (text.drop 1).toString else text
  if universalNames.contains text then universal
  else
    match known.find? fun z => z.1 == text with
    | some (_, description) => (described? description).getD universal
    | none =>
      match described? text with
      | some zone => zone
      | none =>
        let name := text.toList.takeWhile Char.isAlpha
        if name.length < 3 then universal else { universal with name := String.ofList name }

/-- The zone of an environment: the value of the variable for it. -/
def ofVariable (value : Option String) : Zone := (value.map ofText).getD universal

end Zone

/-! ## Moments -/

/-- A moment as clocks in a zone show it. -/
structure Moment where
  /-- The seconds since the start of 1970. -/
  seconds : Int
  /-- The billionths of a second that have passed. -/
  nano : Nat
  /-- The name of the zone. -/
  zone : String
  /-- How many seconds the clock is ahead. -/
  offset : Int
  isSummer : Bool
  year : Int
  month : Nat
  day : Nat
  /-- The seconds since midnight. -/
  second : Nat
  /-- The days since the first of January. -/
  dayOfYear : Nat
  /-- The days since a Sunday. -/
  dayOfWeek : Nat
  deriving Repr

namespace Moment

/-- The moment at a number of seconds since the start of 1970. -/
def ofSeconds (zone : Zone) (seconds : Int) (nano : Nat) : Moment :=
  let (name, offset, isSummer) := zone.clock seconds
  let shown := seconds + offset
  let days := shown.fdiv Calendar.daySeconds
  let (year, month, day) := Calendar.civil days
  { seconds
    nano
    zone := name
    offset
    isSummer
    year
    month
    day
    second := (shown - days * Calendar.daySeconds).toNat
    dayOfYear := (days - Calendar.dayNumber year 1 1).toNat
    dayOfWeek := Calendar.weekday days }

/-- The hour of the day. -/
def hour (m : Moment) : Nat := m.second / 3600

/-- The minute of the hour. -/
def minute (m : Moment) : Nat := m.second / 60 % 60

/-- The hour on a clock with twelve of them. -/
def halfHour (m : Moment) : Nat := if m.hour % 12 == 0 then 12 else m.hour % 12

/-- The year and the number of the week in which the moment lies; the first week of a year is the
one with its first Thursday. -/
def week (m : Moment) : Int × Nat :=
  let sinceMonday := (m.dayOfWeek + 6) % 7
  let thursday : Int := (m.dayOfYear : Int) - sinceMonday + 3
  let length (year : Int) : Int :=
    Calendar.dayNumber (year + 1) 1 1 - Calendar.dayNumber year 1 1
  if thursday < 0 then
    (m.year - 1, ((thursday + length (m.year - 1)) / 7).toNat + 1)
  else if thursday ≥ length m.year then (m.year + 1, ((thursday - length m.year) / 7).toNat + 1)
  else (m.year, (thursday / 7).toNat + 1)

end Moment

end PointerTagging.Host
