import PointerTagging.Host.Calendar
/-!
# Reading moments

The moment that a text describes: dates, times of the day, days of the week, zones and distances
from now, in any order. A text is read as a list of tokens, the tokens as a list of items, and the
items together make the moment.
-/

namespace PointerTagging.Host

open Text

namespace Calendar

/-- The units of distances. -/
inductive DistanceUnit where
  | year
  | month
  | day (count : Int)
  | second (count : Int)
  deriving DecidableEq, Repr

/-- A part of a text that describes a moment. -/
inductive DateToken where
  /-- A number with its sign, if there is one in front, and the number of its digits. -/
  | number (isSigned : Bool) (value : Int) (digits : Nat)
  /-- A number of seconds with billionths of them. -/
  | decimal (isSigned : Bool) (seconds : Int) (nano : Nat)
  /-- The half of the day. -/
  | half (isAfternoon : Bool)
  | month (n : Nat)
  | weekday (n : Nat)
  /-- A zone that is ahead by some minutes. -/
  | zone (minutes : Int)
  /-- A zone in summer that is ahead by some minutes. -/
  | summerZone (minutes : Int)
  /-- A name of the zone that clocks are in. -/
  | ownZone (isSummer : Bool)
  /-- The word for summer behind a zone. -/
  | summer
  | unit (unit : DistanceUnit)
  | ordinal (n : Int)
  | dayShift (n : Int)
  /-- The word that says in which direction a distance goes. -/
  | direction (n : Int)
  | other (c : Char)
  deriving DecidableEq, Repr

/-- The zones that have names, and how many minutes they are ahead. -/
def zoneNames : List (String × DateToken) :=
  let east (hours : Int) : DateToken := .zone (60 * hours)
  let summerEast (hours : Int) : DateToken := .summerZone (60 * hours)
  [("GMT", east 0), ("UT", east 0), ("UTC", east 0), ("WET", east 0), ("WEST", summerEast 0),
    ("BST", summerEast 0), ("ART", east (-3)), ("BRT", east (-3)), ("BRST", summerEast (-3)),
    ("NST", .zone (-210)), ("NDT", .summerZone (-210)), ("AST", east (-4)),
    ("ADT", summerEast (-4)), ("CLT", east (-4)), ("CLST", summerEast (-4)), ("EST", east (-5)),
    ("EDT", summerEast (-5)), ("CST", east (-6)), ("CDT", summerEast (-6)), ("MST", east (-7)),
    ("MDT", summerEast (-7)), ("PST", east (-8)), ("PDT", summerEast (-8)), ("AKST", east (-9)),
    ("AKDT", summerEast (-9)), ("HST", east (-10)), ("HAST", east (-10)),
    ("HADT", summerEast (-10)), ("SST", east (-12)), ("WAT", east 1), ("CET", east 1),
    ("CEST", summerEast 1), ("MET", east 1), ("MEZ", east 1), ("MEST", summerEast 1),
    ("MESZ", summerEast 1), ("EET", east 2), ("EEST", summerEast 2), ("CAT", east 2),
    ("SAST", east 2), ("EAT", east 3), ("MSK", east 3), ("MSD", summerEast 3), ("IST", .zone 330),
    ("SGT", east 8), ("KST", east 9), ("JST", east 9), ("GST", east 10), ("NZST", east 12),
    ("NZDT", summerEast 12)]

/-- The words for units and distances. -/
def distanceWords : List (String × DateToken) :=
  [("YEAR", .unit .year), ("MONTH", .unit .month), ("FORTNIGHT", .unit (.day 14)),
    ("WEEK", .unit (.day 7)), ("DAY", .unit (.day 1)), ("HOUR", .unit (.second 3600)),
    ("MINUTE", .unit (.second 60)), ("MIN", .unit (.second 60)), ("SECOND", .unit (.second 1)),
    ("SEC", .unit (.second 1))]

/-- The words for places in an order and for distances from today. -/
def relativeWords : List (String × DateToken) :=
  [("TOMORROW", .dayShift 1), ("YESTERDAY", .dayShift (-1)), ("TODAY", .dayShift 0),
    ("NOW", .dayShift 0), ("LAST", .ordinal (-1)), ("THIS", .ordinal 0), ("NEXT", .ordinal 1),
    ("FIRST", .ordinal 1), ("THIRD", .ordinal 3), ("FOURTH", .ordinal 4), ("FIFTH", .ordinal 5),
    ("SIXTH", .ordinal 6), ("SEVENTH", .ordinal 7), ("EIGHTH", .ordinal 8), ("NINTH", .ordinal 9),
    ("TENTH", .ordinal 10), ("ELEVENTH", .ordinal 11), ("TWELFTH", .ordinal 12),
    ("AGO", .direction (-1)), ("HENCE", .direction 1)]

/-- The month or the day that a word names, whole or by three letters. -/
def calendarWord? (word : String) : Option DateToken :=
  let isShort := word.length == 3 || (word.length == 4 && word.endsWith ".")
  let names : List (String × DateToken) :=
    (monthNames.zipIdx.map fun (name, n) => (name.toUpper, DateToken.month (n + 1))) ++
      [("SEPT", .month 9)] ++
      (dayNames.zipIdx.map fun (name, n) => (name.toUpper, DateToken.weekday n)) ++
      [("TUES", .weekday 2), ("WEDNES", .weekday 3), ("THUR", .weekday 4), ("THURS", .weekday 4)]
  (names.find? fun (name, _) =>
    if isShort then name.take 3 == word.take 3 else name == word).map (·.2)

/-- The zone that a single letter stands for. -/
def letterZone? (c : Char) : Option DateToken :=
  let hours (n : Nat) : Int := (n : Int)
  if c == 'T' then some (.other 'T')
  else if c == 'Z' then some (.zone 0)
  else if 'A' ≤ c && c ≤ 'I' then some (.zone (60 * hours (c.toNat - 64)))
  else if 'K' ≤ c && c ≤ 'M' then some (.zone (60 * hours (c.toNat - 65)))
  else if 'N' ≤ c && c ≤ 'Y' then some (.zone (-60 * hours (c.toNat - 77)))
  else none

/-- The token of a word, in a zone of time. -/
def wordToken (zone : Zone) (text : String) : DateToken :=
  let word := text.toUpper
  let listed (table : List (String × DateToken)) (word : String) : Option DateToken :=
    (table.find? fun w => w.1 == word).map (·.2)
  let zoneNamed (word : String) : Option DateToken :=
    if word == "GMT" || word == "UT" || word == "UTC" then some (.zone 0)
    else if zone.name.toUpper == word then some (.ownZone false)
    else if (zone.summer.map fun s => s.1.toUpper) == some word then some (.ownZone true)
    else listed zoneNames word
  let singular := if word.endsWith "S" then (word.dropEnd 1).toString else word
  let bare := String.ofList (word.toList.filter (· != '.'))
  let found :=
    (if word == "AM" || word == "A.M." then some (DateToken.half false) else none) <|>
    (if word == "PM" || word == "P.M." then some (.half true) else none) <|>
    calendarWord? word <|> zoneNamed word <|>
    (if word == "DST" then some .summer else none) <|>
    listed distanceWords word <|> listed distanceWords singular <|> listed relativeWords word <|>
    (if word.length == 1 then word.toList.head?.bind letterZone? else none) <|>
    (if bare != word then zoneNamed bare else none)
  found.getD (.other '?')

/-- What is left behind a comment in parentheses; `depth` of them are open. -/
def behindComment : (depth : Nat) → List Char → List Char
  | _, [] => []
  | depth, '(' :: cs => behindComment (depth + 1) cs
  | depth, ')' :: cs => if depth ≤ 1 then cs else behindComment (depth - 1) cs
  | depth, _ :: cs => behindComment depth cs

/-- The number that digits are, with a sign. -/
def signed (negative : Bool) (digits : List Char) : Int :=
  let n : Int := ((Numeral.valueFrom 10 0 digits).getD 0 : Nat)
  if negative then -n else n

/-- A number of seconds with a fraction, as whole seconds and billionths of the next one. -/
def splitSeconds (negative : Bool) (whole part : List Char) : Int × Nat :=
  let places := part.take 9
  let nano := (Numeral.valueFrom 10 0 (places ++ List.replicate (9 - places.length) '0')).getD 0
  let hasMore := (part.drop 9).any (· != '0')
  if negative then
    let nano := if hasMore then nano + 1 else nano
    if nano == 0 then (signed true whole, 0) else (signed true whole - 1, 1000000000 - nano)
  else (signed false whole, nano)

/-- The tokens of a text. -/
def dateTokens (zone : Zone) : Nat → List Char → List DateToken
  | 0, _ => []
  | _, [] => []
  | n + 1, c :: cs =>
    if c == ' ' || ('\t' ≤ c && c ≤ '\r') then dateTokens zone n cs
    else if c == '(' then dateTokens zone n (behindComment 1 cs)
    else
      let isSign := c == '+' || c == '-'
      let isBlank (c : Char) : Bool := c == ' ' || ('\t' ≤ c && c ≤ '\r')
      let body := if isSign then cs.dropWhile isBlank else c :: cs
      let digits := body.takeWhile Char.isDigit
      if !digits.isEmpty then
        let negative := c == '-'
        let rest := body.drop digits.length
        let whole : List DateToken :=
          .number isSign (signed negative digits) digits.length :: dateTokens zone n rest
        match rest with
        | d :: rest =>
          let part := rest.takeWhile Char.isDigit
          if (d == '.' || d == ',') && !part.isEmpty then
            let (seconds, nano) := splitSeconds negative digits part
            .decimal isSign seconds nano :: dateTokens zone n (rest.drop part.length)
          else whole
        | [] => whole
      else if isSign then dateTokens zone n body
      else if c.isAlpha then
        let word := (c :: cs).takeWhile fun c => c.isAlpha || c == '.'
        wordToken zone (String.ofList word) :: dateTokens zone n ((c :: cs).drop word.length)
      else .other c :: dateTokens zone n cs

/-- A distance between moments. -/
structure Distance where
  years : Int
  months : Int
  days : Int
  seconds : Int
  nano : Int

/-- What the items of a text say together. -/
structure DateRequest where
  /-- The year with the number of its digits, the month and the day. -/
  date : Option ((Int × Nat) × Int × Int)
  dates : Nat
  /-- The hour, the minute, the second and the billionths, and the half of the day. -/
  time : Option (Int × Int × Int × Nat × Option Bool)
  times : Nat
  /-- The place in an order and the day of the week. -/
  weekday : Option (Int × Nat)
  weekdays : Nat
  /-- How many minutes the zone is ahead. -/
  zone : Option Int
  zones : Nat
  /-- What is said of summer in the own zone. -/
  ownZone : Option Bool
  ownZones : Nat
  distance : Distance
  isRelative : Bool

namespace DateRequest

/-- Nothing is said. -/
def empty : DateRequest :=
  ⟨none, 0, none, 0, none, 0, none, 0, none, 0, ⟨0, 0, 0, 0, 0⟩, false⟩

/-- The request with a date. -/
def addDate (r : DateRequest) (year : Int × Nat) (month day : Int) : DateRequest :=
  { r with date := some (year, month, day), dates := r.dates + 1 }

/-- The request with a date in this year, which 0 digits stand for. -/
def addDay (r : DateRequest) (month day : Int) : DateRequest := r.addDate (0, 0) month day

/-- The request with a time of the day. -/
def addTime (r : DateRequest) (hour minute second : Int) (nano : Nat) (half : Option Bool) :
    DateRequest :=
  { r with time := some (hour, minute, second, nano, half), times := r.times + 1 }

/-- The request with a day of the week. -/
def addWeekday (r : DateRequest) (ordinal : Int) (day : Nat) : DateRequest :=
  { r with weekday := some (ordinal, day), weekdays := r.weekdays + 1 }

/-- The request with a zone. -/
def addZone (r : DateRequest) (minutes : Int) : DateRequest :=
  { r with zone := some minutes, zones := r.zones + 1 }

/-- The request with a distance of some units. -/
def addDistance (r : DateRequest) (count : Int) (nano : Int) (unit : DistanceUnit) :
    DateRequest :=
  let d := r.distance
  let distance : Distance :=
    match unit with
    | .year => { d with years := d.years + count }
    | .month => { d with months := d.months + count }
    | .day n => { d with days := d.days + count * n }
    | .second n => { d with seconds := d.seconds + count * n, nano := d.nano + nano }
  { r with distance, isRelative := true }

/-- The request with a number that stands alone: a year, a date without signs, or a time. -/
def addNumber (r : DateRequest) (value : Int) (digits : Nat) : DateRequest :=
  let lacksYear : Bool :=
    match r.date with
    | some ((_, 0), _, _) => true
    | _ => false
  if lacksYear && !r.isRelative && (r.times > 0 || digits > 2) then
    { r with date := r.date.map fun (_, month, day) => ((value, digits), month, day) }
  else if digits > 4 then
    r.addDate (value / 10000, digits - 4) (value / 100 % 100) (value % 100)
  else if digits ≤ 2 then r.addTime value 0 0 0 none
  else r.addTime (value / 100) (value % 100) 0 0 none

end DateRequest

/-- The minutes that the digits of a zone mean: hours, or hours and minutes. -/
def zoneMinutes? (value : Int) (digits : Nat) (minutes : Option Int) : Option Int :=
  let value := if digits ≤ 2 && minutes.isNone then value * 100 else value
  let total : Int :=
    match minutes with
    | none => (value.tdiv 100) * 60 + value.tmod 100
    | some m => value * 60 + (if value < 0 then -m else m)
  if total.natAbs ≤ 24 * 60 then some total else none

/-- Reads a zone that is written as a number behind its sign. -/
def zoneOffset? (r : DateRequest) (value : Int) (digits : Nat) (tokens : List DateToken) :
    Option (DateRequest × List DateToken) :=
  match tokens with
  | .other ':' :: .number false minutes _ :: rest =>
    (zoneMinutes? value digits (some minutes)).map fun m => (r.addZone m, rest)
  | rest => (zoneMinutes? value digits none).map fun m => (r.addZone m, rest)

/-- Reads the end of a time of the day: the half of the day, or a zone. -/
def timeEnd? (r : DateRequest) (hour minute second : Int) (nano : Nat) (tokens : List DateToken) :
    Option (DateRequest × List DateToken) :=
  match tokens with
  | .half isAfternoon :: rest => some (r.addTime hour minute second nano (some isAfternoon), rest)
  | .number true value digits :: rest =>
    zoneOffset? (r.addTime hour minute second nano none) value digits rest
  | rest => some (r.addTime hour minute second nano none, rest)

/-- Reads what follows the colon of a time of the day. -/
def minutes? (r : DateRequest) (hour : Int) (tokens : List DateToken) :
    Option (DateRequest × List DateToken) :=
  match tokens with
  | .number false minute _ :: .other ':' :: .number false second _ :: rest =>
    timeEnd? r hour minute second 0 rest
  | .number false minute _ :: .other ':' :: .decimal false second nano :: rest =>
    timeEnd? r hour minute second nano rest
  | .number false minute _ :: rest => timeEnd? r hour minute 0 0 rest
  | _ => none

/-- The request with a distance, in the direction that the next word may say. -/
def directed (r : DateRequest) (count nano : Int) (unit : DistanceUnit)
    (tokens : List DateToken) : DateRequest × List DateToken :=
  match tokens with
  | .direction n :: rest => (r.addDistance (count * n) (nano * n) unit, rest)
  | rest => (r.addDistance count nano unit, rest)

/-- Reads an item that begins with a number without a sign. -/
def numberItem? (r : DateRequest) (value : Int) (digits : Nat) (tokens : List DateToken) :
    Option (DateRequest × List DateToken) :=
  match tokens with
  | .half isAfternoon :: rest => some (r.addTime value 0 0 0 (some isAfternoon), rest)
  | .other ':' :: rest => minutes? r value rest
  | .other '/' :: .number false second _ :: .other '/' :: .number false third thirdDigits :: rest =>
    if digits ≥ 4 then some (r.addDate (value, digits) second third, rest)
    else some (r.addDate (third, thirdDigits) value second, rest)
  | .other '/' :: .number false second _ :: rest => some (r.addDay value second, rest)
  | .month month :: .number true year yearDigits :: rest =>
    some (r.addDate (-year, yearDigits) month value, rest)
  | .month month :: .number false year yearDigits :: rest =>
    some (r.addDate (year, yearDigits) month value, rest)
  | .month month :: rest => some (r.addDay month value, rest)
  | .weekday day :: rest => some (r.addWeekday value day, rest)
  | .unit unit :: rest => some (directed r value 0 unit rest)
  | .number true count _ :: .unit unit :: rest =>
    some ((r.addNumber value digits).addDistance count 0 unit, rest)
  | .decimal true seconds nano :: .unit (.second 1) :: rest =>
    some ((r.addNumber value digits).addDistance seconds nano (.second 1), rest)
  | .number true month _ :: .number true day _ :: .other 'T' :: .number false hour _ :: rest =>
    let r := r.addDate (value, digits) (-month) (-day)
    match rest with
    | .other ':' :: rest => minutes? r hour rest
    | .number true zone zoneDigits :: rest =>
      zoneOffset? (r.addTime hour 0 0 0 none) zone zoneDigits rest
    | _ => none
  | .number true month _ :: .number true day _ :: rest =>
    some (r.addDate (value, digits) (-month) (-day), rest)
  | .number true zone zoneDigits :: rest =>
    zoneOffset? (r.addTime value 0 0 0 none) zone zoneDigits rest
  | rest => some (r.addNumber value digits, rest)

/-- Reads what follows the name of a zone. -/
def zoneItem? (r : DateRequest) (minutes : Int) (tokens : List DateToken) :
    Option (DateRequest × List DateToken) :=
  match tokens with
  | .number true count _ :: .unit unit :: rest =>
    some ((r.addZone minutes).addDistance count 0 unit, rest)
  | .number true value digits :: .other ':' :: .number false m _ :: rest =>
    (zoneMinutes? value digits (some m)).map fun m => (r.addZone (minutes + m), rest)
  | .number true value digits :: rest =>
    (zoneMinutes? value digits none).map fun m => (r.addZone (minutes + m), rest)
  | .summer :: rest => some (r.addZone (minutes + 60), rest)
  | rest => some (r.addZone minutes, rest)

/-- Reads an item. -/
def dateItem? (r : DateRequest) (tokens : List DateToken) :
    Option (DateRequest × List DateToken) :=
  match tokens with
  | .number false value digits :: rest => numberItem? r value digits rest
  | .number true count _ :: .unit unit :: rest => some (directed r count 0 unit rest)
  | .decimal _ seconds nano :: .unit (.second 1) :: rest =>
    some (directed r seconds nano (.second 1) rest)
  | .month month :: .number true day _ :: .number true year digits :: rest =>
    some (r.addDate (-year, digits) month (-day), rest)
  | .month month :: .number false day _ :: .other ',' :: .number false year digits :: rest =>
    some (r.addDate (year, digits) month day, rest)
  | .month month :: .number false day _ :: rest => some (r.addDay month day, rest)
  | .weekday day :: .other ',' :: rest => some (r.addWeekday 0 day, rest)
  | .weekday day :: rest => some (r.addWeekday 0 day, rest)
  | .ordinal n :: .weekday day :: rest => some (r.addWeekday n day, rest)
  | .ordinal n :: .unit unit :: rest => some (directed r n 0 unit rest)
  | .unit unit :: rest => some (directed r 1 0 unit rest)
  | .dayShift n :: rest => some (r.addDistance n 0 (.day 1), rest)
  | .zone minutes :: rest => zoneItem? r minutes rest
  | .other 'T' :: rest => zoneItem? r (-7 * 60) rest
  | .summerZone minutes :: rest => some (r.addZone (minutes + 60), rest)
  | .ownZone _ :: .summer :: rest =>
    some ({ r with ownZone := some true, ownZones := r.ownZones + 1 }, rest)
  | .ownZone isSummer :: rest =>
    some ({ r with ownZone := some isSummer, ownZones := r.ownZones + 1 }, rest)
  | _ => none

/-- Reads all items. -/
def dateItems? : Nat → DateRequest → List DateToken → Option DateRequest
  | 0, _, _ => none
  | _, r, [] => some r
  | n + 1, r, tokens => do
    let (r, rest) ← dateItem? r tokens
    dateItems? n r rest

/-- The hour of the day that an hour in a half of the day is. -/
def hourOf? (hour : Int) : Option Bool → Option Int
  | none => if 0 ≤ hour && hour < 24 then some hour else none
  | some isAfternoon =>
    if hour < 1 || hour > 12 then none
    else some (hour % 12 + (if isAfternoon then 12 else 0))

/-- The year that a number with two digits or more means. -/
def fullYear (year : Int × Nat) : Int :=
  if year.2 == 2 then year.1 + (if year.1 < 69 then 2000 else 1900) else year.1

/-- The moment that a request means, from the present moment. -/
def DateRequest.resolve (r : DateRequest) (zone : Zone) (now : Moment) : Option (Int × Nat) := do
  let zones := r.zones + r.ownZones
  guard (r.times ≤ 1 && r.dates ≤ 1 && r.weekdays ≤ 1 && zones ≤ 1)
  let (year, month, day) : Int × Int × Int :=
    match r.date with
    | some ((year, 0), month, day) => (if year == 0 then now.year else year, month, day)
    | some (year, month, day) => (fullYear year, month, day)
    | none => (now.year, now.month, now.day)
  let isBare := r.times == 0 && !(r.isRelative && r.dates == 0 && r.weekdays == 0)
  let (second, nano) : Int × Nat ← (match r.time with
    | some (hour, minute, second, nano, half) => do
      let hour ← hourOf? hour half
      guard (0 ≤ minute && minute < 60 && 0 ≤ second && second < 60)
      return (hour * 3600 + minute * 60 + second, nano)
    | none => return if isBare then (0, 0) else ((now.second : Int), now.nano) :
      Option (Int × Nat))
  guard (1 ≤ month && month ≤ 12)
  let start := dayNumber year month.toNat 1
  guard (1 ≤ day && start + day - 1 < dayAt year month 1)
  let days := start + day - 1
  let days : Int :=
    match r.weekday, r.dates with
    | some (ordinal, wanted), 0 =>
      let present := Calendar.weekday days
      days + (((wanted + 7 - present) % 7 : Nat) : Int) +
        7 * (ordinal - (if 0 < ordinal && present != wanted then 1 else 0))
    | _, _ => days
  let d := r.distance
  let days :=
    if d.years == 0 && d.months == 0 then days + d.days
    else
      let (year, month, day) := civil days
      dayAt (year + d.years) ((month : Int) - 1 + d.months) ((day : Int) + d.days)
  let shown := days * daySeconds + second
  let seconds ← (match r.zone with
    | some minutes => some (shown - minutes * 60)
    | none =>
      match r.ownZone, zone.summer with
      | some true, some (_, offset, _, _) => some (shown - offset)
      | _, _ => zone.second? shown : Option Int)
  let total := (nano : Int) + d.nano
  return (seconds + d.seconds + total.fdiv 1000000000, (total % 1000000000).toNat)

/-- The moment of a text that counts seconds since the start of 1970. -/
def counted? (cs : List Char) : Option (Int × Nat) :=
  let cs := cs.dropWhile fun c => c == ' ' || ('\t' ≤ c && c ≤ '\r')
  match dateTokens .universal (cs.length + 1) cs with
  | [.number _ seconds _] => some (seconds, 0)
  | [.decimal _ seconds nano] => some (seconds, nano)
  | _ => none

/-- The zone that a text names at its start, behind `TZ=` and in quotes, and the rest of it. -/
def ownZoneAtStart (zone : Zone) (cs : List Char) : Zone × List Char :=
  let cs := cs.dropWhile fun c => c == ' ' || ('\t' ≤ c && c ≤ '\r')
  match cs with
  | 'T' :: 'Z' :: '=' :: '"' :: rest =>
    let name := rest.takeWhile (· != '"')
    (.ofText (String.ofList name), rest.drop (name.length + 1))
  | cs => (zone, cs)

/-- The seconds and the billionths of the moment that a text describes, in a zone and from the
present second. -/
def read? (zone : Zone) (now : Int) (text : String) : Option (Int × Nat) :=
  let (zone, cs) := ownZoneAtStart zone text.toList
  match cs with
  | '@' :: cs => counted? cs
  | cs => do
    let tokens := dateTokens zone (cs.length + 1) cs
    let r ← dateItems? (tokens.length + 1) .empty tokens
    r.resolve zone (.ofSeconds zone now 0)

end Calendar

end PointerTagging.Host
