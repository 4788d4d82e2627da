import MarkupQuery.XPath.Lexer
import MarkupQuery.XPath.Type

/-!
# Dates, times and durations

A moment is a place on the calendar, of which a type shows all parts or some: a date with a time, a
date, a time, a year, a day of a month. A duration is a number of months and of seconds, which are
not measured against each other.
-/

namespace MarkupQuery.XPath

/-- A place on the calendar. The parts that its type does not show have fixed values. -/
structure Moment where
  year : Int := 1972
  month : Nat := 12
  day : Nat := 31
  /-- The seconds since midnight. -/
  seconds : Rat := 0
  /-- The minutes by which the clocks are ahead, where it is known. -/
  zone : Option Int := none
  deriving DecidableEq

/-- A length of time. -/
structure Duration where
  months : Int := 0
  seconds : Rat := 0
  deriving DecidableEq

/-! ## Reading -/

namespace Moment

/-- Reads exactly so many digits. -/
def digits (n : Nat) (cs : List Char) : Option (Nat × List Char) :=
  let part := cs.take n
  if part.length = n && part.all Char.isDigit then
    some (Decimal.digitsValue part, cs.drop n)
  else none

/-- Reads a character. -/
def mark (c : Char) (cs : List Char) : Option (List Char) :=
  match cs with
  | d :: rest => if d = c then some rest else none
  | [] => none

/-- Reads a time zone, or nothing. -/
def readZone (cs : List Char) : Option (Option Int) := do
  match cs with
  | [] => some none
  | ['Z'] => some (some 0)
  | sign :: rest =>
    let (hours, rest) ← digits 2 rest
    let (minutes, rest) ← digits 2 (← mark ':' rest)
    let total : Int := 60 * hours + minutes
    guard (rest.isEmpty && minutes ≤ 59 && total ≤ 840)
    if sign = '+' then some (some total)
    else if sign = '-' then some (some (-total))
    else none

/-- Reads a year: at least four digits, with no needless zero in front. -/
def readYear (cs : List Char) : Option (Int × List Char) :=
  let (negative, cs) := match cs with
    | '-' :: cs => (true, cs)
    | cs => (false, cs)
  let (part, rest) := Lexer.span Char.isDigit cs
  if part.length < 4 || (4 < part.length && part.head? = some '0') then none
  else
    let n : Int := Decimal.digitsValue part
    some (if negative then -n else n, rest)

/-- Whether a year has a 29th of February. -/
def isLeap (year : Int) : Bool :=
  year % 4 = 0 && (year % 100 != 0 || year % 400 = 0)

/-- The number of days of a month. -/
def monthLength (year : Int) (month : Nat) : Nat :=
  if month = 2 then (if isLeap year then 29 else 28)
  else if [4, 6, 9, 11].contains month then 30
  else 31

/-- Reads a month. -/
def readMonth (cs : List Char) : Option (Nat × List Char) := do
  let (month, rest) ← digits 2 cs
  guard (1 ≤ month && month ≤ 12)
  some (month, rest)

/-- Reads a day of a month. -/
def readDay (year : Int) (month : Nat) (cs : List Char) : Option (Nat × List Char) := do
  let (day, rest) ← digits 2 cs
  guard (1 ≤ day && day ≤ monthLength year month)
  some (day, rest)

/-- The fraction of digits behind a point. -/
def fraction (part : List Char) : Rat :=
  mkRat (Decimal.digitsValue part) (Decimal.tenTo part.length)

/-- Reads a time of the day, as seconds since midnight; the end of the day is one. -/
def readTime (cs : List Char) : Option (Rat × List Char) := do
  let (hours, rest) ← digits 2 cs
  let (minutes, rest) ← digits 2 (← mark ':' rest)
  let (whole, rest) ← digits 2 (← mark ':' rest)
  let (part, rest) ← match rest with
    | '.' :: rest =>
      let (part, rest) := Lexer.span Char.isDigit rest
      if part.isEmpty then none else some (fraction part, rest)
    | rest => some (0, rest)
  guard (minutes ≤ 59 && whole ≤ 59)
  guard (hours ≤ 23 || (hours = 24 && minutes = 0 && whole = 0 && part = 0))
  some ((3600 * hours + 60 * minutes + whole : Nat) + part, rest)

/-- Reads a date. -/
def readDate (cs : List Char) : Option (Moment × List Char) := do
  let (year, rest) ← readYear cs
  let (month, rest) ← readMonth (← mark '-' rest)
  let (day, rest) ← readDay year month (← mark '-' rest)
  some ({ year := year, month := month, day := day }, rest)

/-! ## The calendar -/

/-- The number of a day, counted from a day far back in the calendar. -/
def dayNumber (year : Int) (month day : Nat) : Int :=
  let y : Int := if month ≤ 2 then year - 1 else year
  let m : Int := if month ≤ 2 then month + 9 else month - 3
  365 * y + y / 4 - y / 100 + y / 400 + (153 * m + 2) / 5 + day - 1

/-- The date of the day of a number. -/
def dateOf (n : Int) : Int × Nat × Nat :=
  let era := n / 146097
  let inEra := n % 146097
  let y := (inEra - inEra / 1460 + inEra / 36524 - inEra / 146096) / 365
  let inYear := inEra - (365 * y + y / 4 - y / 100)
  let m := (5 * inYear + 2) / 153
  let day := inYear - (153 * m + 2) / 5 + 1
  let month := if m < 10 then m + 3 else m - 9
  let year := y + era * 400 + (if month ≤ 2 then 1 else 0)
  (year, month.toNat, day.toNat)

/-- The seconds up to a moment, by its own clock. -/
def localSeconds (m : Moment) : Rat :=
  (86400 * dayNumber m.year m.month m.day : Int) + m.seconds

/-- The seconds up to a moment. Where no time zone is known the clock of the world counts. -/
def instant (m : Moment) : Rat :=
  m.localSeconds - (60 * m.zone.getD 0 : Int)

/-- The moment so many seconds on, by the clock of a time zone. -/
def ofLocalSeconds (zone : Option Int) (s : Rat) : Moment :=
  let n := (s / 86400).floor
  let (year, month, day) := dateOf n
  { year := year, month := month, day := day, seconds := s - (86400 * n : Int), zone := zone }

/-- A moment whose time is not the end of a day. -/
def normal (m : Moment) : Moment :=
  if m.seconds < 86400 then m else ofLocalSeconds m.zone m.localSeconds

/-- The moment of a text, for a type. -/
def ofText? (type : AtomicType) (cs : List Char) : Option Moment := do
  match type with
  | .dateTime | .dateTimeStamp =>
    let (date, rest) ← readDate cs
    let (seconds, rest) ← readTime (← mark 'T' rest)
    let zone ← readZone rest
    guard (type = .dateTime || zone.isSome)
    some { date with seconds := seconds, zone := zone }.normal
  | .date =>
    let (date, rest) ← readDate cs
    some { date with zone := ← readZone rest }
  | .time =>
    let (seconds, rest) ← readTime cs
    let zone ← readZone rest
    some { seconds := if seconds < 86400 then seconds else 0, zone := zone }
  | .gYearMonth =>
    let (year, rest) ← readYear cs
    let (month, rest) ← readMonth (← mark '-' rest)
    some { year := year, month := month, day := 1, zone := ← readZone rest }
  | .gYear =>
    let (year, rest) ← readYear cs
    some { year := year, month := 1, day := 1, zone := ← readZone rest }
  | .gMonthDay =>
    let (month, rest) ← readMonth (← mark '-' (← mark '-' cs))
    let (day, rest) ← readDay 1972 month (← mark '-' rest)
    some { month := month, day := day, zone := ← readZone rest }
  | .gDay =>
    let (day, rest) ← readDay 1972 1 (← mark '-' (← mark '-' (← mark '-' cs)))
    some { month := 1, day := day, zone := ← readZone rest }
  | .gMonth =>
    let (month, rest) ← readMonth (← mark '-' (← mark '-' cs))
    some { month := month, day := 1, zone := ← readZone rest }
  | _ => none

/-! ## Writing -/

/-- A number with zeros in front up to a width. -/
def padded (width n : Nat) : String :=
  let s := toString n
  String.ofList (List.replicate (width - s.length) '0') ++ s

/-- The text of a year. -/
def yearText (year : Int) : String :=
  (if year < 0 then "-" else "") ++ padded 4 year.natAbs

/-- The text of seconds below a minute: two digits, and the fraction if there is one. -/
def secondsText (s : Rat) : String :=
  let text := Decimal.text s
  if s < 10 then "0" ++ text else text

/-- The text of a time of the day. -/
def timeText (s : Rat) : String :=
  let minutes := (s / 60).floor
  padded 2 (minutes / 60).toNat ++ ":" ++ padded 2 (minutes % 60).toNat ++ ":" ++
    secondsText (s - (60 * minutes : Int))

/-- The text of a time zone. -/
def zoneText : Option Int → String
  | none => ""
  | some 0 => "Z"
  | some n =>
    (if n < 0 then "-" else "+") ++ padded 2 (n.natAbs / 60) ++ ":" ++ padded 2 (n.natAbs % 60)

/-- The text of a moment, as its type shows it. -/
def text (type : AtomicType) (m : Moment) : String :=
  let month := padded 2 m.month
  let day := padded 2 m.day
  let shown := match type with
    | .date => yearText m.year ++ "-" ++ month ++ "-" ++ day
    | .time => timeText m.seconds
    | .gYearMonth => yearText m.year ++ "-" ++ month
    | .gYear => yearText m.year
    | .gMonthDay => "--" ++ month ++ "-" ++ day
    | .gDay => "---" ++ day
    | .gMonth => "--" ++ month
    | _ => yearText m.year ++ "-" ++ month ++ "-" ++ day ++ "T" ++ timeText m.seconds
  shown ++ zoneText m.zone

/-! ## Moving -/

/-- The moment a duration later. Months are added first; a day that the month then lacks is its
last. -/
def add (m : Moment) (d : Duration) : Moment :=
  let count := 12 * m.year + (m.month - 1 : Nat) + d.months
  let year := count / 12
  let month := (count % 12).toNat + 1
  let moved : Moment :=
    { m with year := year, month := month, day := min m.day (monthLength year month) }
  ofLocalSeconds m.zone (moved.localSeconds + d.seconds)

/-- The same moment by the clock of a time zone, or without any. One without a time zone is taken as
it is shown. -/
def withZone (m : Moment) (zone : Option Int) : Moment :=
  match m.zone, zone with
  | some old, some new => ofLocalSeconds zone (m.localSeconds + (60 * (new - old) : Int))
  | _, _ => { m with zone := zone }

end Moment

namespace Duration

/-- Reads a number with a letter behind it, if it is there. -/
def part (letter : Char) (cs : List Char) : Option Nat × List Char :=
  match Lexer.span Char.isDigit cs with
  | ([], _) => (none, cs)
  | (digits, c :: rest) =>
    if c = letter then (some (Decimal.digitsValue digits), rest) else (none, cs)
  | (_, []) => (none, cs)

/-- Reads seconds, which may have a fraction. -/
def secondsPart (cs : List Char) : Option Rat × List Char :=
  match Lexer.span Char.isDigit cs with
  | ([], _) => (none, cs)
  | (digits, 'S' :: rest) => (some (Decimal.digitsValue digits : Nat), rest)
  | (digits, '.' :: rest) =>
    match Lexer.span Char.isDigit rest with
    | ([], _) => (none, cs)
    | (more, 'S' :: rest) =>
      (some ((Decimal.digitsValue digits : Nat) + Moment.fraction more), rest)
    | _ => (none, cs)
  | _ => (none, cs)

/-- The duration of a text, for a type. -/
def ofText? (type : AtomicType) (cs : List Char) : Option Duration := do
  let (negative, cs) := match cs with
    | '-' :: cs => (true, cs)
    | cs => (false, cs)
  let rest ← Moment.mark 'P' cs
  let (years, rest) := part 'Y' rest
  let (months, rest) := part 'M' rest
  let (days, rest) := part 'D' rest
  let (hasTime, rest) := match rest with
    | 'T' :: rest => (true, rest)
    | rest => (false, rest)
  let (hours, rest) := if hasTime then part 'H' rest else (none, rest)
  let (minutes, rest) := if hasTime then part 'M' rest else (none, rest)
  let (seconds, rest) := if hasTime then secondsPart rest else (none, rest)
  guard rest.isEmpty
  guard (!hasTime || hours.isSome || minutes.isSome || seconds.isSome)
  let hasMonths := years.isSome || months.isSome
  let hasSeconds := days.isSome || hasTime
  guard (hasMonths || hasSeconds)
  guard (type != .yearMonthDuration || !hasSeconds)
  guard (type != .dayTimeDuration || !hasMonths)
  let m : Int := 12 * years.getD 0 + months.getD 0
  let s : Rat := (86400 * days.getD 0 + 3600 * hours.getD 0 + 60 * minutes.getD 0 : Nat) +
    seconds.getD 0
  some (if negative then { months := -m, seconds := -s } else { months := m, seconds := s })

/-- A number with a letter behind it; nothing for zero. -/
def partText (n : Nat) (letter : String) : String :=
  if n = 0 then "" else toString n ++ letter

/-- The text of a duration. -/
def text (type : AtomicType) (d : Duration) : String :=
  let m := d.months.natAbs
  let s := if d.seconds < 0 then -d.seconds else d.seconds
  let minutes := (s / 60).floor.toNat
  let rest := s - (60 * minutes : Nat)
  let date := partText (m / 12) "Y" ++ partText (m % 12) "M" ++ partText (minutes / 1440) "D"
  let time := partText (minutes / 60 % 24) "H" ++ partText (minutes % 60) "M" ++
    (if rest = 0 then "" else Decimal.text rest ++ "S")
  if m = 0 && s = 0 then (if type = .yearMonthDuration then "P0M" else "PT0S")
  else
    (if d.months < 0 || d.seconds < 0 then "-" else "") ++ "P" ++ date ++
      (if time.isEmpty then "" else "T" ++ time)

/-- The opposite of a duration. -/
def neg (d : Duration) : Duration :=
  { months := -d.months, seconds := -d.seconds }

/-- The sum of two durations. -/
def add (c d : Duration) : Duration :=
  { months := c.months + d.months, seconds := c.seconds + d.seconds }

end Duration

end MarkupQuery.XPath
