import MarkupQuery.XPath.Library.Entry

/-!
# Functions on dates, times and durations

Their parts, moving them to another time zone, and the present moment, which is told by the clock of
the time zone zero as moments without a time zone are.
-/

namespace MarkupQuery.XPath.Library

open MarkupQuery.Document (Table)

/-! ## Parts -/

/-- A function of a part of a moment of a type, if there is one. -/
def momentPart (name : String) (type : AtomicType) (result : AtomicType)
    (pick : Moment → Option Atom) : Entry :=
  entry name [optionalOf type] (optionalOf result) fun _ args =>
    match args with
    | [[]] => .ok []
    | [[.atom (.moment _ m)]] => .ok (Value.ofAtoms (pick m).toList)
    | _ => .error .wrongType

/-- A function of a part of a duration, if there is one. -/
def durationPart (name : String) (result : AtomicType) (pick : Duration → Option Atom) : Entry :=
  entry name [optionalOf .duration] (optionalOf result) fun _ args =>
    match args with
    | [[]] => .ok []
    | [[.atom (.duration _ d)]] => .ok (Value.ofAtoms (pick d).toList)
    | _ => .error .wrongType

/-- The whole minutes of some seconds, toward zero. -/
def wholeMinutes (s : Rat) : Int :=
  Decimal.truncate (s / 60)

/-- The seconds that whole minutes leave. -/
def secondsLeft (s : Rat) : Atom :=
  .number (.decimal (s - (60 * wholeMinutes s : Int)))

/-- The time zone of a moment, as a duration. -/
def zoneOf (m : Moment) : Option Atom :=
  m.zone.map fun minutes => .duration .dayTimeDuration { seconds := (60 * minutes : Int) }

/-- The functions of parts of dates. -/
def dateParts (suffix : String) (type : AtomicType) : List Entry :=
  [momentPart ("year-from-" ++ suffix) type .integer fun m => some (.ofInt m.year),
   momentPart ("month-from-" ++ suffix) type .integer fun m => some (.ofInt m.month),
   momentPart ("day-from-" ++ suffix) type .integer fun m => some (.ofInt m.day),
   momentPart ("timezone-from-" ++ suffix) type .dayTimeDuration zoneOf]

/-- The functions of parts of times. -/
def timeParts (suffix : String) (type : AtomicType) : List Entry :=
  [momentPart ("hours-from-" ++ suffix) type .integer fun m =>
    some (.ofInt (wholeMinutes m.seconds / 60)),
   momentPart ("minutes-from-" ++ suffix) type .integer fun m =>
    some (.ofInt (wholeMinutes m.seconds % 60)),
   momentPart ("seconds-from-" ++ suffix) type .decimal fun m => some (secondsLeft m.seconds)]

/-- The functions of parts of durations. -/
def durationParts : List Entry :=
  [durationPart "years-from-duration" .integer fun d => some (.ofInt (d.months.tdiv 12)),
   durationPart "months-from-duration" .integer fun d => some (.ofInt (d.months.tmod 12)),
   durationPart "days-from-duration" .integer fun d =>
    some (.ofInt ((wholeMinutes d.seconds).tdiv 1440)),
   durationPart "hours-from-duration" .integer fun d =>
    some (.ofInt (((wholeMinutes d.seconds).tmod 1440).tdiv 60)),
   durationPart "minutes-from-duration" .integer fun d =>
    some (.ofInt ((wholeMinutes d.seconds).tmod 60)),
   durationPart "seconds-from-duration" .decimal fun d => some (secondsLeft d.seconds)]

/-! ## Time zones -/

/-- A moment of a type by the clock of a time zone, or of none. -/
def adjusted (type : AtomicType) (zone : Option Int) (m : Moment) : Moment :=
  let moved := m.withZone zone
  match type with
  | .date => { moved with seconds := 0 }
  | .time => { seconds := moved.seconds, zone := moved.zone }
  | _ => moved

/-- The time zone of a duration: whole minutes, of at most fourteen hours. -/
def zoneOfDuration (d : Duration) : Except Fault Int :=
  let minutes := d.seconds / 60
  if minutes.den = 1 && minutes.num.natAbs ≤ 840 then .ok minutes.num else .error .badTimezone

/-- The functions that move moments of a type to another time zone. -/
def adjusting (name : String) (type : AtomicType) : List Entry :=
  let move {t : Table} (v : Value t) (zone : Option Int) : Except Fault (Value t) :=
    match v with
    | [] => .ok []
    | [.atom (.moment t m)] => .ok (Value.ofAtom (.moment t (adjusted type zone m)))
    | _ => .error .wrongType
  [entry name [optionalOf type] (optionalOf type) <| Run.one fun v => move v (some 0),
   entry name [optionalOf type, optionalOf .dayTimeDuration] (optionalOf type) fun _ args =>
    match args with
    | [v, []] => move v none
    | [v, [.atom (.duration _ d)]] => do move v (some (← zoneOfDuration d))
    | _ => .error .wrongType]

/-! ## The functions -/

/-- A function without arguments that tells the present moment, as one of a type. -/
def presentAs (name : String) (type : AtomicType) : Entry :=
  entry name [] (oneOf type) fun e _ =>
    .ok (Value.ofAtom (.moment type (adjusted type (some 0) e.context.surroundings.now)))

/-- The time zone of a date and a time that are joined: both may have one if it is the same. -/
def joinedZone (d t : Moment) : Except Fault (Option Int) :=
  match d.zone, t.zone with
  | some m, some n => if m = n then .ok (some m) else .error .twoTimezones
  | some m, none => .ok (some m)
  | none, zone => .ok zone

/-- Functions on dates, times and durations. -/
def momentFunctions : List Entry :=
  [presentAs "current-dateTime" .dateTimeStamp,
   presentAs "current-date" .date,
   presentAs "current-time" .time,
   entry "implicit-timezone" [] (oneOf .dayTimeDuration) fun _ _ =>
    .ok (Value.ofAtom (.duration .dayTimeDuration {})),
   entry "dateTime" [optionalOf .date, optionalOf .time] (optionalOf .dateTime) fun _ args =>
    match args with
    | [[.atom (.moment _ d)], [.atom (.moment _ t)]] => do
      let zone ← joinedZone d t
      return Value.ofAtom (.moment .dateTime { d with seconds := t.seconds, zone := zone })
    | [[], _] => .ok []
    | [_, []] => .ok []
    | _ => .error .wrongType] ++
  dateParts "dateTime" .dateTime ++ timeParts "dateTime" .dateTime ++ dateParts "date" .date ++
  timeParts "time" .time ++
  [momentPart "timezone-from-time" .time .dayTimeDuration zoneOf] ++ durationParts ++
  adjusting "adjust-dateTime-to-timezone" .dateTime ++
  adjusting "adjust-date-to-timezone" .date ++ adjusting "adjust-time-to-timezone" .time

end MarkupQuery.XPath.Library
