import LineTerminal.Numeral

/-!
# Days and points of time

A day is counted in the Gregorian calendar.  A point of time may tell the difference to universal
time; two points of time that both tell it are compared by the moment that they stand for.
-/

namespace LineTerminal

/-- A number in decimal, filled up with zeros to a width. -/
def Numeral.padded (width n : Nat) : String := Numeral.signed Numeral.digits width n

/-- Items between brackets, separated by commas. -/
def bracketed (opening closing : String) (items : List String) : String :=
  opening ++ String.intercalate ", " items ++ closing

/-- A call in words: a name and its arguments. -/
def callText (name : String) (arguments : List String) : String :=
  bracketed (name ++ "(") ")" arguments

/-- A difference of so many minutes inside a collection: whole days and the seconds beyond. -/
def minutesDescribed (minutes : Int) : String :=
  let days := minutes / 1440
  let seconds := minutes % 1440 * 60
  callText "datetime.timedelta"
    ((if days = 0 then [] else ["days=" ++ Numeral.decimal days])
      ++ (if seconds = 0 then [] else ["seconds=" ++ Numeral.decimal seconds]))

/-- What can be wrong with a day or a point of time. -/
inductive CalendarError where
  | year (y : Nat)
  | month
  | day
  | hour
  | minute
  | second
  | offset (minutes : Int)
deriving DecidableEq

/-- The text of an error. -/
def CalendarError.message : CalendarError → String
  | year y => "year " ++ Numeral.decimal y ++ " is out of range"
  | month => "month must be in 1..12"
  | day => "day is out of range for month"
  | hour => "hour must be in 0..23"
  | minute => "minute must be in 0..59"
  | second => "second must be in 0..59"
  | offset minutes =>
    "offset must be a timedelta strictly between -timedelta(hours=24) and timedelta(hours=24), not "
      ++ minutesDescribed minutes ++ "."

/-- Whether a year has a 29th of February. -/
def isLeapYear (year : Nat) : Bool :=
  year % 4 = 0 && (year % 100 ≠ 0 || year % 400 = 0)

/-- The number of days of a month. -/
def daysInMonth (year month : Nat) : Nat :=
  if month = 2 then (if isLeapYear year then 29 else 28)
  else if month = 4 ∨ month = 6 ∨ month = 9 ∨ month = 11 then 30
  else 31

/-- A day of the calendar. -/
structure Date where
  /-- The year. -/
  year : Nat
  /-- The month, from 1. -/
  month : Nat
  /-- The day of the month, from 1. -/
  day : Nat
deriving DecidableEq

namespace Date

/-- What is wrong with a day, if something is. -/
def error? (d : Date) : Option CalendarError :=
  if d.year = 0 then some (.year d.year)
  else if d.month = 0 ∨ 12 < d.month then some .month
  else if d.day = 0 ∨ daysInMonth d.year d.month < d.day then some .day
  else none

/-- The number of days from the beginning of the calendar on. -/
def ordinal (d : Date) : Nat :=
  let before := d.year - 1
  let months := (List.range (d.month - 1)).foldl (fun days m => days + daysInMonth d.year (m + 1)) 0
  before * 365 + before / 4 - before / 100 + before / 400 + months + d.day

/-- Year, month and day in figures. -/
def text (d : Date) : String :=
  Numeral.padded 4 d.year ++ "-" ++ Numeral.padded 2 d.month ++ "-" ++ Numeral.padded 2 d.day

/-- A day inside a collection. -/
def described (d : Date) : String :=
  callText "datetime.date" ([d.year, d.month, d.day].map fun (n : Nat) => Numeral.decimal n)

end Date

/-- A point of time. -/
structure Moment where
  /-- The day. -/
  date : Date
  /-- The hour. -/
  hour : Nat
  /-- The minute. -/
  minute : Nat
  /-- The second. -/
  second : Nat
  /-- The millionths of a second. -/
  fraction : Nat
  /-- The minutes that the clock is ahead of universal time, if known. -/
  offset : Option Int
deriving DecidableEq

namespace Moment

/-- What is wrong with a point of time, if something is.  Clocks differ by less than a day. -/
def error? (m : Moment) : Option CalendarError :=
  match m.offset.filter fun minutes => 1440 ≤ minutes.natAbs with
  | some minutes => some (.offset minutes)
  | none =>
    m.date.error? <|>
      if 23 < m.hour then some .hour
      else if 59 < m.minute then some .minute
      else if 59 < m.second then some .second
      else none

/-- The millionths of a second in universal time, or by a clock of unknown difference to it. -/
def instant (m : Moment) : Int :=
  let minutes : Int := (m.date.ordinal * 24 + m.hour) * 60 + m.minute - m.offset.getD 0
  (minutes * 60 + m.second) * 1000000 + m.fraction

/-- Whether two points of time are the same. -/
def same (m n : Moment) : Bool :=
  m.offset.isSome = n.offset.isSome && m.instant = n.instant

/-- Day and time in figures. -/
def text (m : Moment) : String :=
  let fraction := if m.fraction = 0 then "" else "." ++ Numeral.padded 6 m.fraction
  let offset := match m.offset with
    | none => ""
    | some minutes =>
      (if minutes < 0 then "-" else "+") ++ Numeral.padded 2 (minutes.natAbs / 60) ++ ":"
        ++ Numeral.padded 2 (minutes.natAbs % 60)
  m.date.text ++ " " ++ Numeral.padded 2 m.hour ++ ":" ++ Numeral.padded 2 m.minute ++ ":"
    ++ Numeral.padded 2 m.second ++ fraction ++ offset

/-- The difference to universal time inside a collection. -/
def offsetDescribed (minutes : Int) : String :=
  if minutes = 0 then "datetime.timezone.utc"
  else callText "datetime.timezone" [minutesDescribed minutes]

/-- A point of time inside a collection.  Zeros at the end of the clock time are left out. -/
def described (m : Moment) : String :=
  let clock :=
    if m.fraction ≠ 0 then [m.second, m.fraction]
    else if m.second ≠ 0 then [m.second]
    else []
  let numbers := [m.date.year, m.date.month, m.date.day, m.hour, m.minute] ++ clock
  let offset := match m.offset with
    | none => []
    | some minutes => ["tzinfo=" ++ offsetDescribed minutes]
  callText "datetime.datetime" (numbers.map (fun (n : Nat) => Numeral.decimal n) ++ offset)

end Moment
end LineTerminal
