/-!
# Dates and moments

Days of the calendar and moments of a day, as configuration files spell them. A moment may tell how
far its clock is ahead of universal time.
-/

namespace ImportLint

/-- A day of the calendar. -/
structure Date where
  year : Nat
  month : Nat
  day : Nat
  deriving DecidableEq, Repr

/-- A moment of a day, to the microsecond. `offset` is what the clock is ahead of universal time, in
minutes. -/
structure Moment where
  date : Date
  hour : Nat
  minute : Nat
  second : Nat
  micro : Nat
  offset : Option Int
  deriving DecidableEq, Repr

/-- The decimal digits of a number, with zeros in front up to `width`. -/
def padded (width n : Nat) : String :=
  let ds := Nat.toDigits 10 n
  String.ofList (List.replicate (width - ds.length) '0' ++ ds)

/-- Whether a year has a leap day. -/
def isLeapYear (y : Nat) : Bool := y % 4 = 0 && (y % 100 != 0 || y % 400 = 0)

/-- The number of days of a month. -/
def daysInMonth (year month : Nat) : Nat :=
  if month = 2 then (if isLeapYear year then 29 else 28)
  else if [4, 6, 9, 11].contains month then 30
  else 31

/-- Why numbers are no date or no moment. -/
inductive CalendarFault
  | year (n : Nat)
  | month
  | day
  | hour
  | minute
  | second
  | offset (minutes : Int)
  deriving DecidableEq, Repr

namespace Date

/-- The date of a year, a month and a day. -/
def ofNumbers (year month day : Nat) : Except CalendarFault Date :=
  if year = 0 then .error (.year year)
  else if month = 0 ∨ 12 < month then .error .month
  else if day = 0 ∨ daysInMonth year month < day then .error .day
  else .ok ⟨year, month, day⟩

/-- The days before the date since the start of the calendar. -/
def daysBefore (d : Date) : Nat :=
  let y := d.year - 1
  y * 365 + y / 4 - y / 100 + y / 400 +
    (List.range (d.month - 1)).foldl (fun days m => days + daysInMonth d.year (m + 1)) 0 +
    (d.day - 1)

/-- The date as text. -/
def toText (d : Date) : String :=
  padded 4 d.year ++ "-" ++ padded 2 d.month ++ "-" ++ padded 2 d.day

/-- The date as it stands inside a list or a mapping. -/
def toInnerText (d : Date) : String :=
  "datetime.date(" ++ toString d.year ++ ", " ++ toString d.month ++ ", " ++ toString d.day ++ ")"

end Date

namespace Moment

/-- A moment of a date, with the offset of its clock in minutes. The date is looked at first, the
offset last but before the numbers of the clock. -/
def ofNumbers (year month day hour minute second micro : Nat) (offset : Option Int) :
    Except CalendarFault Moment := do
  if let some o := offset then
    if o ≤ -1440 ∨ 1440 ≤ o then throw (.offset o)
  let date ← Date.ofNumbers year month day
  if 23 < hour then throw .hour
  if 59 < minute then throw .minute
  if 59 < second then throw .second
  return ⟨date, hour, minute, second, micro, offset⟩

/-- The microseconds before the moment since the start of the calendar, by its own clock. -/
def microsBefore (m : Moment) : Nat :=
  (((m.date.daysBefore * 24 + m.hour) * 60 + m.minute) * 60 + m.second) * 1000000 + m.micro

/-- Whether two moments are the same. Clocks that tell their offset are compared in universal time,
and never with clocks that do not. -/
def isSame (m n : Moment) : Bool :=
  match m.offset, n.offset with
  | none, none => m == n
  | some o, some p =>
    (m.microsBefore : Int) - o * 60000000 == (n.microsBefore : Int) - p * 60000000
  | _, _ => false

/-- Hours and minutes ahead of universal time, or behind it. -/
def offsetText (o : Int) : String :=
  (if o < 0 then "-" else "+") ++ padded 2 (o.natAbs / 60) ++ ":" ++ padded 2 (o.natAbs % 60)

/-- The moment as text. -/
def toText (m : Moment) : String :=
  m.date.toText ++ " " ++ padded 2 m.hour ++ ":" ++ padded 2 m.minute ++ ":" ++ padded 2 m.second ++
    (if m.micro = 0 then "" else "." ++ padded 6 m.micro) ++ (m.offset.map offsetText).getD ""

/-- An offset as a span of days and seconds, the seconds never negative. -/
def spanText (o : Int) : String :=
  let seconds := o * 60
  let days := Int.fdiv seconds 86400
  let rest := Int.fmod seconds 86400
  let parts :=
    (if days = 0 then [] else ["days=" ++ toString days]) ++
      (if rest = 0 then [] else ["seconds=" ++ toString rest])
  "datetime.timedelta(" ++ ", ".intercalate (if parts.isEmpty then ["0"] else parts) ++ ")"

/-- The moment as it stands inside a list or a mapping. -/
def toInnerText (m : Moment) : String :=
  let numbers := [m.date.year, m.date.month, m.date.day, m.hour, m.minute]
  let tail :=
    if m.micro != 0 then [m.second, m.micro] else if m.second != 0 then [m.second] else []
  let zone :=
    match m.offset with
    | none => []
    | some o =>
      ["tzinfo=" ++
        (if o = 0 then "datetime.timezone.utc" else "datetime.timezone(" ++ spanText o ++ ")")]
  "datetime.datetime(" ++ ", ".intercalate ((numbers ++ tail).map toString ++ zone) ++ ")"

end Moment

/-- The wording of a fault. -/
def CalendarFault.message : CalendarFault → String
  | .year n => "year " ++ toString n ++ " is out of range"
  | .month => "month must be in 1..12"
  | .day => "day is out of range for month"
  | .hour => "hour must be in 0..23"
  | .minute => "minute must be in 0..59"
  | .second => "second must be in 0..59"
  | .offset o =>
    "offset must be a timedelta strictly between -timedelta(hours=24) and " ++
      "timedelta(hours=24), not " ++
      Moment.spanText o ++ "."

end ImportLint
