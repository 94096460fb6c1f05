namespace CacheWiring

/-- A length of time: days, seconds of a day and, here always, no fraction. -/
structure Duration where
  days : Int
  seconds : Nat
  deriving DecidableEq

structure Date where
  year : Nat
  month : Nat
  day : Nat
  deriving DecidableEq

/-- A date and a time of day; `offset` is in minutes east of universal time. -/
structure Timestamp where
  date : Date
  hour : Nat
  minute : Nat
  second : Nat
  microsecond : Nat
  offset : Option Int
  deriving DecidableEq

inductive CalendarError where
  | year (found : Nat)
  | month
  | day
  | hour
  | minute
  | second
  | offset (minutes : Int)
  deriving DecidableEq

namespace Duration

def ofMinutes (minutes : Int) : Duration :=
  ⟨minutes.fdiv (24 * 60), (minutes.fmod (24 * 60)).toNat * 60⟩

/-- Only the parts that are not zero are named. -/
def literal (d : Duration) : String :=
  let days := if d.days = 0 then [] else [s!"days={d.days}"]
  let seconds := if d.seconds = 0 then [] else [s!"seconds={d.seconds}"]
  let parts := days ++ seconds
  "datetime.timedelta(" ++ (if parts.isEmpty then "0" else ", ".intercalate parts) ++ ")"

end Duration

namespace CalendarError

def message : CalendarError → String
  | .year found => s!"year {found} is out of range"
  | .month => "month must be in 1..12"
  | .day => "day is out of range for month"
  | .hour => "hour must be in 0..23"
  | .minute => "minute must be in 0..59"
  | .second => "second must be in 0..59"
  | .offset minutes =>
    "offset must be a timedelta strictly between -timedelta(hours=24) and timedelta(hours=24), not "
      ++ (Duration.ofMinutes minutes).literal ++ "."

end CalendarError

def isLeapYear (year : Nat) : Bool :=
  year % 4 == 0 && (year % 100 != 0 || year % 400 == 0)

def daysInMonth (year month : Nat) : Nat :=
  if month = 2 then (if isLeapYear year then 29 else 28)
  else if [4, 6, 9, 11].contains month then 30
  else 31

def padded (width n : Nat) : String :=
  let digits := Nat.toDigits 10 n
  String.ofList (List.replicate (width - digits.length) '0' ++ digits)

namespace Date

def check (year month day : Nat) : Except CalendarError Date :=
  if year < 1 ∨ 9999 < year then .error (.year year)
  else if month < 1 ∨ 12 < month then .error .month
  else if day < 1 ∨ daysInMonth year month < day then .error .day
  else .ok ⟨year, month, day⟩

def text (d : Date) : String :=
  padded 4 d.year ++ "-" ++ padded 2 d.month ++ "-" ++ padded 2 d.day

def literal (d : Date) : String := s!"datetime.date({d.year}, {d.month}, {d.day})"

def next (d : Date) : Date :=
  if d.day < daysInMonth d.year d.month then ⟨d.year, d.month, d.day + 1⟩
  else if d.month < 12 then ⟨d.year, d.month + 1, 1⟩
  else ⟨d.year + 1, 1, 1⟩

def previous (d : Date) : Date :=
  if 1 < d.day then ⟨d.year, d.month, d.day - 1⟩
  else if 1 < d.month then ⟨d.year, d.month - 1, daysInMonth d.year (d.month - 1)⟩
  else ⟨d.year - 1, 12, 31⟩

end Date

namespace Timestamp

/-- The offset is checked first, then the date, then the time of day. -/
def check (year month day hour minute second microsecond : Nat) (offset : Option Int) :
    Except CalendarError Timestamp := do
  match offset with
  | some minutes =>
    if minutes ≤ -(24 * 60) ∨ 24 * 60 ≤ minutes then throw (.offset minutes)
  | none => pure ()
  let date ← Date.check year month day
  if 23 < hour then throw .hour
  if 59 < minute then throw .minute
  if 59 < second then throw .second
  return ⟨date, hour, minute, second, microsecond, offset⟩

/-- The same moment with no offset from universal time. A time of unknown offset stays as it is. -/
def universal (t : Timestamp) : Timestamp :=
  match t.offset with
  | none => t
  | some offset =>
    let minutes : Int := (t.hour * 60 + t.minute : Nat) - offset
    let date :=
      if minutes < 0 then t.date.previous else if 24 * 60 ≤ minutes then t.date.next else t.date
    let ofDay := (minutes.emod (24 * 60)).toNat
    { t with date, hour := ofDay / 60, minute := ofDay % 60, offset := some 0 }

def offsetText (minutes : Int) : String :=
  (if minutes < 0 then "-" else "+") ++ padded 2 (minutes.natAbs / 60) ++ ":"
    ++ padded 2 (minutes.natAbs % 60)

def text (t : Timestamp) : String :=
  t.date.text ++ " " ++ padded 2 t.hour ++ ":" ++ padded 2 t.minute ++ ":" ++ padded 2 t.second
    ++ (if t.microsecond = 0 then "" else "." ++ padded 6 t.microsecond)
    ++ (match t.offset with
      | some minutes => offsetText minutes
      | none => "")

/-- Universal time has a name of its own. -/
def zoneLiteral (minutes : Int) : String :=
  if minutes = 0 then "datetime.timezone.utc"
  else "datetime.timezone(" ++ (Duration.ofMinutes minutes).literal ++ ")"

/-- Seconds are left out when they and the fraction are zero, the fraction when it is. -/
def literal (t : Timestamp) : String :=
  let fine :=
    if t.microsecond ≠ 0 then [t.second, t.microsecond]
    else if t.second ≠ 0 then [t.second]
    else []
  let fields := [t.date.year, t.date.month, t.date.day, t.hour, t.minute] ++ fine
  let zone := match t.offset with
    | some minutes => ["tzinfo=" ++ zoneLiteral minutes]
    | none => []
  "datetime.datetime(" ++ ", ".intercalate (fields.map toString ++ zone) ++ ")"

end Timestamp

end CacheWiring
