/-!
# Moments of the calendar

A moment is a date and a time of day; a stamp adds the offset from universal time in minutes, if it is known.  Both
are written in the extended format of ISO 8601, to the second.

`Moment.ofFields` and `Stamp.make` take numbers from outside and refuse what is in no calendar: days that a month does
not have, hours beyond the day, offsets of a whole day.  Numbers that are far too large are refused before.
-/

namespace Tabletop

structure Moment where
  year : Nat
  month : Nat
  day : Nat
  hour : Nat := 0
  minute : Nat := 0
  second : Nat := 0
  microsecond : Nat := 0
  deriving DecidableEq, Repr

/-- Decimal digits, filled up with zeros to a width. -/
def padded (width n : Nat) : String :=
  let digits := Nat.toDigits 10 n
  String.ofList (List.replicate (width - digits.length) '0' ++ digits)

namespace Moment

/-- The date that lies a number of days after 1 January 1970.  Years are taken to begin in March, so that the day
that leap years add is the last of the year, and are counted in eras of 400. -/
def ofDays (days : Nat) : Moment :=
  let shifted := days + 719468
  let era := shifted / 146097
  let dayOfEra := shifted % 146097
  let yearOfEra := (dayOfEra - dayOfEra / 1460 + dayOfEra / 36524 - dayOfEra / 146096) / 365
  let dayOfYear := dayOfEra - (365 * yearOfEra + yearOfEra / 4 - yearOfEra / 100)
  let march := (5 * dayOfYear + 2) / 153
  let month := if march < 10 then march + 3 else march - 9
  { year := 400 * era + yearOfEra + (if month ≤ 2 then 1 else 0)
    month
    day := dayOfYear - (153 * march + 2) / 5 + 1 }

def ofUnixTime (seconds microsecond : Nat) : Moment :=
  { ofDays (seconds / 86400) with
    hour := seconds / 3600 % 24
    minute := seconds / 60 % 60
    second := seconds % 60
    microsecond }

def isLeap (year : Nat) : Bool :=
  year % 4 == 0 && (year % 100 != 0 || year % 400 == 0)

def daysIn (year month : Nat) : Nat :=
  if month = 2 then (if isLeap year then 29 else 28)
  else if month = 4 ∨ month = 6 ∨ month = 9 ∨ month = 11 then 30
  else 31

def text (m : Moment) : String :=
  padded 4 m.year ++ "-" ++ padded 2 m.month ++ "-" ++ padded 2 m.day ++ "T" ++
    padded 2 m.hour ++ ":" ++ padded 2 m.minute ++ ":" ++ padded 2 m.second

end Moment

/-! ### Dates from outside -/

inductive DateFault where
  | year (given : Int)
  | month
  | day
  | hour
  | minute
  | second
  | microsecond
  | offset (minutes : Int)
  /-- A number beyond 32 bits. -/
  | tooLarge
  | tooSmall
  /-- A number beyond 64 bits. -/
  | beyondWord
  | offsetTooLong (days : Int)
  | offsetBeyondWord
  deriving DecidableEq, Repr

namespace DateFault

def maxDays : Nat := 999999999

/-- A length of time in whole days, which may be negative, and the seconds beyond them. -/
def lengthText (minutes : Int) : String :=
  let seconds := 60 * (minutes % 1440)
  "datetime.timedelta(days=" ++ toString (minutes / 1440) ++
    (if seconds = 0 then "" else ", seconds=" ++ toString seconds) ++ ")"

def message : DateFault → String
  | year given => "year " ++ toString given ++ " is out of range"
  | month => "month must be in 1..12"
  | day => "day is out of range for month"
  | hour => "hour must be in 0..23"
  | minute => "minute must be in 0..59"
  | second => "second must be in 0..59"
  | microsecond => "microsecond must be in 0..999999"
  | offset minutes =>
    "offset must be a timedelta strictly between -timedelta(hours=24) and timedelta(hours=24), not " ++
      lengthText minutes ++ "."
  | tooLarge => "signed integer is greater than maximum"
  | tooSmall => "signed integer is less than minimum"
  | beyondWord => "Python int too large to convert to C long"
  | offsetTooLong days =>
    "days=" ++ toString days ++ "; must have magnitude <= " ++ toString maxDays
  | offsetBeyondWord => "Python int too large to convert to C int"

/-- The numbers of a date are kept in 32 bits with their sign. -/
def checkSize (n : Int) : Except DateFault Unit :=
  if n < -9223372036854775808 ∨ 9223372036854775807 < n then .error beyondWord
  else if 2147483647 < n then .error tooLarge
  else if n < -2147483648 then .error tooSmall
  else .ok ()

/-- So are the days of a length of time, which has at most `maxDays` of them. -/
def checkDays (days : Int) : Except DateFault Unit :=
  if days < -2147483648 ∨ 2147483647 < days then .error offsetBeyondWord
  else if maxDays < days.natAbs then .error (offsetTooLong days)
  else .ok ()

/-- A number of a date that lies between two bounds. -/
def within (low high : Nat) (fault : DateFault) (n : Int) : Except DateFault Nat :=
  if low ≤ n ∧ n ≤ high then .ok n.toNat else .error fault

end DateFault

namespace Moment

/-- Year, month, day, hour, minute, second and microsecond; those at the end that are left out are zero. -/
def ofFields (fields : List Int) : Except DateFault Moment := do
  fields.forM DateFault.checkSize
  let at? := fun i => fields.getD i 0
  let year ← DateFault.within 1 9999 (.year (at? 0)) (at? 0)
  let month ← DateFault.within 1 12 .month (at? 1)
  let day ← DateFault.within 1 (daysIn year month) .day (at? 2)
  let hour ← DateFault.within 0 23 .hour (at? 3)
  let minute ← DateFault.within 0 59 .minute (at? 4)
  let second ← DateFault.within 0 59 .second (at? 5)
  let microsecond ← DateFault.within 0 999999 .microsecond (at? 6)
  return { year, month, day, hour, minute, second, microsecond }

end Moment

/-! ### Stamps -/

structure Stamp where
  moment : Moment
  offset : Option Int
  deriving DecidableEq, Repr

namespace Stamp

def universal (m : Moment) : Stamp := ⟨m, some 0⟩

/-- An offset is shorter than a day. -/
def checkOffset (minutes : Int) : Except DateFault Unit := do
  DateFault.checkDays (minutes / 1440)
  if minutes.natAbs < 1440 then .ok () else .error (.offset minutes)

/-- The stamp of a date and an offset in minutes, of which the offset is looked at first. -/
def make (fields : List Int) (offset : Option Int) : Except DateFault Stamp := do
  offset.forM checkOffset
  return ⟨← Moment.ofFields fields, offset⟩

/-- A stamp without an offset is taken as universal time. -/
def orUniversal (s : Stamp) : Stamp := { s with offset := some (s.offset.getD 0) }

def offsetText (minutes : Int) : String :=
  (if minutes < 0 then "-" else "+") ++ padded 2 (minutes.natAbs / 60) ++ ":" ++ padded 2 (minutes.natAbs % 60)

def text (s : Stamp) : String :=
  s.moment.text ++
    match s.offset with
    | none => ""
    | some minutes => offsetText minutes

end Stamp

end Tabletop
