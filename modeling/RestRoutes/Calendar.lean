import RestRoutes.Number.Digits

/-! Calendar dates and timestamps of the Gregorian calendar, years 1 to 9999, and their texts. -/

namespace RestRoutes

open Number

structure Date where
  year : Nat
  month : Nat
  day : Nat
deriving DecidableEq, Repr

/-- A moment of a day, with the offset from universal time in minutes when it is known. -/
structure Timestamp where
  date : Date
  hour : Nat
  minute : Nat
  second : Nat
  microsecond : Nat
  offset : Option Int
deriving DecidableEq, Repr

inductive CalendarFault
  | year (n : Nat)
  | month
  | day
  | hour
  | minute
  | second
  | offset (minutes : Int)
deriving DecidableEq, Repr

namespace Date

def isLeapYear (year : Nat) : Bool :=
  year % 4 == 0 && (year % 100 != 0 || year % 400 == 0)

def daysInMonth (year month : Nat) : Nat :=
  if month = 2 then (if isLeapYear year then 29 else 28)
  else if month = 4 ∨ month = 6 ∨ month = 9 ∨ month = 11 then 30
  else 31

def ofNumbers? (year month day : Nat) : Except CalendarFault Date :=
  if year < 1 ∨ 9999 < year then .error (.year year)
  else if month < 1 ∨ 12 < month then .error .month
  else if day < 1 ∨ daysInMonth year month < day then .error .day
  else .ok ⟨year, month, day⟩

/-- The number of days before a day, counted from the first day of year 1. -/
def ordinal (d : Date) : Nat :=
  let years := d.year - 1
  let before := (List.range (d.month - 1)).map fun m => daysInMonth d.year (m + 1)
  years * 365 + years / 4 - years / 100 + years / 400 + before.foldl (· + ·) 0 + (d.day - 1)

def padded (width n : Nat) : List Char :=
  let ds := digits n
  List.replicate (width - ds.length) '0' ++ ds

def chars (d : Date) : List Char :=
  padded 4 d.year ++ '-' :: padded 2 d.month ++ '-' :: padded 2 d.day

/-- A day as `2020-01-31`. -/
def text (d : Date) : String := String.ofList d.chars

end Date

/-- A span of time as days and seconds, the seconds counted up from the start of the day. -/
def spanLiteral (minutes : Int) : String :=
  let days := minutes.fdiv 1440
  let seconds := minutes.fmod 1440 * 60
  let day := if days = 0 then [] else ["days=" ++ toString days]
  let second := if seconds = 0 then [] else ["seconds=" ++ toString seconds]
  let parts := if days = 0 ∧ seconds = 0 then ["0"] else day ++ second
  "datetime.timedelta(" ++ String.intercalate ", " parts ++ ")"

def CalendarFault.message : CalendarFault → String
  | .year n => "year " ++ toString n ++ " is out of range"
  | .month => "month must be in 1..12"
  | .day => "day is out of range for month"
  | .hour => "hour must be in 0..23"
  | .minute => "minute must be in 0..59"
  | .second => "second must be in 0..59"
  | .offset minutes =>
    "offset must be a timedelta strictly between -timedelta(hours=24) and timedelta(hours=24), not "
      ++ spanLiteral minutes ++ "."

namespace Timestamp

/-- The moment with the given numbers; the offset is checked first. -/
def ofNumbers? (year month day hour minute second microsecond : Nat) (offset : Option Int) :
    Except CalendarFault Timestamp := do
  if let some minutes := offset then
    if 1440 ≤ minutes.natAbs then throw (.offset minutes)
  let date ← Date.ofNumbers? year month day
  if 23 < hour then throw .hour
  if 59 < minute then throw .minute
  if 59 < second then throw .second
  return ⟨date, hour, minute, second, microsecond, offset⟩

/-- The microseconds from the start of year 1 to the moment, less its offset. -/
def instant (t : Timestamp) : Int :=
  let minutes : Int := (t.date.ordinal * 24 + t.hour) * 60 + t.minute - t.offset.getD 0
  (minutes * 60 + t.second) * 1000000 + t.microsecond

/-- Two timestamps name one moment.  One without an offset is never the same as one with. -/
def sameMoment (s t : Timestamp) : Bool :=
  s.offset.isSome == t.offset.isSome && s.instant == t.instant

def offsetChars (minutes : Int) : List Char :=
  let size := minutes.natAbs
  (if minutes < 0 then '-' else '+') :: (Date.padded 2 (size / 60) ++ ':' :: Date.padded 2 (size % 60))

/-- A moment as `2020-01-31 12:30:45.000001+02:00`. -/
def text (t : Timestamp) : String :=
  String.ofList <|
    t.date.chars ++ ' ' :: Date.padded 2 t.hour ++ ':' :: Date.padded 2 t.minute ++
      ':' :: Date.padded 2 t.second ++
      (if t.microsecond = 0 then [] else '.' :: Date.padded 6 t.microsecond) ++
      (t.offset.map offsetChars).getD []

def offsetLiteral (minutes : Int) : String :=
  if minutes = 0 then "datetime.timezone.utc"
  else "datetime.timezone(" ++ spanLiteral minutes ++ ")"

/-- A moment as a literal that names its parts. -/
def literal (t : Timestamp) : String :=
  let parts :=
    [t.date.year, t.date.month, t.date.day, t.hour, t.minute] ++
      (if t.microsecond = 0 then (if t.second = 0 then [] else [t.second])
        else [t.second, t.microsecond])
  let zone := match t.offset with
    | none => []
    | some minutes => ["tzinfo=" ++ offsetLiteral minutes]
  "datetime.datetime(" ++ String.intercalate ", " (parts.map toString ++ zone) ++ ")"

end Timestamp

def Date.literal (d : Date) : String :=
  "datetime.date(" ++ String.intercalate ", " ([d.year, d.month, d.day].map toString) ++ ")"

end RestRoutes
