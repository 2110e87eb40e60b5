/-
Timestamps: a date and a time of day, without a zone.

* `Timestamp.Valid`: the dates of the calendar from year -262143 to 262142 and the times of the
  day, a leap second being a second 59 with more than a second's fraction;
* `Timestamp`: such a date and time;
* `Timestamp.text`: the written form, from which a fraction and a midnight are left out.
-/

namespace RowQuery

/-- Leap years of the calendar, counted through year zero. -/
def isLeapYear (year : Int) : Bool :=
  year % 4 == 0 && (year % 100 != 0 || year % 400 == 0)

/-- How many days a month has. -/
def daysInMonth (year : Int) (month : Nat) : Nat :=
  if month == 2 then (if isLeapYear year then 29 else 28)
  else if [4, 6, 9, 11].contains month then 30
  else 31

/-- The fields of a date and a time of day. -/
structure DateTime where
  year : Int
  month : Nat
  day : Nat
  hour : Nat
  minute : Nat
  second : Nat
  /-- Parts of a second, in units of 10^(-9); those of a leap second follow the first 10^9. -/
  nanosecond : Nat
deriving DecidableEq, Repr

namespace DateTime

/-- The fields name a day of the calendar. -/
def IsDate (t : DateTime) : Prop :=
  -262143 ≤ t.year ∧ t.year ≤ 262142 ∧ 1 ≤ t.month ∧ t.month ≤ 12 ∧ 1 ≤ t.day
    ∧ t.day ≤ daysInMonth t.year t.month

/-- The fields name a time of day. A leap second ends a minute; one that follows another second of
the minute, and would be written as the second after it, is left out. -/
def IsTime (t : DateTime) : Prop :=
  t.hour < 24 ∧ t.minute < 60 ∧ t.second < 60
    ∧ (t.nanosecond < 1000000000 ∨ t.second = 59 ∧ t.nanosecond < 2000000000)

/-- The fields name a point in time. -/
def Valid (t : DateTime) : Prop := t.IsDate ∧ t.IsTime

instance (t : DateTime) : Decidable t.Valid := by
  unfold Valid IsDate IsTime
  infer_instance

end DateTime

/-- A date and a time of day. -/
structure Timestamp where
  fields : DateTime
  valid : fields.Valid
deriving DecidableEq

namespace Timestamp

/-- The timestamp of the given fields, if they name one. -/
def ofFields? (fields : DateTime) : Option Timestamp :=
  if h : fields.Valid then some ⟨fields, h⟩ else none

/-- A number with zeros in front of it, up to a width. -/
def padded (width n : Nat) : List Char :=
  let digits := Nat.toDigits 10 n
  List.replicate (width - digits.length) '0' ++ digits

/-- Years 0 to 9999 have four digits; others have a sign and at least four. -/
def yearText (year : Int) : List Char :=
  if 0 ≤ year ∧ year ≤ 9999 then padded 4 year.toNat
  else (if year < 0 then '-' else '+') :: padded 4 year.natAbs

/-- The second as it is written: a leap second is second 60. -/
def shownSecond (t : Timestamp) : Nat :=
  t.fields.second + (if t.fields.nanosecond < 1000000000 then 0 else 1)

/-- The date, with hyphens. -/
def dateText (t : Timestamp) : List Char :=
  yearText t.fields.year ++ '-' :: padded 2 t.fields.month ++ '-' :: padded 2 t.fields.day

/-- The time of day, with colons. -/
def timeText (t : Timestamp) : List Char :=
  padded 2 t.fields.hour ++ ':' :: padded 2 t.fields.minute ++ ':' :: padded 2 t.shownSecond

/-- Whether the time of day is midnight, a fraction of a second aside. -/
def isMidnight (t : Timestamp) : Bool :=
  t.fields.hour == 0 && t.fields.minute == 0 && t.shownSecond == 0

/-- The written form: the date, and the time of day unless it is midnight. -/
def text (t : Timestamp) : String :=
  String.ofList (if t.isMidnight then t.dateText else t.dateText ++ ' ' :: t.timeText)

end Timestamp

end RowQuery
