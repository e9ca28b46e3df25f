import SchoolDesk.Text.Blank
import SchoolDesk.Text.Bytes

/-!
# Dates in headers

A header gives a date and a time of day in one of three forms.

* `Sun, 06 Nov 1994 08:49:37 GMT` is the usual one.
* `Sunday, 06-Nov-94 08:49:37 GMT` has two digits of the year, and those below
  seventy are in the twenty-first century.  Any character may stand in front of the
  hour.
* `Sun Nov  6 08:49:37 1994` has a blank in place of the first digit of a short day.

Names are written with a capital, and blanks around a date do not count.  The name
of the weekday must be one, but need not be right.  A day may be up to the
thirty-first of any month, and one that a month has not is in the month after it.

Dates are compared by the seconds since the year 1970 began, in which the earliest
date is.
-/

namespace SchoolDesk.Web

/-- A second of the calendar. -/
structure Date where
  year : Nat
  /-- From 1 to 12. -/
  month : Nat
  day : Nat
  hour : Nat := 0
  minute : Nat := 0
  second : Nat := 0
deriving DecidableEq, Repr

namespace Date

/-! ## Counting -/

/-- A year has a day more. -/
def isLeap (year : Nat) : Bool := year % 4 = 0 && (year % 100 != 0 || year % 400 = 0)

/-- The leap years up to a year. -/
def leapYears (year : Nat) : Nat := year / 4 - year / 100 + year / 400

/-- The lengths of the months in a year that is no leap year. -/
def monthLengths : List Nat := [31, 28, 31, 30, 31, 30, 31, 31, 30, 31, 30, 31]

/-- The days before a month in a year that is no leap year. -/
def daysBeforeMonth (month : Nat) : Nat := (monthLengths.take (month - 1)).foldl (· + ·) 0

/-- The days since the year 1970 began. -/
def days (d : Date) : Nat :=
  365 * (d.year - 1970) + (leapYears (d.year - 1) - leapYears 1969) + daysBeforeMonth d.month +
    (if isLeap d.year && 2 < d.month then 1 else 0) + (d.day - 1)

/-- The seconds since the year 1970 began. -/
def seconds (d : Date) : Nat := 86400 * d.days + 3600 * d.hour + 60 * d.minute + d.second

/-- A date that there can be. -/
def isValid (d : Date) : Bool :=
  1970 ≤ d.year && 1 ≤ d.day && d.day ≤ 31 && d.hour < 24 && d.minute < 60 && d.second < 60

/-! ## Reading -/

/-- The names of the weekdays. -/
def weekdays : List String :=
  ["Monday", "Tuesday", "Wednesday", "Thursday", "Friday", "Saturday", "Sunday"]

/-- The names of the months, cut to three letters. -/
def months : List String :=
  ["Jan", "Feb", "Mar", "Apr", "May", "Jun", "Jul", "Aug", "Sep", "Oct", "Nov", "Dec"]

/-- A given word must come next. -/
def takeWord (word : String) (s : List Char) : Option (List Char) :=
  if word.toList.isPrefixOf s then some (s.drop word.toList.length) else none

/-- One of some words must come next, with its place among them.  None of the words
begins with another. -/
def takeOneOf (words : List String) (s : List Char) : Option (Nat × List Char) :=
  (words.zipIdx.find? fun w => w.1.toList.isPrefixOf s).map fun w =>
    (w.2, s.drop w.1.toList.length)

/-- The first three letters of a name. -/
def short (name : String) : String := String.ofList (name.toList.take 3)

/-- The name of a weekday, whole or cut to three letters. -/
def takeWeekday (whole : Bool) (s : List Char) : Option (List Char) :=
  (takeOneOf (if whole then weekdays else weekdays.map short) s).map (·.2)

/-- The name of a month between two signs. -/
def takeMonth (sign : String) (s : List Char) : Option (Nat × List Char) := do
  let s ← takeWord sign s
  let (n, s) ← takeOneOf months s
  let s ← takeWord sign s
  return (n + 1, s)

/-- A number of so many digits. -/
def takeDigits (n : Nat) (s : List Char) : Option (Nat × List Char) :=
  let digits := s.take n
  if digits.length = n && digits.all Char.isDigit then
    some (digits.foldl (fun m c => 10 * m + (c.toNat - '0'.toNat)) 0, s.drop n)
  else none

/-- A day, which may have a blank in front of its one digit. -/
def takeDay (s : List Char) : Option (Nat × List Char) :=
  match s with
  | ' ' :: s => takeDigits 1 s
  | _ => takeDigits 2 s

/-- The hour, minute and second of a date. -/
def takeTime (d : Date) (s : List Char) : Option (Date × List Char) := do
  let (hour, s) ← takeDigits 2 s
  let s ← takeWord ":" s
  let (minute, s) ← takeDigits 2 s
  let s ← takeWord ":" s
  let (second, s) ← takeDigits 2 s
  return ({ d with hour := hour, minute := minute, second := second }, s)

/-- A date that ends in the name of the zone. -/
def endZone (d : Date) (s : List Char) : Option Date :=
  if s = " GMT".toList then some d else none

/-- A date of the usual form. -/
def readUsual (s : List Char) : Option Date := do
  let s ← takeWeekday false s
  let s ← takeWord ", " s
  let (day, s) ← takeDigits 2 s
  let (month, s) ← takeMonth " " s
  let (year, s) ← takeDigits 4 s
  let s ← takeWord " " s
  let (d, s) ← takeTime ⟨year, month, day, 0, 0, 0⟩ s
  endZone d s

/-- A date with the whole name of the weekday and a short year. -/
def readWhole (s : List Char) : Option Date := do
  let s ← takeWeekday true s
  let s ← takeWord ", " s
  let (day, s) ← takeDigits 2 s
  let (month, s) ← takeMonth "-" s
  let (year, s) ← takeDigits 2 s
  let year := if year < 70 then 2000 + year else 1900 + year
  let (d, s) ← takeTime ⟨year, month, day, 0, 0, 0⟩ (s.drop 1)
  endZone d s

/-- A date with the year at the end. -/
def readYearLast (s : List Char) : Option Date := do
  let s ← takeWeekday false s
  let (month, s) ← takeMonth " " s
  let (day, s) ← takeDay s
  let s ← takeWord " " s
  let (d, s) ← takeTime ⟨0, month, day, 0, 0, 0⟩ s
  let s ← takeWord " " s
  let (year, s) ← takeDigits 4 s
  if s.isEmpty then some { d with year := year } else none

/-- The date in the value of a header. -/
def ofValue? (value : Bytes) : Option Date :=
  if value.all (· < 0x80) then
    let s := Text.trim (value.map Byte.toChar)
    ((readUsual s <|> readWhole s) <|> readYearLast s).filter isValid
  else none

end Date

end SchoolDesk.Web
