import RefExpand.Number.Decimal

namespace RefExpand

/-!
# Dates and times

A moment of the proleptic Gregorian calendar without a zone, as a day counted
from 1970-01-01 and the nanoseconds since its midnight. Days turn into years,
months and days by counting eras of 400 years that begin on the first of March.
Any minute may end with a leap second, which is written as its second 60.
-/

/--
A day and the nanoseconds since its midnight. A moment of a leap second is told
from the same moment of the second before by a mark.
-/
structure DateTime where
  day : Int
  nanosecond : Nat
  isLeap : Bool := false
  deriving Repr, DecidableEq, Inhabited

/-- A date as year, month and day of the month. -/
structure CivilDate where
  year : Int
  month : Nat
  day : Nat
  deriving Repr, DecidableEq

namespace CivilDate

/-- The day number of a date. -/
def toDay (date : CivilDate) : Int :=
  let year := if date.month ≤ 2 then date.year - 1 else date.year
  let era := year.fdiv 400
  let yearOfEra := year - era * 400
  let monthFromMarch : Int := if date.month > 2 then (date.month : Int) - 3 else date.month + 9
  let dayOfYear := (153 * monthFromMarch + 2) / 5 + date.day - 1
  let dayOfEra := yearOfEra * 365 + yearOfEra / 4 - yearOfEra / 100 + dayOfYear
  era * 146097 + dayOfEra - 719468

/-- The date of a day number. -/
def ofDay (day : Int) : CivilDate :=
  let shifted := day + 719468
  let era := shifted.fdiv 146097
  let dayOfEra := (shifted - era * 146097).toNat
  let yearOfEra := (dayOfEra - dayOfEra / 1460 + dayOfEra / 36524 - dayOfEra / 146096) / 365
  let dayOfYear := dayOfEra - (365 * yearOfEra + yearOfEra / 4 - yearOfEra / 100)
  let monthFromMarch := (5 * dayOfYear + 2) / 153
  let month := if monthFromMarch < 10 then monthFromMarch + 3 else monthFromMarch - 9
  let year : Int := (yearOfEra : Int) + era * 400
  { year := if month ≤ 2 then year + 1 else year
    month
    day := dayOfYear - (153 * monthFromMarch + 2) / 5 + 1 }

end CivilDate

namespace DateTime

/-- The nanoseconds of a second. -/
def nanosPerSecond : Nat :=
  1000000000

/-- The nanoseconds of a day. -/
def nanosPerDay : Nat :=
  86400 * nanosPerSecond

/-- The date part. -/
def date (moment : DateTime) : CivilDate :=
  CivilDate.ofDay moment.day

/-- The hour, from 0 to 23. -/
def hour (moment : DateTime) : Nat :=
  moment.nanosecond / (3600 * nanosPerSecond)

/-- The minute of the hour. -/
def minute (moment : DateTime) : Nat :=
  moment.nanosecond / (60 * nanosPerSecond) % 60

/-- The second of the minute; a leap second has the number of the second before. -/
def second (moment : DateTime) : Nat :=
  moment.nanosecond / nanosPerSecond % 60

/-- The nanoseconds of the second. -/
def fraction (moment : DateTime) : Nat :=
  moment.nanosecond % nanosPerSecond

/-- The day of the week, Sunday being 0. -/
def weekday (moment : DateTime) : Nat :=
  ((moment.day + 4) % 7).toNat

/-- The day of the year, the first of January being 1. -/
def dayOfYear (moment : DateTime) : Int :=
  moment.day - ({ year := moment.date.year, month := 1, day := 1 } : CivilDate).toDay + 1

/-- The first day that a moment may have. -/
def firstDay : Int :=
  ({ year := -262143, month := 1, day := 1 } : CivilDate).toDay

/-- The last day that a moment may have. -/
def lastDay : Int :=
  ({ year := 262142, month := 12, day := 31 } : CivilDate).toDay

/-- The moment so many nanoseconds after a midnight, if the calendar reaches it. -/
def ofMidnight? (day nanoseconds : Int) : Option DateTime :=
  let reached := day + nanoseconds.fdiv nanosPerDay
  if firstDay ≤ reached ∧ reached ≤ lastDay then
    some { day := reached, nanosecond := (nanoseconds.fmod nanosPerDay).toNat }
  else
    none

/--
The moment so many milliseconds later, if the calendar reaches it. A leap second
that is not left stays one; on the way forward it counts as the second before it,
and on the way back as the second after it.
-/
def addMilliseconds? (moment : DateTime) (milliseconds : Int) : Option DateTime :=
  let added := milliseconds * 1000000
  let fraction := moment.fraction + added
  if moment.isLeap && 0 ≤ fraction && fraction < nanosPerSecond then
    some { moment with nanosecond := (moment.nanosecond + added).toNat }
  else if moment.isLeap && added < 0 then
    ofMidnight? moment.day (moment.nanosecond + nanosPerSecond + added)
  else
    ofMidnight? moment.day (moment.nanosecond + added)

/-- A year as four digits, with a sign where four digits do not hold it. -/
def yearText (year : Int) : Text :=
  if 0 ≤ year ∧ year ≤ 9999 then Decimal.padded 4 year.natAbs
  else (if year < 0 then '-' else '+') :: Decimal.padded 4 year.natAbs

/-- Hours, minutes and seconds as two digits each. -/
def clockText (moment : DateTime) : Text :=
  let second := if moment.isLeap then moment.second + 1 else moment.second
  Text.join [':'] ([moment.hour, moment.minute, second].map (Decimal.padded 2))

/-- Year, month and day joined by dashes. -/
def dashedDate (moment : DateTime) : Text :=
  let date := moment.date
  Text.join ['-'] [yearText date.year, Decimal.padded 2 date.month, Decimal.padded 2 date.day]

/-- The text of a moment as a value: month, day and year, then the clock. -/
def text (moment : DateTime) : Text :=
  let date := moment.date
  Text.join ['/'] [Decimal.padded 2 date.month, Decimal.padded 2 date.day, yearText date.year] ++
    ' ' :: moment.clockText

/-- The text of a moment as a file time, down to a tenth of a microsecond. -/
def fileTimeText (moment : DateTime) : Text :=
  moment.dashedDate ++ ' ' :: moment.clockText ++ '.' :: Decimal.padded 7 (moment.fraction / 100)

/-- The text of a moment with all nine digits of its fraction. -/
def stamp (moment : DateTime) : Text :=
  moment.dashedDate ++ 'T' :: moment.clockText ++ '.' :: Decimal.padded 9 moment.fraction

/-- The nanoseconds that the digits of a fraction stand for. -/
def fractionValue (digits : Text) : Nat :=
  Decimal.digitsValue ((digits ++ List.replicate 9 '0').take 9)

/-- Read year, month and day joined by dashes, the year with an optional sign. -/
def readDate? (text : Text) : Option CivilDate :=
  let (negative, unsigned) : Bool × Text :=
    match text with
    | '-' :: rest => (true, rest)
    | '+' :: rest => (false, rest)
    | rest => (false, rest)
  match Text.splitAtChars (· == '-') unsigned with
  | [year, month, day] => do
      let year ← Decimal.readDigits? year
      let month ← Decimal.readDigits? month
      let day ← Decimal.readDigits? day
      some { year := if negative then -(year : Int) else year, month, day }
  | _ => none

/-- Read hours, minutes and seconds with an optional fraction as a moment of a day. -/
def readClock? (day : Int) (text : Text) : Option DateTime :=
  match Text.splitAtChars (· == ':') text with
  | [hour, minute, second] => do
      let (second, fraction) := (Text.breakAt? (· == '.') second).getD (second, [])
      let hour ← Decimal.readDigits? hour
      let minute ← Decimal.readDigits? minute
      let second ← Decimal.readDigits? second
      let isLeap := second == 60
      let seconds := (hour * 60 + minute) * 60 + if isLeap then 59 else second
      some { day, nanosecond := seconds * nanosPerSecond + fractionValue fraction, isLeap }
  | _ => none

/-- Read a moment as `stamp` writes it; the fraction may be shorter or absent. -/
def read? (text : Text) : Option DateTime := do
  let (date, clock) ← Text.breakAt? (· == 'T') text
  let date ← readDate? date
  readClock? date.toDay clock

end DateTime

end RefExpand
