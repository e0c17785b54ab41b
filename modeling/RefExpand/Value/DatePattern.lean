import RefExpand.Value.DateTime

namespace RefExpand

/-!
# Patterns for dates and times

A pattern is a row of runs of one letter, each standing for a part of the
moment in a form that the length of the run chooses, between literal
characters. One-letter patterns stand for longer ones.
-/

namespace DatePattern

/-- The names of the months. -/
def monthNames : List Text :=
  ["January", "February", "March", "April", "May", "June", "July", "August", "September",
    "October", "November", "December"].map String.toList

/-- The names of the days of the week. -/
def dayNames : List Text :=
  ["Sunday", "Monday", "Tuesday", "Wednesday", "Thursday", "Friday", "Saturday"].map String.toList

/-- The pattern that a one-letter pattern stands for. -/
def standard? : Text → Option Text
  | ['d'] => some "MM/dd/yyyy"
  | ['D'] => some "dddd, dd MMMM yyyy"
  | ['f'] => some "dddd, dd MMMM yyyy HH:mm"
  | ['F'] => some "dddd, dd MMMM yyyy HH:mm:ss"
  | ['g'] => some "MM/dd/yyyy HH:mm"
  | ['G'] => some "MM/dd/yyyy HH:mm:ss"
  | ['M'] | ['m'] => some "MMMM dd"
  | ['o'] | ['O'] => some "yyyy'-'MM'-'dd'T'HH':'mm':'ss'.'fffffff"
  | ['R'] | ['r'] => some "ddd, dd MMM yyyy HH':'mm':'ss 'GMT'"
  | ['s'] => some "yyyy'-'MM'-'dd'T'HH':'mm':'ss"
  | ['t'] => some "HH:mm"
  | ['T'] => some "HH:mm:ss"
  | ['u'] => some "yyyy'-'MM'-'dd HH':'mm':'ss'Z'"
  | ['y'] | ['Y'] => some "yyyy MMMM"
  | _ => none

/-- The pattern a specification stands for; the empty one stands for date and clock. -/
def ofSpec (spec : Text) : Text :=
  if spec.isEmpty then "MM/dd/yyyy HH:mm:ss" else (standard? spec).getD spec

/-- An integer padded with zeros to a width that counts its sign. -/
def paddedInt (width : Nat) (n : Int) : Text :=
  if n < 0 then '-' :: Decimal.padded (width - 1) n.natAbs else Decimal.padded width n.natAbs

/-- A year in a run of so many letters: the last two digits, or at least so many digits. -/
def yearPart (run : Nat) (year : Int) : Text :=
  match run with
  | 1 => Decimal.ofInt (year.tmod 100)
  | 2 => paddedInt 2 (year.tmod 100)
  | width => paddedInt width year

/-- A number in a run: plain, or two digits. -/
def shortPart (run n : Nat) : Text :=
  if run = 1 then Decimal.ofNat n else Decimal.padded 2 n

/-- A named number in a run: plain, two digits, three letters of the name, the name. -/
def namedPart (run n : Nat) (name : Text) : Text :=
  match run with
  | 1 => Decimal.ofNat n
  | 2 => Decimal.padded 2 n
  | 3 => name.take 3
  | _ => name

/-- The first digits of the fraction; the short form drops its trailing zeros. -/
def fractionPart (run : Nat) (short : Bool) (fraction : Nat) : Text :=
  let digits := Decimal.padded run (fraction / Decimal.tenTo (9 - run))
  if short then (digits.reverse.dropWhile (· == '0')).reverse else digits

/-- The half of the day in one letter or two. -/
def halfDayPart (run hour : Nat) : Text :=
  match decide (run = 1), decide (hour < 12) with
  | true, true => "A"
  | true, false => "P"
  | false, true => "AM"
  | false, false => "PM"

/-- The hour on a clock of twelve hours. -/
def twelveHour (hour : Nat) : Nat :=
  if hour % 12 = 0 then 12 else hour % 12

/-- What a run of a letter stands for and how much of the run it takes, if the letter means anything. -/
def part? (moment : DateTime) (letter : Char) (run : Nat) : Option (Text × Nat) :=
  let date := moment.date
  match letter with
  | 'y' => some (yearPart run date.year, run)
  | 'M' => some (namedPart run date.month (monthNames.getD (date.month - 1) []), run)
  | 'd' => some (namedPart run date.day (dayNames.getD moment.weekday []), run)
  | 'H' => some (shortPart run moment.hour, min run 2)
  | 'h' => some (shortPart run (twelveHour moment.hour), min run 2)
  | 'm' => some (shortPart run moment.minute, min run 2)
  | 's' => some (shortPart run moment.second, min run 2)
  | 'f' => some (fractionPart (min run 7) false moment.fraction, min run 7)
  | 'F' => some (fractionPart (min run 7) true moment.fraction, min run 7)
  | 't' => some (halfDayPart run moment.hour, run)
  | _ => none

/-- Fill in a pattern. -/
def fill (moment : DateTime) (pattern : Text) : Text :=
  match pattern with
  | [] => []
  | c :: rest =>
      let run := 1 + (rest.takeWhile (· == c)).length
      match part? moment c run with
      | some (text, taken) => text ++ fill moment (rest.drop (taken - 1))
      | none =>
          if c == '\'' || c == '"' then
            rest.takeWhile (· != c) ++ fill moment ((rest.dropWhile (· != c)).drop 1)
          else if c == '\\' then
            rest.take 1 ++ fill moment (rest.drop 1)
          else if c == '%' then
            fill moment rest
          else
            c :: fill moment rest
termination_by pattern.length
decreasing_by
  all_goals simp only [List.length_drop, List.length_cons]
  all_goals try omega
  have := (List.dropWhile_suffix (· != c) (l := rest)).length_le
  omega

end DatePattern

/-- The text of a moment under a specification. -/
def DateTime.format (moment : DateTime) (spec : Text) : Text :=
  DatePattern.fill moment (DatePattern.ofSpec spec)

end RefExpand
