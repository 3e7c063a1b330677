import AwsCredentials.Time.Duration

/-!
# Points in time

A point in time is a number of nanoseconds since the first instant of 1970, before it when
negative. `Instant.date` gives its day in the Gregorian calendar, `Instant.timestamp?` its RFC 3339
text, cut to microseconds and defined for the years 1 to 9999, and `Instant.ofTimestamp?` reads
such a text back.
-/

namespace AwsCredentials

/-- A point in time. -/
structure Instant where
  nanos : Int
  deriving DecidableEq, Repr, Inhabited

/-- A day of the Gregorian calendar. -/
structure Date where
  year : Int
  month : Nat
  day : Nat
  deriving DecidableEq, Repr

namespace Date

/-- Days from 1 March of year 0 to the first day of a month, counted from March. -/
private def daysBefore (monthFromMarch : Nat) : Nat :=
  (153 * monthFromMarch + 2) / 5

/-- The day that lies `n` days after 1 January 1970. Years begin in March here, so that a leap day
is the last of its year, and repeat after 400 years of 146097 days. -/
def ofDays (n : Int) : Date :=
  let fromMarch := n + 719468
  let era := fromMarch / 146097
  let dayOfEra := (fromMarch % 146097).toNat
  let yearOfEra := (dayOfEra - dayOfEra / 1460 + dayOfEra / 36524 - dayOfEra / 146096) / 365
  let dayOfYear := dayOfEra - (365 * yearOfEra + yearOfEra / 4 - yearOfEra / 100)
  let month := (5 * dayOfYear + 2) / 153
  let year := era * 400 + yearOfEra
  ⟨if month < 10 then year else year + 1, if month < 10 then month + 3 else month - 9,
    dayOfYear - daysBefore month + 1⟩

/-- The number of days from 1 January 1970 to a day. -/
def days (d : Date) : Int :=
  let year := if d.month ≤ 2 then d.year - 1 else d.year
  let era := year / 400
  let yearOfEra := (year % 400).toNat
  let month := if d.month ≤ 2 then d.month + 9 else d.month - 3
  let dayOfEra := 365 * yearOfEra + yearOfEra / 4 - yearOfEra / 100 + daysBefore month + d.day - 1
  era * 146097 + dayOfEra - 719468

/-- Whether the year has a 29 February. -/
def leap (year : Int) : Bool :=
  year % 4 = 0 && (year % 100 ≠ 0 || year % 400 = 0)

/-- The number of days of a month. -/
def monthLength (year : Int) (month : Nat) : Nat :=
  if month = 2 then (if leap year then 29 else 28)
  else if month = 4 ∨ month = 6 ∨ month = 9 ∨ month = 11 then 30 else 31

end Date

namespace Instant

/-- The whole seconds since 1970, rounded down. -/
def seconds (t : Instant) : Int := t.nanos / 1000000000

/-- The nanoseconds beyond the whole seconds. -/
def subsecond (t : Instant) : Nat := (t.nanos % 1000000000).toNat

/-- The point `nanos` nanoseconds after the given second. -/
def ofSeconds (seconds : Int) (nanos : Nat) : Instant := ⟨seconds * 1000000000 + nanos⟩

def ofMillis (millis : Int) : Instant := ⟨millis * 1000000⟩

/-- The whole milliseconds since 1970, none for an earlier point. -/
def millis (t : Instant) : Nat := t.nanos.toNat / 1000000

/-- The point a duration later. -/
def add (t : Instant) (d : Duration) : Instant := ⟨t.nanos + d.nanos⟩

instance : LE Instant := ⟨fun a b => a.nanos ≤ b.nanos⟩
instance (a b : Instant) : Decidable (a ≤ b) := inferInstanceAs (Decidable (a.nanos ≤ b.nanos))

/-- The day of a point in time. -/
def date (t : Instant) : Date := Date.ofDays (t.seconds / 86400)

/-- The second of the day. -/
def secondOfDay (t : Instant) : Nat := (t.seconds % 86400).toNat

/-- Why a point in time has no RFC 3339 text: its year is not one of 1 to 9999, or not even one of
-9999 to 9999. -/
inductive TimestampError where
  | yearOutOfRange
  | instantOutOfRange
  deriving DecidableEq, Repr

/-- The RFC 3339 text of a point in time, in UTC and cut to microseconds. -/
def timestamp? (t : Instant) : Except TimestampError String :=
  let date := t.date
  if date.year < -9999 ∨ 9999 < date.year then .error .instantOutOfRange
  else if date.year < 1 then .error .yearOutOfRange
  else
    let s := t.secondOfDay
    let micros := t.subsecond / 1000
    let day := Text.padded 4 date.year.toNat ++ "-" ++ Text.padded 2 date.month ++ "-"
      ++ Text.padded 2 date.day
    let time := Text.padded 2 (s / 3600) ++ ":" ++ Text.padded 2 (s / 60 % 60) ++ ":"
      ++ Text.padded 2 (s % 60)
    let part := if micros = 0 then "" else "." ++ Text.fraction 6 micros
    .ok (day ++ "T" ++ time ++ part ++ "Z")

/-- What is said of a point in time without RFC 3339 text. -/
def TimestampError.message (e : TimestampError) : String :=
  "date-time cannot be formatted since it is out of range: RFC-3339 timestamps support dates "
    ++ "between 0001-01-01T00:00:00.000Z and 9999-12-31T23:59:59.999Z. "
    ++ match e with
      | .yearOutOfRange => ""
      | .instantOutOfRange => "timestamp was not in range"

/-- The RFC 3339 text, or the seconds since 1970 where there is none. -/
def text (t : Instant) : String :=
  match t.timestamp? with
  | .ok s => s
  | .error _ =>
    if t.subsecond = 0 then toString t.seconds
    else toString t.seconds ++ "." ++ Text.fraction 9 t.subsecond

/-- Exactly `n` digits and what follows them. -/
private def takeDigits? (n : Nat) (cs : List Char) : Option (Nat × List Char) :=
  let digits := cs.take n
  if digits.length = n ∧ digits.all Char.isDigit then
    some (Text.digitsValue digits, cs.drop n)
  else none

/-- The given character in either case and what follows it. -/
private def takeChar? (c : Char) : List Char → Option (List Char)
  | d :: cs => if d.toUpper = c then some cs else none
  | [] => none

/-- The nanoseconds that an optional decimal fraction of a second stands for. -/
private def takeFraction? : List Char → Option (Nat × List Char)
  | '.' :: cs =>
    let digits := cs.takeWhile Char.isDigit
    let kept := digits.take 9
    if digits.isEmpty then none
    else some (Text.digitsValue kept * Nat.pow 10 (9 - kept.length), cs.dropWhile Char.isDigit)
  | cs => some (0, cs)

/-- The offset from UTC in seconds. -/
private def takeOffset? (cs : List Char) : Option (Int × List Char) :=
  match takeChar? 'Z' cs with
  | some rest => some (0, rest)
  | none => do
    let (sign, cs) ← match cs with
      | '+' :: cs => some ((1 : Int), cs)
      | '-' :: cs => some (-1, cs)
      | _ => none
    let (hours, cs) ← takeDigits? 2 cs
    let cs ← takeChar? ':' cs
    let (minutes, cs) ← takeDigits? 2 cs
    if hours ≤ 23 ∧ minutes ≤ 59 then some (sign * (hours * 3600 + minutes * 60), cs) else none

/-- Whether a second is the last of a month. -/
private def endsMonth (second : Int) : Bool :=
  let date := Date.ofDays (second / 86400)
  second % 86400 = 86399 && date.day = Date.monthLength date.year date.month

/-- Reads an RFC 3339 text. A leap second counts as the last moment of the second before it, and
stands only at the end of a month in UTC. -/
def ofTimestamp? (s : String) : Option Instant := do
  let cs := s.toList
  let (year, cs) ← takeDigits? 4 cs
  let cs ← takeChar? '-' cs
  let (month, cs) ← takeDigits? 2 cs
  let cs ← takeChar? '-' cs
  let (day, cs) ← takeDigits? 2 cs
  let cs ← takeChar? 'T' cs
  let (hour, cs) ← takeDigits? 2 cs
  let cs ← takeChar? ':' cs
  let (minute, cs) ← takeDigits? 2 cs
  let cs ← takeChar? ':' cs
  let (second, cs) ← takeDigits? 2 cs
  let (nanos, cs) ← takeFraction? cs
  let (offset, cs) ← takeOffset? cs
  if !cs.isEmpty || month = 0 || 12 < month || day = 0 || Date.monthLength year month < day
      || 23 < hour || 59 < minute || 60 < second then none
  else
    let leap := second = 60
    let dayStart := (Date.mk year month day).days * 86400
    let whole : Int := dayStart + hour * 3600 + minute * 60 + (if leap then 59 else second) - offset
    if leap && !endsMonth whole then none
    else some (ofSeconds whole (if leap then 999999999 else nanos))

end Instant

end AwsCredentials
