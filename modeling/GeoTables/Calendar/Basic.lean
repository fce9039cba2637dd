import GeoTables.Text.Numeral

/-!
# Dates and times of day

Dates are those of the proleptic Gregorian calendar between two fixed years,
times of day have nanoseconds and no zone.  A minute may end in a leap second,
which is its second number 60 and comes after all others of the minute.

All three types are ordered by their components from the greatest to the
least, and each value has one written form.  A fraction of a second is written
with three, six or nine digits, as many as it needs, and left out when zero; a
year outside `0 … 9999` is written with its sign.
-/

namespace GeoTables

namespace Date

/-- The first year of the calendar. -/
def firstYear : Int := -262143

/-- The last year of the calendar. -/
def lastYear : Int := 262142

/-- A year with a 29th of February. -/
def isLeapYear (year : Int) : Bool :=
  year % 4 == 0 && (year % 100 != 0 || year % 400 == 0)

/-- The number of days of a month, zero for a number that is no month. -/
def daysIn (year : Int) (month : Nat) : Nat :=
  match month with
  | 2 => if isLeapYear year then 29 else 28
  | 4 | 6 | 9 | 11 => 30
  | 1 | 3 | 5 | 7 | 8 | 10 | 12 => 31
  | _ => 0

/-- A year, month and day that name a day of the calendar. -/
def Exists (year : Int) (month day : Nat) : Prop :=
  firstYear ≤ year ∧ year ≤ lastYear ∧ 1 ≤ day ∧ day ≤ daysIn year month

instance (year : Int) (month day : Nat) : Decidable (Exists year month day) :=
  inferInstanceAs (Decidable (_ ∧ _))

end Date

/-- A day of the calendar. -/
structure Date where
  year : Int
  month : Nat
  day : Nat
  inCalendar : Date.Exists year month day
  deriving DecidableEq

/-- A time of day; second number 60 is a leap second. -/
structure TimeOfDay where
  hour : Fin 24
  minute : Fin 60
  second : Fin 61
  nanosecond : Fin 1000000000
  deriving DecidableEq, Repr

/-- A date with a time of day. -/
structure DateTime where
  date : Date
  time : TimeOfDay
  deriving DecidableEq

namespace Date

/-- The date of a year, month and day, if there is one. -/
def ofParts? (year : Int) (month day : Nat) : Option Date :=
  if inCalendar : Exists year month day then
    some ⟨year, month, day, inCalendar⟩
  else
    none

/-- The order of two dates. -/
def compare (left right : Date) : Ordering :=
  (Ord.compare left.year right.year).then <|
    (Ord.compare left.month right.month).then (Ord.compare left.day right.day)

/-- The day after. -/
def next? (date : Date) : Option Date :=
  ofParts? date.year date.month (date.day + 1)
    <|> ofParts? date.year (date.month + 1) 1
    <|> ofParts? (date.year + 1) 1 1

/-- The day before. -/
def previous? (date : Date) : Option Date :=
  ofParts? date.year date.month (date.day - 1)
    <|> ofParts? date.year (date.month - 1) (daysIn date.year (date.month - 1))
    <|> ofParts? (date.year - 1) 12 31

/-- A year as written: four digits, or a sign and at least four. -/
def yearText : Int → List Char
  | .ofNat year =>
      let digits := Text.paddedDigits 4 year
      if year ≤ 9999 then digits else '+' :: digits
  | .negSucc year => '-' :: Text.paddedDigits 4 (year + 1)

/-- The written form `YYYY-MM-DD`. -/
def text (date : Date) : List Char :=
  yearText date.year ++ '-' :: Text.paddedDigits 2 date.month
    ++ '-' :: Text.paddedDigits 2 date.day

end Date

namespace TimeOfDay

/-- The first moment of a day. -/
def midnight : TimeOfDay := ⟨0, 0, 0, 0⟩

/-- The time of day with the given components. -/
def ofNumbers (hour minute second nanosecond : Nat) : TimeOfDay :=
  ⟨Fin.ofNat 24 hour, Fin.ofNat 60 minute, Fin.ofNat 61 second,
    Fin.ofNat 1000000000 nanosecond⟩

/-- The order of two times of day. -/
def compare (left right : TimeOfDay) : Ordering :=
  (Ord.compare left.hour.val right.hour.val).then <|
    (Ord.compare left.minute.val right.minute.val).then <|
      (Ord.compare left.second.val right.second.val).then
        (Ord.compare left.nanosecond.val right.nanosecond.val)

/-- A fraction of a second with its point, in as many groups of three as it needs. -/
def fractionText (nanosecond : Nat) : List Char :=
  if nanosecond = 0 then
    []
  else if nanosecond % 1000000 = 0 then
    '.' :: Text.paddedDigits 3 (nanosecond / 1000000)
  else if nanosecond % 1000 = 0 then
    '.' :: Text.paddedDigits 6 (nanosecond / 1000)
  else
    '.' :: Text.paddedDigits 9 nanosecond

/-- The written form `HH:MM:SS` with the fraction, if any. -/
def text (time : TimeOfDay) : List Char :=
  Text.paddedDigits 2 time.hour.val ++ ':' :: Text.paddedDigits 2 time.minute.val
    ++ ':' :: Text.paddedDigits 2 time.second.val
    ++ fractionText time.nanosecond.val

end TimeOfDay

namespace DateTime

/-- The order of two moments. -/
def compare (left right : DateTime) : Ordering :=
  (Date.compare left.date right.date).then
    (TimeOfDay.compare left.time right.time)

/-- The first moment of a date. -/
def ofDate (date : Date) : DateTime := ⟨date, .midnight⟩

/-- The written form, the time after the letter `T`. -/
def text (moment : DateTime) : List Char :=
  moment.date.text ++ 'T' :: moment.time.text

/--
The moment a number of minutes earlier, at most a day.  Seconds stay as they
are, a leap second included.
-/
def minutesEarlier? (moment : DateTime) (minutes : Int) : Option DateTime := do
  let time := moment.time
  let total := (time.hour.val : Int) * 60 + time.minute.val - minutes
  let date ←
    if total < 0 then
      moment.date.previous?
    else if total ≥ 1440 then
      moment.date.next?
    else
      some moment.date
  let minuteOfDay := (total % 1440).toNat
  return ⟨date, {
    time with
    hour := Fin.ofNat 24 (minuteOfDay / 60)
    minute := Fin.ofNat 60 (minuteOfDay % 60) }⟩

end DateTime

end GeoTables
