import GeoTables.Calendar.Basic
import GeoTables.Text.Blank

/-!
# Reading dates and times

Texts are read field by field from the left.  Blanks may stand before a
number, digits are counted against the width of the field, and each field is
checked against its own range as soon as it is read; that the day exists in
its month is checked at the end.  When several forms are tried for one text,
the failure reported is that of the last of them.
-/

namespace GeoTables.Calendar

-- Powers are those of the core library.
attribute [local instance (high)] instPowNat

/-- Why a text is not a date or time. -/
inductive Fault where
  | premature
  | invalid
  | outOfRange
  | trailing
  deriving DecidableEq, Repr

/-- The wording of a fault. -/
def Fault.message : Fault → String
  | .premature => "premature end of input"
  | .invalid => "input contains invalid characters"
  | .outOfRange => "input is out of range"
  | .trailing => "trailing input"

/-- A step that takes a prefix of the text that is left. -/
abbrev Reader := StateT (List Char) (Except Fault)

/-- One given character. -/
def literal (expected : Char) : Reader Unit := do
  match ← get with
  | [] => throw .premature
  | character :: rest =>
      if character = expected then set rest else throw .invalid

/-- Any run of blanks, the empty one too. -/
def blanks : Reader Unit :=
  modify Text.trimLeft

/-- At least one digit and at most `width` of them. -/
def digits (width : Nat) : Reader (List Char) := do
  let text ← get
  let found := (text.take width).takeWhile Char.isDigit
  match text, found with
  | [], _ => throw .premature
  | _, [] => throw .invalid
  | _, _ =>
      set (text.drop found.length)
      return found

/-- A number of at most `width` digits after blanks, between two bounds. -/
def field (width low high : Nat) : Reader Nat := do
  blanks
  let value := Text.digitsValue 0 (← digits width)
  if low ≤ value ∧ value ≤ high then return value else throw .outOfRange

/-- A year: up to four digits, or a sign and any number of digits. -/
def year : Reader Int := do
  blanks
  let text ← get
  let value : Int ←
    match text with
    | '-' :: rest => do
        set rest
        pure (-(Text.digitsValue 0 (← digits rest.length) : Int))
    | '+' :: rest => do
        set rest
        pure (Text.digitsValue 0 (← digits rest.length) : Int)
    | _ => pure (Text.digitsValue 0 (← digits 4) : Int)
  if -(2 ^ (31 : Nat) : Int) ≤ value ∧ value < (2 ^ (31 : Nat) : Int) then
    return value
  else
    throw .outOfRange

/-- A year, month and day, not yet known to be in the calendar. -/
def yearMonthDay : Reader (Int × Nat × Nat) := do
  let yearValue ← year
  literal '-'
  let month ← field 2 1 12
  literal '-'
  let day ← field 2 1 31
  return (yearValue, month, day)

/-- The nanoseconds of a fraction of a second; digits after the ninth are skipped. -/
def fraction : Reader Nat := do
  match ← get with
  | '.' :: rest =>
      set rest
      let found ← digits 9
      modify fun text => text.dropWhile Char.isDigit
      return Text.digitsValue 0 found * 10 ^ (9 - found.length)
  | _ => return 0

/-- Hours and minutes. -/
def hourMinute : Reader (Nat × Nat) := do
  let hour ← field 2 0 23
  literal ':'
  let minute ← field 2 0 59
  return (hour, minute)

/-- A time of day with seconds and an optional fraction. -/
def fullTime : Reader TimeOfDay := do
  let (hour, minute) ← hourMinute
  literal ':'
  let second ← field 2 0 60
  let nanosecond ← fraction
  return TimeOfDay.ofNumbers hour minute second nanosecond

/-- Two digits that are given by position; a single ASCII character is too short. -/
def twoDigits (greatestTens : Char) : Reader Nat := do
  match ← get with
  | tens :: ones :: rest =>
      if tens.isDigit && ones.isDigit then
        if tens ≤ greatestTens then
          set rest
          return Text.digitsValue 0 [tens, ones]
        else
          throw .outOfRange
      else
        throw .invalid
  | [character] => throw (if character.toNat < 128 then .premature else .invalid)
  | [] => throw .premature

/-- An offset from universal time in minutes: `Z`, or a sign with `hh:mm`. -/
def offset : Reader Int := do
  match ← get with
  | [] => throw .premature
  | sign :: rest =>
      set rest
      if sign = 'Z' || sign = 'z' then
        return 0
      else if sign = '+' || sign = '-' || sign = '\u2212' then
        let hours ← twoDigits '9'
        literal ':'
        let minutes ← twoDigits '5'
        let total : Int := hours * 60 + minutes
        return if sign = '+' then total else -total
      else
        throw .invalid

/-- Read a whole text with a reader. -/
def all {α : Type} (reader : Reader α) (text : List Char) : Except Fault α :=
  match reader.run text with
  | .ok (value, []) => .ok value
  | .ok (_, _ :: _) => .error .trailing
  | .error fault => .error fault

/-- A date that must be in the calendar. -/
def checkedDate : Int × Nat × Nat → Except Fault Date
  | (yearValue, month, day) =>
      match Date.ofParts? yearValue month day with
      | some date => .ok date
      | none => .error .outOfRange

/-- The first of two results that is a value, else the second fault. -/
def orElse {α : Type} (first second : Except Fault α) : Except Fault α :=
  match first with
  | .ok value => .ok value
  | .error _ => second

/-- A date followed by a separator and a time of day. -/
def dateAndTime (separator : Reader Unit) (text : List Char) : Except Fault DateTime := do
  let reader : Reader ((Int × Nat × Nat) × TimeOfDay) := do
    let date ← yearMonthDay
    separator
    return (date, ← fullTime)
  let (date, time) ← all reader text
  return ⟨← checkedDate date, time⟩

/-- A character that satisfies a test. -/
def oneOf (accepted : Char → Bool) : Reader Char := do
  match ← get with
  | [] => throw .premature
  | character :: rest =>
      if accepted character then
        set rest
        return character
      else
        throw .invalid

/-- Exactly `count` digits. -/
def exactDigits (count : Nat) : Reader Nat := do
  let found ← (List.range count).mapM fun _ => oneOf Char.isDigit
  return Text.digitsValue 0 found

/-- The number of bytes of the fixed part of a date and time with offset. -/
def fixedPartSize : Nat := 19

/--
A date and time in which every component has its full width, followed by an
offset.  The text as a whole must be long enough for the fixed part before
anything else about it is reported.
-/
def offsetDateTime : Reader (DateTime × Int) := do
  if (String.ofList (← get)).utf8ByteSize < fixedPartSize then throw .premature
  let yearValue ← exactDigits 4
  let _ ← oneOf (· = '-')
  let month ← exactDigits 2
  let _ ← oneOf (· = '-')
  let day ← exactDigits 2
  let date ← checkedDate (yearValue, month, day)
  let _ ← oneOf fun character => character = 'T' || character = 't' || character = ' '
  let hour ← exactDigits 2
  let _ ← oneOf (· = ':')
  let minute ← exactDigits 2
  let _ ← oneOf (· = ':')
  let second ← exactDigits 2
  let nanosecond ← fraction
  if hour < 24 ∧ minute < 60 ∧ second ≤ 60 then
    return (⟨date, TimeOfDay.ofNumbers hour minute second nanosecond⟩, ← offset)
  else
    throw .outOfRange

/-- A date and time with an offset, as a moment of universal time. -/
def dateTimeWithOffset (text : List Char) : Except Fault DateTime := do
  let (moment, minutes) ← all offsetDateTime text
  if minutes.natAbs < 24 * 60 then
    match moment.minutesEarlier? minutes with
    | some earlier => return earlier
    | none => throw .outOfRange
  else
    throw .outOfRange

end GeoTables.Calendar

namespace GeoTables

open Calendar

/-- Read a date `YYYY-MM-DD` within blanks. -/
def Date.ofText (text : List Char) : Except Fault Date := do
  checkedDate (← all yearMonthDay (Text.trim text))

/-- Read a time of day `HH:MM`, with seconds and a fraction or without. -/
def TimeOfDay.ofText (text : List Char) : Except Fault TimeOfDay :=
  let trimmed := Text.trim text
  orElse (all fullTime trimmed) do
    let (hour, minute) ← all hourMinute trimmed
    return TimeOfDay.ofNumbers hour minute 0 0

/--
Read a date and time: with the letter `T` or blanks between them, or with an
offset from universal time, which is then taken off.
-/
def DateTime.ofText (text : List Char) : Except Fault DateTime :=
  let trimmed := Text.trim text
  orElse (dateAndTime (literal 'T') trimmed) <|
    orElse (dateAndTime blanks trimmed) (dateTimeWithOffset trimmed)

end GeoTables
