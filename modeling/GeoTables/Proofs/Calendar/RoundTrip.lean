import GeoTables.Calendar.Reading
import GeoTables.Proofs.Text.Blank

/-!
# Dates and times that are written and read

A date, a time of day and a date with a time are read back from their texts as
they were, leap seconds and years of any sign included.  Each field is written
with at least its width and read up to its width, and the separator after it is
no digit.
-/

namespace GeoTables.Calendar

open Text (AllDigits)

/-- The reader takes a value from the front of a text and leaves the rest. -/
def Takes {α : Type} (reader : Reader α) (text : List Char) (value : α) (rest : List Char) :
    Prop :=
  reader.run text = .ok (value, rest)

namespace Takes

variable {α β : Type} {text middle rest : List Char}

theorem pure (value : α) : Takes (Pure.pure value) text value text := rfl

theorem bind
    {first : Reader α}
    {next : α → Reader β}
    {value : α}
    {result : β}
    (taken : Takes first text value middle)
    (further : Takes (next value) middle result rest) :
    Takes (first >>= next) text result rest := by
  unfold Takes at *
  rw [StateT.run_bind, taken]
  exact further

theorem all_eq_ok
    {reader : Reader α}
    {value : α}
    (taken : Takes reader text value []) :
    all reader text = .ok value := by
  unfold Takes at taken
  rw [all, taken]

end Takes

theorem takes_get {text : List Char} : Takes get text text text := rfl

theorem takes_set {text rest : List Char} : Takes (set rest) text () rest := rfl

/-! ## Fields -/

theorem takes_literal
    (expected : Char)
    (rest : List Char) :
    Takes (literal expected) (expected :: rest) () rest := by
  refine takes_get.bind ?_
  dsimp only
  rw [if_pos rfl]
  exact takes_set

/-- Blanks are skipped, and a digit is none. -/
theorem takes_blanks
    {text : List Char}
    (starts : ∀ first ∈ text.head?, Text.isBlank first = false) :
    Takes blanks text () text := by
  change Except.ok ((), Text.trimLeft text) = _
  rw [Text.trimLeft_eq_self starts]

/-- Digits are taken up to the width, or to a character that is no digit. -/
theorem takes_digits
    {width : Nat}
    {found rest : List Char}
    (all : AllDigits found)
    (nonempty : found ≠ [])
    (short : found.length ≤ width)
    (stops : found.length = width ∨ ∀ next ∈ rest.head?, next.isDigit = false) :
    Takes (digits width) (found ++ rest) found rest := by
  have taken : ((found ++ rest).take width).takeWhile Char.isDigit = found := by
    rw [List.take_append, List.take_of_length_le short]
    apply all.takeWhile_append
    rcases stops with full | stops
    · simp [full]
    · intro next isNext
      cases rest with
      | nil => simp at isNext
      | cons first others =>
          cases room : width - found.length with
          | zero => simp [room] at isNext
          | succ more =>
              rw [room] at isNext
              exact stops next isNext
  obtain ⟨first, others, rfl⟩ := List.exists_cons_of_ne_nil nonempty
  have left : (first :: (others ++ rest)).drop (first :: others).length = rest :=
    List.drop_left
  rw [List.cons_append] at taken ⊢
  refine takes_get.bind ?_
  simp only [taken, left]
  exact takes_set.bind (.pure _)

theorem head?_digits_visible
    {found rest : List Char}
    (all : AllDigits found)
    (nonempty : found ≠ []) :
    ∀ first ∈ (found ++ rest).head?, Text.isBlank first = false := by
  intro first isFirst
  rw [List.head?_append_of_ne_nil _ nonempty] at isFirst
  exact all.visible first (List.mem_of_head? isFirst)

/-- A number that fits its field is taken from its padded digits. -/
theorem takes_field
    {width low high value : Nat}
    {rest : List Char}
    (positive : 0 < width)
    (fits : value < 10 ^ width)
    (atLeast : low ≤ value)
    (atMost : value ≤ high) :
    Takes (field width low high) (Text.paddedDigits width value ++ rest) value rest := by
  have padded : AllDigits (Text.paddedDigits width value) := .paddedDigits width value
  have nonempty := Text.paddedDigits_ne_nil width value
  have length := Text.length_paddedDigits positive fits
  refine (takes_blanks (head?_digits_visible padded nonempty)).bind ?_
  refine (takes_digits padded nonempty (Nat.le_of_eq length) (.inl length)).bind ?_
  rw [Text.digitsValue_paddedDigits, if_pos ⟨atLeast, atMost⟩]
  exact .pure value

theorem digit_of_stop
    {stop : Char}
    {rest : List Char}
    (otherwise : stop.isDigit = false) :
    ∀ next ∈ (stop :: rest).head?, next.isDigit = false := by
  intro next isNext
  cases isNext
  exact otherwise

section

variable {number : Nat} {stop : Char} {rest : List Char}

/-- A year of four digits is taken from them. -/
theorem takes_plainYear
    (otherwise : stop.isDigit = false)
    (short : number ≤ 9999) :
    Takes year (Text.paddedDigits 4 number ++ stop :: rest) number (stop :: rest) := by
  have padded : AllDigits (Text.paddedDigits 4 number) := .paddedDigits 4 number
  have nonempty := Text.paddedDigits_ne_nil 4 number
  have length : (Text.paddedDigits 4 number).length = 4 :=
    Text.length_paddedDigits (by decide) (by omega)
  have stops : ∀ next ∈ (stop :: rest).head?, next.isDigit = false := digit_of_stop otherwise
  have taken := takes_digits padded nonempty (Nat.le_of_eq length) (.inr stops)
  refine (takes_blanks (head?_digits_visible padded nonempty)).bind ?_
  refine takes_get.bind ?_
  obtain ⟨first, others, isText⟩ := List.exists_cons_of_ne_nil nonempty
  have digit : first.isDigit = true := padded first (by simp [isText])
  have value : Text.digitsValue 0 (first :: others) = number := by
    rw [← isText, Text.digitsValue_paddedDigits]
  rw [isText] at taken ⊢
  -- The first character is a digit, so neither of the two signs.
  split
  · rename_i equal
    cases equal
    cases digit
  · rename_i equal
    cases equal
    cases digit
  · refine taken.bind (Takes.bind (.pure _) ?_)
    beta_reduce
    rw [value, if_pos (by omega)]
    exact .pure _

/-- A year with a sign is taken from its digits, however many. -/
theorem takes_signedYear
    {sign : Char}
    {value : Int}
    (isSign : (sign = '+' ∧ value = number) ∨ (sign = '-' ∧ value = -number))
    (otherwise : stop.isDigit = false)
    (atLeast : -(2 ^ 31 : Int) ≤ value)
    (below : value < (2 ^ 31 : Int)) :
    Takes year (sign :: (Text.paddedDigits 4 number ++ stop :: rest)) value (stop :: rest) := by
  have padded : AllDigits (Text.paddedDigits 4 number) := .paddedDigits 4 number
  have nonempty := Text.paddedDigits_ne_nil 4 number
  have stops : ∀ next ∈ (stop :: rest).head?, next.isDigit = false := digit_of_stop otherwise
  rcases isSign with ⟨rfl, rfl⟩ | ⟨rfl, rfl⟩
  all_goals
    refine (takes_blanks (by rintro first ⟨⟩; rfl)).bind ?_
    refine takes_get.bind (takes_set.bind ?_)
    refine (takes_digits padded nonempty (by simp) (.inr stops)).bind ?_
    refine Takes.bind (.pure _) ?_
    beta_reduce
    rw [Text.digitsValue_paddedDigits, if_pos ⟨atLeast, below⟩]
    exact .pure _

/-- A year within 32 bits is taken from its text, up to a character that is no digit. -/
theorem takes_year
    {value : Int}
    (otherwise : stop.isDigit = false)
    (atLeast : -(2 ^ 31 : Int) ≤ value)
    (below : value < (2 ^ 31 : Int)) :
    Takes year (Date.yearText value ++ stop :: rest) value (stop :: rest) := by
  cases value with
  | ofNat number =>
      by_cases short : number ≤ 9999
      · have text : Date.yearText (.ofNat number) = Text.paddedDigits 4 number :=
          if_pos short
        rw [text]
        exact takes_plainYear otherwise short
      · have text : Date.yearText (.ofNat number) = '+' :: Text.paddedDigits 4 number :=
          if_neg short
        rw [text]
        exact takes_signedYear (.inl ⟨rfl, rfl⟩) otherwise atLeast below
  | negSucc number =>
      exact takes_signedYear (.inr ⟨rfl, by omega⟩) otherwise atLeast below

end

/-! ## Dates -/

theorem visible_yearText (value : Int) : Text.Visible (Date.yearText value) := by
  cases value with
  | ofNat number =>
      have padded := (AllDigits.paddedDigits 4 number).visible
      by_cases short : number ≤ 9999
      · simpa [Date.yearText, short] using padded
      · simp only [Date.yearText, if_neg short, Text.Visible.cons]
        exact ⟨rfl, padded⟩
  | negSucc number =>
      exact Text.Visible.cons.mpr ⟨rfl, (AllDigits.paddedDigits 4 (number + 1)).visible⟩

theorem visible_dateText (date : Date) : Text.Visible date.text := by
  simp only [Date.text, List.append_assoc, List.cons_append, Text.Visible.append,
    Text.Visible.cons]
  exact ⟨visible_yearText date.year, rfl, (AllDigits.paddedDigits 2 date.month).visible, rfl,
    (AllDigits.paddedDigits 2 date.day).visible⟩

/-- The month and the day of a date are within the bounds of their fields. -/
theorem bounds_of_exists
    {year : Int}
    {month day : Nat}
    (inCalendar : Date.Exists year month day) :
    1 ≤ month ∧ month ≤ 12 ∧ 1 ≤ day ∧ day ≤ 31 := by
  obtain ⟨_, _, first, last⟩ := inCalendar
  unfold Date.daysIn at last
  split at last
  · split_ifs at last <;> omega
  all_goals omega

/-- The fields of a date are taken from its text. -/
theorem takes_yearMonthDay
    (date : Date)
    (rest : List Char) :
    Takes yearMonthDay (date.text ++ rest) (date.year, date.month, date.day) rest := by
  obtain ⟨firstMonth, lastMonth, firstDay, lastDay⟩ := bounds_of_exists date.inCalendar
  obtain ⟨firstYear, lastYear, _⟩ := date.inCalendar
  unfold Date.firstYear at firstYear
  unfold Date.lastYear at lastYear
  simp only [Date.text, List.append_assoc, List.cons_append]
  refine (takes_year rfl (by omega) (by omega)).bind ?_
  refine (takes_literal '-' _).bind ?_
  refine (takes_field (by decide) (by omega) firstMonth lastMonth).bind ?_
  refine (takes_literal '-' _).bind ?_
  refine (takes_field (by decide) (by omega) firstDay lastDay).bind ?_
  exact .pure _

theorem checkedDate_eq_ok (date : Date) :
    checkedDate (date.year, date.month, date.day) = .ok date := by
  rw [checkedDate, Date.ofParts?, dif_pos date.inCalendar]

/-- A date is read back from its text. -/
theorem ofText_dateText (date : Date) : Date.ofText date.text = .ok date := by
  have taken := (takes_yearMonthDay date []).all_eq_ok
  rw [List.append_nil] at taken
  rw [Date.ofText, (visible_dateText date).trim_eq, taken]
  exact checkedDate_eq_ok date

/-! ## Times of day -/

theorem visible_fractionText (nanosecond : Nat) :
    Text.Visible (TimeOfDay.fractionText nanosecond) := by
  unfold TimeOfDay.fractionText
  split_ifs
  · exact .nil
  · exact Text.Visible.cons.mpr ⟨rfl, (AllDigits.paddedDigits _ _).visible⟩
  · exact Text.Visible.cons.mpr ⟨rfl, (AllDigits.paddedDigits _ _).visible⟩
  · exact Text.Visible.cons.mpr ⟨rfl, (AllDigits.paddedDigits _ _).visible⟩

theorem visible_timeText (time : TimeOfDay) : Text.Visible time.text := by
  simp only [TimeOfDay.text, List.append_assoc, List.cons_append, Text.Visible.append,
    Text.Visible.cons]
  exact ⟨(AllDigits.paddedDigits _ _).visible, rfl, (AllDigits.paddedDigits _ _).visible, rfl,
    (AllDigits.paddedDigits _ _).visible, visible_fractionText _⟩

/-- Digits after a point count as the leading ones of nine. -/
theorem takes_groups
    {width value : Nat}
    (positive : 0 < width)
    (short : width ≤ 9)
    (fits : value < 10 ^ width) :
    Takes fraction ('.' :: Text.paddedDigits width value) (value * 10 ^ (9 - width)) [] := by
  have padded : AllDigits (Text.paddedDigits width value) := .paddedDigits width value
  have length : (Text.paddedDigits width value).length = width :=
    Text.length_paddedDigits positive fits
  have taken :
      Takes (digits 9) (Text.paddedDigits width value ++ [])
        (Text.paddedDigits width value) [] :=
    takes_digits padded (Text.paddedDigits_ne_nil width value) (by omega) (.inr (by simp))
  rw [List.append_nil] at taken
  refine takes_get.bind (takes_set.bind (taken.bind ?_))
  rw [Text.digitsValue_paddedDigits, length]
  rfl

/-- A fraction of a second is taken from its text. -/
theorem takes_fraction
    {nanosecond : Nat}
    (fits : nanosecond < 1000000000) :
    Takes fraction (TimeOfDay.fractionText nanosecond) nanosecond [] := by
  unfold TimeOfDay.fractionText
  split_ifs with zero millis micros
  · rw [zero]
    rfl
  · have taken :=
      takes_groups (show 0 < 3 by decide) (by decide)
        (show nanosecond / 1000000 < 10 ^ 3 by omega)
    have value : nanosecond / 1000000 * 10 ^ (9 - 3) = nanosecond := by omega
    rwa [value] at taken
  · have taken :=
      takes_groups (show 0 < 6 by decide) (by decide)
        (show nanosecond / 1000 < 10 ^ 6 by omega)
    have value : nanosecond / 1000 * 10 ^ (9 - 6) = nanosecond := by omega
    rwa [value] at taken
  · have taken :=
      takes_groups (show 0 < 9 by decide) (by decide) (show nanosecond < 10 ^ 9 by omega)
    have value : nanosecond * 10 ^ (9 - 9) = nanosecond := by omega
    rwa [value] at taken

theorem ofNumbers_val (time : TimeOfDay) :
    TimeOfDay.ofNumbers time.hour.val time.minute.val time.second.val time.nanosecond.val =
      time := by
  simp only [TimeOfDay.ofNumbers, Fin.ofNat_val_eq_self]

theorem takes_hourMinute
    {hour minute : Nat}
    {rest : List Char}
    (hours : hour < 24)
    (minutes : minute < 60) :
    Takes hourMinute (Text.paddedDigits 2 hour ++ ':' :: (Text.paddedDigits 2 minute ++ rest))
      (hour, minute) rest := by
  refine (takes_field (by decide) (by omega) (by omega) (by omega)).bind ?_
  refine (takes_literal ':' _).bind ?_
  refine (takes_field (by decide) (by omega) (by omega) (by omega)).bind ?_
  exact .pure _

/-- A time of day is taken from its text. -/
theorem takes_fullTime (time : TimeOfDay) : Takes fullTime time.text time [] := by
  have seconds := time.second.isLt
  simp only [TimeOfDay.text, List.append_assoc, List.cons_append]
  refine (takes_hourMinute time.hour.isLt time.minute.isLt).bind ?_
  refine (takes_literal ':' _).bind ?_
  refine (takes_field (by decide) (by omega) (by omega) (by omega)).bind ?_
  refine (takes_fraction time.nanosecond.isLt).bind ?_
  rw [ofNumbers_val]
  exact .pure time

/-- A time of day is read back from its text. -/
theorem ofText_timeText (time : TimeOfDay) : TimeOfDay.ofText time.text = .ok time := by
  rw [TimeOfDay.ofText, (visible_timeText time).trim_eq, (takes_fullTime time).all_eq_ok]
  rfl

/-! ## Dates with times -/

theorem visible_dateTimeText (moment : DateTime) : Text.Visible moment.text := by
  rw [DateTime.text, Text.Visible.append, Text.Visible.cons]
  exact ⟨visible_dateText moment.date, rfl, visible_timeText moment.time⟩

/-- A date with a time is read back from its text. -/
theorem ofText_dateTimeText (moment : DateTime) :
    DateTime.ofText moment.text = .ok moment := by
  have taken :
      Takes
        (do
          let date ← yearMonthDay
          literal 'T'
          return (date, ← fullTime))
        moment.text
        ((moment.date.year, moment.date.month, moment.date.day), moment.time) [] := by
    refine (takes_yearMonthDay moment.date _).bind ?_
    refine (takes_literal 'T' _).bind ?_
    exact (takes_fullTime moment.time).bind (.pure _)
  have read : dateAndTime (literal 'T') moment.text = .ok moment := by
    rw [dateAndTime]
    simp only [taken.all_eq_ok]
    change
      (do return (⟨← checkedDate (moment.date.year, moment.date.month, moment.date.day),
        moment.time⟩ : DateTime)) = _
    rw [checkedDate_eq_ok]
    rfl
  rw [DateTime.ofText, (visible_dateTimeText moment).trim_eq, read]
  rfl

end GeoTables.Calendar
