import GeoTables.Proofs.Json.Scanning
import GeoTables.Proofs.Number.PlainText

/-!
# Spellings of numbers that are written

A spelling has digits without needless zeros in front of the point, and digits
wherever it announces some.  Such a spelling scans to its own parts.  Every
integer and every finite floating-point number is written by such a spelling;
an integer is spelled without point and exponent and a floating-point number
with at least one of them, so the reader tells the two apart.
-/

namespace GeoTables.Json

open Text (AllDigits)

namespace NumberText

/-- The digits after the point, if there are any, behind the point. -/
def fractionPart : Option (List Char) → List Char
  | none => []
  | some digits => '.' :: digits

/-- The sign and the digits of an exponent behind its letter. -/
def exponentPart : Option (Bool × List Char) → List Char
  | none => []
  | some (negative, digits) => 'e' :: (if negative then '-' else '+') :: digits

/-- The characters of a spelling. -/
def characters (text : NumberText) : List Char :=
  Binary64.signed text.negative
    (text.whole ++ (fractionPart text.fraction ++ exponentPart text.exponent))

/-- The spelling is one of a number. -/
structure Valid (text : NumberText) : Prop where
  whole : AllDigits text.whole
  whole_ne_nil : text.whole ≠ []
  canonical : text.whole.head? = some '0' → text.whole.length = 1
  fraction : ∀ digits ∈ text.fraction, AllDigits digits ∧ digits ≠ []
  exponent : ∀ part ∈ text.exponent, AllDigits part.2 ∧ part.2 ≠ []

/-- The parts of a spelling behind its sign, once its whole part is known. -/
def ofUnsigned? (negative : Bool) (whole afterWhole : List Char) : Option NumberText := do
  if whole.isEmpty || (whole.head? == some '0' && whole.length > 1) then none
  let (fraction, afterFraction) :=
    match afterWhole with
    | '.' :: rest =>
        (some (rest.takeWhile Char.isDigit), rest.dropWhile Char.isDigit)
    | rest => (none, rest)
  if fraction == some [] then none
  match afterFraction with
  | [] => return ⟨negative, whole, fraction, none⟩
  | letter :: rest =>
      if letter == 'e' || letter == 'E' then
        return ⟨negative, whole, fraction, some (← exponentOf? rest)⟩
      else
        none

/-- The sign of a spelling is read first. -/
theorem ofRun?_signed
    {first : Char}
    {rest : List Char}
    (digit : first.isDigit = true)
    (negative : Bool) :
    ofRun? (Binary64.signed negative (first :: rest)) =
      ofUnsigned? negative ((first :: rest).takeWhile Char.isDigit)
        ((first :: rest).dropWhile Char.isDigit) := by
  cases negative with
  | true => rfl
  | false =>
      have notMinus : first ≠ '-' := Text.ne_of_isDigit digit rfl
      rw [Binary64.signed, if_neg (by decide), ofRun?]
      · rfl
      · rintro others ⟨⟩
        exact notMinus rfl

namespace Valid

variable {text : NumberText}

theorem exponentOf?_eq
    {negative : Bool}
    {digits : List Char}
    (all : AllDigits digits)
    (nonempty : digits ≠ []) :
    exponentOf? ((if negative then '-' else '+') :: digits) = some (negative, digits) := by
  cases negative <;> simp [exponentOf?, nonempty, all.all_eq_true]

theorem stops_exponent (exponent : Option (Bool × List Char)) :
    ∀ next ∈ (exponentPart exponent).head?, next.isDigit = false := by
  intro next isNext
  cases exponent with
  | none => cases isNext
  | some part =>
      cases isNext
      rfl

/-- What stands behind the digits of the whole part is no digit. -/
theorem stops_whole
    (fraction : Option (List Char))
    (exponent : Option (Bool × List Char)) :
    ∀ next ∈ (fractionPart fraction ++ exponentPart exponent).head?,
      next.isDigit = false := by
  cases fraction with
  | none => exact stops_exponent exponent
  | some digits =>
      intro next isNext
      cases isNext
      rfl

/-- The parts behind the whole part are read as they are. -/
theorem ofUnsigned?_parts (valid : text.Valid) :
    ofUnsigned? text.negative text.whole
        (fractionPart text.fraction ++ exponentPart text.exponent) =
      some text := by
  obtain ⟨negative, whole, fraction, exponent⟩ := text
  obtain ⟨_, nonempty, canonical, fractionValid, exponentValid⟩ := valid
  have leads : (whole.isEmpty || (whole.head? == some '0' && whole.length > 1)) = false := by
    have lone : whole.head? = some '0' → whole.length = 1 := canonical
    simp only [Bool.or_eq_false_iff, List.isEmpty_eq_false_iff, Bool.and_eq_false_iff,
      beq_eq_false_iff_ne, decide_eq_false_iff_not]
    refine ⟨nonempty, ?_⟩
    by_cases zero : whole.head? = some '0'
    · exact .inr (by rw [lone zero]; decide)
    · exact .inl zero
  have behind :
      (match fractionPart fraction ++ exponentPart exponent with
        | '.' :: rest =>
            (some (rest.takeWhile Char.isDigit), rest.dropWhile Char.isDigit)
        | rest => (none, rest)) = (fraction, exponentPart exponent) := by
    cases fraction with
    | none =>
        cases exponent <;> rfl
    | some digits =>
        have all : AllDigits digits := (fractionValid digits rfl).1
        simp only [fractionPart, List.cons_append]
        rw [all.takeWhile_append (stops_exponent exponent),
          all.dropWhile_append (stops_exponent exponent)]
  have some : (fraction == Option.some []) = false := by
    cases fraction with
    | none => rfl
    | some digits => simpa using (fractionValid digits rfl).2
  simp only [ofUnsigned?, leads, behind, some]
  cases exponent with
  | none => rfl
  | some part =>
      obtain ⟨all, present⟩ := exponentValid part rfl
      simp [exponentPart, exponentOf?_eq all present]

/-- The characters of a spelling are read as its parts. -/
theorem ofRun?_characters (valid : text.Valid) : ofRun? text.characters = some text := by
  obtain ⟨first, rest, isWhole⟩ := List.exists_cons_of_ne_nil valid.whole_ne_nil
  have digit : first.isDigit = true := valid.whole first (by simp [isWhole])
  have takes := valid.whole.takeWhile_append (stops_whole text.fraction text.exponent)
  have drops := valid.whole.dropWhile_append (stops_whole text.fraction text.exponent)
  have parts := ofUnsigned?_parts valid
  rw [characters]
  rw [isWhole] at takes drops parts ⊢
  rw [List.cons_append] at takes drops ⊢
  rw [ofRun?_signed digit, takes, drops, parts]

theorem continues_of_allDigits
    {digits : List Char}
    (all : AllDigits digits) :
    ∀ digit ∈ digits, Scan.continuesNumber digit = true := by
  intro digit member
  simp [Scan.continuesNumber, all digit member]

/-- All characters of a spelling belong to one number. -/
theorem continues_parts (valid : text.Valid) :
    ∀ character ∈ text.whole ++ (fractionPart text.fraction ++ exponentPart text.exponent),
      Scan.continuesNumber character = true := by
  intro character member
  rcases List.mem_append.mp member with inWhole | behind
  · exact continues_of_allDigits valid.whole character inWhole
  · rcases List.mem_append.mp behind with inFraction | inExponent
    · cases hasFraction : text.fraction with
      | none =>
          rw [hasFraction] at inFraction
          cases inFraction
      | some digits =>
          rw [hasFraction] at inFraction
          rcases List.mem_cons.mp inFraction with rfl | isDigit
          · rfl
          · exact continues_of_allDigits (valid.fraction digits hasFraction).1 character isDigit
    · cases hasExponent : text.exponent with
      | none =>
          rw [hasExponent] at inExponent
          cases inExponent
      | some part =>
          obtain ⟨negative, digits⟩ := part
          rw [hasExponent] at inExponent
          rcases List.mem_cons.mp inExponent with rfl | inDigits
          · rfl
          · rcases List.mem_cons.mp inDigits with rfl | isDigit
            · cases negative <;> rfl
            · exact continues_of_allDigits (valid.exponent _ hasExponent).1 character isDigit

/-- A spelling scans to its parts. -/
theorem scans (valid : text.Valid) : Scans text.characters [.number text] := by
  have read := valid.ofRun?_characters
  have continues := valid.continues_parts
  obtain ⟨first, rest, isWhole⟩ := List.exists_cons_of_ne_nil valid.whole_ne_nil
  have digit : first.isDigit = true := valid.whole first (by simp [isWhole])
  unfold characters at read ⊢
  rw [isWhole, List.cons_append] at read continues ⊢
  cases negative : text.negative with
  | true =>
      rw [negative] at read
      exact Scans.of_number (.inr rfl) continues read
  | false =>
      rw [negative] at read
      refine Scans.of_number (.inl digit) ?_ read
      intro character member
      exact continues character (List.mem_cons_of_mem first member)

end Valid

end NumberText

/-! ## Spellings of numbers -/

namespace Number

/-- Digits in positional form, always with a point. -/
def positionalText (negative : Bool) (digits : DecimalDigits) : NumberText where
  negative := negative
  whole := digits.positional.1
  fraction := some (if digits.positional.2.isEmpty then ['0'] else digits.positional.2)
  exponent := none

/-- Digits with a point after the first and an exponent. -/
def scientificText (negative : Bool) (digits : DecimalDigits) : NumberText where
  negative := negative
  whole := digits.figures.take 1
  fraction := if digits.figures.length ≤ 1 then none else some (digits.figures.drop 1)
  exponent :=
    some (digits.leadingExponent < 0, Text.natDigits digits.leadingExponent.natAbs)

/-- The spelling of a magnitude. -/
def magnitudeText (negative : Bool) (rank : Nat) : NumberText :=
  if rank = 0 then
    ⟨negative, ['0'], some ['0'], none⟩
  else if isPositional (Binary64.shortest rank).leadingExponent then
    positionalText negative (Binary64.shortest rank)
  else
    scientificText negative (Binary64.shortest rank)

/-- The spelling of a number; one that is not finite has none of its own. -/
def spelling : Number → NumberText
  | .integer value => ⟨value < 0, Text.natDigits value.natAbs, none, none⟩
  | .float .nan => magnitudeText false 0
  | .float (.number negative rank) => magnitudeText negative rank.val

/-- The number is an integer or finite. -/
def IsWritable : Number → Prop
  | .integer _ => True
  | .float value => value.isFinite = true

/-- What a number is read back as. -/
def reread? (number : Number) : Option Number :=
  number.spelling.value?

theorem characters_positionalText
    (negative : Bool)
    (digits : DecimalDigits) :
    (positionalText negative digits).characters =
      Binary64.signed negative (pointed digits) := by
  rw [NumberText.characters, positionalText, pointed]
  congr 1
  rcases digits.positional with ⟨whole, _ | ⟨first, rest⟩⟩
  · rfl
  · simp [NumberText.fractionPart, NumberText.exponentPart]

theorem characters_scientificText
    (negative : Bool)
    (digits : DecimalDigits) :
    (scientificText negative digits).characters =
      Binary64.signed negative (scientific digits) := by
  rw [NumberText.characters, scientificText, scientific]
  congr 1
  have nonempty : digits.figures ≠ [] := Text.natDigits_ne_nil _
  match figures : digits.figures with
  | [] => exact absurd figures nonempty
  | [figure] => simp [NumberText.fractionPart, NumberText.exponentPart]
  | first :: second :: rest => simp [NumberText.fractionPart, NumberText.exponentPart]

/-- A number that can be written is written by its spelling. -/
theorem characters_spelling
    {number : Number}
    (writable : number.IsWritable) :
    number.spelling.characters = number.characters := by
  cases number with
  | integer value =>
      cases value with
      | ofNat magnitude => simp [spelling, NumberText.characters, Number.characters,
          Text.intDigits, Binary64.signed, NumberText.fractionPart, NumberText.exponentPart]
      | negSucc magnitude => simp [spelling, NumberText.characters, Number.characters,
          Text.intDigits, Binary64.signed, NumberText.fractionPart, NumberText.exponentPart]
  | float value =>
      cases value with
      | nan => cases writable
      | number negative rank =>
          have finite : rank.val ≠ Binary64.infiniteRank := by
            have bounded : rank.val < Binary64.infiniteRank := by
              simpa [IsWritable, Binary64.isFinite] using writable
            exact Nat.ne_of_lt bounded
          simp only [spelling, magnitudeText, Number.characters, floatText, if_neg finite]
          split_ifs
          · rfl
          · exact characters_positionalText negative _
          · exact characters_scientificText negative _

theorem valid_positionalText
    {digits : DecimalDigits}
    {rank : Nat}
    (rounds : digits.RoundsTo rank)
    (positive : 0 < rank)
    (negative : Bool) :
    (positionalText negative digits).Valid := by
  have form := rounds.positional positive
  constructor
  · exact form.wholeDigits
  · exact form.whole_ne_nil
  · exact form.canonical
  · intro fraction isFraction
    obtain rfl : _ = fraction := Option.some.inj isFraction
    split_ifs with none
    · simp
    · exact ⟨form.fractionDigits, by simpa using none⟩
  · rintro part ⟨⟩

theorem valid_scientificText
    {digits : DecimalDigits}
    (positive : 0 < digits.digits)
    (negative : Bool) :
    (scientificText negative digits).Valid := by
  have figures : AllDigits digits.figures := AllDigits.natDigits _
  have nonempty : digits.figures ≠ [] := Text.natDigits_ne_nil _
  have first : digits.figures.head? ≠ some '0' := Text.head?_natDigits positive
  constructor
  · exact figures.take 1
  · simpa [scientificText] using nonempty
  · intro leads
    simp only [scientificText, List.head?_take] at leads
    exact absurd leads first
  · intro fraction isFraction
    simp only [scientificText, Option.mem_def] at isFraction
    split_ifs at isFraction with lone
    cases isFraction
    refine ⟨figures.drop 1, ?_⟩
    rw [Ne, List.drop_eq_nil_iff]
    exact lone
  · rintro part ⟨⟩
    exact ⟨AllDigits.natDigits _, Text.natDigits_ne_nil _⟩

/-- Every number has a spelling that can be read. -/
theorem valid_spelling
    {number : Number}
    (writable : number.IsWritable) :
    number.spelling.Valid := by
  cases number with
  | integer value =>
      constructor
      · exact AllDigits.natDigits _
      · exact Text.natDigits_ne_nil _
      · intro leads
        rcases Nat.eq_zero_or_pos value.natAbs with zero | positive
        · simp only [spelling, zero]
          rfl
        · exact absurd leads (Text.head?_natDigits positive)
      · rintro digits ⟨⟩
      · rintro part ⟨⟩
  | float value =>
      cases value with
      | nan => cases writable
      | number negative rank =>
          have finite : rank.val < Binary64.infiniteRank := by
            simpa [IsWritable, Binary64.isFinite] using writable
          simp only [spelling, magnitudeText]
          split_ifs with zero
          · constructor <;> simp
          · have positive : 0 < rank.val := Nat.pos_of_ne_zero zero
            exact valid_positionalText (Binary64.roundsTo_shortest positive finite) positive _
          · have positive : 0 < rank.val := Nat.pos_of_ne_zero zero
            exact valid_scientificText
              ((Binary64.roundsTo_shortest positive finite).digits_pos positive) _

/-- A number scans to its spelling. -/
theorem scans
    {number : Number}
    (writable : number.IsWritable) :
    Scans number.characters [.number number.spelling] := by
  rw [← characters_spelling writable]
  exact (valid_spelling writable).scans

/-- An integer of 64 bits, signed or not, is read back as it was. -/
theorem reread?_integer
    {value : Int}
    (atLeast : -(2 ^ 63 : Int) ≤ value)
    (below : value < (2 ^ 64 : Int)) :
    reread? (.integer value) = some (.integer value) := by
  have magnitude : Text.digitsValue 0 (Text.natDigits value.natAbs) = value.natAbs :=
    Text.digitsValue_natDigits _
  by_cases negative : value < 0
  · have positive : 0 < value.natAbs := by omega
    have fits : value.natAbs ≤ 2 ^ 63 := by omega
    have back : -(value.natAbs : Int) = value := by omega
    simp only [reread?, spelling, NumberText.value?, magnitude, negative, positive, fits, back,
      decide_true, Option.isNone_none, Bool.and_self, if_true]
  · have fits : value.natAbs < unsignedBound := by
      unfold unsignedBound
      omega
    have back : (value.natAbs : Int) = value := by omega
    simp [reread?, spelling, NumberText.value?, magnitude, negative, fits, back]

/-- A floating-point number is spelled with a fraction or an exponent. -/
theorem isSome_of_spelling
    (value : Binary64) :
    ((Number.float value).spelling.fraction.isNone &&
      (Number.float value).spelling.exponent.isNone) = false := by
  cases value with
  | nan => rfl
  | number negative rank =>
      simp only [spelling, magnitudeText]
      split_ifs
      · rfl
      · rfl
      · simp [scientificText]

/-- A floating-point number is read back as one, if it is read back at all. -/
theorem reread?_float
    (value : Binary64) :
    reread? (.float value) = (Number.float value).spelling.float?.map .float := by
  rw [reread?, NumberText.value?, isSome_of_spelling]
  rfl

end Number

end GeoTables.Json
