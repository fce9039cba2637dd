import GeoTables.Number.Reading
import GeoTables.Proofs.Number.Shortest

/-!
# Plain texts of floating-point numbers

A finite number is read back from its plain text as it was.  The text denotes
the decimal that the search for the shortest digits found, this decimal lies in
the rounding interval of the number, and the reader rounds to the nearest
number.
-/

namespace GeoTables

namespace Binary64

/-! ## Decimals within the range of the format -/

theorem unitsOfRank_mono
    {rank greater : Nat}
    (ordered : rank ≤ greater) :
    unitsOfRank rank ≤ unitsOfRank greater := by
  induction ordered with
  | refl => exact Nat.le_refl _
  | step _ induction => exact Nat.le_trans induction (Nat.le_of_lt (unitsOfRank_lt_succ _))

/-- The interval of a finite rank ends before twice the magnitude of infinity. -/
theorem high_le_of_finite
    {rank : Nat}
    (finite : rank < infiniteRank) :
    (intervalOfRank rank).high ≤ 2 * unitsOfRank infiniteRank := by
  have own : unitsOfRank rank ≤ unitsOfRank infiniteRank :=
    unitsOfRank_mono (Nat.le_of_lt finite)
  have next : unitsOfRank (rank + 1) ≤ unitsOfRank infiniteRank :=
    unitsOfRank_mono (Nat.succ_le_of_lt finite)
  simp only [intervalOfRank]
  omega

end Binary64

namespace DecimalDigits

/-- A decimal that rounds to a finite rank has its first digit in range. -/
theorem RoundsTo.leading_le
    {number : DecimalDigits}
    {rank : Nat}
    (rounds : number.RoundsTo rank)
    (positive : 0 < rank)
    (finite : rank < Binary64.infiniteRank) :
    number.exponent + number.figures.length ≤ 400 := by
  by_contra beyond
  have digits := rounds.digits_pos positive
  have first := Text.pow_le_of_natDigits digits
  have high := (Binary64.Interval.le_of_holds rounds).2
  have width : 0 < number.figures.length := Text.length_natDigits_pos _
  have bound :
      10 ^ 400 * 10 ^ (-number.exponent).toNat ≤
        number.digits * 10 ^ number.exponent.toNat := by
    calc
      10 ^ 400 * 10 ^ (-number.exponent).toNat ≤
          10 ^ (number.figures.length - 1) * 10 ^ number.exponent.toNat := by
        rw [← Nat.pow_add, ← Nat.pow_add]
        exact Nat.pow_le_pow_right (by decide) (by omega)
      _ ≤ number.digits * 10 ^ number.exponent.toNat := Nat.mul_le_mul_right _ first
  have limit :
      2 * Binary64.unitsInOne * 10 ^ 400 * 10 ^ (-number.exponent).toNat ≤
        2 * Binary64.unitsOfRank Binary64.infiniteRank * 10 ^ (-number.exponent).toNat := by
    calc
      2 * Binary64.unitsInOne * 10 ^ 400 * 10 ^ (-number.exponent).toNat ≤
          2 * Binary64.unitsInOne * (number.digits * 10 ^ number.exponent.toNat) := by
        rw [Nat.mul_assoc]
        exact Nat.mul_le_mul_left _ bound
      _ = number.digits * (2 * Binary64.unitsInOne * 10 ^ number.exponent.toNat) := by
        ring
      _ ≤ (Binary64.intervalOfRank rank).high * 10 ^ (-number.exponent).toNat := high
      _ ≤ 2 * Binary64.unitsOfRank Binary64.infiniteRank * 10 ^ (-number.exponent).toNat :=
        Nat.mul_le_mul_right _ (Binary64.high_le_of_finite finite)
  have scale : 0 < 10 ^ (-number.exponent).toNat := Nat.pow_pos (by decide)
  exact absurd (Nat.le_of_mul_le_mul_right limit scale) (by decide +kernel)

theorem RoundsTo.le_leading
    {number : DecimalDigits}
    {rank : Nat}
    (rounds : number.RoundsTo rank)
    (positive : 0 < rank) :
    -400 ≤ number.exponent + number.figures.length := by
  by_contra beyond
  have last : number.digits < 10 ^ number.figures.length := Text.lt_pow_natDigits _
  have low := (Binary64.Interval.le_of_holds rounds).1
  have limit :
      10 ^ (-number.exponent).toNat <
        10 ^ (number.figures.length + number.exponent.toNat) *
          (2 * Binary64.unitsInOne) := by
    calc
      10 ^ (-number.exponent).toNat ≤
          (Binary64.intervalOfRank rank).low * 10 ^ (-number.exponent).toNat :=
        Nat.le_mul_of_pos_left _ (Binary64.low_intervalOfRank_pos positive)
      _ ≤ number.digits * (2 * Binary64.unitsInOne * 10 ^ number.exponent.toNat) := low
      _ < 10 ^ number.figures.length *
            (2 * Binary64.unitsInOne * 10 ^ number.exponent.toNat) := by
        refine Nat.mul_lt_mul_of_pos_right last ?_
        exact Nat.mul_pos (Nat.mul_pos (by decide) Binary64.unitsInOne_pos)
          (Nat.pow_pos (by decide))
      _ = 10 ^ (number.figures.length + number.exponent.toNat) *
            (2 * Binary64.unitsInOne) := by
        rw [Nat.pow_add]
        ring
  have bound :
      10 ^ (number.figures.length + number.exponent.toNat) * 10 ^ 401 ≤
        10 ^ (-number.exponent).toNat := by
    rw [← Nat.pow_add]
    exact Nat.pow_le_pow_right (by decide) (by omega)
  exact absurd (Nat.lt_of_mul_lt_mul_left (Nat.lt_of_le_of_lt bound limit))
    (by decide +kernel)

/-- A decimal is read as the number whose rank it rounds to. -/
theorem RoundsTo.ofDecimal_eq
    {digits rank : Nat}
    {exponent : Int}
    (rounds : RoundsTo ⟨digits, exponent⟩ rank)
    (positive : 0 < rank)
    (finite : rank < Binary64.infiniteRank)
    (negative : Bool) :
    Binary64.ofDecimal negative digits exponent = Binary64.ofRank negative rank := by
  have nonzero : digits ≠ 0 := Nat.ne_of_gt (rounds.digits_pos positive)
  have atMost : exponent + (Text.natDigits digits).length ≤ 400 :=
    rounds.leading_le positive finite
  have atLeast : -400 ≤ exponent + (Text.natDigits digits).length :=
    rounds.le_leading positive
  have nearest :
      Binary64.rankNearest (digits * 10 ^ exponent.toNat * Binary64.unitsInOne)
          (10 ^ (-exponent).toNat) =
        rank := by
    have point :
        2 * (digits * 10 ^ exponent.toNat * Binary64.unitsInOne) =
          digits * (2 * Binary64.unitsInOne * 10 ^ exponent.toNat) := by
      ring
    apply Binary64.rankNearest_of_holds (Nat.pow_pos (by decide)) positive
    rw [point]
    exact rounds
  rw [Binary64.ofDecimal, if_neg (by simp; omega), if_neg (by omega), Binary64.ofRatio,
    nearest]

/-! ## Positional form -/

/-- Digits before a point and digits after it that are written for a decimal. -/
structure Positional (rank : Nat) (whole fraction : List Char) : Prop where
  wholeDigits : Text.AllDigits whole
  fractionDigits : Text.AllDigits fraction
  whole_ne_nil : whole ≠ []
  /-- No zero stands in front of another digit of the whole part. -/
  canonical : whole.head? = some '0' → whole.length = 1
  rounds : RoundsTo ⟨Text.digitsValue 0 (whole ++ fraction), 0 - fraction.length⟩ rank

section

variable {digits places : Nat}

/-- A whole number is written with the zeros that its exponent counts. -/
theorem positional_whole (zeros : Nat) :
    (DecimalDigits.mk digits (.ofNat zeros)).positional =
      (Text.natDigits digits ++ List.replicate zeros '0', []) := rfl

/-- Digits that all stand behind the point follow zeros. -/
theorem positional_small
    (short : (Text.natDigits digits).length ≤ places + 1) :
    (DecimalDigits.mk digits (.negSucc places)).positional =
      (['0'],
        List.replicate (places + 1 - (Text.natDigits digits).length) '0' ++
          Text.natDigits digits) :=
  if_pos short

/-- Digits on both sides of the point are split. -/
theorem positional_split
    (long : ¬(Text.natDigits digits).length ≤ places + 1) :
    (DecimalDigits.mk digits (.negSucc places)).positional =
      ((Text.natDigits digits).take ((Text.natDigits digits).length - (places + 1)),
        (Text.natDigits digits).drop ((Text.natDigits digits).length - (places + 1))) := by
  rw [← List.splitAt_eq]
  exact if_neg long

variable {rank : Nat}

/-- Zeros that are written out after the digits take the place of the exponent. -/
theorem Positional.whole
    {zeros : Nat}
    (rounds : RoundsTo ⟨digits, .ofNat zeros⟩ rank)
    (positive : 0 < rank) :
    Positional rank (Text.natDigits digits ++ List.replicate zeros '0') [] := by
  have nonempty : Text.natDigits digits ≠ [] := Text.natDigits_ne_nil digits
  constructor
  · exact Text.AllDigits.append.mpr ⟨.natDigits digits, .zeros zeros⟩
  · exact .nil
  · exact List.append_ne_nil_of_left_ne_nil nonempty _
  · intro leads
    rw [List.head?_append_of_ne_nil _ nonempty] at leads
    exact absurd leads (Text.head?_natDigits (rounds.digits_pos positive))
  · have moved : RoundsTo ⟨digits, (0 : Int) + zeros⟩ rank := by
      rw [Int.zero_add]
      exact rounds
    simpa [Text.digitsValue_append_zeros] using roundsTo_shifted_iff.mp moved

/-- The exponent of a decimal with digits after the point counts these digits. -/
theorem negSucc_eq_sub
    {written : List Char}
    (width : written.length = places + 1) :
    Int.negSucc places = 0 - (written.length : Int) := by
  omega

/-- Zeros before the digits fill the places after the point. -/
theorem Positional.small
    (rounds : RoundsTo ⟨digits, .negSucc places⟩ rank)
    (short : (Text.natDigits digits).length ≤ places + 1) :
    Positional rank ['0']
      (List.replicate (places + 1 - (Text.natDigits digits).length) '0' ++
        Text.natDigits digits) := by
  have width :
      (List.replicate (places + 1 - (Text.natDigits digits).length) '0' ++
        Text.natDigits digits).length = places + 1 := by
    rw [List.length_append, List.length_replicate]
    omega
  constructor
  · simp
  · exact Text.AllDigits.append.mpr ⟨.zeros _, .natDigits digits⟩
  · simp
  · simp
  · rw [← negSucc_eq_sub width, ← List.replicate_one, Text.digitsValue_zeros,
      Text.digitsValue_zeros, Text.digitsValue_natDigits]
    exact rounds

/-- A point between the digits changes no digit. -/
theorem Positional.split
    (rounds : RoundsTo ⟨digits, .negSucc places⟩ rank)
    (positive : 0 < rank)
    (long : ¬(Text.natDigits digits).length ≤ places + 1) :
    Positional rank
      ((Text.natDigits digits).take ((Text.natDigits digits).length - (places + 1)))
      ((Text.natDigits digits).drop ((Text.natDigits digits).length - (places + 1))) := by
  have figures : Text.AllDigits (Text.natDigits digits) := .natDigits digits
  have width :
      ((Text.natDigits digits).drop
        ((Text.natDigits digits).length - (places + 1))).length = places + 1 := by
    rw [List.length_drop]
    omega
  constructor
  · exact figures.take _
  · exact figures.drop _
  · rw [Ne, List.take_eq_nil_iff]
    rintro (none | empty)
    · omega
    · exact Text.natDigits_ne_nil digits empty
  · intro leads
    rw [List.head?_take, if_neg (by omega)] at leads
    exact absurd leads (Text.head?_natDigits (rounds.digits_pos positive))
  · rw [← negSucc_eq_sub width, List.take_append_drop, Text.digitsValue_natDigits]
    exact rounds

end

/-- The positional form of a decimal has its value. -/
theorem RoundsTo.positional
    {number : DecimalDigits}
    {rank : Nat}
    (rounds : number.RoundsTo rank)
    (positive : 0 < rank) :
    Positional rank number.positional.1 number.positional.2 := by
  obtain ⟨digits, exponent⟩ := number
  cases exponent with
  | ofNat zeros =>
      rw [positional_whole]
      exact .whole rounds positive
  | negSucc places =>
      by_cases short : (Text.natDigits digits).length ≤ places + 1
      · rw [positional_small short]
        exact .small rounds short
      · rw [positional_split short]
        exact .split rounds positive short

end DecimalDigits

/-! ## Reading back -/

namespace Binary64

/-- Digits with a point before the second part, unless there is no second part. -/
def pointed (whole fraction : List Char) : List Char :=
  match fraction with
  | [] => whole
  | fraction => whole ++ '.' :: fraction

/-- A pointed text starts with a digit, and digits and points follow. -/
theorem exists_pointed_eq_cons
    {whole fraction : List Char}
    (wholeDigits : Text.AllDigits whole)
    (fractionDigits : Text.AllDigits fraction)
    (nonempty : whole ≠ []) :
    ∃ first rest,
      pointed whole fraction = first :: rest ∧
        first.isDigit = true ∧
          ∀ character ∈ rest, character.isDigit = true ∨ character = '.' := by
  obtain ⟨first, rest, rfl⟩ := List.exists_cons_of_ne_nil nonempty
  have digit : first.isDigit = true := wholeDigits first (by simp)
  have restDigits : ∀ character ∈ rest, character.isDigit = true := fun character member =>
    wholeDigits character (List.mem_cons_of_mem first member)
  cases fraction with
  | nil => exact ⟨first, rest, rfl, digit, fun character member => .inl (restDigits _ member)⟩
  | cons second others =>
      refine ⟨first, rest ++ '.' :: second :: others, rfl, digit, ?_⟩
      intro character member
      rcases List.mem_append.mp member with inWhole | inFraction
      · exact .inl (restDigits character inWhole)
      · rcases List.mem_cons.mp inFraction with point | further
        · exact .inr point
        · exact .inl (fractionDigits character further)

/-- Digits around a point are read as the decimal that they denote. -/
theorem magnitude?_pointed
    {whole fraction : List Char}
    (wholeDigits : Text.AllDigits whole)
    (fractionDigits : Text.AllDigits fraction)
    (nonempty : whole ≠ [])
    (negative : Bool) :
    magnitude? negative (pointed whole fraction) =
      some
        (ofDecimal negative (Text.digitsValue 0 (whole ++ fraction)) (0 - fraction.length)) := by
  cases fraction with
  | nil =>
      have takes : whole.takeWhile Char.isDigit = whole :=
        List.takeWhile_eq_self_iff.mpr wholeDigits
      have drops : whole.dropWhile Char.isDigit = [] :=
        List.dropWhile_eq_nil_iff.mpr wholeDigits
      simp [magnitude?, pointed, takes, drops, nonempty, exponentPart?]
  | cons first rest =>
      have takes : (whole ++ '.' :: first :: rest).takeWhile Char.isDigit = whole :=
        wholeDigits.takeWhile_append (by simp)
      have drops :
          (whole ++ '.' :: first :: rest).dropWhile Char.isDigit = '.' :: first :: rest :=
        wholeDigits.dropWhile_append (by simp)
      have fractionTakes : (first :: rest).takeWhile Char.isDigit = first :: rest :=
        List.takeWhile_eq_self_iff.mpr fractionDigits
      have fractionDrops : (first :: rest).dropWhile Char.isDigit = [] :=
        List.dropWhile_eq_nil_iff.mpr fractionDigits
      simp only [magnitude?, pointed, takes, drops, fractionTakes, fractionDrops]
      simp [exponentPart?]

/-- A text that starts with a digit is no word for a number. -/
theorem unsigned?_of_digit
    {first : Char}
    {rest : List Char}
    (digit : first.isDigit = true)
    (negative : Bool) :
    unsigned? negative (first :: rest) = magnitude? negative (first :: rest) := by
  have notInf : first ≠ 'i' := Text.ne_of_isDigit digit rfl
  have notNan : first ≠ 'n' := Text.ne_of_isDigit digit rfl
  simp [unsigned?, Text.toLower_of_isDigit digit, notInf, notNan]

/-- The sign of a text is read before its digits. -/
theorem ofText?_signed
    {first : Char}
    {rest : List Char}
    (digit : first.isDigit = true)
    (negative : Bool) :
    ofText? (signed negative (first :: rest)) = magnitude? negative (first :: rest) := by
  have notMinus : first ≠ '-' := Text.ne_of_isDigit digit rfl
  have notPlus : first ≠ '+' := Text.ne_of_isDigit digit rfl
  cases negative with
  | true => exact unsigned?_of_digit digit true
  | false =>
      rw [← unsigned?_of_digit digit, signed, if_neg (by decide)]
      unfold ofText?
      split
      · rename_i equal
        cases equal
        exact absurd rfl notMinus
      · rename_i equal
        cases equal
        exact absurd rfl notPlus
      · rfl

/-- The plain text of a positive finite magnitude has a point in its digits. -/
theorem plainText_of_finite
    {negative : Bool}
    {rank : Fin (infiniteRank + 1)}
    (positive : 0 < rank.val)
    (finite : rank.val < infiniteRank) :
    plainText (.number negative rank) =
      signed negative
        (pointed (shortest rank.val).positional.1 (shortest rank.val).positional.2) := by
  rw [plainText, if_neg (Nat.ne_of_lt finite), if_neg (Nat.ne_of_gt positive)]
  congr 1
  generalize (shortest rank.val).positional = parts
  obtain ⟨whole, fraction⟩ := parts
  cases fraction <;> rfl

/-- The plain text of a finite number is a sign, a digit, and digits and points. -/
theorem exists_plainText_of_finite
    {value : Binary64}
    (finite : value.isFinite = true) :
    ∃ negative first rest,
      value.plainText = signed negative (first :: rest) ∧
        first.isDigit = true ∧
          ∀ character ∈ rest, character.isDigit = true ∨ character = '.' := by
  cases value with
  | nan => cases finite
  | number negative rank =>
      have bounded : rank.val < infiniteRank := by simpa [isFinite] using finite
      rcases Nat.eq_zero_or_pos rank.val with zero | positive
      · refine ⟨negative, '0', [], ?_, rfl, by simp⟩
        rw [plainText, if_neg (Nat.ne_of_lt bounded), if_pos zero]
      · have form := (roundsTo_shortest positive bounded).positional positive
        obtain ⟨first, rest, startsWith, digit, further⟩ :=
          exists_pointed_eq_cons form.wholeDigits form.fractionDigits form.whole_ne_nil
        refine ⟨negative, first, rest, ?_, digit, further⟩
        rw [plainText_of_finite positive bounded, startsWith]

/-- A finite number is read back from its plain text. -/
theorem ofText?_plainText
    {value : Binary64}
    (finite : value.isFinite = true) :
    ofText? value.plainText = some value := by
  cases value with
  | nan => cases finite
  | number negative rank =>
      have bounded : rank.val < infiniteRank := by simpa [isFinite] using finite
      have whole : ofRank negative rank.val = .number negative rank := by
        simp only [ofRank, number.injEq, true_and]
        apply Fin.ext
        exact Nat.min_eq_left (Nat.le_of_lt bounded)
      rcases Nat.eq_zero_or_pos rank.val with zero | positive
      · have text : plainText (.number negative rank) = signed negative ['0'] := by
          rw [plainText, if_neg (Nat.ne_of_lt bounded), if_pos zero]
        rw [text, ofText?_signed rfl, ← whole, zero]
        rfl
      · have rounds := roundsTo_shortest positive bounded
        have form := rounds.positional positive
        rw [plainText_of_finite positive bounded]
        generalize (shortest rank.val).positional.1 = before at *
        generalize (shortest rank.val).positional.2 = after at *
        obtain ⟨first, rest, startsWith, digit, _⟩ :=
          exists_pointed_eq_cons form.wholeDigits form.fractionDigits form.whole_ne_nil
        rw [startsWith, ofText?_signed digit, ← startsWith,
          magnitude?_pointed form.wholeDigits form.fractionDigits form.whole_ne_nil,
          form.rounds.ofDecimal_eq positive bounded, whole]

end Binary64

end GeoTables
