import GeoTables.Number.Decimal
import GeoTables.Proofs.Number.PlainText
import GeoTables.Proofs.Text.Blank

/-!
# Texts of exact decimals

A decimal is read back from its text as it was, with the same scale.  Its
digits fit at every place, since a coefficient only grows while it is read, and
the point comes before as many of them as the scale counts.
-/

namespace GeoTables.Decimal

open Text (AllDigits digitsValue)

/-- A value only grows while digits are appended. -/
theorem le_digitsValue
    (soFar : Nat)
    (digits : List Char) :
    soFar ≤ digitsValue soFar digits := by
  induction digits generalizing soFar with
  | nil => exact Nat.le_refl soFar
  | cons digit rest induction =>
      rw [Text.digitsValue_cons]
      have longer := induction (10 * soFar + Text.digitValue digit)
      omega

/-- Digits before the point are taken as long as their value fits. -/
theorem readUnsigned_whole
    {digits rest : List Char}
    {started : Bool}
    {value : Nat}
    (all : AllDigits digits)
    (nonempty : digits ≠ [])
    (fits : digitsValue value digits < coefficientBound) :
    readUnsigned false started value 0 (digits ++ rest) =
      readUnsigned false true (digitsValue value digits) 0 rest := by
  induction digits generalizing started value with
  | nil => exact absurd rfl nonempty
  | cons digit others induction =>
      rw [AllDigits.cons] at all
      rw [Text.digitsValue_cons] at fits ⊢
      have room : 10 * value + Text.digitValue digit < coefficientBound :=
        Nat.lt_of_le_of_lt (le_digitsValue _ others) fits
      rw [List.cons_append, readUnsigned, if_pos all.1]
      simp only [room, if_true, Bool.false_and, Bool.false_eq_true, if_false]
      cases others with
      | nil => rfl
      | cons next further => exact induction all.2 (by simp) fits

/-- Digits after the point are taken up to the greatest scale. -/
theorem readUnsigned_fraction
    {digits : List Char}
    {value scale : Nat}
    (all : AllDigits digits)
    (fits : digitsValue value digits < coefficientBound)
    (short : scale + digits.length ≤ maxScale) :
    readUnsigned true true value scale digits =
      some (digitsValue value digits, scale + digits.length) := by
  induction digits generalizing value scale with
  | nil => rfl
  | cons digit others induction =>
      rw [AllDigits.cons] at all
      rw [Text.digitsValue_cons] at fits ⊢
      rw [List.length_cons] at short
      have room : 10 * value + Text.digitValue digit < coefficientBound :=
        Nat.lt_of_le_of_lt (le_digitsValue _ others) fits
      rw [readUnsigned, if_pos all.1]
      simp only [room, if_true, Bool.true_and, decide_eq_true_eq]
      cases others with
      | nil =>
          split_ifs
          · rfl
          · rfl
      | cons next further =>
          rw [List.length_cons] at short
          rw [if_neg (by omega), induction all.2 fits (by rw [List.length_cons]; omega)]
          simp only [List.length_cons]
          congr 2
          omega

/-- A number with its point is read as its digits and the place of the point. -/
theorem readUnsigned_pointed
    {whole fraction : List Char}
    (wholeDigits : AllDigits whole)
    (fractionDigits : AllDigits fraction)
    (nonempty : whole ≠ [])
    (fits : digitsValue 0 (whole ++ fraction) < coefficientBound)
    (short : fraction.length ≤ maxScale) :
    readUnsigned false false 0 0 (Binary64.pointed whole fraction) =
      some (digitsValue 0 (whole ++ fraction), fraction.length) := by
  rw [Text.digitsValue_append] at fits ⊢
  have wholeFits : digitsValue 0 whole < coefficientBound :=
    Nat.lt_of_le_of_lt (le_digitsValue _ fraction) fits
  cases fraction with
  | nil =>
      have taken :
          readUnsigned false false 0 0 (whole ++ []) =
            readUnsigned false true (digitsValue 0 whole) 0 [] :=
        readUnsigned_whole wholeDigits nonempty wholeFits
      rw [List.append_nil] at taken
      rw [Binary64.pointed, taken]
      rfl
  | cons digit others =>
      change readUnsigned false false 0 0 (whole ++ '.' :: digit :: others) = _
      rw [readUnsigned_whole wholeDigits nonempty wholeFits]
      have point :
          readUnsigned false true (digitsValue 0 whole) 0 ('.' :: digit :: others) =
            readUnsigned true true (digitsValue 0 whole) 0 (digit :: others) := rfl
      rw [point, readUnsigned_fraction fractionDigits fits (by omega), Nat.zero_add]

/-- The text of a decimal is a signed number with a point before its last digits. -/
theorem text_eq_signed
    (value : Decimal) :
    ∃ whole fraction,
      value.text = Binary64.signed (value.coefficient < 0) (Binary64.pointed whole fraction) ∧
        AllDigits whole ∧ AllDigits fraction ∧ whole ≠ [] ∧
        digitsValue 0 (whole ++ fraction) = value.coefficient.natAbs ∧
        fraction.length = value.scale := by
  have digits : AllDigits (Text.paddedDigits (value.scale + 1) value.coefficient.natAbs) :=
    .paddedDigits _ _
  have number :
      digitsValue 0 (Text.paddedDigits (value.scale + 1) value.coefficient.natAbs) =
        value.coefficient.natAbs :=
    Text.digitsValue_paddedDigits _ _
  have long :
      value.scale < (Text.paddedDigits (value.scale + 1) value.coefficient.natAbs).length := by
    rw [Text.paddedDigits, List.length_append, List.length_replicate]
    have := Text.length_natDigits_pos value.coefficient.natAbs
    omega
  rw [text]
  generalize Text.paddedDigits (value.scale + 1) value.coefficient.natAbs = all at *
  refine ⟨all.take (all.length - value.scale), all.drop (all.length - value.scale),
    ?_, digits.take _, digits.drop _, ?_, ?_, ?_⟩
  · simp only [List.splitAt_eq]
    congr 1
    cases all.drop (all.length - value.scale) <;> rfl
  · rw [Ne, List.take_eq_nil_iff]
    rintro (none | rfl)
    · omega
    · simp at long
  · rw [List.take_append_drop, number]
  · rw [List.length_drop]
    omega

/-- The text of a decimal has no blanks. -/
theorem visible_text (value : Decimal) : Text.Visible value.text := by
  obtain ⟨whole, fraction, form, wholeDigits, fractionDigits, _⟩ := text_eq_signed value
  have pointed : Text.Visible (Binary64.pointed whole fraction) := by
    cases fraction with
    | nil => exact wholeDigits.visible
    | cons first rest =>
        exact Text.Visible.append.mpr
          ⟨wholeDigits.visible, Text.Visible.cons.mpr ⟨rfl, fractionDigits.visible⟩⟩
  rw [form, Binary64.signed]
  split_ifs
  · exact Text.Visible.cons.mpr ⟨rfl, pointed⟩
  · exact pointed

/-- The sign before the digits of a text is read as the sign of the coefficient. -/
theorem ofPlainText?_signed
    {whole fraction : List Char}
    {number scale : Nat}
    (wholeDigits : AllDigits whole)
    (nonempty : whole ≠ [])
    (read :
      readUnsigned false false 0 0 (Binary64.pointed whole fraction) = some (number, scale))
    (negative : Bool) :
    ofPlainText? (Binary64.signed negative (Binary64.pointed whole fraction)) =
      ofParts? (if negative then -(number : Int) else number) scale := by
  obtain ⟨first, rest, rfl⟩ := List.exists_cons_of_ne_nil nonempty
  cases negative with
  | true => simp [ofPlainText?, Binary64.signed, read]
  | false =>
      have digit : first.isDigit = true := wholeDigits first (by simp)
      have notMinus : first ≠ '-' := Text.ne_of_isDigit digit rfl
      have notPlus : first ≠ '+' := Text.ne_of_isDigit digit rfl
      obtain ⟨others, startsWith⟩ :
          ∃ others, Binary64.pointed (first :: rest) fraction = first :: others := by
        cases fraction <;> exact ⟨_, rfl⟩
      rw [startsWith] at read ⊢
      simp [ofPlainText?, Binary64.signed, notMinus, notPlus, read]

/-- A decimal is made of its own coefficient and scale. -/
theorem ofParts?_own (value : Decimal) : ofParts? value.coefficient value.scale = some value :=
  dif_pos ⟨value.coefficient_lt, value.scale_le⟩

/-- A decimal is read back from its text. -/
theorem ofText?_text
    (value : Decimal) :
    ofText? value.text = some value := by
  obtain ⟨whole, fraction, form, wholeDigits, fractionDigits, nonempty, number, places⟩ :=
    text_eq_signed value
  have read :
      readUnsigned false false 0 0 (Binary64.pointed whole fraction) =
        some (value.coefficient.natAbs, value.scale) := by
    rw [readUnsigned_pointed wholeDigits fractionDigits nonempty, number, places]
    · rw [number]
      exact value.coefficient_lt
    · rw [places]
      exact value.scale_le
  have coefficient :
      (if decide (value.coefficient < 0) then -(value.coefficient.natAbs : Int)
        else value.coefficient.natAbs) = value.coefficient := by
    split_ifs with negative <;> simp only [decide_eq_true_eq] at negative <;> omega
  have plain : ofPlainText? value.text = some value := by
    rw [form, ofPlainText?_signed wholeDigits nonempty read, coefficient, ofParts?_own]
  rw [ofText?, plain]
  rfl

end GeoTables.Decimal
