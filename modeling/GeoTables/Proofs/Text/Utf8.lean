import GeoTables.Proofs.Outcome
import GeoTables.Text.Utf8
import Mathlib.Tactic.SplitIfs

/-!
# Decoding what was encoded

The octets of a text are decoded to the text.  The first octet of a character says
how many more are owed and holds the high digits of its number; the bounds on the
octet after it exclude no character, since a number that needs so many octets is
large enough for them and no surrogate.
-/

namespace GeoTables.Text

/-! ## Octets that are owed -/

theorem toNat_ofNat_of_lt
    {value : Nat}
    (small : value < 256) :
    (UInt8.ofNat value).toNat = value := by
  rw [UInt8.toNat_ofNat', Nat.mod_eq_of_lt small]

variable {low high value digits : Nat}

/-- An octet that is owed adds six digits; there is another one behind it. -/
theorem decodeParts_more
    (few : digits < 64)
    (least : low ≤ digits + 128)
    (greatest : digits + 128 ≤ high)
    (count : Nat)
    (rest : List UInt8) :
    decodeParts (some ⟨count + 2, low, high, value⟩) (UInt8.ofNat (digits + 128) :: rest) =
      decodeParts (some ⟨count + 1, 0x80, 0xBF, value * 64 + digits⟩) rest := by
  rw [decodeParts, nextOctet, toNat_ofNat_of_lt (by omega)]
  have fewer : count + 2 - 1 = count + 1 := rfl
  dsimp only
  rw [if_pos (by simp [least, greatest]), if_neg (by omega), Nat.add_sub_cancel, fewer,
    List.nil_append]

/-- The last octet that is owed adds six digits and completes a character. -/
theorem decodeParts_last
    (few : digits < 64)
    (least : low ≤ digits + 128)
    (greatest : digits + 128 ≤ high)
    (rest : List UInt8) :
    decodeParts (some ⟨1, low, high, value⟩) (UInt8.ofNat (digits + 128) :: rest) =
      some (Char.ofNat (value * 64 + digits)) :: decodeParts none rest := by
  rw [decodeParts, nextOctet, toNat_ofNat_of_lt (by omega)]
  dsimp only
  rw [if_pos (by simp [least, greatest]), if_pos rfl, Nat.add_sub_cancel]
  rfl

/-! ## First octets -/

variable {number : Nat}

theorem firstOctet_of_two
    (long : 0x80 ≤ number)
    (short : number < 0x800) :
    firstOctet (number / 64 + 0xC0) = ([], some ⟨1, 0x80, 0xBF, number / 64⟩) := by
  have lead : number / 64 + 0xC0 - 0xC0 = number / 64 := by omega
  unfold firstOctet
  rw [if_neg (by omega), if_pos (by simp; omega), lead]

theorem firstOctet_of_three
    (long : 0x800 ≤ number)
    (short : number < 0x10000)
    (noSurrogate : number < 0xD800 ∨ 0xDFFF < number) :
    ∃ low high,
      firstOctet (number / 4096 + 0xE0) = ([], some ⟨2, low, high, number / 4096⟩) ∧
        low ≤ number / 64 % 64 + 128 ∧ number / 64 % 64 + 128 ≤ high := by
  unfold firstOctet
  rw [if_neg (by omega), if_neg (by simp)]
  split_ifs with least surrogates others
  · exact ⟨0xA0, 0xBF, by simp; omega, by omega, by omega⟩
  · exact ⟨0x80, 0x9F, by simp; omega, by omega, by omega⟩
  · exact ⟨0x80, 0xBF, by simp, by omega, by omega⟩
  all_goals
    simp at others
    omega

theorem firstOctet_of_four
    (long : 0x10000 ≤ number)
    (short : number < 0x110000) :
    ∃ low high,
      firstOctet (number / 262144 + 0xF0) = ([], some ⟨3, low, high, number / 262144⟩) ∧
        low ≤ number / 4096 % 64 + 128 ∧ number / 4096 % 64 + 128 ≤ high := by
  unfold firstOctet
  rw [if_neg (by omega), if_neg (by simp), if_neg (by omega), if_neg (by omega),
    if_neg (by simp)]
  split_ifs with least others greatest
  · exact ⟨0x90, 0xBF, by simp; omega, by omega, by omega⟩
  · exact ⟨0x80, 0xBF, by simp, by omega, by omega⟩
  · exact ⟨0x80, 0x8F, by simp; omega, by omega, by omega⟩
  · simp at others
    omega

/-! ## Characters and texts -/

/-- The octets of a character are decoded to it, whatever follows. -/
theorem decodeParts_utf8EncodeChar (character : Char) (rest : List UInt8) :
    decodeParts none (String.utf8EncodeChar character ++ rest) =
      some character :: decodeParts none rest := by
  have isChar : Char.ofNat character.val.toNat = character := Char.ofNat_toNat character
  have valid : character.val.toNat < 0xD800 ∨
      0xDFFF < character.val.toNat ∧ character.val.toNat < 0x110000 := character.valid
  unfold String.utf8EncodeChar
  generalize character.val.toNat = number at isChar valid ⊢
  have last : number % 64 < 64 := Nat.mod_lt _ (by decide)
  dsimp only
  -- One case for each number of octets; their digits put together are the number.
  split_ifs with one two three
  · rw [List.cons_append, decodeParts, nextOctet, toNat_ofNat_of_lt (by omega), firstOctet,
      if_pos (by omega), isChar]
    rfl
  · have lead : number / 64 % 32 + 192 = number / 64 + 0xC0 := by omega
    have whole : number / 64 * 64 + number % 64 = number := by omega
    rw [List.cons_append, decodeParts, nextOctet, toNat_ofNat_of_lt (by omega), lead,
      firstOctet_of_two (by omega) (by omega)]
    dsimp only [List.cons_append, List.nil_append]
    rw [decodeParts_last last (by omega) (by omega), whole, isChar]
  · obtain ⟨low, high, first, least, greatest⟩ :=
      @firstOctet_of_three number (by omega) (by omega) (by omega)
    have lead : number / 4096 % 16 + 224 = number / 4096 + 0xE0 := by omega
    have whole :
        (number / 4096 * 64 + number / 64 % 64) * 64 + number % 64 = number := by omega
    rw [List.cons_append, decodeParts, nextOctet, toNat_ofNat_of_lt (by omega), lead, first]
    dsimp only [List.cons_append, List.nil_append]
    rw [decodeParts_more (by omega) least greatest 0,
      decodeParts_last last (by omega) (by omega), whole, isChar]
  · obtain ⟨low, high, first, least, greatest⟩ :=
      @firstOctet_of_four number (by omega) (by omega)
    have lead : number / 262144 % 8 + 240 = number / 262144 + 0xF0 := by omega
    have whole :
        ((number / 262144 * 64 + number / 4096 % 64) * 64 + number / 64 % 64) * 64 +
          number % 64 = number := by omega
    rw [List.cons_append, decodeParts, nextOctet, toNat_ofNat_of_lt (by omega), lead, first]
    dsimp only [List.cons_append, List.nil_append]
    rw [decodeParts_more (by omega) least greatest 1,
      decodeParts_more (by omega) (by omega) (by omega) 0,
      decodeParts_last last (by omega) (by omega), whole, isChar]

/-- The octets of a text are decoded to it, whatever follows. -/
theorem decodeParts_encodeUtf8 (text : List Char) (rest : List UInt8) :
    decodeParts none (encodeUtf8 text ++ rest) = text.map some ++ decodeParts none rest := by
  induction text with
  | nil => rfl
  | cons character others induction =>
      rw [encodeUtf8, List.flatMap_cons, List.append_assoc, decodeParts_utf8EncodeChar,
        ← encodeUtf8, induction]
      rfl

@[simp]
theorem decodeUtf8?_encodeUtf8 (text : List Char) : decodeUtf8? (encodeUtf8 text) = some text := by
  have parts : decodeParts none (encodeUtf8 text) = text.map some := by
    simpa [decodeParts] using decodeParts_encodeUtf8 text []
  rw [decodeUtf8?, parts, Outcome.mapM_eq_some, List.forall₂_map_left_iff, List.forall₂_same]
  exact fun _ _ => rfl

end GeoTables.Text
