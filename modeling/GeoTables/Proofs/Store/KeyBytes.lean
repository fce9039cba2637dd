import GeoTables.Proofs.Store.Keys
import GeoTables.Text.Utf8

/-!
# Keys as bytes

A tree is kept in the order of the bytes of its keys.  A number is written in
eight bytes, the most significant first, and a text in UTF-8.  Either way the
order of the bytes is that of what they stand for: a smaller number, or a text
that is before another one in the order of its characters, has the lesser bytes.
-/

namespace GeoTables

/-! ## Bytes of numbers -/

/-- A number in so many bytes, the most significant first. -/
def bigEndian : Nat → Nat → List UInt8
  | 0, _ => []
  | count + 1, number =>
      UInt8.ofNat (number / 256 ^ count) :: bigEndian count (number % 256 ^ count)

theorem bigEndian_lt
    {count left right : Nat}
    (less : left < right)
    (fits : right < 256 ^ count) :
    bigEndian count left < bigEndian count right := by
  induction count generalizing left right with
  | zero => simp at fits; omega
  | succ count induction =>
      have positive : 0 < 256 ^ count := Nat.pos_of_ne_zero (by simp)
      have rightByte : right / 256 ^ count < 256 :=
        Nat.div_lt_of_lt_mul (by rwa [Nat.pow_succ] at fits)
      have ordered : left / 256 ^ count ≤ right / 256 ^ count := Nat.div_le_div_right less.le
      rw [bigEndian, bigEndian, List.cons_lt_cons_iff, UInt8.lt_iff_toNat_lt, ← UInt8.toNat_inj,
        UInt8.toNat_ofNat', UInt8.toNat_ofNat', Nat.mod_eq_of_lt rightByte,
        Nat.mod_eq_of_lt (ordered.trans_lt rightByte)]
      rcases ordered.lt_or_eq with first | same
      · exact .inl first
      · refine .inr ⟨same, induction ?_ (Nat.mod_lt _ positive)⟩
        have leftParts := Nat.div_add_mod left (256 ^ count)
        have rightParts := Nat.div_add_mod right (256 ^ count)
        rw [same] at leftParts
        omega

example : bigEndian 8 258 = [0, 0, 0, 0, 0, 0, 1, 2] := by decide

/-! ## Bytes of texts -/

/-- The bytes of a character come before those of a later one, whatever follows on them. -/
theorem utf8EncodeChar_append_lt
    {left right : Char}
    (less : left < right)
    (afterLeft afterRight : List UInt8) :
    String.utf8EncodeChar left ++ afterLeft < String.utf8EncodeChar right ++ afterRight := by
  have ordered : left.val.toNat < right.val.toNat := less
  have last : right.val.toNat < 0x110000 := by
    have valid := right.valid
    rcases valid with low | ⟨_, high⟩ <;> omega
  unfold String.utf8EncodeChar
  dsimp only
  -- The first byte tells how many there are, so that only characters of one length share it.
  split_ifs <;>
    simp only [List.cons_append, List.nil_append, List.cons_lt_cons_iff, UInt8.lt_iff_toNat_lt,
      ← UInt8.toNat_inj, UInt8.toNat_ofNat'] <;>
    simp (disch := omega) only [Nat.mod_eq_of_lt] <;>
    omega

/-- The bytes of a text come before those of a later one. -/
theorem encodeUtf8_lt
    {left right : List Char}
    (less : left < right) :
    Text.encodeUtf8 left < Text.encodeUtf8 right := by
  induction left generalizing right with
  | nil =>
      cases right with
      | nil => exact absurd less (lt_irrefl _)
      | cons character rest =>
          obtain ⟨byte, others, bytes⟩ :=
            List.exists_cons_of_ne_nil (@String.utf8EncodeChar_ne_nil character)
          rw [Text.encodeUtf8, Text.encodeUtf8, List.flatMap_nil, List.flatMap_cons, bytes]
          exact List.nil_lt_cons byte _
  | cons first others induction =>
      cases right with
      | nil => cases less
      | cons character rest =>
          rw [Text.encodeUtf8, Text.encodeUtf8, List.flatMap_cons, List.flatMap_cons]
          rcases List.cons_lt_cons_iff.mp less with earlier | ⟨rfl, later⟩
          · exact utf8EncodeChar_append_lt earlier _ _
          · exact List.append_left_lt (induction later)

/-! ## Bytes of keys -/

/-- The bytes of a key. -/
def RowKey.bytes : RowKey → List UInt8
  | .serial number => bigEndian 8 number
  | .text key => Text.encodeUtf8 key

/-- Of the keys of one table, the one that comes first has the lesser bytes, where the numbers have
eight bytes. -/
theorem RowStore.bytes_rowKey_lt
    {table : Table}
    {first second : Nat}
    {left right : Record}
    (early : (rowKey table first left).before (rowKey table second right) = true)
    (fits : table.keyNames = [] → second < 256 ^ 8) :
    (rowKey table first left).bytes < (rowKey table second right).bytes := by
  unfold rowKey at early ⊢
  split_ifs at early ⊢ with keyless
  · exact bigEndian_lt (of_decide_eq_true early) (fits (List.isEmpty_iff.mp keyless))
  · exact encodeUtf8_lt (of_decide_eq_true early)

end GeoTables
