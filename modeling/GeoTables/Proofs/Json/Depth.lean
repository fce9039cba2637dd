import GeoTables.Proofs.Json.Fields

/-!
# Values of any depth

A text has an outline however deep its arrays and objects lie within each
other, but only so many of them may if the outline is to have a value.  A
value whose objects are in order and whose numbers can be written is plain up
to the depth it has, and it is lost when it is read to a lesser depth.
-/

namespace GeoTables.Json

mutual

/-- A value that is plain up to some depth is so up to every greater one. -/
theorem IsPlain.mono :
    ∀ {json : Json} {depth further : Nat},
      depth ≤ further → json.IsPlain depth → json.IsPlain further
  | .null, _, _, _, _ | .bool _, _, _, _, _ | .string _, _, _, _, _ => trivial
  | .number _, _, _, _, plain => plain
  | .array _, _, _, within, plain =>
      ⟨Nat.lt_of_lt_of_le plain.1 within, ArePlain.mono (Nat.sub_le_sub_right within 1) plain.2⟩
  | .object _, _, _, within, plain =>
      ⟨Nat.lt_of_lt_of_le plain.1 within, plain.2.1,
        FieldsArePlain.mono (Nat.sub_le_sub_right within 1) plain.2.2⟩

theorem ArePlain.mono :
    ∀ {items : List Json} {depth further : Nat},
      depth ≤ further → ArePlain depth items → ArePlain further items
  | [], _, _, _, _ => trivial
  | _ :: _, _, _, within, plain =>
      ⟨IsPlain.mono within plain.1, ArePlain.mono within plain.2⟩

theorem FieldsArePlain.mono :
    ∀ {fields : List (String × Json)} {depth further : Nat},
      depth ≤ further → FieldsArePlain depth fields → FieldsArePlain further fields
  | [], _, _, _, _ => trivial
  | (_, _) :: _, _, _, within, plain =>
      ⟨IsPlain.mono within plain.1, FieldsArePlain.mono within plain.2⟩

end

/-- The objects within the value are in order and its numbers can be written. -/
def IsRegular (json : Json) : Prop :=
  ∃ depth, json.IsPlain depth

/-- Regular values have a depth in common. -/
theorem exists_depth_of_regular
    {items : List Json}
    (regular : ∀ item ∈ items, item.IsRegular) :
    ∃ depth, ∀ item ∈ items, item.IsPlain depth := by
  induction items with
  | nil => exact ⟨0, by simp⟩
  | cons item rest induction =>
      rw [List.forall_mem_cons] at regular
      obtain ⟨own, plain⟩ := regular.1
      obtain ⟨others, plainOthers⟩ := induction regular.2
      refine ⟨max own others, List.forall_mem_cons.mpr ⟨?_, ?_⟩⟩
      · exact plain.mono (Nat.le_max_left own others)
      · exact fun other member => (plainOthers other member).mono (Nat.le_max_right own others)

namespace IsRegular

theorem null : IsRegular .null := ⟨0, trivial⟩

theorem bool (truth : Bool) : IsRegular (.bool truth) := ⟨0, trivial⟩

theorem string (text : String) : IsRegular (.string text) := ⟨0, trivial⟩

theorem array
    {items : List Json}
    (regular : ∀ item ∈ items, item.IsRegular) :
    IsRegular (.array items) := by
  obtain ⟨depth, plain⟩ := exists_depth_of_regular regular
  exact ⟨depth + 1, Nat.succ_pos depth, arePlain_of_forall plain⟩

theorem ofFields
    {fields : List (String × Json)}
    (regular : ∀ entry ∈ fields, entry.2.IsRegular) :
    IsRegular (ofFields fields) := by
  obtain ⟨depth, plain⟩ := exists_depth_of_regular (List.forall_mem_map.mpr regular)
  refine ⟨depth + 1, Nat.succ_pos depth, ascending_sortedFields fields, ?_⟩
  refine fieldsArePlain_of_forall fun entry member => plain entry.2 ?_
  exact List.mem_map_of_mem (mem_of_mem_sortedFields entry member)

/-- The text of a regular value scans to the lexemes of its outline. -/
theorem scans
    {json : Json}
    (regular : json.IsRegular) :
    Scans json.characters json.outline.lexemes := by
  obtain ⟨depth, plain⟩ := regular
  exact scans_characters plain

/-- The fields of a list are written by texts that scan. -/
theorem scans_fieldTexts
    {fields : List (String × Json)}
    (regular : ∀ entry ∈ fields, entry.2.IsRegular) :
    List.Forall₂ Scans (fieldTexts fields) (Outline.memberLexemes (fieldOutlines fields)) := by
  induction fields with
  | nil => exact .nil
  | cons entry rest induction =>
      rw [List.forall_mem_cons] at regular
      exact .cons (regular.1.scans.entry entry.1) (induction regular.2)

end IsRegular

/-! ## Reading to a depth -/

mutual

/-- A value that is read to some depth is plain up to that depth. -/
theorem isPlain_of_isSome_value? :
    ∀ {json : Json} {bound depth : Nat},
      json.IsPlain bound → (json.outline.value? depth).isSome → json.IsPlain depth
  | .null, _, _, _, _ | .bool _, _, _, _, _ | .string _, _, _, _, _ => trivial
  | .number _, _, _, plain, _ => plain
  | .array items, bound, depth, plain, read => by
      rw [outline, Outline.value?] at read
      split_ifs at read with none
      · cases read
      · rw [Option.isSome_map] at read
        exact ⟨Nat.pos_of_ne_zero none, arePlain_of_isSome_itemValues? plain.2 read⟩
  | .object fields, bound, depth, plain, read => by
      rw [outline, Outline.value?] at read
      split_ifs at read with none
      · cases read
      · rw [Option.isSome_map] at read
        exact ⟨Nat.pos_of_ne_zero none, plain.2.1,
          fieldsArePlain_of_isSome_memberValues? plain.2.2 read⟩

theorem arePlain_of_isSome_itemValues? :
    ∀ {items : List Json} {bound depth : Nat},
      ArePlain bound items →
      (Outline.itemValues? depth (itemOutlines items)).isSome →
      ArePlain depth items
  | [], _, _, _, _ => trivial
  | item :: rest, bound, depth, plain, read => by
      simp only [itemOutlines, Outline.itemValues?, Option.bind_eq_bind, Option.isSome_iff_exists,
        Option.bind_eq_some_iff] at read
      obtain ⟨_, value, isValue, values, areValues, _⟩ := read
      exact ⟨isPlain_of_isSome_value? plain.1 (Option.isSome_of_eq_some isValue),
        arePlain_of_isSome_itemValues? plain.2 (Option.isSome_of_eq_some areValues)⟩

theorem fieldsArePlain_of_isSome_memberValues? :
    ∀ {fields : List (String × Json)} {bound depth : Nat},
      FieldsArePlain bound fields →
      (Outline.memberValues? depth (fieldOutlines fields)).isSome →
      FieldsArePlain depth fields
  | [], _, _, _, _ => trivial
  | (name, value) :: rest, bound, depth, plain, read => by
      simp only [fieldOutlines, Outline.memberValues?, Option.bind_eq_bind,
        Option.isSome_iff_exists, Option.bind_eq_some_iff] at read
      obtain ⟨_, _, _, value, isValue, values, areValues, _⟩ := read
      exact ⟨isPlain_of_isSome_value? plain.1 (Option.isSome_of_eq_some isValue),
        fieldsArePlain_of_isSome_memberValues? plain.2 (Option.isSome_of_eq_some areValues)⟩

end

/-- Each of plain fields is plain. -/
theorem isPlain_of_mem_fields
    {fields : List (String × Json)}
    {depth : Nat}
    (plain : FieldsArePlain depth fields) :
    ∀ entry ∈ fields, entry.2.IsPlain depth := by
  induction fields with
  | nil => exact nofun
  | cons entry rest induction => exact List.forall_mem_cons.mpr ⟨plain.1, induction plain.2⟩

/-- The members of regular fields have values to a depth exactly if the fields are plain to it and
are read back, and these are then what the fields are read back as. -/
theorem memberValues?_eq_some_iff
    {fields values : List (String × Json)}
    {depth : Nat}
    (regular : ∀ entry ∈ fields, entry.2.IsRegular) :
    Outline.memberValues? depth (fieldOutlines fields) = some values ↔
      FieldsArePlain depth fields ∧ rereadFields? fields = some values := by
  constructor
  · intro read
    obtain ⟨bound, plain⟩ := exists_depth_of_regular (List.forall_mem_map.mpr regular)
    have boundedPlain : FieldsArePlain bound fields :=
      fieldsArePlain_of_forall fun entry member => plain entry.2 (List.mem_map_of_mem member)
    have plainFields :=
      fieldsArePlain_of_isSome_memberValues? boundedPlain (Option.isSome_of_eq_some read)
    exact ⟨plainFields, (memberValues?_outlines plainFields).symm.trans read⟩
  · rintro ⟨plain, read⟩
    exact (memberValues?_outlines plain).trans read

end GeoTables.Json
