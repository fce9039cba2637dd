import GeoTables.Proofs.Entries
import GeoTables.Proofs.Json.RoundTrip

/-!
# Objects of given fields and arrays of given items

The fields of an object are put in the order of their names.  If no name is
given twice, every given field is found under its name, in the object as well
as in what the text of the object is read back as.  The items of an array are
read back one by one.
-/

namespace GeoTables.Json

/-- No name occurs twice among names in order. -/
theorem Ascending.nodup
    {fields : List (String × Json)}
    (ascending : Ascending fields) :
    (fields.map Prod.fst).Nodup := by
  apply List.pairwise_map.mpr
  refine ascending.imp fun less same => ?_
  rw [same] at less
  exact String.lt_irrefl _ less

/-- Setting a field keeps the names in order. -/
theorem Ascending.setField
    {fields : List (String × Json)}
    (ascending : Ascending fields)
    (name : String)
    (value : Json) :
    Ascending (setField name value fields) := by
  unfold Ascending Json.setField at *
  have transitive : ∀ first second third : String,
      decide (first < second) = true → decide (second < third) = true →
        decide (first < third) = true := by
    simp only [decide_eq_true_eq]
    exact fun _ _ _ => String.lt_trans
  have total : ∀ first second : String,
      decide (first < second) = true ∨ first = second ∨ decide (second < first) = true := by
    simp only [decide_eq_true_eq]
    intro first second
    by_cases less : first < second
    · exact .inl less
    · by_cases same : first = second
      · exact .inr (.inl same)
      · exact .inr (.inr (Std.lt_of_le_of_ne (String.not_lt.mp less) (Ne.symm same)))
  simpa only [decide_eq_true_eq] using
    Entries.pairwise_place transitive total (by simpa only [decide_eq_true_eq] using ascending)

/-- The fields of an object in the order of their names. -/
def sortedFields (fields : List (String × Json)) : List (String × Json) :=
  fields.foldl (fun sorted field => setField field.1 field.2 sorted) []

variable {fields : List (String × Json)}

theorem ascending_sortedFields (fields : List (String × Json)) :
    Ascending (sortedFields fields) :=
  List.foldlRecOn fields _ .nil fun _ ascending field _ => ascending.setField field.1 field.2

/-- The sorted fields are given fields. -/
theorem mem_of_mem_sortedFields :
    ∀ entry ∈ sortedFields fields, entry ∈ fields := by
  apply List.foldlRecOn (motive := fun sorted => ∀ entry ∈ sorted, entry ∈ fields) fields
  · exact fun _ none => absurd none List.not_mem_nil
  intro sorted kept field isField entry member
  rcases Entries.mem_of_mem_place member with rfl | earlier
  · exact isField
  · exact kept entry earlier

/-- If no name is given twice, the sorted fields are found like the given ones. -/
theorem field?_sortedFields
    (nodup : (fields.map Prod.fst).Nodup)
    (name : String) :
    field? (sortedFields fields) name = fields.lookup name := by
  have law : ∀ sorted name value other,
      field? (setField name value sorted) other =
        if other = name then some value else field? sorted other :=
    fun sorted name value other => field?_setField name other value sorted
  rw [sortedFields, Entries.view_foldl law nodup, field?_nil, Option.or_none]

/-- A given field whose name is given once is one of the sorted fields. -/
theorem mem_sortedFields
    (nodup : (fields.map Prod.fst).Nodup)
    {entry : String × Json}
    (member : entry ∈ fields) :
    entry ∈ sortedFields fields := by
  apply Entries.mem_of_lookup
  exact (field?_sortedFields nodup entry.1).trans (Entries.lookup_of_mem nodup member)

/-- Plain fields make a plain list of fields. -/
theorem fieldsArePlain_of_forall
    {depth : Nat}
    (plain : ∀ entry ∈ fields, entry.2.IsPlain depth) :
    FieldsArePlain depth fields := by
  induction fields with
  | nil => trivial
  | cons entry rest induction =>
      rw [List.forall_mem_cons] at plain
      exact ⟨plain.1, induction plain.2⟩

/-- Fields are read back exactly if each of them is. -/
theorem isSome_rereadFields?_iff :
    (rereadFields? fields).isSome ↔ ∀ entry ∈ fields, entry.2.reread?.isSome := by
  induction fields with
  | nil => simp [rereadFields?]
  | cons entry rest induction =>
      obtain ⟨name, value⟩ := entry
      rw [rereadFields?, List.forall_mem_cons, ← induction]
      cases value.reread? <;> cases rereadFields? rest <;> simp

/-- What a field is read back as is found under its name. -/
theorem field?_of_rereadFields?
    {reread : List (String × Json)}
    (read : rereadFields? fields = some reread)
    (name : String) :
    field? reread name = (field? fields name).bind reread? := by
  induction fields generalizing reread with
  | nil =>
      cases read
      rfl
  | cons entry rest induction =>
      obtain ⟨other, value⟩ := entry
      simp only [rereadFields?, Option.bind_eq_bind, Option.bind_eq_some_iff, Option.pure_def,
        Option.some.injEq] at read
      obtain ⟨kept, isKept, others, areOthers, rfl⟩ := read
      have further := induction areOthers
      simp only [field?, Entries.lookup_entry] at further ⊢
      split_ifs
      · exact isKept.symm
      · exact further

/-- The text of an object is read as its sorted fields are. -/
theorem ofText?_ofFields
    {depth : Nat}
    (within : maxDepth = depth + 1)
    (plain : ∀ entry ∈ fields, entry.2.IsPlain depth) :
    ofText? (ofFields fields).characters = (rereadFields? (sortedFields fields)).map .object := by
  have plainObject : (Json.object (sortedFields fields)).IsPlain maxDepth := by
    rw [within]
    refine ⟨Nat.succ_pos depth, ascending_sortedFields fields, fieldsArePlain_of_forall ?_⟩
    exact fun entry member => plain entry (mem_of_mem_sortedFields entry member)
  exact ofText?_characters plainObject

/-- The sorted fields are read back exactly if each given field is. -/
theorem isSome_rereadFields?_sortedFields_iff
    (nodup : (fields.map Prod.fst).Nodup) :
    (rereadFields? (sortedFields fields)).isSome ↔
      ∀ entry ∈ fields, entry.2.reread?.isSome := by
  rw [isSome_rereadFields?_iff]
  constructor
  · exact fun readable entry member => readable entry (mem_sortedFields nodup member)
  · exact fun readable entry member => readable entry (mem_of_mem_sortedFields entry member)

/-- What a given field is read back as is found under its name, and nothing else is. -/
theorem field?_of_rereadFields?_sortedFields
    (nodup : (fields.map Prod.fst).Nodup)
    {reread : List (String × Json)}
    (read : rereadFields? (sortedFields fields) = some reread)
    (name : String) :
    field? reread name = (fields.lookup name).bind reread? := by
  rw [field?_of_rereadFields? read, field?_sortedFields nodup]

/-! ## Arrays of given items -/

theorem arePlain_of_forall
    {items : List Json}
    {depth : Nat}
    (plain : ∀ item ∈ items, item.IsPlain depth) :
    ArePlain depth items := by
  induction items with
  | nil => trivial
  | cons item rest induction =>
      rw [List.forall_mem_cons] at plain
      exact ⟨plain.1, induction plain.2⟩

/-- Items are read back exactly if each of them is. -/
theorem isSome_rereadItems?_iff
    {items : List Json} :
    (rereadItems? items).isSome ↔ ∀ item ∈ items, item.reread?.isSome := by
  induction items with
  | nil => simp [rereadItems?]
  | cons item rest induction =>
      rw [rereadItems?, List.forall_mem_cons, ← induction]
      cases item.reread? <;> cases rereadItems? rest <;> simp

/-- What items are read back as, each of them is read back as. -/
theorem map_reread?_of_rereadItems?
    {items values : List Json}
    (read : rereadItems? items = some values) :
    items.map reread? = values.map some := by
  induction items generalizing values with
  | nil =>
      cases read
      rfl
  | cons item rest induction =>
      simp only [rereadItems?, Option.bind_eq_bind, Option.bind_eq_some_iff, Option.pure_def,
        Option.some.injEq] at read
      obtain ⟨value, isValue, values, areValues, rfl⟩ := read
      rw [List.map_cons, isValue, induction areValues, List.map_cons]

/-- The text of an array is read as its items are. -/
theorem ofText?_array
    {items : List Json}
    {depth : Nat}
    (within : maxDepth = depth + 1)
    (plain : ∀ item ∈ items, item.IsPlain depth) :
    ofText? (Json.array items).characters = (rereadItems? items).map .array := by
  have plainArray : (Json.array items).IsPlain maxDepth := by
    rw [within]
    exact ⟨Nat.succ_pos depth, arePlain_of_forall plain⟩
  exact ofText?_characters plainArray

end GeoTables.Json
