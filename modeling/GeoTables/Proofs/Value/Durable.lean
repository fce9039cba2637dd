import GeoTables.Proofs.Calendar.RoundTrip
import GeoTables.Proofs.Geometry.Durable
import GeoTables.Proofs.Json.RoundTrip
import GeoTables.Proofs.Number.DecimalText
import GeoTables.Proofs.Outcome
import GeoTables.Value.Stored

/-!
# Values that outlive their stored form

A value that is read for a column fits the type of the column.  Its stored form
is read back as the value, except where it is a floating-point number that its
own JSON text denotes another number for, or a geometry that is not durable, or
an association with such a number in one of its keys.
-/

namespace GeoTables

/-- The number is finite, and its JSON text is read as the number itself. -/
def Binary64.IsDurable (value : Binary64) : Prop :=
  value.isFinite = true ∧ (Json.Number.float value).spelling.float? = some value

namespace Value

/-! ## Values that fit a column -/

/-- A value that a JSON scalar is taken for as it is. -/
inductive IsScalar : Value → Prop where
  | null : IsScalar .null
  | bool (value : Bool) : IsScalar (.bool value)
  | int {value : Int} (fits : Json.Number.fitsSigned value = true) : IsScalar (.int value)
  | float (value : Binary64) : IsScalar (.float value)
  | string (text : String) : IsScalar (.string text)

theorem isScalar_scalar (json : Json) : (scalar json).IsScalar := by
  cases json with
  | null => exact .null
  | bool value => exact .bool value
  | string text => exact .string text
  | array items => exact .string _
  | object fields => exact .string _
  | number number =>
      cases number with
      | float value => exact .float value
      | integer value =>
          rw [scalar, Json.Number.signed?]
          split_ifs with fits
          · exact .int fits
          · exact .float _

theorem isScalar_of_mem_keyOf
    {json : Json}
    {component : Value}
    (member : component ∈ keyOf json) :
    component.IsScalar := by
  unfold keyOf at member
  split at member
  · obtain ⟨part, _, rfl⟩ := List.mem_map.mp member
    exact isScalar_scalar part
  · rw [List.mem_singleton.mp member]
    exact isScalar_scalar json

/-- A value of the type that a column has. -/
inductive Fits (column : Column) : Value → Prop where
  | null : Fits column .null
  | association
      {keys : List (List Value)}
      (related : column.isRelationship = true)
      (scalars : ∀ key ∈ keys, ∀ component ∈ key, component.IsScalar) :
      Fits column (.association keys)
  | geometry
      {value : Geometry}
      (own : column.isRelationship = false)
      (geometric : column.isGeometry = true) :
      Fits column (.geometry value)
  | bool {value : Bool} (own : column.isRelationship = false) (type : column.type = .boolean) :
      Fits column (.bool value)
  | int
      {value : Int}
      (own : column.isRelationship = false)
      (type : column.type = .integer)
      (fits : Json.Number.fitsSigned value = true) :
      Fits column (.int value)
  | decimal
      {value : Decimal}
      (own : column.isRelationship = false)
      (type : column.type = .float)
      (exact_ : column.isExact = true) :
      Fits column (.decimal value)
  | float
      {value : Binary64}
      (own : column.isRelationship = false)
      (type : column.type = .float)
      (inexact : column.isExact = false) :
      Fits column (.float value)
  | string {text : String} (own : column.isRelationship = false) (type : column.type = .string) :
      Fits column (.string text)
  | date {value : Date} (own : column.isRelationship = false) (type : column.type = .date) :
      Fits column (.date value)
  | dateTime
      {value : DateTime}
      (own : column.isRelationship = false)
      (type : column.type = .dateTime) :
      Fits column (.dateTime value)
  | time {value : TimeOfDay} (own : column.isRelationship = false) (type : column.type = .time) :
      Fits column (.time value)
  | unknown
      {value : Value}
      (own : column.isRelationship = false)
      (type : column.type = .unknown)
      (isScalar : value.IsScalar) :
      Fits column value

/-- An integer that a JSON value stands for has 64 bits. -/
theorem fitsSigned_of_intOf
    {json : Json}
    {value : Int}
    (read : intOf json = .ok value) :
    Json.Number.fitsSigned value = true := by
  unfold intOf at read
  split at read
  · rename_i number
    split at read
    · rename_i other found
      cases read
      rcases (Option.orElse_eq_some _ _ _).mp found with own | ⟨_, rounded⟩
      · cases number with
        | float _ => cases own
        | integer _ =>
            rw [Json.Number.signed?] at own
            split_ifs at own with fits
            cases own
            exact fits
      · have bounded : value.natAbs < 2 ^ 63 := by
          simpa using (Option.filter_eq_some_iff.mp rounded).2
        simp only [Json.Number.fitsSigned, Bool.and_eq_true, decide_eq_true_eq]
        omega
    · cases read
  · split at read
    · rename_i other found
      cases read
      exact (Option.filter_eq_some_iff.mp found).2
    · cases read
  · cases read

theorem fits_of_ofScalar
    {column : Column}
    {json : Json}
    {value : Value}
    (own : column.isRelationship = false)
    (read : ofScalar column.type column.isExact json = .ok value) :
    Fits column value := by
  unfold ofScalar at read
  cases type : column.type <;> simp only [type, Outcome.map_eq_ok] at read
  case boolean =>
    obtain ⟨_, _, rfl⟩ := read
    exact .bool own type
  case integer =>
    obtain ⟨_, found, rfl⟩ := read
    exact .int own type (fitsSigned_of_intOf found)
  case float =>
    split_ifs at read with inexact
    · obtain ⟨_, _, rfl⟩ := Outcome.map_eq_ok.mp read
      exact .decimal own type inexact
    · obtain ⟨_, _, rfl⟩ := Outcome.map_eq_ok.mp read
      exact .float own type (by simpa using inexact)
  case string =>
    cases read
    exact .string own type
  case date =>
    obtain ⟨_, _, rfl⟩ := read
    exact .date own type
  case dateTime =>
    obtain ⟨_, _, rfl⟩ := read
    exact .dateTime own type
  case time =>
    obtain ⟨_, _, rfl⟩ := read
    exact .time own type
  case geometry => cases read
  case unknown =>
    cases read
    exact .unknown own type (isScalar_scalar json)

/-- A value that is read from an operand fits a column of the table itself. -/
theorem fits_of_coerce
    {column : Column}
    {json : Json}
    {value : Value}
    (own : column.isRelationship = false)
    (read : coerce column json = .ok value) :
    Fits column value := by
  unfold coerce at read
  split_ifs at read
  · cases read
    exact .null
  · exact fits_of_ofScalar own read

/-- A value that is read from a text fits a column of the table itself. -/
theorem fits_of_coerceText
    {column : Column}
    {text : String}
    {value : Value}
    (own : column.isRelationship = false)
    (read : coerceText column text = .ok value) :
    Fits column value := by
  unfold coerceText at read
  split at read
  · rename_i type
    cases read
    exact .string own type
  · rename_i type
    cases read
    exact .unknown own type (.string text)
  · exact fits_of_coerce own read

/-- A value that is read for a column fits the column. -/
theorem fits_of_ofStored
    {column : Column}
    {json : Json}
    {value : Value}
    (read : ofStored column json = .ok value) :
    Fits column value := by
  unfold ofStored at read
  split_ifs at read with isNull related geometric
  · cases read
    exact .null
  · split at read
    · cases read
      refine .association related ?_
      intro key isKey component isComponent
      obtain ⟨source, _, rfl⟩ := List.mem_map.mp isKey
      exact isScalar_of_mem_keyOf isComponent
    · cases read
  · obtain ⟨_, _, rfl⟩ := Outcome.map_eq_ok.mp read
    exact .geometry (by simpa using related) geometric
  · exact fits_of_coerce (by simpa using related) read

/-! ## Stored forms that can be written -/

theorem isPlain_ofBinary64
    (value : Binary64)
    (depth : Nat) :
    (Json.ofBinary64 value).IsPlain depth := by
  rw [Json.ofBinary64]
  split_ifs with finite
  · exact finite
  · trivial

theorem IsScalar.isPlain
    {value : Value}
    (isScalar : value.IsScalar)
    (depth : Nat) :
    value.toStored.IsPlain depth := by
  cases isScalar with
  | float number => exact isPlain_ofBinary64 number depth
  | _ => trivial

theorem arePlain_storedKey
    {key : List Value}
    (scalars : ∀ component ∈ key, component.IsScalar)
    (depth : Nat) :
    Json.ArePlain depth (storedKey key) := by
  induction key with
  | nil => trivial
  | cons component rest induction =>
      rw [List.forall_mem_cons] at scalars
      exact ⟨scalars.1.isPlain depth, induction scalars.2⟩

theorem arePlain_storedKeys
    {keys : List (List Value)}
    (scalars : ∀ key ∈ keys, ∀ component ∈ key, component.IsScalar)
    (depth : Nat) :
    Json.ArePlain (depth + 1) (storedKeys keys) := by
  induction keys with
  | nil => trivial
  | cons key rest induction =>
      rw [List.forall_mem_cons] at scalars
      exact ⟨⟨Nat.succ_pos depth, arePlain_storedKey scalars.1 _⟩, induction scalars.2⟩

/-- The stored form of a value that fits a column nests at most two arrays. -/
theorem Fits.isPlain
    {column : Column}
    {value : Value}
    (fits : Fits column value)
    (depth : Nat) :
    value.toStored.IsPlain (depth + 2) := by
  cases fits with
  | association _ scalars => exact ⟨Nat.succ_pos _, arePlain_storedKeys scalars depth⟩
  | float => exact isPlain_ofBinary64 _ _
  | unknown _ _ isScalar => exact isScalar.isPlain _
  | _ => trivial

/-! ## Reading stored forms -/

/-- The stored form of the value is read back, for the column, as the value. -/
def ReadsBack (column : Column) (value : Value) : Prop :=
  ∃ json, value.toStored.reread? = some json ∧ ofStored column json = .ok value

/-- What the stored form of a value that is read back is read as is the value. -/
theorem ReadsBack.eq_of_ofStored
    {column : Column}
    {value found : Value}
    {json : Json}
    (back : value.ReadsBack column)
    (isJson : value.toStored.reread? = some json)
    (read : ofStored column json = .ok found) :
    found = value := by
  obtain ⟨other, isOther, isValue⟩ := back
  cases isJson.symm.trans isOther
  exact Except.ok.inj (read.symm.trans isValue)

/-- If the value is a number with a fraction, it is durable. -/
def HasDurableNumber : Value → Prop
  | .float value => value.IsDurable
  | _ => True

/-- The value outlives its stored form. -/
def IsDurable : Value → Prop
  | .float value => value.IsDurable
  | .geometry value => value.IsDurable
  | .association keys => ∀ key ∈ keys, ∀ component ∈ key, component.HasDurableNumber
  | _ => True

/-- What the stored form of a floating-point number is read as. -/
theorem exists_reread?_ofBinary64_iff
    {value : Binary64}
    {comesBack : Json → Prop}
    (numbers : ∀ other, comesBack (.number (.float other)) ↔ other = value)
    (null : ¬comesBack .null) :
    (∃ json, (Json.ofBinary64 value).reread? = some json ∧ comesBack json) ↔
      value.IsDurable := by
  rw [Json.ofBinary64, Binary64.IsDurable]
  split_ifs with finite
  · rw [Json.reread?, Json.Number.reread?_float]
    simp [finite, numbers, and_comm]
  · simp [finite, null, Json.reread?]

/-- An integer of 64 bits is read back from its stored form. -/
theorem reread?_ofInt
    {value : Int}
    (fits : Json.Number.fitsSigned value = true) :
    (Json.ofInt value).reread? = some (Json.ofInt value) := by
  simp only [Json.Number.fitsSigned, Bool.and_eq_true, decide_eq_true_eq] at fits
  rw [Json.ofInt, Json.reread?, Json.Number.reread?_integer fits.1 (by omega)]
  rfl

theorem signed?_of_fitsSigned
    {value : Int}
    (fits : Json.Number.fitsSigned value = true) :
    (Json.Number.integer value).signed? = some value := by
  rw [Json.Number.signed?, if_pos fits]

/-- A scalar is taken from its stored form exactly if its number is durable. -/
theorem IsScalar.exists_reread?_iff
    {value : Value}
    (isScalar : value.IsScalar) :
    (∃ json, value.toStored.reread? = some json ∧ scalar json = value) ↔
      value.HasDurableNumber := by
  cases isScalar with
  | null => exact iff_of_true ⟨.null, rfl, rfl⟩ trivial
  | bool value => exact iff_of_true ⟨.bool value, rfl, rfl⟩ trivial
  | string text => exact iff_of_true ⟨.string text, rfl, rfl⟩ trivial
  | float number =>
      apply exists_reread?_ofBinary64_iff
      · intro other
        exact ⟨fun same => by cases same; rfl, fun same => by rw [same]; rfl⟩
      · nofun
  | int fits =>
      refine iff_of_true ⟨_, reread?_ofInt fits, ?_⟩ trivial
      rw [Json.ofInt, scalar, signed?_of_fitsSigned fits]

theorem exists_rereadItems?_storedKey_iff
    {key : List Value}
    (scalars : ∀ component ∈ key, component.IsScalar) :
    (∃ parts, Json.rereadItems? (storedKey key) = some parts ∧ parts.map scalar = key) ↔
      ∀ component ∈ key, component.HasDurableNumber := by
  induction key with
  | nil => simp [storedKey, Json.rereadItems?]
  | cons component rest induction =>
      rw [List.forall_mem_cons] at scalars
      rw [List.forall_mem_cons, ← scalars.1.exists_reread?_iff, ← induction scalars.2]
      simp only [storedKey, Json.rereadItems?, Option.bind_eq_bind, Option.bind_eq_some_iff,
        Option.pure_def, Option.some.injEq]
      constructor
      · rintro ⟨_, ⟨part, isPart, parts, areParts, rfl⟩, same⟩
        obtain ⟨first, others⟩ := List.cons.inj same
        exact ⟨⟨part, isPart, first⟩, parts, areParts, others⟩
      · rintro ⟨⟨part, isPart, first⟩, parts, areParts, others⟩
        exact ⟨_, ⟨part, isPart, parts, areParts, rfl⟩, by rw [List.map_cons, first, others]⟩

/-- The keys of an association are read back exactly if their numbers are durable. -/
theorem exists_rereadItems?_storedKeys_iff
    {keys : List (List Value)}
    (scalars : ∀ key ∈ keys, ∀ component ∈ key, component.IsScalar) :
    (∃ members, Json.rereadItems? (storedKeys keys) = some members ∧ members.map keyOf = keys) ↔
      ∀ key ∈ keys, ∀ component ∈ key, component.HasDurableNumber := by
  induction keys with
  | nil => simp [storedKeys, Json.rereadItems?]
  | cons key rest induction =>
      rw [List.forall_mem_cons] at scalars
      rw [List.forall_mem_cons, ← exists_rereadItems?_storedKey_iff scalars.1,
        ← induction scalars.2]
      simp only [storedKeys, Json.rereadItems?, Json.reread?, Option.bind_eq_bind,
        Option.bind_eq_some_iff, Option.map_eq_some_iff, Option.pure_def, Option.some.injEq]
      constructor
      · rintro ⟨_, ⟨_, ⟨parts, areParts, rfl⟩, members, areMembers, rfl⟩, same⟩
        obtain ⟨first, others⟩ := List.cons.inj same
        exact ⟨⟨parts, areParts, first⟩, members, areMembers, others⟩
      · rintro ⟨⟨parts, areParts, first⟩, members, areMembers, others⟩
        refine ⟨_, ⟨_, ⟨parts, areParts, rfl⟩, members, areMembers, rfl⟩, ?_⟩
        rw [List.map_cons, others]
        exact congrArg (· :: rest) first

section

variable {column : Column}

/-! ## Texts of exact numbers, dates and times -/

theorem decimalOf_text (number : Decimal) :
    decimalOf (.string (String.ofList number.text)) = .ok number := by
  rw [decimalOf, String.toList_ofList, number.visible_text.trim_eq, decimalOfText,
    number.ofText?_text]

/-- An exact number is read from its text, on a column of exact numbers. -/
theorem ofScalar_decimalText
    {value : Decimal}
    (exact_ : column.isExact = true) :
    ofScalar .float column.isExact (.string (String.ofList value.text)) =
      .ok (.decimal value) := by
  rw [exact_, ofScalar, if_pos rfl, decimalOf_text]
  rfl

/-- A date is read from its text. -/
theorem ofScalar_dateText (value : Date) (isExact : Bool) :
    ofScalar .date isExact (.string (String.ofList value.text)) = .ok (.date value) := by
  rw [ofScalar, readText, String.toList_ofList, Calendar.ofText_dateText]
  rfl

/-- A date with a time is read from its text. -/
theorem ofScalar_dateTimeText (value : DateTime) (isExact : Bool) :
    ofScalar .dateTime isExact (.string (String.ofList value.text)) = .ok (.dateTime value) := by
  rw [ofScalar, readText, String.toList_ofList, Calendar.ofText_dateTimeText]
  rfl

/-- A time of day is read from its text. -/
theorem ofScalar_timeText (value : TimeOfDay) (isExact : Bool) :
    ofScalar .time isExact (.string (String.ofList value.text)) = .ok (.time value) := by
  rw [ofScalar, readText, String.toList_ofList, Calendar.ofText_timeText]
  rfl

/-! ## Values that are read back -/

/-- On a column of scalars a scalar that is not null is read by its type. -/
theorem ofStored_eq_ofScalar
    {json : Json}
    {type : LogicalType}
    (own : column.isRelationship = false)
    (isType : column.type = type)
    (plain : type.isGeometry = false)
    (present : json.isNull = false)
    (flat : isNested json = false) :
    ofStored column json = ofScalar type column.isExact json := by
  subst isType
  have notGeometric : column.isGeometry = false := plain
  simp [ofStored, coerce, own, notGeometric, present, flat]

/-- What the stored form of a durable value is read as makes it come back. -/
theorem readsBack_iff_of_ofScalar
    {value : Value}
    {json : Json}
    {type : LogicalType}
    (own : column.isRelationship = false)
    (isType : column.type = type)
    (plain : type.isGeometry = false)
    (stored : value.toStored.reread? = some json)
    (present : json.isNull = false)
    (flat : isNested json = false)
    (read : ofScalar type column.isExact json = .ok value)
    (durable : value.IsDurable) :
    value.ReadsBack column ↔ value.IsDurable := by
  refine iff_of_true ⟨json, stored, ?_⟩ durable
  rw [ofStored_eq_ofScalar own isType plain present flat, read]

/-- An integer comes back in a column that takes integers as they are. -/
theorem readsBack_int_iff
    {value : Int}
    {type : LogicalType}
    (own : column.isRelationship = false)
    (isType : column.type = type)
    (plain : type.isGeometry = false)
    (fits : Json.Number.fitsSigned value = true)
    (read : ofScalar type column.isExact (.ofInt value) = .ok (.int value)) :
    (Value.int value).ReadsBack column ↔ (Value.int value).IsDurable := by
  have stored : (Value.int value).toStored.reread? = some (Json.ofInt value) :=
    reread?_ofInt fits
  exact readsBack_iff_of_ofScalar own isType plain stored rfl rfl read trivial

/-- On a column of geometries a text is read as the geometry it holds. -/
theorem ofStored_of_ofText
    {text : String}
    {located : LocatedGeometry}
    (own : column.isRelationship = false)
    (geometric : column.isGeometry = true)
    (read : LocatedGeometry.ofText text = .ok located) :
    ofStored column (.string text) = .ok (.geometry located.geometry) := by
  simp [ofStored, own, geometric, Json.isNull, storedGeometry, read]

/-- A number comes back in a column that takes numbers as they are if it is durable. -/
theorem readsBack_float_iff
    {value : Binary64}
    {type : LogicalType}
    (own : column.isRelationship = false)
    (isType : column.type = type)
    (plain : type.isGeometry = false)
    (read : ∀ other,
      ofScalar type column.isExact (.number (.float other)) = .ok (.float other)) :
    (Value.float value).ReadsBack column ↔ value.IsDurable := by
  apply exists_reread?_ofBinary64_iff
  · intro other
    rw [ofStored_eq_ofScalar own isType plain rfl rfl, read]
    simp
  · rintro ⟨⟩

/-- A geometry comes back from its text if that is read as the geometry. -/
theorem readsBack_geometry_iff
    {value : Geometry}
    (own : column.isRelationship = false)
    (geometric : column.isGeometry = true) :
    (Value.geometry value).ReadsBack column ↔ value.IsDurable := by
  rw [← Geometry.reread?_eq_some_self_iff]
  have read := LocatedGeometry.ofText_wkt value
  have stored :
      (Value.geometry value).ReadsBack column ↔
        (storedGeometry (.string value.wkt)).map Value.geometry = .ok (.geometry value) := by
    simp [ReadsBack, toStored, Json.reread?, ofStored, own, geometric, Json.isNull]
  rw [stored, storedGeometry]
  cases kept : value.reread? with
  | none =>
      rw [kept] at read
      obtain ⟨fault, fails⟩ := read
      simp [fails]
  | some other =>
      rw [kept] at read
      simp [read]

/-- A scalar comes back, in a column of a type that is not known, exactly if it is durable. -/
theorem IsScalar.readsBack_iff
    {value : Value}
    (isScalar : value.IsScalar)
    (own : column.isRelationship = false)
    (type : column.type = .unknown) :
    value.ReadsBack column ↔ value.IsDurable := by
  cases isScalar with
  | null => exact iff_of_true ⟨.null, rfl, rfl⟩ trivial
  | bool value => exact readsBack_iff_of_ofScalar own type rfl rfl rfl rfl rfl trivial
  | string text => exact readsBack_iff_of_ofScalar own type rfl rfl rfl rfl rfl trivial
  | float number => exact readsBack_float_iff own type rfl fun _ => rfl
  | int fits =>
      apply readsBack_int_iff own type rfl fits
      rw [Json.ofInt, ofScalar, scalar, signed?_of_fitsSigned fits]

/-- A value that fits a column is read back exactly if it is durable. -/
theorem Fits.readsBack_iff
    {value : Value}
    (fits : Fits column value) :
    value.ReadsBack column ↔ value.IsDurable := by
  cases fits with
  | null => exact iff_of_true ⟨.null, rfl, rfl⟩ trivial
  | association related scalars =>
      rw [IsDurable, ← exists_rereadItems?_storedKeys_iff scalars]
      simp [ReadsBack, toStored, Json.reread?, ofStored, related, Json.isNull]
  | geometry own geometric => exact readsBack_geometry_iff own geometric
  | bool own type => exact readsBack_iff_of_ofScalar own type rfl rfl rfl rfl rfl trivial
  | int own type fits =>
      apply readsBack_int_iff own type rfl fits
      rw [Json.ofInt, ofScalar, intOf, signed?_of_fitsSigned fits]
      rfl
  | decimal own type exact_ =>
      exact readsBack_iff_of_ofScalar own type rfl rfl rfl rfl (ofScalar_decimalText exact_)
        trivial
  | float own type inexact =>
      apply readsBack_float_iff own type rfl
      intro other
      rw [inexact]
      rfl
  | string own type => exact readsBack_iff_of_ofScalar own type rfl rfl rfl rfl rfl trivial
  | date own type =>
      exact readsBack_iff_of_ofScalar own type rfl rfl rfl rfl (ofScalar_dateText _ _) trivial
  | dateTime own type =>
      exact readsBack_iff_of_ofScalar own type rfl rfl rfl rfl (ofScalar_dateTimeText _ _)
        trivial
  | time own type =>
      exact readsBack_iff_of_ofScalar own type rfl rfl rfl rfl (ofScalar_timeText _ _) trivial
  | unknown own type isScalar => exact isScalar.readsBack_iff own type

/-- Values are durable in all columns but those of geometries, of relationships, of inexact
numbers and of no known type. -/
theorem Fits.isDurable
    {value : Value}
    (fits : Fits column value)
    (own : column.isRelationship = false)
    (plain : column.isGeometry = false)
    (known : column.type ≠ .unknown)
    (counted : column.type = .float → column.isExact = true) :
    value.IsDurable := by
  cases fits with
  | association related _ => rw [own] at related; cases related
  | geometry _ geometric => rw [plain] at geometric; cases geometric
  | float _ type inexact => rw [counted type] at inexact; cases inexact
  | unknown _ type _ => exact absurd type known
  | _ => trivial

end

end Value

end GeoTables
