import GeoTables.Proofs.Value.Comparison

/-!
# Types whose values have one spelling

Of the values of most types two are equal only if they are the same value, so
that they are stored as the same text.  Exact numbers are equal whatever their
scales are, zero is equal to negative zero, and so are points with these
ordinates: a column of numbers with a fraction, of geometries or of scalars of
any kind has values that are equal and stored as different texts.
-/

namespace GeoTables

/-- Values of the type are equal only if they are the same. -/
def LogicalType.HasOneSpelling : LogicalType → Bool
  | .boolean | .integer | .string | .date | .dateTime | .time => true
  | .float | .geometry _ | .unknown => false

namespace Value

variable {column : Column}

/-- Two values of a type with one spelling are equal exactly if they are the same. -/
theorem Fits.equal_iff_eq
    {left right : Value}
    (leftFits : left.Fits column)
    (rightFits : right.Fits column)
    (own : column.isRelationship = false)
    (single : column.type.HasOneSpelling = true) :
    left.equal right = true ↔ left = right := by
  have plain : column.isGeometry = false := by
    cases type : column.type <;>
      simp_all [LogicalType.HasOneSpelling, Column.isGeometry, LogicalType.isGeometry]
  cases leftFits with
  | null => cases rightFits <;> simp_all [equal, same, isNumber, LogicalType.HasOneSpelling]
  | association related => simp [own] at related
  | geometry _ geometric => simp [plain] at geometric
  | float _ type => simp [type, LogicalType.HasOneSpelling] at single
  | decimal _ type => simp [type, LogicalType.HasOneSpelling] at single
  | unknown _ type => simp [type, LogicalType.HasOneSpelling] at single
  | bool => cases rightFits <;> simp_all [equal, same, isNumber]
  | int => cases rightFits <;> simp_all [equal, compare?, isNumber]
  | string => cases rightFits <;> simp_all [equal, same, isNumber]
  | date => cases rightFits <;> simp_all [equal, same, isNumber]
  | dateTime => cases rightFits <;> simp_all [equal, same, isNumber]
  | time => cases rightFits <;> simp_all [equal, same, isNumber]

/-- Values of a type with one spelling outlive their stored form. -/
theorem Fits.isDurable_of_hasOneSpelling
    {value : Value}
    (fits : value.Fits column)
    (own : column.isRelationship = false)
    (single : column.type.HasOneSpelling = true) :
    value.IsDurable := by
  cases fits with
  | association related => simp [own] at related
  | geometry _ geometric =>
      cases type : column.type <;>
        simp_all [LogicalType.HasOneSpelling, Column.isGeometry, LogicalType.isGeometry]
  | float _ type => simp [type, LogicalType.HasOneSpelling] at single
  | unknown _ type => simp [type, LogicalType.HasOneSpelling] at single
  | _ => trivial

/-! ## Two spellings of one value -/

/-- Two values that are equal, and both stored and read back, but not the same. -/
structure AreSpellings (column : Column) (left right : Value) : Prop where
  leftFits : left.Fits column
  rightFits : right.Fits column
  leftDurable : left.IsDurable
  rightDurable : right.IsDurable
  different : left ≠ right
  equal : left.equal right = true
  equalBack : right.equal left = true

/-- Zero with a sign. -/
def signedZero (negative : Bool) : Binary64 := .number negative 0

theorem isDurable_signedZero (negative : Bool) : (signedZero negative).IsDurable := by
  refine ⟨rfl, ?_⟩
  cases negative <;> decide +kernel

/-- One half, written with one digit after the point. -/
def half : Decimal := ⟨5, 1, by decide +kernel, by decide⟩

/-- One half, written with three digits after the point. -/
def halfInMills : Decimal := ⟨500, 3, by decide +kernel, by decide⟩

/-- A point at the origin, its ordinates zeros with a sign. -/
def originPoint (negative : Bool) : Geometry :=
  .point ⟨signedZero negative, signedZero negative⟩

/-- One half has two spellings in a column of exact numbers. -/
theorem areSpellings_half
    (own : column.isRelationship = false)
    (type : column.type = .float)
    (exact_ : column.isExact = true) :
    AreSpellings column (.decimal half) (.decimal halfInMills) where
  leftFits := .decimal own type exact_
  rightFits := .decimal own type exact_
  leftDurable := trivial
  rightDurable := trivial
  different := by simp [half, halfInMills]
  equal := rfl
  equalBack := rfl

/-- A column of any other type has values with two spellings. -/
theorem exists_spellings
    (own : column.isRelationship = false)
    (several : column.type.HasOneSpelling = false) :
    ∃ left right, AreSpellings column left right := by
  cases type : column.type with
  | float =>
      cases exact_ : column.isExact with
      | true => exact ⟨_, _, areSpellings_half own type exact_⟩
      | false =>
          refine ⟨.float (signedZero false), .float (signedZero true), ?_⟩
          exact ⟨.float own type exact_, .float own type exact_, isDurable_signedZero false,
            isDurable_signedZero true, by simp [signedZero], rfl, rfl⟩
  | geometry kind =>
      have geometric : column.isGeometry = true := by
        rw [Column.isGeometry, type, LogicalType.isGeometry]
      refine ⟨.geometry (originPoint false), .geometry (originPoint true), ?_⟩
      exact ⟨.geometry own geometric, .geometry own geometric, ⟨.inl rfl, .inl rfl⟩,
        ⟨.inl rfl, .inl rfl⟩, by simp [originPoint, signedZero], rfl, rfl⟩
  | unknown =>
      refine ⟨.float (signedZero false), .float (signedZero true), ?_⟩
      exact ⟨.unknown own type (.float _), .unknown own type (.float _),
        isDurable_signedZero false, isDurable_signedZero true, by simp [signedZero], rfl, rfl⟩
  | _ => simp [type, LogicalType.HasOneSpelling] at several

end Value

end GeoTables
