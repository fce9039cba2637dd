import GeoTables.Entries
import GeoTables.Number.Binary64

/-!
# JSON values

A number is an integer of up to 64 bits or a finite floating-point number; the
two are told apart by their spelling.  The fields of an object are kept in the
order of their names, each name once.
-/

namespace GeoTables

-- Powers are those of the core library.
attribute [local instance (high)] instPowNat

/-- A JSON number. -/
inductive Json.Number where
  | integer (value : Int)
  | float (value : Binary64)
  deriving DecidableEq, Repr

/-- A JSON value. -/
inductive Json where
  | null
  | bool (value : Bool)
  | number (value : Json.Number)
  | string (text : String)
  | array (items : List Json)
  | object (fields : List (String × Json))

namespace Json

instance : Inhabited Json := ⟨.null⟩

/-- The value of an integer. -/
def ofInt (value : Int) : Json := .number (.integer value)

/-- The value of a floating-point number, null unless it is finite. -/
def ofBinary64 (value : Binary64) : Json :=
  if value.isFinite then .number (.float value) else .null

/-- The value of a string, null if there is none. -/
def ofString? : Option String → Json
  | some text => .string text
  | none => .null

/-- The null value. -/
def isNull : Json → Bool
  | .null => true
  | _ => false

/-- The text of a string. -/
def string? : Json → Option String
  | .string text => some text
  | _ => none

/-- The value of the field of a name. -/
def field? (fields : List (String × Json)) (name : String) : Option Json :=
  fields.lookup name

/-- The value of a field of an object. -/
def get? : Json → String → Option Json
  | .object fields, name => field? fields name
  | _, _ => none

/-- Set a field among fields in the order of their names. -/
def setField
    (name : String)
    (value : Json)
    (fields : List (String × Json)) :
    List (String × Json) :=
  Entries.place (fun left right => left < right) name value fields

@[simp]
theorem field?_nil (name : String) : field? [] name = none := rfl

@[simp]
theorem field?_setField
    (name other : String)
    (value : Json)
    (fields : List (String × Json)) :
    field? (setField name value fields) other =
      if other = name then some value else field? fields other := by
  simp [field?, setField]

/-- The object of a list of fields; of fields with one name the last counts. -/
def ofFields (fields : List (String × Json)) : Json :=
  .object (fields.foldl (fun sorted field => setField field.1 field.2 sorted) [])

namespace Number

/-- The bounds of a signed integer of 64 bits. -/
def fitsSigned (value : Int) : Bool :=
  -(2 ^ (63 : Nat) : Int) ≤ value && value < (2 ^ (63 : Nat) : Int)

/-- The number as a signed integer of 64 bits, if it is spelled as one. -/
def signed? : Number → Option Int
  | .integer value => if fitsSigned value then some value else none
  | .float _ => none

/-- The number as a floating-point number. -/
def toBinary64 : Number → Binary64
  | .integer value => Binary64.ofInt value
  | .float value => value

end Number

end Json

end GeoTables
