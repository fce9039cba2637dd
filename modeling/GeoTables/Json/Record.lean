import GeoTables.Json.Outline

/-!
# Reading records of known fields

A record of known fields is written as an object, or as an array of its fields
in their order.  In an object every field stands at most once and members of
other names are passed over without being evaluated; in an array the last
fields may be missing, but none may be added.

Fields are read by readers, functions from outlines to optional results.
-/

namespace GeoTables.Json.Outline

-- Powers are those of the core library.
attribute [local instance (high)] instPowNat

/-- The members of an object with their names. -/
def named? : List (StringText × Outline) → Option (List (String × Outline))
  | [] => some []
  | (name, member) :: rest => do
      let name ← name.value?
      return (name, member) :: (← named? rest)

/-- The known fields of an object. -/
def objectRecord?
    (names : List String)
    (members : List (StringText × Outline)) :
    Option (List (String × Outline)) := do
  let known := (← named? members).filter fun member => names.contains member.1
  if (known.map Prod.fst).Nodup then some known else none

/-- The fields of a record that is written as an object or as an array. -/
def record? (names : List String) : Outline → Option (List (String × Outline))
  | .object members => objectRecord? names members
  | .array items => if items.length ≤ names.length then some (names.zip items) else none
  | _ => none

/-- The outline of a field. -/
def field? (fields : List (String × Outline)) (name : String) : Option Outline :=
  fields.lookup name

/-- Read a field that has to be there. -/
def required?
    {α : Type}
    (fields : List (String × Outline))
    (name : String)
    (read : Outline → Option α) :
    Option α :=
  (field? fields name).bind read

/-- Read a field that stands for a given result where it is missing. -/
def optional?
    {α : Type}
    (fields : List (String × Outline))
    (name : String)
    (missing : α)
    (read : Outline → Option α) :
    Option α :=
  match field? fields name with
  | none => some missing
  | some outline => read outline

/-- The outline is null. -/
def isNull : Outline → Bool
  | .null => true
  | _ => false

/-- The outline is null or an object without members. -/
def isNullOrEmpty : Outline → Bool
  | .null | .object [] => true
  | _ => false

/-- Read a string. -/
def string? : Outline → Option String
  | .string text => text.value?
  | _ => none

/-- Read a truth value. -/
def bool? : Outline → Option Bool
  | .bool value => some value
  | _ => none

/-- Read an integer of at most `bits` bits. -/
def signed? (bits : Nat) : Outline → Option Int
  | .number text =>
      match text.value? with
      | some (.integer value) =>
          if -(2 ^ (bits - 1) : Int) ≤ value ∧ value < (2 ^ (bits - 1) : Int) then
            some value
          else
            none
      | _ => none
  | _ => none

/-- Read null as nothing and all else with a reader. -/
def nullable? {α : Type} (read : Outline → Option α) : Outline → Option (Option α)
  | .null => some none
  | outline => (read outline).map some

/-- Read the items of an array. -/
def list? {α : Type} (read : Outline → Option α) : Outline → Option (List α)
  | .array items => items.mapM read
  | _ => none

end GeoTables.Json.Outline
