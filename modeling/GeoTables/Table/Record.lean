import GeoTables.Entries
import GeoTables.Table.Basic
import GeoTables.Value.Basic

/-!
# Records

A record gives values to names, in the order in which the names were first
set.  A name that was never set has the value null.
-/

namespace GeoTables

/-- The fields of one row of a table. -/
structure Record where
  fields : List (String × Value)

namespace Record

/-- The record without fields. -/
def empty : Record := ⟨[]⟩

instance : Inhabited Record := ⟨empty⟩

/-- Set a field; a name that is set again keeps its place. -/
def set (record : Record) (name : String) (value : Value) : Record :=
  ⟨Entries.alter name (fun _ => value) record.fields⟩

/-- The record of a list of fields that are set one after the other. -/
def ofFields (fields : List (String × Value)) : Record :=
  fields.foldl (fun record field => record.set field.1 field.2) empty

/-- The value of a field. -/
def get (record : Record) (name : String) : Value :=
  (record.fields.lookup name).getD .null

@[simp]
theorem get_empty (name : String) : empty.get name = .null := rfl

@[simp]
theorem get_set
    (record : Record)
    (name other : String)
    (value : Value) :
    (record.set name value).get other =
      if other = name then value else record.get other := by
  by_cases same : other = name <;> simp [get, set, same]

/-- The values of the key columns of a table, in the order of their names. -/
def key (record : Record) (table : Table) : List Value :=
  table.keyNames.map record.get

/-- The texts of the key values with commas between them, if the table has a key. -/
def keyText? (record : Record) (table : Table) : Option String :=
  if table.keyNames.isEmpty then
    none
  else
    some (",".intercalate ((record.key table).map fun value => value.text?.getD ""))

end Record

end GeoTables
