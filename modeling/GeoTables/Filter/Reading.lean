import GeoTables.Filter.Basic
import GeoTables.Json.Outline
import GeoTables.Text.Utf8

/-!
# Reading filters

A block is an object with the field `mode`, and every other object is a
clause.  Fields of other names do not count.  In a clause the names of the
column and the operator have to be there and may not be empty; a null operand
is one that is not there.

The body of a request holds a filter, bare or under `filter`, `definition` or
both.  A blank body, or null in place of the filter, asks for no filter.
-/

namespace GeoTables

/-- Why a body holds no filter. -/
inductive FilterFault where
  | notJson
  | notAnObject (found : Json)
  | modeNotText
  | clausesNotAList
  | missing (field : String)
  | notText (field : String) (found : Json)

namespace FilterFault

/-- The wording of a fault. -/
def message : FilterFault → String
  | .notJson => "invalid JSON"
  | .notAnObject found => "invalid filter: expected an object, got " ++ found.text
  | .modeNotText => "invalid filter: mode must be a string"
  | .clausesNotAList => "invalid filter: clauses must be an array"
  | .missing field => "somewhere in the filter the " ++ field ++ " is missing"
  | .notText field found =>
      "invalid filter: " ++ field ++ " must be a string, got " ++ found.text

end FilterFault

namespace Filter

/-- The text of a field that may be neither missing nor empty. -/
def requiredText (fields : List (String × Json)) (field : String) : Except FilterFault String :=
  match Json.field? fields field with
  | none | some .null => .error (.missing field)
  | some (.string text) => if text.isEmpty then .error (.missing field) else .ok text
  | some found => .error (.notText field found)

/-- The clause of the fields of an object. -/
def clauseOf (fields : List (String × Json)) : Except FilterFault Clause := do
  let column ← requiredText fields "column_name"
  let operator ← requiredText fields "operator"
  return {
    column := column
    operator := operator
    operand := (Json.field? fields "value").filter fun operand => !operand.isNull }

mutual

/-- The filter of a JSON value. -/
def ofJson : Json → Except FilterFault Filter
  | .object fields =>
      match Json.field? fields "mode" with
      | some (.string mode) => (childrenOf fields).map (.block mode)
      | some _ => .error .modeNotText
      | none => (clauseOf fields).map .clause
  | found => .error (.notAnObject found)

/-- The filters under the field `clauses`. -/
def childrenOf : List (String × Json) → Except FilterFault (List Filter)
  | [] => .error (.missing "clauses")
  | (name, value) :: rest => if name = "clauses" then listOf value else childrenOf rest

/-- The filters of the items of an array. -/
def listOf : Json → Except FilterFault (List Filter)
  | .array items => itemsOf items
  | _ => .error .clausesNotAList

/-- The filters of a list of JSON values. -/
def itemsOf : List Json → Except FilterFault (List Filter)
  | [] => .ok []
  | item :: rest => do
      let child ← ofJson item
      return child :: (← itemsOf rest)

end

/-- The value of a field, or the value itself if it has no such field. -/
def unwrap (name : String) (value : Json) : Json :=
  (value.get? name).getD value

/-- The filter in the value of a body. -/
def ofBodyValue (value : Json) : Except FilterFault (Option Filter) :=
  let inner := unwrap "definition" (unwrap "filter" value)
  if inner.isNull then .ok none else (ofJson inner).map some

/-- A character that may stand in a body without a filter. -/
def isBodyBlank (character : Char) : Bool :=
  character == ' ' || character == '\t' || character == '\n' || character == '\x0c'
    || character == '\r'

/-- The filter in the body of a request. -/
def ofBody (body : List Char) : Except FilterFault (Option Filter) :=
  if body.all isBodyBlank then
    .ok none
  else
    match Json.ofText? body with
    | some value => ofBodyValue value
    | none => .error .notJson

/-- The filter in a body that is given as octets, which are to be UTF-8. -/
def ofBodyOctets (body : List UInt8) : Except FilterFault (Option Filter) :=
  match Text.decodeUtf8? body with
  | some text => ofBody text
  | none => .error .notJson

end Filter

end GeoTables
