import GeoTables.Json.Lexeme

/-!
# Outlines of JSON texts

An outline is what the grammar alone says about a text: its nesting, with
members of objects in the order in which they are written and names repeated
as they are.  Numbers and strings are not evaluated yet, so a text can have an
outline although one of its numbers is out of range.

Readers that look for certain members only evaluate those, and so accept texts
whose other members have no value.
-/

namespace GeoTables.Json

/-- The nesting of a JSON text. -/
inductive Outline where
  | null
  | bool (value : Bool)
  | number (text : NumberText)
  | string (text : StringText)
  | array (items : List Outline)
  | object (members : List (StringText × Outline))

namespace Outline

instance : Inhabited Outline := ⟨.null⟩

/-- An array or object that is not closed yet; its parts are reversed. -/
inductive Frame where
  | array (items : List Outline)
  | object (members : List (StringText × Outline)) (key : StringText)

/-- What may come next, within the open arrays and objects. -/
inductive Parse where
  | value (frames : List Frame)
  | firstItem (frames : List Frame)
  | firstName (frames : List Frame)
  | name (frames : List Frame) (members : List (StringText × Outline))
  | colon
      (frames : List Frame)
      (members : List (StringText × Outline))
      (key : StringText)
  | after (frames : List Frame) (outline : Outline)

namespace Parse

/-- Take the first lexeme of a value. -/
def begin (frames : List Frame) : Lexeme → Option Parse
  | .null => some (.after frames .null)
  | .bool truth => some (.after frames (.bool truth))
  | .number text => some (.after frames (.number text))
  | .string text => some (.after frames (.string text))
  | .openArray => some (.firstItem frames)
  | .openObject => some (.firstName frames)
  | _ => none

/-- Take the lexeme after a value. -/
def proceed (frames : List Frame) (outline : Outline) (lexeme : Lexeme) : Option Parse :=
  match frames, lexeme with
  | .array items :: rest, .comma => some (.value (.array (outline :: items) :: rest))
  | .array items :: rest, .closeArray =>
      some (.after rest (.array (outline :: items).reverse))
  | .object members key :: rest, .comma =>
      some (.name rest ((key, outline) :: members))
  | .object members key :: rest, .closeObject =>
      some (.after rest (.object ((key, outline) :: members).reverse))
  | _, _ => none

/-- Take one lexeme. -/
def step (parse : Parse) (lexeme : Lexeme) : Option Parse :=
  match parse with
  | .value frames => begin frames lexeme
  | .firstItem frames =>
      match lexeme with
      | .closeArray => some (.after frames (.array []))
      | _ => begin (.array [] :: frames) lexeme
  | .firstName frames =>
      match lexeme with
      | .closeObject => some (.after frames (.object []))
      | .string text => some (.colon frames [] text)
      | _ => none
  | .name frames members =>
      match lexeme with
      | .string text => some (.colon frames members text)
      | _ => none
  | .colon frames members text =>
      match lexeme with
      | .colon => some (.value (.object members text :: frames))
      | _ => none
  | .after frames outline => proceed frames outline lexeme

/-- The outline of a text that has been taken as a whole. -/
def finish : Parse → Option Outline
  | .after [] outline => some outline
  | _ => none

end Parse

/-- The outline of a text. -/
def ofText? (text : List Char) : Option Outline := do
  let lexemes ← lexemes? text
  (← lexemes.foldlM Parse.step (.value [])).finish

end Outline

/-! ## Evaluation -/

/-- The first unit of a pair. -/
def isHighUnit (unit : Nat) : Bool := 0xD800 ≤ unit && unit ≤ 0xDBFF

/-- The second unit of a pair. -/
def isLowUnit (unit : Nat) : Bool := 0xDC00 ≤ unit && unit ≤ 0xDFFF

/-- The characters of a string, unless one of its units lacks its partner. -/
def decodeString : StringText → Option (List Char)
  | [] => some []
  | .plain character :: rest => (decodeString rest).map (character :: ·)
  | [.escaped unit] =>
      if isHighUnit unit || isLowUnit unit then none else some [Char.ofNat unit]
  | .escaped unit :: .plain character :: rest =>
      if isHighUnit unit || isLowUnit unit then
        none
      else
        (decodeString rest).map fun decoded => Char.ofNat unit :: character :: decoded
  | .escaped unit :: .escaped partner :: rest =>
      if isLowUnit unit then
        none
      else if isHighUnit unit then
        if isLowUnit partner then
          let code := 0x10000 + (unit - 0xD800) * 0x400 + (partner - 0xDC00)
          (decodeString rest).map (Char.ofNat code :: ·)
        else
          none
      else
        (decodeString (.escaped partner :: rest)).map (Char.ofNat unit :: ·)

/-- The string that a string text denotes. -/
def StringText.value? (text : StringText) : Option String :=
  (decodeString text).map String.ofList

/-- The number of arrays and objects that may lie within each other. -/
def maxDepth : Nat := 127

namespace Outline

mutual

/-- The value of an outline whose nesting is at most `depth`. -/
def value? (depth : Nat) : Outline → Option Json
  | .null => some .null
  | .bool value => some (.bool value)
  | .number text => text.value?.map .number
  | .string text => text.value?.map .string
  | .array items =>
      if depth = 0 then none else (itemValues? (depth - 1) items).map .array
  | .object members =>
      if depth = 0 then none else (memberValues? (depth - 1) members).map ofFields

/-- The values of the items of an array. -/
def itemValues? (depth : Nat) : List Outline → Option (List Json)
  | [] => some []
  | item :: rest => do
      let value ← value? depth item
      return value :: (← itemValues? depth rest)

/-- The values of the members of an object, in the order in which they are written. -/
def memberValues? (depth : Nat) : List (StringText × Outline) → Option (List (String × Json))
  | [] => some []
  | (name, member) :: rest => do
      let name ← name.value?
      let value ← value? depth member
      return (name, value) :: (← memberValues? depth rest)

end

end Outline

/-- The value of a text. -/
def ofText? (text : List Char) : Option Json := do
  (← Outline.ofText? text).value? maxDepth

/-- The value of a text given as a string. -/
def ofString (text : String) : Option Json :=
  ofText? text.toList

end GeoTables.Json
