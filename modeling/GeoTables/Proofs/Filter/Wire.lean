import GeoTables.Proofs.Filter.Reading
import GeoTables.Proofs.Json.Documents

/-!
# Filters that are written and read

A filter is written as an object that tells by its names alone whether it is a
clause or a block, and that no name marks as a wrapper.  Whatever it was read
from, a filter is therefore read back from its document, and from a body that
holds the document, bare or under the names of either wrapper.
-/

namespace GeoTables

/-- Of a record with distinct names the value has every entry. -/
theorem Json.Document.get?_record
    {entries : List (String × Document)}
    (distinct : (entries.map Prod.fst).Nodup)
    (name : String) :
    (toJson (.record entries)).get? name = (entries.lookup name).map toJson := by
  have values : entryValues entries = entries.map (Prod.map id toJson) := entryValues_eq_map
  rw [← names_entryValues] at distinct
  rw [← Entries.lookup_map, ← values]
  exact field?_sortedFields distinct name

/-- The clause can be read: it names a column and an operator, and has no null. -/
structure Clause.IsReadable (condition : Clause) : Prop where
  named : condition.Named
  present : ∀ operand, condition.operand = some operand → operand.isNull = false

namespace Filter

open Json (Document)

theorem isReadable_of_clauseOf
    {fields : List (String × Json)}
    {condition : Clause}
    (found : clauseOf fields = .ok condition) :
    condition.IsReadable := by
  refine ⟨named_of_clauseOf found, fun operand supplied => ?_⟩
  simp only [clauseOf, Outcome.bind_eq_ok, Outcome.pure_eq_ok] at found
  obtain ⟨_, _, _, _, rfl⟩ := found
  simpa using (Option.filter_eq_some_iff.mp supplied).2

/-! ## Reading documents of filters -/

theorem requiredText_of_field
    {fields : List (String × Json)}
    {field text : String}
    (found : Json.field? fields field = some (.string text))
    (present : text ≠ "") :
    requiredText fields field = .ok text := by
  rw [requiredText, found]
  simp [present]

/-- The children are those under the field `clauses`. -/
theorem childrenOf_of_field
    {fields : List (String × Json)}
    {value : Json}
    (found : Json.field? fields "clauses" = some value) :
    childrenOf fields = listOf value := by
  induction fields with
  | nil => cases found
  | cons field rest induction =>
      obtain ⟨name, own⟩ := field
      rw [Json.field?, Entries.lookup_entry] at found
      rw [childrenOf]
      by_cases same : name = "clauses"
      · rw [if_pos same.symm] at found
        rw [if_pos same, Option.some.inj found]
      · rw [if_neg (Ne.symm same)] at found
        rw [if_neg same, induction found]

/-- What stands under a name in the document of a clause. -/
theorem get?_clauseDocument
    (condition : Clause)
    (name : String) :
    (clauseDocument condition).toJson.get? name =
      if name = "column_name" then some (.string condition.column)
      else if name = "operator" then some (.string condition.operator)
      else if name = "value" then condition.operand
      else none := by
  obtain ⟨column, operator, operand⟩ := condition
  rw [clauseDocument, Document.get?_record]
  · cases operand <;>
      simp only [Option.toList, List.map_nil, List.map_cons, List.cons_append, List.nil_append,
        Entries.lookup_entry, List.lookup_nil] <;>
      split_ifs <;> rfl
  · cases operand <;> simp

/-- What stands under a name in the document of a block. -/
theorem get?_blockDocument
    (mode : String)
    (children : List Filter)
    (name : String) :
    (document (.block mode children)).toJson.get? name =
      if name = "mode" then some (.string mode)
      else if name = "clauses" then some (.array (Document.listValues (documents children)))
      else none := by
  rw [document, Document.get?_record]
  · simp only [Entries.lookup_entry, List.lookup_nil]
    split_ifs <;> rfl
  · simp

/-- An object without a mode is read as a clause. -/
theorem ofJson_of_clause
    {fields : List (String × Json)}
    {condition : Clause}
    (bare : Json.field? fields "mode" = none)
    (read : clauseOf fields = .ok condition) :
    ofJson (.object fields) = .ok (.clause condition) := by
  rw [ofJson, bare]
  dsimp only
  rw [read]
  rfl

/-- An object with a mode is read as a block of the children under `clauses`. -/
theorem ofJson_of_block
    {fields : List (String × Json)}
    {mode : String}
    {items : List Json}
    {children : List Filter}
    (isMode : Json.field? fields "mode" = some (.string mode))
    (found : Json.field? fields "clauses" = some (.array items))
    (read : itemsOf items = .ok children) :
    ofJson (.object fields) = .ok (.block mode children) := by
  rw [ofJson, isMode]
  dsimp only
  rw [childrenOf_of_field found, listOf, read]
  rfl

/-- A clause is read from fields that hold its own column, operator and operand. -/
theorem clauseOf_of_fields
    {fields : List (String × Json)}
    {condition : Clause}
    (readable : condition.IsReadable)
    (column : Json.field? fields "column_name" = some (.string condition.column))
    (operator : Json.field? fields "operator" = some (.string condition.operator))
    (operand : Json.field? fields "value" = condition.operand) :
    clauseOf fields = .ok condition := by
  obtain ⟨named, present⟩ := readable
  rw [clauseOf, requiredText_of_field column named.1, requiredText_of_field operator named.2,
    operand]
  obtain ⟨_, _, _ | operand⟩ := condition
  · rfl
  · have kept := present _ rfl
    simp only [Option.filter_some, kept]
    rfl

theorem ofJson_clauseDocument
    {condition : Clause}
    (readable : condition.IsReadable) :
    ofJson (clauseDocument condition).toJson = .ok (.clause condition) :=
  ofJson_of_clause (get?_clauseDocument condition "mode")
    (clauseOf_of_fields readable (get?_clauseDocument condition "column_name")
      (get?_clauseDocument condition "operator") (get?_clauseDocument condition "value"))

mutual

/-- A filter whose clauses can all be read is read from its document. -/
theorem ofJson_document :
    ∀ {filter : Filter},
      (∀ condition ∈ filter.clauses, condition.IsReadable) →
      ofJson filter.document.toJson = .ok filter
  | .clause condition, readable =>
      ofJson_clauseDocument (readable condition (by simp [clauses]))
  | .block mode children, readable =>
      ofJson_of_block (get?_blockDocument mode children "mode")
        (get?_blockDocument mode children "clauses")
        (itemsOf_documents (by simpa [clauses] using readable))

theorem itemsOf_documents :
    ∀ {children : List Filter},
      (∀ condition ∈ clausesOf children, condition.IsReadable) →
      itemsOf (Document.listValues (documents children)) = .ok children
  | [], _ => rfl
  | child :: rest, readable => by
      rw [clausesOf, List.forall_mem_append] at readable
      rw [documents, Document.listValues, itemsOf, ofJson_document readable.1,
        itemsOf_documents readable.2]
      rfl

end

/-! ## Reading bodies -/

/-- The documents that ask for a filter: bare, under `filter`, and under `filter.definition`. -/
def requests (filter : Filter) : List Document :=
  [filter.document,
    .record [("filter", filter.document)],
    .record [("filter", .record [("definition", filter.document)])]]

/-- No filter is written with the name of a wrapper. -/
theorem unwrap_document
    {name : String}
    (wrapper : name = "filter" ∨ name = "definition")
    (filter : Filter) :
    unwrap name filter.document.toJson = filter.document.toJson := by
  have absent : filter.document.toJson.get? name = none := by
    cases filter with
    | clause condition =>
        rw [document, get?_clauseDocument]
        rcases wrapper with rfl | rfl <;> rfl
    | block mode children =>
        rw [get?_blockDocument]
        rcases wrapper with rfl | rfl <;> rfl
  rw [unwrap, absent, Option.getD_none]

/-- What is wrapped is found under the name of the wrapper. -/
theorem unwrap_record
    (name other : String)
    (wrapped : Document) :
    unwrap name (Document.toJson (.record [(other, wrapped)])) =
      if name = other then wrapped.toJson else Document.toJson (.record [(other, wrapped)]) := by
  rw [unwrap, Document.get?_record (by simp), Entries.lookup_entry]
  split_ifs <;> rfl

theorem isNull_document (filter : Filter) : filter.document.toJson.isNull = false := by
  cases filter <;> rfl

theorem ofBodyValue_of_mem_requests
    {filter : Filter}
    {request : Document}
    (readable : ∀ condition ∈ filter.clauses, condition.IsReadable)
    (member : request ∈ filter.requests) :
    ofBodyValue request.toJson = .ok (some filter) := by
  have unwrapped :
      unwrap "definition" (unwrap "filter" request.toJson) = filter.document.toJson := by
    simp only [requests, List.mem_cons, List.not_mem_nil, or_false] at member
    rcases member with rfl | rfl | rfl
    · rw [unwrap_document (.inl rfl), unwrap_document (.inr rfl)]
    · rw [unwrap_record, if_pos rfl, unwrap_document (.inr rfl)]
    · rw [unwrap_record, if_pos rfl, unwrap_record, if_pos rfl]
  rw [ofBodyValue, unwrapped, isNull_document, ofJson_document readable]
  rfl

/-- Blanks leave the scanner where it starts, unless one of them stops it. -/
theorem eq_start_of_blank
    {text : List Char}
    {scan : Json.Scan}
    (blank : text.all isBodyBlank = true)
    (scanned : text.foldlM Json.Scan.step .start = some scan) :
    scan = .start := by
  induction text with
  | nil => exact (Option.some.inj scanned).symm
  | cons character rest induction =>
      rw [List.all_cons, Bool.and_eq_true] at blank
      rw [List.foldlM_cons] at scanned
      have step :
          Json.Scan.step .start character = some .start ∨
            Json.Scan.step .start character = none := by
        have isBlank := blank.1
        simp only [isBodyBlank, Bool.or_eq_true, beq_iff_eq] at isBlank
        rcases isBlank with (((rfl | rfl) | rfl) | rfl) | rfl <;> decide
      rcases step with stays | stops
      · rw [stays] at scanned
        exact induction blank.2 scanned
      · rw [stops] at scanned
        cases scanned

/-- A body that holds a JSON value is not blank. -/
theorem not_blank_of_ofText?
    {text : List Char}
    {value : Json}
    (read : Json.ofText? text = some value) :
    text.all isBodyBlank = false := by
  by_contra blank
  rw [Bool.not_eq_false] at blank
  simp only [Json.ofText?, Json.Outline.ofText?, Json.lexemes?, Option.bind_eq_bind,
    Option.bind_eq_some_iff] at read
  obtain ⟨outline, ⟨lexemes, ⟨scan, scanned, finished⟩, parse, parsed, ended⟩, _⟩ := read
  obtain rfl := eq_start_of_blank blank scanned
  cases finished
  cases parsed
  cases ended

theorem ofBody_of_ofText?
    {text : List Char}
    {value : Json}
    (read : Json.ofText? text = some value) :
    ofBody text = ofBodyValue value := by
  rw [ofBody, not_blank_of_ofText? read, if_neg (by decide), read]

/-! ## What was read is written and read again -/

/-- A filter that was read from a value is read again from its own document, which it is then
    written as once more; and so is the filter of every body whose text has that document for its
    value, bare or wrapped. -/
theorem wire_form_round_trips
    {json : Json}
    {filter : Filter}
    (read : ofJson json = .ok filter) :
    ofJson filter.document.toJson = .ok filter ∧
      (ofJson filter.document.toJson).map document = .ok filter.document ∧
      ∀ request ∈ filter.requests, ∀ text, Json.ofText? text = some request.toJson →
        ofBody text = .ok (some filter) ∧
          ∀ octets, Text.decodeUtf8? octets = some text →
            ofBodyOctets octets = .ok (some filter) := by
  have readable : ∀ condition ∈ filter.clauses, condition.IsReadable :=
    forall_clauses_of_ofJson isReadable_of_clauseOf read
  have again := ofJson_document readable
  refine ⟨again, by rw [again]; rfl, fun request member text written => ?_⟩
  have body : ofBody text = .ok (some filter) := by
    rw [ofBody_of_ofText? written, ofBodyValue_of_mem_requests readable member]
  refine ⟨body, fun octets decoded => ?_⟩
  rw [ofBodyOctets, decoded]
  exact body

/-- A block with fields that do not count, two of them named as wrappers are, and a clause whose
    operand is null. -/
def untidy : Json :=
  .object [
    ("clauses", .array [
      .object [("column_name", .string "id"), ("note", .bool true), ("operator", .string "NULL"),
        ("value", .null)],
      .object [("clauses", .array []), ("filter", .null), ("mode", .string "OR")]]),
    ("definition", .string "none"),
    ("mode", .string "AND")]

/-- The filter of that block, wrapped twice. -/
def tidied : Json :=
  .object [("filter", .object [("definition", .object [
    ("clauses", .array [
      .object [("column_name", .string "id"), ("operator", .string "NULL")],
      .object [("clauses", .array []), ("mode", .string "OR")]]),
    ("mode", .string "AND")])])]

theorem wire_form_round_trips_untidy :
    ∃ filter,
      ofJson untidy = .ok filter ∧
      ofBodyOctets (Text.encodeUtf8 tidied.characters) = .ok (some filter) := by
  have read : ofJson untidy = .ok (.block "AND" [.clause ⟨"id", "NULL", none⟩, .block "OR" []]) :=
    rfl
  have plain : tidied.IsPlain Json.maxDepth := by
    simp [tidied, Json.IsPlain, Json.FieldsArePlain, Json.ArePlain]
    decide
  have written : Json.ofText? tidied.characters = some tidied := by
    rw [Json.ofText?_characters plain]
    rfl
  have decoded : Text.decodeUtf8? (Text.encodeUtf8 tidied.characters) = some tidied.characters := by
    decide +kernel
  obtain ⟨_, _, bodies⟩ := wire_form_round_trips read
  have wrapped := bodies _ (.tail _ (.tail _ (.head _)))
  exact ⟨_, read, (wrapped _ written).2 _ decoded⟩

end Filter

end GeoTables
