import GeoTables.Proofs.Output.Nodes
import GeoTables.Proofs.Output.WellFormed

/-!
# The structure of XML texts

Nothing within a value breaks out of the element that is written for it.  A
plain reader of elements finds in the document of a value one element, and in
it the structure of the value: an element for each item and for each field, and
the text of each scalar as it is.  In the XML text of records it finds one item
for each record with one element for each column.
-/

namespace GeoTables

open Json (Ascending IsRegular)

namespace Xml

/-! ## The nodes of a value -/

/-- A text as the content of an element, which is empty if the text is. -/
def textNodes (characters : List Char) : List Node :=
  if characters.isEmpty then [] else [.text characters]

/-- Named contents in the order of their names. -/
def inKeyOrder {Content : Type} (members : List (String × Content)) : List (String × Content) :=
  members.mergeSort fun left right => left.1 ≤ right.1

mutual

/-- What the element for a value is to hold. -/
def nodesOf : Json → List Node
  | .null => []
  | .bool truth => textNodes (Json.bool truth).characters
  | .number number => textNodes (Json.number number).characters
  | .string text => textNodes text.toList
  | .array items => (contentsOf items).map (.element "item".toList)
  | .object fields =>
      (inKeyOrder (membersOf fields)).map fun member =>
        .element (elementName member.1) member.2

/-- What the elements for the items of an array are to hold. -/
def contentsOf : List Json → List (List Node)
  | [] => []
  | item :: rest => nodesOf item :: contentsOf rest

/-- What the elements for the fields of an object are to hold, under the names of the fields. -/
def membersOf : List (String × Json) → List (String × List Node)
  | [] => []
  | (name, value) :: rest => (name, nodesOf value) :: membersOf rest

end

theorem membersOf_eq_map (fields : List (String × Json)) :
    membersOf fields = fields.map (Prod.map id nodesOf) := by
  induction fields with
  | nil => rfl
  | cons field rest induction =>
      rw [membersOf, induction]
      rfl

/-- Names that are in order stay as they are. -/
theorem inKeyOrder_of_ascending
    {fields : List (String × Json)}
    (ascending : Ascending fields) :
    inKeyOrder (membersOf fields) = membersOf fields := by
  apply List.mergeSort_of_pairwise
  rw [membersOf_eq_map, List.pairwise_map]
  refine ascending.imp fun less => ?_
  exact decide_eq_true (Std.le_of_lt less)

/-! ## The tokens of what is written -/

theorem textTokens_eq (characters : List Char) :
    textTokens characters = nodeTokens (textNodes characters) := by
  unfold textTokens textNodes
  split_ifs <;> rfl

theorem hasTokens_escape (text : String) :
    HasTokensBeforeTag (escape text) (nodeTokens (textNodes text.toList)) := by
  rw [← textTokens_eq]
  refine .of_data fun rest => ?_
  rw [tokensFrom_escape, List.append_nil]

/-- A text that needs no escape is taken as it is. -/
theorem Plain.hasTokens
    {text : List Char}
    (plain : Plain text) :
    HasTokensBeforeTag text (nodeTokens (textNodes text)) := by
  have noReference : ∀ character ∈ text, character ≠ '&' := by
    rintro _ member rfl
    exact absurd (plain _ member) (by decide)
  rw [← textTokens_eq]
  refine .of_data fun rest => ?_
  rw [tokensFrom_data plain.ne_less noReference, List.append_nil]

/-- An element has the tokens of the node that holds those of its content. -/
theorem hasTokens_element
    {inner : List Char}
    {children : List Node}
    (name : String)
    (within : HasTokensBeforeTag inner (nodeTokens children)) :
    HasTokens (element name inner) (Node.tokens (.element (elementName name) children)) := by
  rw [element_eq, Node.tokens]
  exact within.element (ne_greater_of_mem_elementName name) (head?_elementName_ne name)

theorem elementName_item : elementName "item" = "item".toList := by
  decide +kernel

theorem elementName_root : elementName "root" = "root".toList := by
  decide +kernel

mutual

/-- What is written for a value has the tokens of what its element is to hold. -/
theorem hasTokens_content :
    ∀ {json : Json} {depth : Nat},
      json.IsPlain depth → HasTokensBeforeTag (content json) (nodeTokens (nodesOf json))
  | .null, _, _ => HasTokens.nil.beforeTag
  | .bool true, _, _ => (Plain.bool true).hasTokens
  | .bool false, _, _ => (Plain.bool false).hasTokens
  | .number number, _, _ => (Plain.number number).hasTokens
  | .string text, _, _ => hasTokens_escape text
  | .array _, _, plain => (hasTokens_itemElements plain.2).beforeTag
  | .object _, _, plain => by
      rw [nodesOf, inKeyOrder_of_ascending plain.2.1]
      exact (hasTokens_fieldElements plain.2.2).beforeTag

theorem hasTokens_itemElements :
    ∀ {items : List Json} {depth : Nat},
      Json.ArePlain depth items →
      HasTokens (itemElements items)
        (nodeTokens ((contentsOf items).map (.element "item".toList)))
  | [], _, _ => HasTokens.nil
  | _ :: _, _, plain => by
      have own := hasTokens_element "item" (hasTokens_content plain.1)
      rw [elementName_item] at own
      exact own.append (hasTokens_itemElements plain.2)

theorem hasTokens_fieldElements :
    ∀ {fields : List (String × Json)} {depth : Nat},
      Json.FieldsArePlain depth fields →
      HasTokens (fieldElements fields)
        (nodeTokens ((membersOf fields).map fun member => .element (elementName member.1) member.2))
  | [], _, _ => HasTokens.nil
  | (name, _) :: _, _, plain =>
      (hasTokens_element name (hasTokens_content plain.1)).append
        (hasTokens_fieldElements plain.2)

end

/-- The reader finds in the document of a value one element with the nodes of the value. -/
theorem nodes?_document
    {json : Json}
    (regular : json.IsRegular) :
    ∃ body,
      document json = declaration ++ body ∧
        nodes? body = some [.element "root".toList (nodesOf json)] := by
  obtain ⟨depth, plain⟩ := regular
  have has := hasTokens_element "root" (hasTokens_content plain)
  rw [elementName_root] at has
  refine ⟨element "root" (content json), rfl, nodes?_of_hasTokens ?_⟩
  rwa [nodeTokens, nodeTokens, List.append_nil]

/-! ## Rows -/

/-- The item for a row, with one element for each field in the order in which they stand. -/
def itemNode (row : List (String × Json)) : Node :=
  .element "item".toList (row.map fun field => .element (elementName field.1) (nodesOf field.2))

/-- The tokens of a row are those of its item. -/
theorem hasTokens_row
    {row : List (String × Json)}
    (regular : ∀ field ∈ row, field.2.IsRegular) :
    HasTokens (element "item" (fieldElements row)) (itemNode row).tokens := by
  obtain ⟨depth, plain⟩ := Json.exists_depth_of_regular (List.forall_mem_map.mpr regular)
  have plainRow : Json.FieldsArePlain depth row :=
    Json.fieldsArePlain_of_forall fun field member => plain field.2 (List.mem_map_of_mem member)
  have has := hasTokens_element "item" (hasTokens_fieldElements plainRow).beforeTag
  rw [elementName_item, membersOf_eq_map, List.map_map] at has
  exact has

theorem hasTokens_rows
    {rows : List (List (String × Json))}
    (regular : ∀ row ∈ rows, ∀ field ∈ row, field.2.IsRegular) :
    HasTokens (itemElements (rows.map .object)) (nodeTokens (rows.map itemNode)) := by
  induction rows with
  | nil => exact HasTokens.nil
  | cons row rest induction =>
      rw [List.forall_mem_cons] at regular
      exact (hasTokens_row regular.1).append (induction regular.2)

/-- The reader finds in a document of rows one item for each of them. -/
theorem nodes?_rows
    {rows : List (List (String × Json))}
    (regular : ∀ row ∈ rows, ∀ field ∈ row, field.2.IsRegular) :
    nodes? (element "root" (itemElements (rows.map .object))) =
      some [.element "root".toList (rows.map itemNode)] := by
  have has := hasTokens_element "root" (hasTokens_rows regular).beforeTag
  rw [elementName_root] at has
  apply nodes?_of_hasTokens
  rwa [nodeTokens, nodeTokens, List.append_nil]

end Xml

/-- The forms of a record, one for each column, and the item that shows them. -/
theorem Record.exists_forms
    {table : Table}
    {record : Record}
    {row : List (String × Json)}
    (isRow : record.formatted table table.columns = .ok row) :
    List.Forall₂
        (fun column form => (record.get column.name).formatted column.name = .ok form)
        table.columns (row.map Prod.snd) ∧
      Xml.itemNode row =
        .element "item".toList
          (List.zipWith
            (fun column form => .element (Xml.elementName column.name) (Xml.nodesOf form))
            table.columns (row.map Prod.snd)) := by
  have paired := Record.formatted_eq_ok.mp isRow
  rw [Xml.itemNode]
  clear isRow
  generalize table.columns = columns at paired ⊢
  induction paired with
  | nil => exact ⟨.nil, rfl⟩
  | @cons column field columns fields own _ induction =>
      obtain ⟨forms, nodes⟩ := induction
      refine ⟨.cons own.2 forms, ?_⟩
      simp only [Xml.Node.element.injEq, true_and] at nodes ⊢
      rw [List.map_cons, List.map_cons, List.zipWith_cons_cons, nodes, own.1]

/--
A plain reader of elements takes all of an XML text after its declaration.  In
the document of a value it finds one element with the structure of the value:
an element `item` for each item of an array, an element for each field of an
object in the order of the names, and the own text of each scalar.  In the text
of records it finds one item for each record, and in it for each column, in
their order, an element with its name and the structure of its form.
-/
theorem xml_structure_recovered :
    (∀ json : Json,
      json.IsRegular →
      ∃ body,
        Xml.document json = Xml.declaration ++ body ∧
          Xml.nodes? body = some [.element "root".toList (Xml.nodesOf json)]) ∧
    ∀ (table : Table) (records : List Record) (text : List Char),
      serialize table .xml records = .ok text →
      ∃ (body : List Char) (forms : List (List Json)),
        text = Xml.declaration ++ body ∧
          List.Forall₂
            (fun record row =>
              List.Forall₂
                (fun column form => (record.get column.name).formatted column.name = .ok form)
                table.columns row)
            records forms ∧
          Xml.nodes? body =
            some [.element "root".toList
              (forms.map fun row =>
                .element "item".toList
                  (List.zipWith
                    (fun column form =>
                      .element (Xml.elementName column.name) (Xml.nodesOf form))
                    table.columns row))] := by
  refine ⟨fun json regular => Xml.nodes?_document regular, fun table records text written => ?_⟩
  rw [serialize_xml] at written
  obtain ⟨rows, found, rfl⟩ := Outcome.map_eq_ok.mp written
  have areRows := Outcome.mapM_eq_ok.mp found
  have read := Xml.nodes?_rows (Record.isRegular_of_forall₂_formatted areRows)
  refine ⟨Xml.element "root" (Xml.itemElements (rows.map .object)), rows.map (List.map Prod.snd),
    rfl, ?_, ?_⟩
  · rw [List.forall₂_map_right_iff]
    exact areRows.imp fun record row isRow => (Record.exists_forms isRow).1
  · rw [read, List.map_map]
    congr 3
    refine List.map_congr_left fun row member => ?_
    obtain ⟨record, _, isRow⟩ := Outcome.exists_partner areRows.flip member
    exact (Record.exists_forms isRow).2

/-- A value with markup in its names and texts, and with nothing in one of its fields. -/
def markedUp : List (String × Json) :=
  [("a<b", .array [.string "</item>&", Json.ofInt 1]), ("c", .null)]

theorem ascending_markedUp : Ascending markedUp := by
  simp only [Ascending, markedUp, List.pairwise_cons, List.mem_singleton, forall_eq]
  exact ⟨by decide, nofun, .nil⟩

theorem isRegular_markedUp : (Json.object markedUp).IsRegular :=
  ⟨2, by decide, ascending_markedUp, ⟨by decide, trivial, trivial, trivial⟩, trivial, trivial⟩

theorem nodesOf_markedUp :
    Xml.nodesOf (.object markedUp) =
      [.element "a_b".toList [
          .element "item".toList [.text "</item>&".toList],
          .element "item".toList [.text "1".toList]],
        .element "c".toList []] := by
  have first : Xml.elementName "a<b" = "a_b".toList := by decide +kernel
  have second : Xml.elementName "c" = "c".toList := by decide +kernel
  rw [Xml.nodesOf, Xml.inKeyOrder_of_ascending ascending_markedUp, markedUp, Xml.membersOf,
    Xml.membersOf, Xml.membersOf, List.map_cons, List.map_cons, first, second]
  rfl

/-- The forms of a parcel that has only a number. -/
theorem forms_bareParcel
    {forms : List (List Json)}
    (areForms :
      List.Forall₂
        (fun (record : Record) row =>
          List.Forall₂
            (fun (column : Column) form =>
              (record.get column.name).formatted column.name = .ok form)
            parcelsTable.columns row)
        [.ofFields [("id", .int 1)]] forms) :
    forms = [[Json.ofInt 1, .null, .null]] := by
  obtain _ | ⟨row, _ | _⟩ := areForms
  obtain _ | ⟨number, _ | ⟨area, _ | ⟨site, _ | _⟩⟩⟩ := row
  cases number
  cases area
  cases site
  rfl

/-- The markup within the value is read as text, and a parcel without an area and a site as one
item. -/
theorem xml_structure_recovered_markedUp :
    (∃ body,
      Xml.document (.object markedUp) = Xml.declaration ++ body ∧
        Xml.nodes? body =
          some [.element "root".toList [
            .element "a_b".toList [
              .element "item".toList [.text "</item>&".toList],
              .element "item".toList [.text "1".toList]],
            .element "c".toList []]]) ∧
    ∃ text body,
      serialize parcelsTable .xml [.ofFields [("id", .int 1)]] = .ok text ∧
        text = Xml.declaration ++ body ∧
          Xml.nodes? body =
            some [.element "root".toList [
              .element "item".toList [
                .element "id".toList [.text "1".toList],
                .element "area".toList [],
                .element "site".toList []]]] := by
  obtain ⟨values, records⟩ := xml_structure_recovered
  constructor
  · obtain ⟨body, written, read⟩ := values (.object markedUp) isRegular_markedUp
    rw [nodesOf_markedUp] at read
    exact ⟨body, written, read⟩
  · have written : ∃ text,
        serialize parcelsTable .xml [.ofFields [("id", .int 1)]] = .ok text := by
      rw [serialize_xml]
      exact ⟨_, rfl⟩
    obtain ⟨text, isText⟩ := written
    obtain ⟨body, forms, split, areForms, read⟩ := records parcelsTable _ text isText
    rw [forms_bareParcel areForms] at read
    have number : Xml.elementName "id" = "id".toList := by decide +kernel
    have area : Xml.elementName "area" = "area".toList := by decide +kernel
    have site : Xml.elementName "site" = "site".toList := by decide +kernel
    refine ⟨text, body, isText, split, read.trans ?_⟩
    simp only [parcelsTable, List.map_cons, List.map_nil, List.zipWith_cons_cons,
      List.zipWith_nil_left, number, area, site]
    rfl

end GeoTables
