import GeoTables.Proofs.Json.Spelling

/-!
# JSON that is written and read

A value whose objects have their names in order and whose numbers are integers
or finite is written by a text that scans, parses and evaluates to the same
value again, except that each floating-point number becomes what its own
spelling is read back as.  The value is lost as a whole if one of its numbers
is read back as nothing.
-/

namespace GeoTables.Json

/-! ## Lexemes of outlines -/

namespace Outline

mutual

/-- The lexemes by which an outline is written. -/
def lexemes : Outline → List Lexeme
  | .null => [.null]
  | .bool value => [.bool value]
  | .number text => [.number text]
  | .string text => [.string text]
  | .array items => .openArray :: commaJoined (itemLexemes items) ++ [.closeArray]
  | .object members => .openObject :: commaJoined (memberLexemes members) ++ [.closeObject]

/-- The lexemes of the items of an array. -/
def itemLexemes : List Outline → List (List Lexeme)
  | [] => []
  | item :: rest => lexemes item :: itemLexemes rest

/-- The lexemes of the members of an object. -/
def memberLexemes : List (StringText × Outline) → List (List Lexeme)
  | [] => []
  | (name, member) :: rest =>
      (.string name :: .colon :: lexemes member) :: memberLexemes rest

end

/-- An outline begins with the first lexeme of a value, which closes nothing. -/
theorem exists_lexemes_eq_cons (outline : Outline) :
    ∃ first rest,
      outline.lexemes = first :: rest ∧ first ≠ .closeArray := by
  cases outline with
  | array items => exact ⟨.openArray, _, rfl, by decide⟩
  | object members => exact ⟨.openObject, _, rfl, by decide⟩
  | null => exact ⟨_, _, rfl, by decide⟩
  | bool value => exact ⟨_, _, rfl, by intro equal; cases equal⟩
  | number text => exact ⟨_, _, rfl, by intro equal; cases equal⟩
  | string text => exact ⟨_, _, rfl, by intro equal; cases equal⟩

/-- The first item of an array is parsed like a later one. -/
theorem foldlM_firstItem
    (outline : Outline)
    (frames : List Frame)
    (rest : List Lexeme) :
    (outline.lexemes ++ rest).foldlM Parse.step (.firstItem frames) =
      (outline.lexemes ++ rest).foldlM Parse.step (.value (.array [] :: frames)) := by
  obtain ⟨first, others, isLexemes, opens⟩ := exists_lexemes_eq_cons outline
  have same :
      Parse.step (.firstItem frames) first = Parse.step (.value (.array [] :: frames)) first := by
    unfold Parse.step
    split
    · rename_i equal
      cases equal
    all_goals simp_all
  rw [isLexemes, List.cons_append, List.foldlM_cons, List.foldlM_cons, same]

/-- The lexemes of several items begin with those of the first one. -/
theorem exists_commaJoined_eq_append
    (item : List Lexeme)
    (others : List (List Lexeme)) :
    ∃ more, commaJoined (item :: others) = item ++ more := by
  cases others with
  | nil => exact ⟨[], (List.append_nil item).symm⟩
  | cons second rest => exact ⟨_, rfl⟩

mutual

/-- The lexemes of an outline are parsed as the outline. -/
theorem foldlM_lexemes
    (rest : List Lexeme) :
    ∀ (outline : Outline) (frames : List Frame),
      (outline.lexemes ++ rest).foldlM Parse.step (.value frames) =
        rest.foldlM Parse.step (.after frames outline)
  | .null, frames | .bool _, frames | .number _, frames | .string _, frames => rfl
  | .array [], frames => rfl
  | .array (item :: items), frames => by
      have parsed := foldlM_items rest (item :: items) (by simp) frames []
      obtain ⟨more, isMore⟩ := exists_commaJoined_eq_append item.lexemes (itemLexemes items)
      rw [itemLexemes, isMore, List.append_assoc] at parsed
      rw [lexemes, itemLexemes, isMore]
      simp only [List.cons_append, List.append_assoc, List.nil_append, List.foldlM_cons]
      change
        (item.lexemes ++ (more ++ .closeArray :: rest)).foldlM Parse.step
          (.firstItem frames) = _
      rw [foldlM_firstItem, parsed]
      rfl
  | .object [], frames => rfl
  | .object ((name, member) :: members), frames => by
      have parsed := foldlM_members rest ((name, member) :: members) (by simp) frames []
      obtain ⟨more, isMore⟩ :=
        exists_commaJoined_eq_append (.string name :: .colon :: member.lexemes)
          (memberLexemes members)
      rw [memberLexemes, isMore, List.append_assoc] at parsed
      rw [lexemes, memberLexemes, isMore]
      simp only [List.cons_append, List.append_assoc, List.nil_append, List.foldlM_cons]
        at parsed ⊢
      exact parsed

/-- The items of an array are parsed one after the other. -/
theorem foldlM_items
    (rest : List Lexeme) :
    ∀ (items : List Outline),
      items ≠ [] →
      ∀ (frames : List Frame) (before : List Outline),
        (commaJoined (itemLexemes items) ++ .closeArray :: rest).foldlM Parse.step
            (.value (.array before :: frames)) =
          rest.foldlM Parse.step (.after frames (.array (before.reverse ++ items)))
  | [], nonempty, frames, before => absurd rfl nonempty
  | [item], _, frames, before => by
      rw [itemLexemes, itemLexemes, commaJoined, foldlM_lexemes, List.foldlM_cons]
      simp [Parse.step, Parse.proceed]
  | item :: second :: others, _, frames, before => by
      have parsed := foldlM_items rest (second :: others) (by simp) frames (item :: before)
      rw [itemLexemes] at parsed
      rw [itemLexemes, itemLexemes, commaJoined_cons_cons, List.append_assoc, foldlM_lexemes,
        List.cons_append, List.foldlM_cons]
      simpa [Parse.step, Parse.proceed] using parsed

/-- The members of an object are parsed one after the other. -/
theorem foldlM_members
    (rest : List Lexeme) :
    ∀ (members : List (StringText × Outline)),
      members ≠ [] →
      ∀ (frames : List Frame) (before : List (StringText × Outline)),
        (commaJoined (memberLexemes members) ++ .closeObject :: rest).foldlM Parse.step
            (.name frames before) =
          rest.foldlM Parse.step (.after frames (.object (before.reverse ++ members)))
  | [], nonempty, frames, before => absurd rfl nonempty
  | [(name, member)], _, frames, before => by
      rw [memberLexemes, memberLexemes, commaJoined]
      change
        (member.lexemes ++ .closeObject :: rest).foldlM Parse.step
          (.value (.object before name :: frames)) = _
      rw [foldlM_lexemes, List.foldlM_cons]
      simp [Parse.step, Parse.proceed]
  | (name, member) :: (other, second) :: others, _, frames, before => by
      have parsed := foldlM_members rest ((other, second) :: others) (by simp) frames
        ((name, member) :: before)
      rw [memberLexemes] at parsed
      rw [memberLexemes, memberLexemes, commaJoined_cons_cons, List.append_assoc]
      change
        (member.lexemes ++
            ((.comma :: commaJoined ((.string other :: .colon :: second.lexemes) ::
              memberLexemes others)) ++ .closeObject :: rest)).foldlM Parse.step
          (.value (.object before name :: frames)) = _
      rw [foldlM_lexemes, List.cons_append, List.foldlM_cons]
      simpa [Parse.step, Parse.proceed] using parsed

end

/-- A text that scans to the lexemes of an outline has this outline. -/
theorem ofText?_of_scans
    {text : List Char}
    {outline : Outline}
    (scans : Scans text outline.lexemes) :
    ofText? text = some outline := by
  have parsed := foldlM_lexemes [] outline []
  rw [List.append_nil] at parsed
  rw [ofText?, scans.lexemes?_eq]
  simp only [Option.bind_eq_bind, Option.bind_some, parsed]
  rfl

end Outline

/-! ## Values -/

/-- The names of the fields are in order, each of them once. -/
def Ascending (fields : List (String × Json)) : Prop :=
  fields.Pairwise fun left right => left.1 < right.1

instance (fields : List (String × Json)) : Decidable (Ascending fields) :=
  inferInstanceAs (Decidable (List.Pairwise _ fields))

mutual

/-- At most `depth` arrays and objects lie within each other, the fields of the
objects are in order, and the numbers can be written. -/
def IsPlain (depth : Nat) : Json → Prop
  | .null | .bool _ | .string _ => True
  | .number value => value.IsWritable
  | .array items => 0 < depth ∧ ArePlain (depth - 1) items
  | .object fields => 0 < depth ∧ Ascending fields ∧ FieldsArePlain (depth - 1) fields

/-- All items of a list are plain. -/
def ArePlain (depth : Nat) : List Json → Prop
  | [] => True
  | item :: rest => IsPlain depth item ∧ ArePlain depth rest

/-- The values of all fields of a list are plain. -/
def FieldsArePlain (depth : Nat) : List (String × Json) → Prop
  | [] => True
  | (_, value) :: rest => IsPlain depth value ∧ FieldsArePlain depth rest

end

mutual

/-- What a value is read back as, unless one of its numbers is not read back. -/
def reread? : Json → Option Json
  | .null => some .null
  | .bool value => some (.bool value)
  | .number value => value.reread?.map .number
  | .string text => some (.string text)
  | .array items => (rereadItems? items).map .array
  | .object fields => (rereadFields? fields).map .object

/-- What a list of values is read back as. -/
def rereadItems? : List Json → Option (List Json)
  | [] => some []
  | item :: rest => do
      let value ← reread? item
      return value :: (← rereadItems? rest)

/-- What a list of fields is read back as. -/
def rereadFields? : List (String × Json) → Option (List (String × Json))
  | [] => some []
  | (name, value) :: rest => do
      let value ← reread? value
      return (name, value) :: (← rereadFields? rest)

end

mutual

/-- The outline of the text of a value. -/
def outline : Json → Outline
  | .null => .null
  | .bool value => .bool value
  | .number value => .number value.spelling
  | .string text => .string (text.toList.map .ofWritten)
  | .array items => .array (itemOutlines items)
  | .object fields => .object (fieldOutlines fields)

/-- The outlines of the texts of a list of values. -/
def itemOutlines : List Json → List Outline
  | [] => []
  | item :: rest => outline item :: itemOutlines rest

/-- The outlines of the texts of the fields of an object. -/
def fieldOutlines : List (String × Json) → List (StringText × Outline)
  | [] => []
  | (name, value) :: rest => (name.toList.map .ofWritten, outline value) :: fieldOutlines rest

end

mutual

/-- The text of a plain value scans to the lexemes of its outline. -/
theorem scans_characters :
    ∀ {json : Json} {depth : Nat},
      json.IsPlain depth → Scans json.characters json.outline.lexemes
  | .null, _, _ => by
      have isWord : Scans ('n' :: ['u', 'l', 'l']) [.null] :=
        Scans.of_word (fun _ => rfl) rfl rfl
      exact isWord
  | .bool true, _, _ => by
      have isWord : Scans ('t' :: ['r', 'u', 'e']) [.bool true] :=
        Scans.of_word (fun _ => rfl) rfl rfl
      exact isWord
  | .bool false, _, _ => by
      have isWord : Scans ('f' :: ['a', 'l', 's', 'e']) [.bool false] :=
        Scans.of_word (fun _ => rfl) rfl rfl
      exact isWord
  | .number _, _, plain => Number.scans plain
  | .string text, _, _ => Scans.quoted text
  | .array items, _, plain => Scans.arrayOf (scans_itemTexts plain.2)
  | .object fields, _, plain => Scans.objectOf (scans_fieldTexts plain.2.2)

theorem scans_itemTexts :
    ∀ {items : List Json} {depth : Nat},
      ArePlain depth items →
      List.Forall₂ Scans (itemTexts items) (Outline.itemLexemes (itemOutlines items))
  | [], _, _ => .nil
  | _ :: _, _, plain => .cons (scans_characters plain.1) (scans_itemTexts plain.2)

theorem scans_fieldTexts :
    ∀ {fields : List (String × Json)} {depth : Nat},
      FieldsArePlain depth fields →
      List.Forall₂ Scans (fieldTexts fields) (Outline.memberLexemes (fieldOutlines fields))
  | [], _, _ => .nil
  | (name, _) :: _, _, plain =>
      .cons ((scans_characters plain.1).entry name) (scans_fieldTexts plain.2)

end

/-- A written character is never half of a pair. -/
theorem decodeString_ofWritten
    (character : Char)
    (rest : StringText) :
    decodeString (.ofWritten character :: rest) =
      (decodeString rest).map (character :: ·) := by
  unfold StringUnit.ofWritten
  split_ifs with control
  · have notHigh : isHighUnit character.toNat = false := by
      simp only [isHighUnit, Bool.and_eq_false_iff, decide_eq_false_iff_not]
      omega
    have notLow : isLowUnit character.toNat = false := by
      simp only [isLowUnit, Bool.and_eq_false_iff, decide_eq_false_iff_not]
      omega
    cases rest with
    | nil => simp [decodeString, notHigh, notLow]
    | cons unit others =>
        cases unit with
        | plain other =>
            simp [decodeString, notHigh, notLow, Function.comp_def]
        | escaped partner => simp [decodeString, notHigh, notLow]
  · rfl

theorem value?_string (text : String) :
    StringText.value? (text.toList.map .ofWritten) = some text := by
  have decoded :
      ∀ characters : List Char,
        decodeString (characters.map .ofWritten) = some characters := by
    intro characters
    induction characters with
    | nil => rfl
    | cons character rest induction =>
        rw [List.map_cons, decodeString_ofWritten, induction]
        rfl
  rw [StringText.value?, decoded]
  simp

/-- A field with a new greatest name comes last. -/
theorem setField_of_greatest
    {name : String}
    {value : Json}
    {fields : List (String × Json)}
    (greatest : ∀ field ∈ fields, field.1 < name) :
    setField name value fields = fields ++ [(name, value)] := by
  induction fields with
  | nil => rfl
  | cons field rest induction =>
      obtain ⟨other, kept⟩ := field
      have less : other < name := greatest (other, kept) (by simp)
      have notBefore : ¬name < other := String.lt_asymm less
      have different : other ≠ name := by
        rintro rfl
        exact String.lt_irrefl other less
      have later := induction fun field member =>
        greatest field (List.mem_cons_of_mem _ member)
      unfold setField at later ⊢
      rw [Entries.place, if_neg (mt of_decide_eq_true notBefore), if_neg different, later]
      rfl

/-- The fields of an object in order are kept as they are. -/
theorem ofFields_of_ascending
    {fields : List (String × Json)}
    (ascending : Ascending fields) :
    ofFields fields = .object fields := by
  have kept :
      ∀ (rest before : List (String × Json)),
        Ascending (before ++ rest) →
        rest.foldl (fun sorted field => setField field.1 field.2 sorted) before =
          before ++ rest := by
    intro rest
    induction rest with
    | nil => simp
    | cons field others induction =>
        intro before ordered
        have greatest : ∀ other ∈ before, other.1 < field.1 := by
          intro other member
          exact (List.pairwise_append.mp ordered).2.2 other member field (by simp)
        rw [List.foldl_cons, setField_of_greatest greatest, induction]
        · simp
        · simpa using ordered
  rw [ofFields, kept fields [] (by simpa using ascending), List.nil_append]

/-- Reading back keeps the names of the fields. -/
theorem names_of_rereadFields?
    {fields reread : List (String × Json)}
    (found : rereadFields? fields = some reread) :
    reread.map Prod.fst = fields.map Prod.fst := by
  induction fields generalizing reread with
  | nil =>
      cases found
      rfl
  | cons field rest induction =>
      obtain ⟨name, value⟩ := field
      simp only [rereadFields?, Option.bind_eq_bind, Option.bind_eq_some_iff,
        Option.pure_def, Option.some.injEq] at found
      obtain ⟨value', _, others, foundOthers, rfl⟩ := found
      simp [induction foundOthers]

theorem ascending_of_names
    {left right : List (String × Json)}
    (same : left.map Prod.fst = right.map Prod.fst)
    (ascending : Ascending right) :
    Ascending left := by
  unfold Ascending at *
  rw [← List.pairwise_map] at ascending ⊢
  rwa [same]

mutual

/-- The outline of the text of a plain value evaluates to what it is read back as. -/
theorem value?_outline :
    ∀ {json : Json} {depth : Nat},
      json.IsPlain depth → json.outline.value? depth = json.reread?
  | .null, _, _ | .bool _, _, _ | .number _, _, _ => rfl
  | .string text, _, _ => by
      rw [outline, Outline.value?, value?_string]
      rfl
  | .array items, depth, plain => by
      rw [outline, Outline.value?, if_neg (Nat.ne_of_gt plain.1), itemValues?_outlines plain.2]
      rfl
  | .object fields, depth, plain => by
      rw [outline, Outline.value?, if_neg (Nat.ne_of_gt plain.1),
        memberValues?_outlines plain.2.2, reread?]
      cases found : rereadFields? fields with
      | none => rfl
      | some reread =>
          have ascending : Ascending reread :=
            ascending_of_names (names_of_rereadFields? found) plain.2.1
          simp [ofFields_of_ascending ascending]

theorem itemValues?_outlines :
    ∀ {items : List Json} {depth : Nat},
      ArePlain depth items →
      Outline.itemValues? depth (itemOutlines items) = rereadItems? items
  | [], _, _ => rfl
  | _ :: _, _, plain => by
      rw [itemOutlines, Outline.itemValues?, value?_outline plain.1,
        itemValues?_outlines plain.2]
      rfl

theorem memberValues?_outlines :
    ∀ {fields : List (String × Json)} {depth : Nat},
      FieldsArePlain depth fields →
      Outline.memberValues? depth (fieldOutlines fields) = rereadFields? fields
  | [], _, _ => rfl
  | (name, _) :: _, _, plain => by
      rw [fieldOutlines, Outline.memberValues?, value?_string, value?_outline plain.1,
        memberValues?_outlines plain.2]
      rfl

end

/-- A plain value is read back from its text, up to the numbers in it. -/
theorem ofText?_characters
    {json : Json}
    (plain : json.IsPlain maxDepth) :
    ofText? json.characters = json.reread? := by
  rw [ofText?, Outline.ofText?_of_scans (scans_characters plain)]
  exact value?_outline plain

end GeoTables.Json
