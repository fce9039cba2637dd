import GeoTables.Geometry.Wkt.Printing
import GeoTables.Geometry.Wkt.Reading
import GeoTables.Proofs.Number.PlainText
import Mathlib.Data.List.Forall2
import Mathlib.Tactic.SplitIfs

/-!
# Tokens of written geometries

A written ordinate is one token: a number if it is finite or negative infinity,
and a word otherwise, since the words for the other values do not start like a
number.  A written geometry consists of the word for its type and the word
`EMPTY`, or of the tokens of its parts with parentheses and commas.
-/

namespace GeoTables

namespace Wkt

/-- The text ends, or a separator or a mark comes next. -/
def Stops (text : List Char) : Prop :=
  ∀ next ∈ text.head?, isSpace next = true ∨ (mark? next).isSome

@[simp]
theorem stops_nil : Stops [] := by
  rintro next ⟨⟩

@[simp]
theorem stops_cons
    {next : Char}
    {rest : List Char} :
    Stops (next :: rest) ↔ isSpace next = true ∨ (mark? next).isSome := by
  simp [Stops]

/-- None of the characters separates tokens. -/
def IsRun (text : List Char) : Prop :=
  ∀ character ∈ text, isSpace character = false ∧ mark? character = none

instance (text : List Char) : Decidable (IsRun text) :=
  List.decidableBAll _ text

/-- A run is gathered up to the place where it stops. -/
theorem tokensAfter_run
    {run text rest : List Char}
    (isRun : IsRun text)
    (stops : Stops rest) :
    tokensAfter run (text ++ rest) =
      (tokenOfRun (run.reverse ++ text)).toList ++ tokens rest := by
  induction text generalizing run with
  | nil =>
      rw [List.nil_append, List.append_nil]
      cases rest with
      | nil => simp [tokensAfter, tokens, tokenOfRun]
      | cons next others =>
          rw [stops_cons] at stops
          rw [tokens, tokensAfter, tokensAfter]
          split_ifs with space
          · simp [tokenOfRun]
          · obtain ⟨token, isMark⟩ := Option.isSome_iff_exists.mp (stops.resolve_left space)
            simp [isMark, tokenOfRun]
  | cons character others induction =>
      obtain ⟨notSpace, notMark⟩ := isRun character (by simp)
      have further := @induction (character :: run)
        fun other member => isRun other (List.mem_cons_of_mem character member)
      rw [List.cons_append, tokensAfter, notSpace, notMark]
      simpa using further

/-- Wherever the text stands in front of a place where runs stop, it has the tokens. -/
def Lexes (text : List Char) (found : List Token) : Prop :=
  ∀ rest, Stops rest → tokens (text ++ rest) = found ++ tokens rest

namespace Lexes

theorem tokens_eq
    {text : List Char}
    {found : List Token}
    (lexes : Lexes text found) :
    tokens text = found := by
  have whole := lexes [] stops_nil
  rw [List.append_nil] at whole
  rw [whole]
  exact List.append_nil found

theorem of_run
    {text : List Char}
    {token : Token}
    (isRun : IsRun text)
    (isToken : tokenOfRun text = some token) :
    Lexes text [token] := by
  intro rest stops
  have gathered := @tokensAfter_run [] text rest isRun stops
  rw [List.reverse_nil, List.nil_append, isToken] at gathered
  exact gathered

/-- A mark is a token of its own, whatever comes after it. -/
theorem tokens_mark
    {mark : Char}
    {token : Token}
    {rest : List Char}
    (notSpace : isSpace mark = false)
    (isMark : mark? mark = some token) :
    tokens (mark :: rest) = token :: tokens rest := by
  rw [tokens, tokensAfter, notSpace, isMark]
  rfl

theorem tokens_space {rest : List Char} : tokens (' ' :: rest) = tokens rest := rfl

theorem append
    {left right : List Char}
    {found others : List Token}
    (first : Lexes left found)
    (second : Lexes right others)
    (nonempty : right ≠ [])
    (stops : Stops right) :
    Lexes (left ++ right) (found ++ others) := by
  intro rest stop
  have between : Stops (right ++ rest) := by
    obtain ⟨next, further, rfl⟩ := List.exists_cons_of_ne_nil nonempty
    exact stops
  rw [List.append_assoc, first _ between, second rest stop, List.append_assoc]

/-- Two pieces with a space between them. -/
theorem spaced
    {left right : List Char}
    {found others : List Token}
    (first : Lexes left found)
    (second : Lexes right others) :
    Lexes (left ++ ' ' :: right) (found ++ others) := by
  intro rest stop
  rw [List.append_assoc, first _ (by simp [isSpace]), List.cons_append, tokens_space,
    second rest stop, List.append_assoc]

end Lexes

/-- Lists of tokens with commas between them. -/
def commaTokens : List (List Token) → List Token
  | [] => []
  | [item] => item
  | item :: rest => item ++ .comma :: commaTokens rest

/-- Tokens in parentheses. -/
def enclosedTokens (inner : List Token) : List Token :=
  .opening :: inner ++ [.closing]

/-- The word for an empty geometry, or the tokens of one that is not empty. -/
def bodyTokens (empty : Bool) (tokens : List Token) : List Token :=
  if empty then [.word "EMPTY".toList] else tokens

/-- The text is a run that is a word. -/
def IsName (name : String) : Prop :=
  IsRun name.toList ∧ tokenOfRun name.toList = some (.word name.toList)

instance (name : String) : Decidable (IsName name) :=
  inferInstanceAs (Decidable (_ ∧ _))

theorem commaTokens_cons_cons
    (first second : List Token)
    (rest : List (List Token)) :
    commaTokens (first :: second :: rest) =
      first ++ .comma :: commaTokens (second :: rest) := rfl

namespace Lexes

theorem commaSeparated
    {texts : List (List Char)}
    {items : List (List Token)}
    (each : List.Forall₂ Lexes texts items) :
    Lexes (commaSeparated texts) (commaTokens items) := by
  induction each with
  | nil =>
      intro rest _
      rfl
  | cons first others induction =>
      cases others with
      | nil => exact first
      | cons second further =>
          intro rest stops
          have tail := induction rest stops
          rw [commaTokens_cons_cons]
          simp only [GeoTables.commaSeparated, List.append_assoc, List.cons_append] at tail ⊢
          rw [first _ (by simp [mark?]), tokens_mark rfl rfl, tail]

/-- Parentheses stop every run. -/
theorem parenthesized
    {text : List Char}
    {inner : List Token}
    (lexes : Lexes text inner) :
    Lexes (parenthesized text) (enclosedTokens inner) := by
  intro rest _
  rw [GeoTables.parenthesized, enclosedTokens, List.cons_append, List.cons_append,
    List.append_assoc, tokens_mark rfl rfl, lexes _ (by simp [mark?]), List.singleton_append,
    tokens_mark rfl rfl]
  simp

/-- A word in front of a parenthesis, or of the word for an empty geometry. -/
theorem tagged
    {tag : String}
    {text : List Char}
    {inner : List Token}
    (isName : IsName tag)
    (empty : Bool)
    (lexes : Lexes text inner) :
    Lexes (Geometry.tagged tag empty (GeoTables.parenthesized text))
      (.word tag.toList :: bodyTokens empty (enclosedTokens inner)) := by
  have word : Lexes tag.toList [.word tag.toList] := of_run isName.1 isName.2
  have emptyName : IsName "EMPTY" := by decide +kernel
  cases empty with
  | true => exact word.spaced (of_run emptyName.1 emptyName.2)
  | false =>
      apply word.append (parenthesized lexes)
      · simp [GeoTables.parenthesized]
      · simp [GeoTables.parenthesized, mark?]

end Lexes

/-! ## Tokens of ordinates -/

/-- A number that is written as a number. -/
def IsReadable (value : Binary64) : Prop :=
  value.isFinite = true ∨ value = .infinity true

instance (value : Binary64) : Decidable (IsReadable value) :=
  inferInstanceAs (Decidable (_ ∨ _))

/-- The token of a written ordinate. -/
def ordinateToken (value : Binary64) : Token :=
  if IsReadable value then .number value else .word value.plainText

/-- Digits, points and minus signs separate nothing. -/
theorem isRun_of_digits
    {text : List Char}
    (each : ∀ character ∈ text,
      character.isDigit = true ∨ character = '.' ∨ character = '-') :
    IsRun text := by
  intro character member
  rcases each character member with digit | rfl | rfl
  · have notSpace : character ≠ ' ' := Text.ne_of_isDigit digit rfl
    have notTab : character ≠ '\t' := Text.ne_of_isDigit digit rfl
    have notLine : character ≠ '\n' := Text.ne_of_isDigit digit rfl
    have notReturn : character ≠ '\r' := Text.ne_of_isDigit digit rfl
    have notOpening : character ≠ '(' := Text.ne_of_isDigit digit rfl
    have notClosing : character ≠ ')' := Text.ne_of_isDigit digit rfl
    have notComma : character ≠ ',' := Text.ne_of_isDigit digit rfl
    have notNul : character ≠ '\x00' := Text.ne_of_isDigit digit rfl
    constructor
    · simp [isSpace, notSpace, notTab, notLine, notReturn]
    · unfold mark?
      split <;> first | contradiction | rfl
  · decide
  · decide

/-- A digit, and digits and points behind it, separate nothing, with or without a sign. -/
theorem isRun_signed
    {first : Char}
    {rest : List Char}
    (digit : first.isDigit = true)
    (further : ∀ character ∈ rest, character.isDigit = true ∨ character = '.')
    (negative : Bool) :
    IsRun (Binary64.signed negative (first :: rest)) := by
  have others :
      ∀ character ∈ rest, character.isDigit = true ∨ character = '.' ∨ character = '-' :=
    fun character member => (further character member).imp_right .inl
  apply isRun_of_digits
  cases negative with
  | true =>
      simp only [Binary64.signed, if_true, List.mem_cons, forall_eq_or_imp]
      exact ⟨.inr (.inr trivial), .inl digit, others⟩
  | false =>
      simp only [Binary64.signed, Bool.false_eq_true, if_false, List.mem_cons, forall_eq_or_imp]
      exact ⟨.inl digit, others⟩

/-- A run that starts like a number is the token of the number that it is read as. -/
theorem tokenOfRun_signed
    {first : Char}
    {rest : List Char}
    {negative : Bool}
    {value : Binary64}
    (digit : first.isDigit = true)
    (reads : Binary64.ofText? (Binary64.signed negative (first :: rest)) = some value) :
    tokenOfRun (Binary64.signed negative (first :: rest)) = some (.number value) := by
  have notPlus : first ≠ '+' := Text.ne_of_isDigit digit rfl
  cases negative with
  | true =>
      simp only [Binary64.signed, if_true] at reads ⊢
      simp [tokenOfRun, startsNumber, reads]
  | false =>
      simp only [Binary64.signed, Bool.false_eq_true, if_false] at reads ⊢
      simp [tokenOfRun, startsNumber, digit, notPlus, reads]

/-- A written ordinate is a single token. -/
theorem plainText_spec (value : Binary64) :
    IsRun value.plainText ∧ tokenOfRun value.plainText = some (ordinateToken value) := by
  cases finiteness : value.isFinite with
  | true =>
      have readable : IsReadable value := .inl finiteness
      have reads := Binary64.ofText?_plainText finiteness
      obtain ⟨negative, first, rest, text, digit, further⟩ :=
        Binary64.exists_plainText_of_finite finiteness
      rw [text] at reads
      rw [ordinateToken, if_pos readable, text]
      exact ⟨isRun_signed digit further negative, tokenOfRun_signed digit reads⟩
  | false =>
      cases value with
      | nan => decide +kernel
      | number negative rank =>
          have infinite : rank = Fin.last Binary64.infiniteRank := by
            simp only [Binary64.isFinite, decide_eq_false_iff_not, not_lt] at finiteness
            exact Fin.le_antisymm (Fin.le_last rank) finiteness
          subst infinite
          cases negative <;> decide +kernel

/-- A written position is two tokens. -/
theorem lexes_plainText (value : Binary64) :
    Lexes value.plainText [ordinateToken value] :=
  .of_run (plainText_spec value).1 (plainText_spec value).2

end Wkt

/-! ## Tokens of geometries -/

open Wkt

/-- The tokens of a written position. -/
def Coordinate.tokens (position : Coordinate) : List Token :=
  [ordinateToken position.x, ordinateToken position.y]

/-- The tokens of a written line. -/
def Path.tokens (path : Path) : List Token :=
  enclosedTokens (commaTokens (path.map Coordinate.tokens))

/-- The tokens of a written area. -/
def Polygon.tokens (area : Polygon) : List Token :=
  enclosedTokens (commaTokens ((area.exterior :: area.interiors).map Path.tokens))

namespace Geometry

/-- The word for the type under which a geometry is written. -/
def tagName : Geometry → String
  | .point _ => "POINT"
  | .segment _ _ | .lineString _ => "LINESTRING"
  | .polygon _ | .rectangle _ _ | .triangle _ _ _ => "POLYGON"
  | .multiPoint _ => "MULTIPOINT"
  | .multiLineString _ => "MULTILINESTRING"
  | .multiPolygon _ => "MULTIPOLYGON"
  | .collection _ => "GEOMETRYCOLLECTION"

/-- The tokens of items behind the word for their type. -/
def itemTokens (items : List (List Token)) : List Token :=
  bodyTokens items.isEmpty (enclosedTokens (commaTokens items))

mutual

/-- The tokens of a written geometry behind the word for its type. -/
def tokensAfterTag : Geometry → List Token
  | .point position => enclosedTokens position.tokens
  | .segment start stop => Path.tokens [start, stop]
  | .lineString path => bodyTokens path.isEmpty (Path.tokens path)
  | .polygon area => bodyTokens area.exterior.isEmpty area.tokens
  | .multiPoint positions =>
      itemTokens (positions.map fun position => enclosedTokens position.tokens)
  | .multiLineString paths => itemTokens (paths.map Path.tokens)
  | .multiPolygon areas => itemTokens (areas.map Polygon.tokens)
  | .collection members => itemTokens (memberTokens members)
  | .rectangle low high => Polygon.tokens ⟨Path.aroundRectangle low high, []⟩
  | .triangle first second third => Polygon.tokens ⟨Path.aroundTriangle first second third, []⟩

/-- The tokens of the written members of a collection. -/
def memberTokens : List Geometry → List (List Token)
  | [] => []
  | member :: rest =>
      (.word member.tagName.toList :: tokensAfterTag member) :: memberTokens rest

end

/-- The tokens of a written geometry. -/
def tokens (geometry : Geometry) : List Token :=
  .word geometry.tagName.toList :: geometry.tokensAfterTag

theorem tagName_mem_tags (geometry : Geometry) :
    geometry.tagName ∈ tags.map Prod.fst := by
  cases geometry <;> simp [tagName, tags]

theorem isName_tagName (geometry : Geometry) : IsName geometry.tagName := by
  have names : ∀ name ∈ tags.map Prod.fst, IsName name := by decide +kernel
  exact names geometry.tagName geometry.tagName_mem_tags

end Geometry

theorem Coordinate.lexes_wkt (position : Coordinate) :
    Lexes position.wkt position.tokens :=
  (lexes_plainText position.x).spaced (lexes_plainText position.y)

/-- Mapped items that are written with commas between them. -/
theorem Wkt.Lexes.commaSeparated_map
    {α : Type}
    {write : α → List Char}
    {found : α → List Token}
    (lexes : ∀ item, Lexes (write item) (found item))
    (items : List α) :
    Lexes (GeoTables.commaSeparated (items.map write)) (commaTokens (items.map found)) := by
  apply Lexes.commaSeparated
  rw [List.forall₂_map_left_iff, List.forall₂_map_right_iff]
  exact List.forall₂_same.mpr fun item _ => lexes item

theorem Path.lexes_wkt (path : Path) : Lexes path.wkt path.tokens :=
  .parenthesized (.commaSeparated_map Coordinate.lexes_wkt path)

theorem Polygon.lexes_wkt (area : Polygon) : Lexes area.wkt area.tokens :=
  .parenthesized (.commaSeparated_map Path.lexes_wkt (area.exterior :: area.interiors))

namespace Geometry

/-- Items in parentheses behind a word. -/
theorem lexes_taggedItems
    {tag : String}
    {texts : List (List Char)}
    {items : List (List Token)}
    (isName : IsName tag)
    (each : List.Forall₂ Lexes texts items) :
    Lexes (taggedItems tag texts) (.word tag.toList :: itemTokens items) := by
  have empty : texts.isEmpty = items.isEmpty := by
    cases each <;> rfl
  rw [taggedItems, itemTokens, ← empty]
  exact .tagged isName texts.isEmpty (.commaSeparated each)

/-- Mapped items in parentheses behind a word. -/
theorem lexes_taggedItems_map
    {α : Type}
    {tag : String}
    {write : α → List Char}
    {found : α → List Token}
    (isName : IsName tag)
    (lexes : ∀ item, Lexes (write item) (found item))
    (items : List α) :
    Lexes (taggedItems tag (items.map write))
      (.word tag.toList :: itemTokens (items.map found)) := by
  apply lexes_taggedItems isName
  rw [List.forall₂_map_left_iff, List.forall₂_map_right_iff]
  exact List.forall₂_same.mpr fun item _ => lexes item

/-- An area behind its word. -/
theorem lexes_areaWkt (area : Polygon) :
    Lexes (areaWkt area)
      (.word "POLYGON".toList :: bodyTokens area.exterior.isEmpty area.tokens) := by
  have isName : IsName "POLYGON" := by decide +kernel
  exact .tagged isName area.exterior.isEmpty
    (.commaSeparated_map Path.lexes_wkt (area.exterior :: area.interiors))

/-- A line behind its word. -/
theorem lexes_lineString (path : Path) (empty : Bool) :
    Lexes (tagged "LINESTRING" empty path.wkt)
      (.word "LINESTRING".toList :: bodyTokens empty path.tokens) := by
  have isName : IsName "LINESTRING" := by decide +kernel
  exact .tagged isName empty (.commaSeparated_map Coordinate.lexes_wkt path)

mutual

/-- A written geometry has its tokens. -/
theorem lexes_wktCharacters :
    ∀ geometry : Geometry, Lexes geometry.wktCharacters geometry.tokens
  | .point position =>
      .tagged (isName_tagName (.point position)) false position.lexes_wkt
  | .segment start stop => lexes_lineString [start, stop] false
  | .lineString path => lexes_lineString path path.isEmpty
  | .polygon area => lexes_areaWkt area
  | .multiPoint positions =>
      lexes_taggedItems_map (isName_tagName (.multiPoint positions))
        (fun position => .parenthesized position.lexes_wkt) positions
  | .multiLineString paths =>
      lexes_taggedItems_map (isName_tagName (.multiLineString paths)) Path.lexes_wkt paths
  | .multiPolygon areas =>
      lexes_taggedItems_map (isName_tagName (.multiPolygon areas)) Polygon.lexes_wkt areas
  | .collection members =>
      lexes_taggedItems (isName_tagName (.collection members)) (lexes_memberWkt members)
  | .rectangle low high => lexes_areaWkt ⟨Path.aroundRectangle low high, []⟩
  | .triangle first second third => lexes_areaWkt ⟨Path.aroundTriangle first second third, []⟩

/-- The written members of a collection have their tokens. -/
theorem lexes_memberWkt :
    ∀ members : List Geometry,
      List.Forall₂ Lexes (memberWkt members) (memberTokens members)
  | [] => .nil
  | member :: rest => .cons (lexes_wktCharacters member) (lexes_memberWkt rest)

end

end Geometry

end GeoTables
