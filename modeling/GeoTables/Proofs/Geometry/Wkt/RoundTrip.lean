import GeoTables.Proofs.Geometry.Wkt.Tokens
import GeoTables.Proofs.Text.Blank

/-!
# Geometries that are written and read

The tokens of a written geometry are read as the geometry again, unless one of
its ordinates is written as a word or one of its members is an empty pair of
parentheses; then nothing is read.  Apart from this only the shape changes:
rings are closed, an area without an outer ring loses its holes, and segments,
rectangles and triangles become the lines and areas as which they are written.
-/

namespace GeoTables

/-! ## What is read back -/

/-- The position that a written position is read as. -/
def Coordinate.reread? (position : Coordinate) : Option Coordinate :=
  if Wkt.IsReadable position.x ∧ Wkt.IsReadable position.y then some position else none

/-- What items in parentheses are read as; there has to be one, and none may be lost. -/
def rereadEnclosed? {α β : Type} (reread? : α → Option β) (items : List α) : Option (List β) :=
  if items.isEmpty then none else items.mapM reread?

/-- The line that a written line is read as. -/
def Path.reread? (path : Path) : Option Path :=
  rereadEnclosed? Coordinate.reread? path

/-- The area with the given rings, the exterior first. -/
def Polygon.ofEnclosed : List Path → Polygon
  | [] => ⟨[], []⟩
  | exterior :: interiors => .ofRings exterior interiors

/-- The area that a written area is read as. -/
def Polygon.reread? (area : Polygon) : Option Polygon := do
  let exterior ← Path.reread? area.exterior
  let interiors ← area.interiors.mapM Path.reread?
  return .ofRings exterior interiors

/-- The geometry that an area behind its word is read as. -/
def Geometry.rereadArea? (area : Polygon) : Option Geometry :=
  (if area.exterior.isEmpty then some ⟨[], []⟩ else area.reread?).map .polygon

namespace Geometry

mutual

/-- The geometry that a written geometry is read as. -/
def reread? : Geometry → Option Geometry
  | .point position => position.reread?.map .point
  | .segment start stop => (Path.reread? [start, stop]).map .lineString
  | .lineString path =>
      (if path.isEmpty then some [] else Path.reread? path).map .lineString
  | .polygon area => rereadArea? area
  | .multiPoint positions => (positions.mapM Coordinate.reread?).map .multiPoint
  | .multiLineString paths => (paths.mapM Path.reread?).map .multiLineString
  | .multiPolygon areas => (areas.mapM Polygon.reread?).map .multiPolygon
  | .collection members => (rereadMembers? members).map .collection
  | .rectangle low high => rereadArea? ⟨Path.aroundRectangle low high, []⟩
  | .triangle first second third => rereadArea? ⟨Path.aroundTriangle first second third, []⟩

/-- The geometries that the written members of a collection are read as. -/
def rereadMembers? : List Geometry → Option (List Geometry)
  | [] => some []
  | member :: rest => do return (← reread? member) :: (← rereadMembers? rest)

end

end Geometry

namespace Wkt

/-! ## Outcomes of readers -/

section

variable {α β : Type}

/-- What a reader makes of tokens, and the tokens that it leaves. -/
def outcome (reader : Reader α) (input : List Token) : Except Fault α × List Token :=
  reader.run.run input

theorem outcome_bind
    (first : Reader α)
    (next : α → Reader β)
    (input : List Token) :
    outcome (first >>= next) input =
      match outcome first input with
      | (.ok value, rest) => outcome (next value) rest
      | (.error fault, left) => (.error fault, left) := by
  rw [outcome, ExceptT.run_bind, StateT.run_bind]
  unfold outcome
  simp only [bind]
  rcases first.run.run input with ⟨fault | value, left⟩ <;> rfl

/-- What two readers find is what the second one finds in what the first one leaves. -/
theorem exists_outcome_of_bind_eq_ok
    {first : Reader α}
    {next : α → Reader β}
    {input left : List Token}
    {value : β}
    (out : outcome (first >>= next) input = (.ok value, left)) :
    ∃ between rest,
      outcome first input = (.ok between, rest) ∧
        outcome (next between) rest = (.ok value, left) := by
  rw [outcome_bind] at out
  rcases read : outcome first input with ⟨fault | between, rest⟩
  · rw [read] at out
    cases out
  · rw [read] at out
    exact ⟨between, rest, rfl, out⟩

theorem outcome_nextIs (token : Token) (input : List Token) :
    outcome (nextIs token) input = (.ok (input.head? == some token), input) := rfl

/-- The value is found and the rest is left, or without a value there is a fault. -/
def Yields
    (out : Except Fault α × List Token)
    (found : Option α)
    (rest : List Token) : Prop :=
  match found with
  | some value => out = (.ok value, rest)
  | none => ∃ fault left, out = (.error fault, left)

/-- What a second reader makes of the rest counts if the first one finds a value. -/
theorem Yields.bind
    {first : Reader α}
    {next : α → Reader β}
    {found : Option α}
    {further : α → Option β}
    {input between rest : List Token}
    (yields : Yields (outcome first input) found between)
    (continues : ∀ value, found = some value →
      Yields (outcome (next value) between) (further value) rest) :
    Yields (outcome (first >>= next) input) (found.bind further) rest := by
  rw [outcome_bind]
  cases found with
  | none =>
      obtain ⟨fault, left, fails⟩ := yields
      rw [fails]
      exact ⟨fault, left, rfl⟩
  | some value =>
      have finds : outcome first input = (.ok value, between) := yields
      rw [finds]
      exact continues value rfl

/-- A function of the value that is found. -/
theorem Yields.map
    {reader : Reader α}
    {found : Option α}
    {input rest : List Token}
    (yields : Yields (outcome reader input) found rest)
    (change : α → β) :
    Yields (outcome (do return change (← reader)) input) (found.map change) rest := by
  rw [Option.map_eq_bind]
  exact yields.bind fun _ _ => rfl

/-- The reader finds what the tokens were written for, whatever comes after them. -/
def Gives (reader : Reader α) (written : List Token) (found : Option α) : Prop :=
  ∀ rest, Yields (outcome reader (written ++ rest)) found rest

/-- The reader finds nothing in front of a closing parenthesis. -/
def RefusesClosing (reader : Reader α) : Prop :=
  ∀ rest, Yields (outcome reader (.closing :: rest)) none rest

/-! ## Lists in parentheses -/

variable {reader : Reader α} {write : β → List Token} {reread? : β → Option α}

/-- Items with commas between them, up to something else than a comma. -/
theorem separated_yields
    {first : β}
    {others : List β}
    {bound : Nat}
    {rest : List Token}
    (gives : ∀ item ∈ first :: others, Gives reader (write item) (reread? item))
    (enough : others.length ≤ bound)
    (stops : rest.head? ≠ some .comma) :
    Yields (outcome (separated reader bound) (commaTokens ((first :: others).map write) ++ rest))
      ((first :: others).mapM reread?) rest := by
  induction others generalizing first bound with
  | nil =>
      rw [separated.eq_def, List.mapM_cons]
      refine (gives first (by simp) rest).bind fun value _ => ?_
      cases bound with
      | zero => rfl
      | succ bound =>
          have noComma : (rest.head? == some .comma) = false := beq_eq_false_iff_ne.mpr stops
          rw [outcome_bind, outcome_nextIs, noComma]
          rfl
  | cons second further induction =>
      obtain ⟨bound, rfl⟩ := Nat.exists_eq_succ_of_ne_zero (Nat.ne_of_gt
        (Nat.lt_of_lt_of_le (Nat.succ_pos further.length) enough))
      rw [separated.eq_def, List.mapM_cons, List.map_cons, List.map_cons, commaTokens_cons_cons,
        List.append_assoc]
      refine (gives first (by simp) _).bind fun value _ => ?_
      have later := @induction second bound
        (fun item member => gives item (List.mem_cons_of_mem first member))
        (Nat.le_of_succ_le_succ enough)
      rw [List.cons_append, outcome_bind, outcome_nextIs]
      exact later.bind fun _ _ => rfl

/-- No list has fewer commas than it needs between its items. -/
theorem length_le_length_commaTokens (items : List (List Token)) :
    items.length ≤ (commaTokens items).length + 1 := by
  induction items with
  | nil => simp
  | cons first others induction =>
      cases others with
      | nil => simp
      | cons second further =>
          rw [commaTokens_cons_cons]
          simp only [List.length_cons, List.length_append] at induction ⊢
          omega

/-- Items up to the closing parenthesis, of which there has to be one. -/
theorem items_yields
    {list : List β}
    (gives : ∀ item ∈ list, Gives reader (write item) (reread? item))
    (refuses : RefusesClosing reader)
    (rest : List Token) :
    Yields (outcome (items reader) (commaTokens (list.map write) ++ .closing :: rest))
      (rereadEnclosed? reread? list) (.closing :: rest) := by
  cases list with
  | nil =>
      have nothing : Option.bind (none : Option α) (fun _ => (none : Option (List α))) = none := rfl
      rw [rereadEnclosed?, if_pos (by rfl), ← nothing]
      exact (refuses rest).bind nofun
  | cons first others =>
      apply separated_yields gives
      · have commas := length_le_length_commaTokens ((first :: others).map write)
        simp only [List.length_map, List.length_cons, List.length_append] at commas ⊢
        omega
      · simp

/-- What is done with the result of a body: the closing parenthesis is taken first. -/
def close (result : Except Fault α) : Reader α := do
  match ← next with
  | some .closing =>
      match result with
      | .ok value => return value
      | .error fault => throw fault
  | _ => throw .missingClosing

theorem outcome_enclosed
    (empty : α)
    (body : Reader α)
    (input : List Token) :
    outcome (enclosed empty body) (.opening :: input) =
      outcome (close (outcome body input).1) (outcome body input).2 := rfl

/-- A fault of the body is a fault, with the closing parenthesis or without it. -/
theorem yields_none_close
    (fault : Fault)
    (left rest : List Token) :
    Yields (outcome (close (.error fault : Except Fault α)) left) none rest := by
  cases left with
  | nil => exact ⟨_, _, rfl⟩
  | cons token others => cases token <;> exact ⟨_, _, rfl⟩

/-- A body that stops at the closing parenthesis. -/
theorem enclosed_gives
    {body : Reader α}
    {inner : List Token}
    {found : Option α}
    (yields : ∀ rest,
      Yields (outcome body (inner ++ .closing :: rest)) found (.closing :: rest))
    (empty : α) :
    Gives (enclosed empty body) (enclosedTokens inner) found := by
  intro rest
  have result := yields rest
  have input : enclosedTokens inner ++ rest = .opening :: (inner ++ .closing :: rest) := by
    simp [enclosedTokens]
  rw [input, outcome_enclosed]
  cases found with
  | none =>
      obtain ⟨fault, left, fails⟩ := result
      rw [fails]
      exact yields_none_close fault left rest
  | some value =>
      have finds : outcome body (inner ++ .closing :: rest) = (.ok value, .closing :: rest) :=
        result
      rw [finds]
      rfl

/-- The word for an empty geometry. -/
theorem enclosed_gives_empty (empty : α) (body : Reader α) :
    Gives (enclosed empty body) [.word "EMPTY".toList] (some empty) := by
  intro rest
  rfl

/-- Items in parentheses. -/
theorem enclosed_items_gives
    {list : List β}
    (gives : ∀ item ∈ list, Gives reader (write item) (reread? item))
    (refuses : RefusesClosing reader)
    (empty : List α) :
    Gives (enclosed empty (items reader)) (enclosedTokens (commaTokens (list.map write)))
      (rereadEnclosed? reread? list) :=
  enclosed_gives (items_yields gives refuses) empty

/-- Items behind the word for their type. -/
theorem itemTokens_gives
    {list : List β}
    (gives : ∀ item ∈ list, Gives reader (write item) (reread? item))
    (refuses : RefusesClosing reader) :
    Gives (enclosed [] (items reader)) (Geometry.itemTokens (list.map write))
      (list.mapM reread?) := by
  cases list with
  | nil => exact enclosed_gives_empty [] (items reader)
  | cons first others => exact enclosed_items_gives gives refuses []

/-- A reader of something in parentheses refuses to start with the closing one. -/
theorem enclosed_refusesClosing (empty : α) (body : Reader α) :
    RefusesClosing (enclosed empty body) :=
  fun _ => ⟨_, _, rfl⟩

end

/-! ## Positions, lines and areas -/

theorem ordinate_gives (name : Char) (value : Binary64) :
    Gives (ordinate name) [ordinateToken value]
      (if IsReadable value then some value else none) := by
  intro rest
  rw [ordinateToken]
  split
  · rfl
  · exact ⟨_, _, rfl⟩

theorem position_gives (written : Coordinate) :
    Gives (position []) written.tokens written.reread? := by
  intro rest
  have found :
      written.reread? =
        (if IsReadable written.x then some written.x else none).bind fun x =>
          (if IsReadable written.y then some written.y else none).bind fun y =>
            some ⟨x, y⟩ := by
    rw [Coordinate.reread?]
    split_ifs <;> simp_all
  rw [found]
  refine (ordinate_gives 'X' written.x (ordinateToken written.y :: rest)).bind fun x _ => ?_
  exact (ordinate_gives 'Y' written.y rest).bind fun y _ => rfl

theorem position_refusesClosing : RefusesClosing (position []) :=
  fun _ => ⟨_, _, rfl⟩

theorem path_gives (written : Path) :
    Gives (path []) written.tokens written.reread? :=
  enclosed_items_gives (fun position _ => position_gives position) position_refusesClosing []

theorem path_refusesClosing : RefusesClosing (path []) :=
  enclosed_refusesClosing [] _

theorem area_gives (written : Polygon) :
    Gives (area []) written.tokens written.reread? := by
  intro rest
  have found :
      written.reread? =
        (rereadEnclosed? Path.reread? (written.exterior :: written.interiors)).map
          Polygon.ofEnclosed := by
    rw [Polygon.reread?, rereadEnclosed?, if_neg (by simp), List.mapM_cons]
    cases Path.reread? written.exterior with
    | none => rfl
    | some exterior => cases written.interiors.mapM Path.reread? <;> rfl
  have rings :=
    enclosed_items_gives
      (fun ring (_ : ring ∈ written.exterior :: written.interiors) => path_gives ring)
      path_refusesClosing [] rest
  rw [found, Option.map_eq_bind]
  refine rings.bind fun read _ => ?_
  cases read <;> rfl

theorem area_refusesClosing : RefusesClosing (area []) :=
  fun _ => ⟨_, _, rfl⟩

theorem loosePosition_gives (written : Coordinate) :
    Gives (loosePosition []) (enclosedTokens written.tokens) (written.reread?.map some) :=
  enclosed_gives (fun rest => (position_gives written (.closing :: rest)).map some) none

theorem loosePosition_refusesClosing : RefusesClosing (loosePosition []) :=
  fun _ => ⟨_, _, rfl⟩

/-! ## Geometries -/

/-- In front of a body there is no word for a layout. -/
theorem outcome_layoutWord
    (empty : Bool)
    (inner rest : List Token) :
    outcome layoutWord (bodyTokens empty (enclosedTokens inner) ++ rest) =
      (.ok [], bodyTokens empty (enclosedTokens inner) ++ rest) := by
  cases empty <;> rfl

/-- A member of a collection, which starts with the word for its type. -/
def member (depth : Nat) : Reader Geometry := do
  match ← next with
  | some (.word name) => geometryAfter depth name
  | _ => throw .missingMember

theorem member_refusesClosing (depth : Nat) : RefusesClosing (member depth) :=
  fun _ => ⟨_, _, rfl⟩

/-- The reader of what stands behind a word for a type. -/
def body (depth : Nat) : Tag → Reader Geometry
  | .point => do
      match ← enclosed none (some <$> position []) with
      | some found => return .point found
      | none => return .multiPoint []
  | .lineString => do return .lineString (← path [])
  | .polygon => do return .polygon (← area [])
  | .multiPoint => do
      let found ← enclosed [] (items (loosePosition []))
      return .multiPoint (found.filterMap id)
  | .multiLineString => do return .multiLineString (← enclosed [] (items (path [])))
  | .multiPolygon => do return .multiPolygon (← enclosed [] (items (area [])))
  | .collection => do
      match depth with
      | 0 => throw .unknownType
      | depth + 1 => return .collection (← enclosed [] (items (member depth)))

/-- A word without a layout, in front of a body. -/
theorem outcome_geometryAfter
    {name : List Char}
    {tag : Tag}
    (isTag : tag? name = some (tag, none))
    (depth : Nat)
    (empty : Bool)
    (inner rest : List Token) :
    outcome (geometryAfter depth name) (bodyTokens empty (enclosedTokens inner) ++ rest) =
      outcome (body depth tag) (bodyTokens empty (enclosedTokens inner) ++ rest) := by
  rw [geometryAfter.eq_def, isTag]
  dsimp only
  rw [outcome_bind, outcome_layoutWord]
  dsimp only
  cases tag <;> rfl

/-- The type that the word for a geometry names. -/
def tagOf : Geometry → Tag
  | .point _ => .point
  | .segment _ _ | .lineString _ => .lineString
  | .polygon _ | .rectangle _ _ | .triangle _ _ _ => .polygon
  | .multiPoint _ => .multiPoint
  | .multiLineString _ => .multiLineString
  | .multiPolygon _ => .multiPolygon
  | .collection _ => .collection

theorem tag?_tagName (geometry : Geometry) :
    tag? geometry.tagName.toList = some (tagOf geometry, none) := by
  have names : ∀ entry ∈ tags, tag? entry.1.toList = some (entry.2, none) := by decide +kernel
  have listed : (geometry.tagName, tagOf geometry) ∈ tags := by
    cases geometry <;> simp [Geometry.tagName, tagOf, tags]
  exact names _ listed

/-- What stands behind a word is the word for an empty geometry or a body. -/
theorem exists_tokensAfterTag_eq (geometry : Geometry) :
    ∃ empty inner, geometry.tokensAfterTag = bodyTokens empty (enclosedTokens inner) := by
  cases geometry with
  | point position => exact ⟨false, _, rfl⟩
  | segment start stop => exact ⟨false, _, rfl⟩
  | lineString path => exact ⟨path.isEmpty, _, rfl⟩
  | polygon area => exact ⟨area.exterior.isEmpty, _, rfl⟩
  | multiPoint positions => exact ⟨_, _, rfl⟩
  | multiLineString paths => exact ⟨_, _, rfl⟩
  | multiPolygon areas => exact ⟨_, _, rfl⟩
  | collection members => exact ⟨_, _, rfl⟩
  | rectangle low high => exact ⟨false, _, rfl⟩
  | triangle first second third => exact ⟨false, _, rfl⟩

theorem tokensAfterTag_ne_nil (geometry : Geometry) : geometry.tokensAfterTag ≠ [] := by
  obtain ⟨empty, inner, shape⟩ := exists_tokensAfterTag_eq geometry
  rw [shape]
  cases empty <;> simp [bodyTokens, enclosedTokens]

/-- A line that may be empty, behind its word. -/
theorem lineBody_gives (path : Path) (depth : Nat) :
    Gives (body depth .lineString) (bodyTokens path.isEmpty path.tokens)
      ((if path.isEmpty then some [] else Path.reread? path).map .lineString) := by
  intro rest
  cases path with
  | nil => rfl
  | cons first others => exact (path_gives (first :: others) rest).map Geometry.lineString

/-- An area that may be empty, behind its word. -/
theorem areaBody_gives (written : Polygon) (depth : Nat) :
    Gives (body depth .polygon) (bodyTokens written.exterior.isEmpty written.tokens)
      (Geometry.rereadArea? written) := by
  intro rest
  rw [Geometry.rereadArea?]
  cases empty : written.exterior.isEmpty with
  | true => rfl
  | false => exact (area_gives written rest).map Geometry.polygon

theorem mapM_map_some (positions : List Coordinate) :
    (positions.mapM fun position => position.reread?.map some) =
      (positions.mapM Coordinate.reread?).map (List.map some) := by
  induction positions with
  | nil => rfl
  | cons first others induction =>
      rw [List.mapM_cons, List.mapM_cons, induction]
      cases first.reread? with
      | none => rfl
      | some position => cases others.mapM Coordinate.reread? <;> rfl

/-- A point, behind its word. -/
theorem pointBody_gives (position : Coordinate) (depth : Nat) :
    Gives (body depth .point) (Geometry.point position).tokensAfterTag
      (Geometry.point position).reread? := by
  intro rest
  have found :
      (Geometry.point position).reread? =
        (position.reread?.map some).bind fun read => match read with
          | some found => some (.point found)
          | none => some (.multiPoint []) := by
    cases read : position.reread? <;> simp [Geometry.reread?, read]
  rw [found]
  refine (loosePosition_gives position rest).bind fun read _ => ?_
  cases read <;> rfl

/-- Points, behind their word. -/
theorem multiPointBody_gives (positions : List Coordinate) (depth : Nat) :
    Gives (body depth .multiPoint) (Geometry.multiPoint positions).tokensAfterTag
      (Geometry.multiPoint positions).reread? := by
  intro rest
  have found :
      (Geometry.multiPoint positions).reread? =
        (positions.mapM fun position : Coordinate => position.reread?.map some).map
          fun found => Geometry.multiPoint (found.filterMap id) := by
    rw [mapM_map_some, Option.map_map, Geometry.reread?]
    congr 1
    funext read
    simp
  rw [found]
  exact (itemTokens_gives (fun position _ => loosePosition_gives position)
    loosePosition_refusesClosing rest).map
      fun found => Geometry.multiPoint (found.filterMap id)

theorem memberTokens_eq_map (members : List Geometry) :
    Geometry.memberTokens members = members.map Geometry.tokens := by
  induction members with
  | nil => rfl
  | cons first others induction => rw [Geometry.memberTokens, induction, List.map_cons]; rfl

theorem rereadMembers?_eq_mapM (members : List Geometry) :
    Geometry.rereadMembers? members = members.mapM Geometry.reread? := by
  induction members with
  | nil => rfl
  | cons first others induction => rw [Geometry.rereadMembers?, induction, List.mapM_cons]

/-- An item is no longer than the list in which it stands. -/
theorem length_le_of_mem
    {items : List (List Token)}
    {item : List Token}
    (member : item ∈ items) :
    item.length ≤ (commaTokens items).length := by
  induction items with
  | nil => cases member
  | cons first others induction =>
      cases others with
      | nil => simp_all [commaTokens]
      | cons second further =>
          rw [commaTokens_cons_cons, List.length_append, List.length_cons]
          rcases List.mem_cons.mp member with rfl | later
          · omega
          · have shorter := induction later
            omega

/-- Behind its word a member of a collection is shorter than the collection. -/
theorem length_tokensAfterTag_lt
    {members : List Geometry}
    {entry : Geometry}
    (isMember : entry ∈ members) :
    entry.tokensAfterTag.length < (Geometry.collection members).tokensAfterTag.length := by
  have listed : entry.tokens ∈ members.map Geometry.tokens := List.mem_map_of_mem isMember
  have shorter := length_le_of_mem listed
  have nonempty : (members.map Geometry.tokens).isEmpty = false := by
    cases members with
    | nil => cases isMember
    | cons _ _ => rfl
  rw [Geometry.tokensAfterTag, memberTokens_eq_map, Geometry.itemTokens, nonempty]
  simp only [Geometry.tokens, List.length_cons, bodyTokens, enclosedTokens, Bool.false_eq_true,
    if_false, List.length_append, List.length_nil] at shorter ⊢
  omega

/-- A member of a collection is read as the geometry behind its word. -/
theorem member_gives
    {geometry : Geometry}
    {depth : Nat}
    (gives : Gives (body depth (tagOf geometry)) geometry.tokensAfterTag geometry.reread?) :
    Gives (member depth) geometry.tokens geometry.reread? := by
  intro rest
  obtain ⟨empty, inner, shape⟩ := exists_tokensAfterTag_eq geometry
  have after := outcome_geometryAfter (tag?_tagName geometry) depth empty inner rest
  have word :
      outcome (member depth) (geometry.tokens ++ rest) =
        outcome (geometryAfter depth geometry.tagName.toList) (geometry.tokensAfterTag ++ rest) :=
    rfl
  rw [word, shape, after, ← shape]
  exact gives rest

mutual

/-- What is written behind a word is read as the geometry that it is written for. -/
theorem body_gives :
    ∀ {geometry : Geometry} {depth : Nat},
      geometry.tokensAfterTag.length ≤ depth →
      Gives (body depth (tagOf geometry)) geometry.tokensAfterTag geometry.reread?
  | .point position, depth, _ => pointBody_gives position depth
  | .segment start stop, depth, _ => lineBody_gives [start, stop] depth
  | .lineString path, depth, _ => lineBody_gives path depth
  | .polygon area, depth, _ => areaBody_gives area depth
  | .rectangle low high, depth, _ => areaBody_gives ⟨Path.aroundRectangle low high, []⟩ depth
  | .triangle first second third, depth, _ =>
      areaBody_gives ⟨Path.aroundTriangle first second third, []⟩ depth
  | .multiPoint positions, depth, _ => multiPointBody_gives positions depth
  | .multiLineString paths, _, _ => fun rest =>
      (itemTokens_gives (fun path _ => path_gives path) path_refusesClosing rest).map
        Geometry.multiLineString
  | .multiPolygon areas, _, _ => fun rest =>
      (itemTokens_gives (fun area _ => area_gives area) area_refusesClosing rest).map
        Geometry.multiPolygon
  | .collection members, depth, enough => by
      intro rest
      cases depth with
      | zero =>
          have nothing := List.length_eq_zero_iff.mp (Nat.le_zero.mp enough)
          exact absurd nothing (tokensAfterTag_ne_nil (.collection members))
      | succ depth =>
          have shorter : ∀ entry ∈ members, entry.tokensAfterTag.length ≤ depth := by
            intro entry isMember
            have less := length_tokensAfterTag_lt isMember
            omega
          rw [Geometry.reread?, rereadMembers?_eq_mapM, Geometry.tokensAfterTag,
            memberTokens_eq_map]
          exact (itemTokens_gives (members_give shorter) (member_refusesClosing depth) rest).map
            Geometry.collection

/-- Every member of a collection is read as what it is written for. -/
theorem members_give :
    ∀ {members : List Geometry} {depth : Nat},
      (∀ entry ∈ members, entry.tokensAfterTag.length ≤ depth) →
      ∀ entry ∈ members, Gives (member depth) entry.tokens entry.reread?
  | [], _, _ => nofun
  | first :: others, depth, enough => by
      intro entry isMember
      rcases List.mem_cons.mp isMember with isFirst | later
      · rw [isFirst]
        exact member_gives (body_gives (enough first List.mem_cons_self))
      · exact members_give (fun other listed => enough other (List.mem_cons_of_mem first listed))
          entry later

end

/-- A word for a type, in front of a body. -/
theorem outcome_geometry
    {name : List Char}
    {tag : Tag}
    (ascii : (name.all fun character => character.toNat < 128) = true)
    (isTag : tag? name = some (tag, none))
    (empty : Bool)
    (inner : List Token) :
    outcome geometry (.word name :: bodyTokens empty (enclosedTokens inner)) =
      outcome (body (bodyTokens empty (enclosedTokens inner)).length tag)
        (bodyTokens empty (enclosedTokens inner)) := by
  have after := outcome_geometryAfter isTag (bodyTokens empty (enclosedTokens inner)).length
    empty inner []
  rw [List.append_nil] at after
  rw [← after]
  show outcome (if _ then _ else _) (bodyTokens empty (enclosedTokens inner)) = _
  rw [if_pos ascii]
  rfl

/-- A written geometry is read as what its tokens are read as. -/
theorem yields_geometry (written : Geometry) :
    Yields (outcome geometry written.tokens) written.reread? [] := by
  obtain ⟨empty, inner, shape⟩ := exists_tokensAfterTag_eq written
  have ascii :
      (written.tagName.toList.all fun character => character.toNat < 128) = true := by
    have names : ∀ name ∈ tags.map Prod.fst,
        (name.toList.all fun character => character.toNat < 128) = true := by decide +kernel
    exact names written.tagName written.tagName_mem_tags
  have gives := body_gives (Nat.le_refl written.tokensAfterTag.length) []
  rw [Geometry.tokens, shape, outcome_geometry ascii (tag?_tagName written), ← shape]
  rw [List.append_nil] at gives
  exact gives

end Wkt

namespace LocatedGeometry

open Wkt

/-- A geometry is read from what follows its reference system. -/
theorem ofText_of_splitReference
    {text : String}
    {srid : Option Int}
    {characters : List Char}
    (split : splitReference text = .ok (srid, characters)) :
    ofText text = do return ⟨← (outcome Wkt.geometry (tokens characters)).1, srid⟩ := by
  rw [ofText, split]
  rfl

/-- Every text of a geometry is a word and the word for an empty geometry or a body. -/
theorem exists_wktCharacters_eq (written : Geometry) :
    ∃ empty text,
      written.wktCharacters = Geometry.tagged written.tagName empty (parenthesized text) := by
  cases written with
  | point position => exact ⟨false, _, rfl⟩
  | segment start stop => exact ⟨false, _, rfl⟩
  | lineString path => exact ⟨path.isEmpty, _, rfl⟩
  | polygon area => exact ⟨area.exterior.isEmpty, _, rfl⟩
  | multiPoint positions => exact ⟨_, _, rfl⟩
  | multiLineString paths => exact ⟨_, _, rfl⟩
  | multiPolygon areas => exact ⟨_, _, rfl⟩
  | collection members => exact ⟨_, _, rfl⟩
  | rectangle low high => exact ⟨false, _, rfl⟩
  | triangle first second third => exact ⟨false, _, rfl⟩

/-- The text of a geometry starts with a letter that is no `S`. -/
theorem exists_wktCharacters_eq_cons (written : Geometry) :
    ∃ first rest,
      written.wktCharacters = first :: rest ∧
        Text.isBlank first = false ∧ first.toUpper ≠ 'S' := by
  obtain ⟨empty, text, shape⟩ := exists_wktCharacters_eq written
  have names : ∀ name ∈ tags.map Prod.fst,
      (name.toList.head?.any fun first => !Text.isBlank first && first.toUpper != 'S') = true := by
    decide +kernel
  have starts := names written.tagName written.tagName_mem_tags
  rw [shape, Geometry.tagged]
  cases word : written.tagName.toList with
  | nil => simp [word] at starts
  | cons first rest =>
      refine ⟨first, _, rfl, ?_⟩
      simpa [word] using starts

/-- The text of a geometry ends with a parenthesis or a letter. -/
theorem isBlank_getLast?_wktCharacters (written : Geometry) :
    ∀ last ∈ written.wktCharacters.getLast?, Text.isBlank last = false := by
  obtain ⟨empty, text, shape⟩ := exists_wktCharacters_eq written
  rw [shape, Geometry.tagged]
  cases empty with
  | true =>
      have ends : " EMPTY".toList = " EMPT".toList ++ ['Y'] := by decide +kernel
      rw [if_pos rfl, ends, ← List.append_assoc, List.getLast?_concat]
      rintro last ⟨⟩
      rfl
  | false =>
      rw [if_neg (by decide), parenthesized, ← List.append_assoc, List.getLast?_concat]
      rintro last ⟨⟩
      rfl

/-- The text of a geometry has no blanks around it and declares no reference system. -/
theorem splitReference_wkt (written : Geometry) :
    splitReference written.wkt = .ok (none, written.wktCharacters) := by
  obtain ⟨first, rest, shape, visible, notS⟩ := exists_wktCharacters_eq_cons written
  have trimmed : Text.trim written.wktCharacters = written.wktCharacters := by
    apply Text.trim_eq_self
    · rw [shape]
      rintro character ⟨⟩
      exact visible
    · exact isBlank_getLast?_wktCharacters written
  have noReference : isWord "SRID=" (written.wktCharacters.take 5) = false := by
    rw [shape, isWord, List.take_succ_cons, List.map_cons, beq_eq_false_iff_ne]
    intro equal
    exact notS (List.cons.inj equal).1
  rw [splitReference, Geometry.wkt, String.toList_ofList, trimmed]
  dsimp only
  rw [noReference, if_neg (by decide)]

/-- The text of a geometry is read as what its parts are read as. -/
theorem ofText_wkt (written : Geometry) :
    match written.reread? with
    | some kept => ofText written.wkt = .ok ⟨kept, none⟩
    | none => ∃ fault, ofText written.wkt = .error fault := by
  have yields := yields_geometry written
  rw [(Geometry.lexes_wktCharacters written).tokens_eq.symm] at yields
  rw [ofText_of_splitReference (splitReference_wkt written)]
  cases found : written.reread? with
  | none =>
      rw [found] at yields
      obtain ⟨fault, left, fails⟩ := yields
      rw [fails]
      exact ⟨fault, rfl⟩
  | some kept =>
      rw [found] at yields
      have finds :
          outcome Wkt.geometry (tokens written.wktCharacters) = (.ok kept, []) := yields
      rw [finds]
      rfl

theorem ofText_wkt_of_reread?
    {written kept : Geometry}
    (isKept : written.reread? = some kept) :
    ofText written.wkt = .ok ⟨kept, none⟩ := by
  have read := ofText_wkt written
  rw [isKept] at read
  exact read

end LocatedGeometry

end GeoTables
