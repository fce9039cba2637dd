import GeoTables.Proofs.Geometry.Wkt.Grammar
import GeoTables.Proofs.Geometry.Wkt.Reference
import GeoTables.Proofs.Geometry.Wkt.Spelled

/-!
# The word for the type of a geometry

A text that is read as a geometry starts, behind a spatial reference, with the
word for a type, and the geometry has the shape that the type stands for.  The
one exception is an empty point, which is read as an empty list of points.
-/

namespace GeoTables

open Text

namespace Wkt

/-- The words for types, those with an attached layout included. -/
def typeNames : List (String × Tag) :=
  ("LINEARRING", .lineString) ::
    tags.flatMap fun (base, tag) =>
      (base, tag) :: layouts.map fun (suffix, _) => (base ++ suffix, tag)

/-- A word that names a type is one of the words for the type, in any letter case. -/
theorem exists_typeName_of_tag?
    {name : List Char}
    {tag : Tag}
    {attached : Option Layout}
    (isTag : tag? name = some (tag, attached)) :
    ∃ spelling, (spelling, tag) ∈ typeNames ∧ capitals name = spelling.toList := by
  rw [tag?] at isTag
  split_ifs at isTag with isRing
  · cases isTag
    exact ⟨"LINEARRING", List.mem_cons_self, beq_iff_eq.mp isRing⟩
  · obtain ⟨⟨base, own⟩, listed, found⟩ := List.exists_of_findSome?_eq_some isTag
    dsimp only at found
    split_ifs at found with isBase
    · cases found
      refine ⟨base, List.mem_cons_of_mem _ ?_, beq_iff_eq.mp isBase⟩
      exact List.mem_flatMap.mpr ⟨_, listed, List.mem_cons_self⟩
    · obtain ⟨⟨suffix, layout⟩, isLayout, found⟩ := List.exists_of_findSome?_eq_some found
      dsimp only at found
      split_ifs at found with isLong
      cases found
      refine ⟨base ++ suffix, List.mem_cons_of_mem _ ?_, beq_iff_eq.mp isLong⟩
      exact List.mem_flatMap.mpr
        ⟨_, listed, List.mem_cons_of_mem _ (List.mem_map.mpr ⟨_, isLayout, rfl⟩)⟩

/-! ## Shapes -/

/-- The shapes that are read behind the word for a type. -/
inductive Tag.Makes : Tag → Geometry → Prop where
  | point (position : Coordinate) : Makes .point (.point position)
  | emptyPoint : Makes .point (.multiPoint [])
  | lineString (path : Path) : Makes .lineString (.lineString path)
  | polygon (area : Polygon) : Makes .polygon (.polygon area)
  | multiPoint (positions : List Coordinate) : Makes .multiPoint (.multiPoint positions)
  | multiLineString (paths : List Path) : Makes .multiLineString (.multiLineString paths)
  | multiPolygon (areas : List Polygon) : Makes .multiPolygon (.multiPolygon areas)
  | collection (members : List Geometry) : Makes .collection (.collection members)

/-- Behind the word for a type a geometry of the type is read. -/
theorem ensures_makes
    {name : List Char}
    {tag : Tag}
    {attached : Option Layout}
    (isTag : tag? name = some (tag, attached))
    (depth : Nat) :
    Ensures (geometryAfter depth name) tag.Makes := by
  rw [geometryAfter.eq_def, isTag]
  refine ensures_behindLayout fun layout => ?_
  cases tag with
  | point =>
      refine (Ensures.any _).bind fun found _ => ?_
      cases found with
      | none => exact .pure .emptyPoint
      | some position => exact .pure (.point position)
  | lineString => exact (Ensures.any _).bind fun path _ => .pure (.lineString path)
  | polygon => exact (Ensures.any _).bind fun area _ => .pure (.polygon area)
  | multiPoint => exact (Ensures.any _).bind fun found _ => .pure (.multiPoint _)
  | multiLineString => exact (Ensures.any _).bind fun paths _ => .pure (.multiLineString paths)
  | multiPolygon => exact (Ensures.any _).bind fun areas _ => .pure (.multiPolygon areas)
  | collection =>
      cases depth with
      | zero => exact .fault .unknownType
      | succ depth => exact (Ensures.any _).bind fun members _ => .pure (.collection members)

/-- A geometry is read from tokens that start with a word, and from what stands behind the word. -/
theorem exists_word_of_geometry
    {input left : List Token}
    {found : Geometry}
    (read : outcome geometry input = (.ok found, left)) :
    ∃ name rest tag attached,
      input = .word name :: rest ∧ tag? name = some (tag, attached) ∧
        outcome (geometryAfter rest.length name) rest = (.ok found, left) := by
  cases input with
  | nil => cases read
  | cons token rest =>
      cases token with
      | word name =>
          rw [outcome_geometry_word] at read
          split_ifs at read
          · cases isTag : tag? name with
            | none =>
                rw [geometryAfter.eq_def, isTag] at read
                cases read
            | some found =>
                obtain ⟨tag, attached⟩ := found
                exact ⟨name, rest, tag, attached, rfl, isTag, read⟩
          · cases read
      | _ => cases read

/-! ## First words -/

theorem eq_of_tokenOfRun_eq_word
    {run name : List Char}
    (isWord : tokenOfRun run = some (.word name)) :
    run = name := by
  cases run with
  | nil => cases isWord
  | cons first rest =>
      rw [tokenOfRun] at isWord
      cases isNumber : startsNumber first with
      | false =>
          rw [isNumber, if_neg (by decide)] at isWord
          cases isWord
          rfl
      | true =>
          rw [isNumber, if_pos rfl] at isWord
          split at isWord <;> cases isWord

theorem mark?_ne_word (character : Char) (name : List Char) :
    mark? character ≠ some (.word name) := by
  unfold mark?
  split <;> nofun

theorem isBlank_of_isSpace
    {character : Char}
    (space : isSpace character = true) :
    isBlank character = true := by
  simp only [isSpace, Bool.or_eq_true, beq_iff_eq] at space
  rcases space with ((rfl | rfl) | rfl) | rfl <;> rfl

/-- A character that neither separates tokens nor is one. -/
def continuesRun (character : Char) : Bool :=
  !isSpace character && (mark? character).isNone

/-- The first run of a text is gathered before anything else. -/
theorem tokens_eq_of_run (text : List Char) :
    tokens text =
      (tokenOfRun (text.takeWhile continuesRun)).toList ++
        tokens (text.dropWhile continuesRun) := by
  conv_lhs => rw [← List.takeWhile_append_dropWhile (p := continuesRun) (l := text)]
  rw [tokens, tokensAfter_run]
  · rw [List.reverse_nil, List.nil_append]
  · intro character member
    simpa [continuesRun] using List.mem_takeWhile_imp member
  · intro next isNext
    have stops := List.head?_dropWhile_not continuesRun text
    rw [isNext] at stops
    have ends : continuesRun next = false := by simpa using stops
    cases space : isSpace next with
    | true => exact .inl rfl
    | false => exact .inr (by simpa [continuesRun, space, Option.isSome_iff_ne_none] using ends)

theorem isSome_tokenOfRun (first : Char) (rest : List Char) :
    (tokenOfRun (first :: rest)).isSome = true := by
  rw [tokenOfRun]
  split
  · split <;> rfl
  · rfl

/-- A word that is the first token of a trimmed text stands at its start. -/
theorem prefix_of_tokens_trim
    {text name : List Char}
    {rest : List Token}
    (lexed : tokens (trim text) = .word name :: rest) :
    name <+: trim text := by
  have visible := isBlank_head?_trim text
  have gathered := tokens_eq_of_run (trim text)
  rw [lexed] at gathered
  cases form : trim text with
  | nil =>
      rw [form] at lexed
      cases lexed
  | cons first others =>
      have notSpace : isSpace first = false := by
        cases space : isSpace first with
        | false => rfl
        | true =>
            rw [form] at visible
            exact absurd (isBlank_of_isSpace space) (by simp [visible first rfl])
      cases isMark : mark? first with
      | some token =>
          rw [form, Lexes.tokens_mark notSpace isMark] at lexed
          exact absurd (isMark.trans (congrArg some (List.cons.inj lexed).1))
            (mark?_ne_word first name)
      | none =>
          have continues : continuesRun first = true := by simp [continuesRun, notSpace, isMark]
          rw [form, List.takeWhile_cons_of_pos continues] at gathered
          obtain ⟨token, isToken⟩ :=
            Option.isSome_iff_exists.mp (isSome_tokenOfRun first (others.takeWhile continuesRun))
          rw [isToken, Option.toList_some, List.singleton_append] at gathered
          rw [← (List.cons.inj gathered).1] at isToken
          rw [← eq_of_tokenOfRun_eq_word isToken, ← List.takeWhile_cons_of_pos continues]
          exact List.takeWhile_prefix continuesRun

end Wkt

/-! ## The type that a text names -/

namespace LocatedGeometry

open Wkt

/-- The type named by the first word of a text, behind a spatial reference. -/
def tag? (text : String) : Option Tag :=
  match splitReference text with
  | .error _ => none
  | .ok (_, body) =>
      match tokens body with
      | .word name :: _ => (Wkt.tag? name).map Prod.fst
      | _ => none

theorem tag?_eq
    {text : String}
    {srid : Option Int}
    {body name : List Char}
    {rest : List Token}
    (split : splitReference text = .ok (srid, body))
    (lexed : tokens body = .word name :: rest) :
    tag? text = (Wkt.tag? name).map Prod.fst := by
  simp only [tag?, split, lexed]

/-- A text that is read as a geometry starts, behind a reference, with the word for a type. -/
theorem exists_word_of_ofText
    {text : String}
    {located : LocatedGeometry}
    (read : ofText text = .ok located) :
    ∃ body name rest tag attached left,
      splitReference text = .ok (located.srid, body) ∧
        outcome Wkt.geometry (tokens body) = (.ok located.geometry, left) ∧
        tokens body = .word name :: rest ∧ Wkt.tag? name = some (tag, attached) ∧
        outcome (geometryAfter rest.length name) rest = (.ok located.geometry, left) := by
  simp only [ofText, Outcome.bind_eq_ok, Outcome.pure_eq_ok] at read
  obtain ⟨⟨srid, body⟩, split, geometry, isGeometry, rfl⟩ := read
  have whole : outcome Wkt.geometry (tokens body) = (.ok geometry, _) := Prod.ext isGeometry rfl
  obtain ⟨name, rest, tag, attached, lexed, isTag, found⟩ := exists_word_of_geometry whole
  exact ⟨body, name, rest, tag, attached, _, split, whole, lexed, isTag, found⟩

/-- A text that is read as a geometry names a type, and the geometry is of the type. -/
theorem exists_tag_of_ofText
    {text : String}
    {located : LocatedGeometry}
    (read : ofText text = .ok located) :
    ∃ tag, tag? text = some tag ∧ tag.Makes located.geometry := by
  obtain ⟨body, name, rest, tag, attached, left, split, _, lexed, isTag, found⟩ :=
    exists_word_of_ofText read
  refine ⟨tag, ?_, ensures_makes isTag _ _ _ _ found⟩
  rw [tag?_eq split lexed, isTag, Option.map_some]

end LocatedGeometry

end GeoTables
