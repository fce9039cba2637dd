import GeoTables.Proofs.Text.Blank
import GeoTables.Proofs.Text.Splitting
import GeoTables.Table.ForeignKey

/-!
# Canonical paths of references

The path of a reference is made of the parts that were given, joined by dots.  It
can be taken apart again as long as no part has a separator in it.  This is so for
the parts of a path, which is split before its segments are counted; parts that are
given apart are counted and joined as they are.  A part with a dot in it is then
taken for two, and a path of four segments may result, which names no column.
-/

namespace GeoTables.ForeignKey

/-- The texts that stand for parts: between the separators of a path, or one by one. -/
def pieces : ForeignKey → List (List Char)
  | .path text => text.toList.splitOnP isSeparator
  | .parts schema table column => ([schema, table, column].filterMap id).map String.toList

/-- The parts that are given: trimmed, and not empty. -/
def given (reference : ForeignKey) : List (List Char) :=
  (reference.pieces.map Text.trim).filter fun part => !part.isEmpty

/-- The part has no separator in it. -/
def IsSingle (part : List Char) : Prop :=
  ∀ character ∈ part, isSeparator character = false

instance (part : List Char) : Decidable (IsSingle part) :=
  List.decidableBAll (fun character => isSeparator character = false) part

/-- The path falls into the given parts at its dots, and is the canonical path of itself. -/
structure IsCanonical (reference : ForeignKey) (path : String) : Prop where
  parts : path.toList.splitOn '.' = reference.given
  again : (ForeignKey.path path).target? = some path

variable {reference : ForeignKey} {path : String}

theorem dot_separates : isSeparator '.' = true := rfl

/-- A reference has a path if it has two or three segments and none is empty. -/
theorem target?_eq_some_iff :
    reference.target? = some path ↔
      ((reference.segments.length = 2 ∨ reference.segments.length = 3) ∧
        [] ∉ reference.segments) ∧
      path.toList = ['.'].intercalate reference.segments := by
  rw [target?]
  split_ifs with fit
  · rw [Option.some_inj, and_iff_right fit, ← String.toList_inj, String.toList_ofList, eq_comm]
  · simp [fit]

/-- A part that is not there counts for as much as an empty one. -/
theorem filter_segments (parts : List (Option String)) :
    ((parts.map segment).filter fun part => !part.isEmpty) =
      (((parts.filterMap id).map String.toList).map Text.trim).filter fun part =>
        !part.isEmpty := by
  induction parts with
  | nil => rfl
  | cons part rest induction =>
      cases part with
      | none => exact induction
      | some text =>
          change (segment (some text) :: _).filter _ = (segment (some text) :: _).filter _
          rw [List.filter_cons, List.filter_cons, induction]

/-- Segments of which none is empty are the parts that were given. -/
theorem segments_eq_given (full : [] ∉ reference.segments) :
    reference.segments = reference.given := by
  have whole :
      (reference.segments.filter fun part => !part.isEmpty) = reference.segments := by
    refine List.filter_eq_self.mpr fun part member => ?_
    rw [Bool.not_eq_true', List.isEmpty_eq_false_iff]
    exact ne_of_mem_of_not_mem member full
  rw [← whole]
  cases reference with
  | path text => rfl
  | parts schema table column =>
      rw [given, pieces, ← filter_segments, segments]
      split_ifs with unnamed
      · exact (List.filter_cons_of_neg (by simp [unnamed])).symm
      · rfl

/-- The canonical path joins the parts that were given by dots. -/
structure Joins (reference : ForeignKey) (path : String) : Prop where
  segments : reference.segments = reference.given
  present : reference.given ≠ []
  joined : path.toList = ['.'].intercalate reference.given

theorem joins_of_target?
    (resolved : reference.target? = some path) :
    reference.Joins path := by
  obtain ⟨⟨count, full⟩, joined⟩ := target?_eq_some_iff.mp resolved
  rw [segments_eq_given full] at count joined
  refine ⟨segments_eq_given full, ?_, joined⟩
  intro empty
  simp [empty] at count

theorem trim_of_mem_given
    {part : List Char}
    (member : part ∈ reference.given) :
    Text.trim part = part := by
  obtain ⟨piece, _, rfl⟩ := List.mem_map.mp (List.mem_of_mem_filter member)
  exact Text.trim_trim piece

/-- A path is split at all separators, so none is left in its parts. -/
theorem isSingle_of_mem_given_path
    {text : String}
    {part : List Char}
    (member : part ∈ (ForeignKey.path text).given) :
    IsSingle part := by
  obtain ⟨piece, split, rfl⟩ := List.mem_map.mp (List.mem_of_mem_filter member)
  intro character inside
  exact (Text.mem_of_mem_splitOnP split (Text.mem_of_mem_trim inside)).2

/-- Parts without separators are what their path falls into at its dots. -/
theorem Joins.splitOn_eq
    (joins : reference.Joins path)
    (single : ∀ part ∈ reference.given, IsSingle part) :
    path.toList.splitOn '.' = reference.given := by
  rw [joins.joined, List.splitOn_intercalate '.' _ joins.present]
  intro part member dot
  cases single part member '.' dot

/-- Parts without separators are found again in the path that joins them. -/
theorem isCanonical_of_isSingle
    (resolved : reference.target? = some path)
    (single : ∀ part ∈ reference.given, IsSingle part) :
    reference.IsCanonical path := by
  have joins := joins_of_target? resolved
  refine ⟨joins.splitOn_eq single, ?_⟩
  have separate : path.toList.splitOnP isSeparator = reference.given := by
    rw [joins.joined, Text.splitOnP_intercalate dot_separates joins.present single]
  have same : (ForeignKey.path path).segments = reference.segments := by
    rw [joins.segments, segments, separate]
    exact (List.map_congr_left fun _ => trim_of_mem_given).trans (List.map_id _)
  rwa [target?_eq_some_iff, same, ← target?_eq_some_iff]

/-- Parts that are found again in a path that resolves to itself have no separators. -/
theorem IsCanonical.isSingle
    (canonical : reference.IsCanonical path) :
    ∀ part ∈ reference.given, IsSingle part := by
  -- The path has its own parts and those of the reference between its dots.
  have own : path.toList.splitOn '.' = (ForeignKey.path path).given :=
    (joins_of_target? canonical.again).splitOn_eq fun part => isSingle_of_mem_given_path
  rw [← canonical.parts, own]
  exact fun part => isSingle_of_mem_given_path

/--
The path of a reference joins its given parts by dots.  It falls into these parts
again and is the canonical path of itself exactly if no part has a separator in it,
which is always so if the reference is a path.
-/
theorem target_canonical_iff
    (resolved : reference.target? = some path) :
    path.toList = ['.'].intercalate reference.given ∧
    (reference.IsCanonical path ↔ ∀ part ∈ reference.given, IsSingle part) ∧
    ∀ text, reference = .path text → reference.IsCanonical path := by
  refine ⟨(joins_of_target? resolved).joined,
    ⟨IsCanonical.isSingle, isCanonical_of_isSingle resolved⟩, ?_⟩
  rintro text rfl
  exact isCanonical_of_isSingle resolved fun part => isSingle_of_mem_given_path

/-- The number of an owner, with blanks around the names. -/
def ownerNumber : ForeignKey :=
  .parts (some " public ") (some "owner ") (some "id\u00a0")

theorem target_canonical_iff_owner :
    ownerNumber.target? = some "public.owner.id" ∧
      ownerNumber.IsCanonical "public.owner.id" := by
  have resolved : ownerNumber.target? = some "public.owner.id" := by decide +kernel
  exact ⟨resolved, (target_canonical_iff resolved).2.1.mpr (by decide +kernel)⟩

/-- Not every path is canonical: a table with a dot in its name gives one that has too many
    segments to name a column. -/
theorem target_not_canonical :
    ¬ ∀ (reference : ForeignKey) (path : String),
        reference.target? = some path → reference.IsCanonical path := by
  intro canonical
  have resolved :
      (ForeignKey.parts (some "public") (some "land.parcels") (some "id")).target? =
        some "public.land.parcels.id" := by
    decide +kernel
  have refused : (ForeignKey.path "public.land.parcels.id").target? = none := by
    decide +kernel
  have again := (canonical _ _ resolved).again
  rw [refused] at again
  cases again

end GeoTables.ForeignKey
