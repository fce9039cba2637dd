import GeoTables.Predicate.Evaluation
import GeoTables.Proofs.Predicate.WellFormed

/-!
# The columns that a predicate reads

Every leaf reads one column, and the columns of a predicate are those of its
leaves.  Evaluation may stop before it has come to all of them, but it never
looks further: two records that agree on the columns of a predicate have the
same outcome, be it a truth value or a failure.  What a record holds under
other names, and where it stands among the fields, makes no difference.
-/

namespace GeoTables

namespace Record

/-- The two records have the same value under every one of the names. -/
def AgreeOn (names : List String) (left right : Record) : Prop :=
  ∀ name ∈ names, left.get name = right.get name

/-- The fields of a record that stand under some of the names, in their order. -/
def fieldsUnder (names : List String) (record : Record) : List (String × Value) :=
  record.fields.filter fun field => field.1 ∈ names

variable {names others : List String} {left right : Record}

@[simp]
theorem agreeOn_append :
    AgreeOn (names ++ others) left right ↔
      AgreeOn names left right ∧ AgreeOn others left right := by
  simp only [AgreeOn, List.forall_mem_append]

@[simp]
theorem agreeOn_singleton {name : String} :
    AgreeOn [name] left right ↔ left.get name = right.get name := by
  simp [AgreeOn]

/-- A field is found among the fields under some names if it has one of them. -/
theorem lookup_fieldsUnder
    {name : String}
    (member : name ∈ names)
    (record : Record) :
    (record.fieldsUnder names).lookup name = record.fields.lookup name := by
  rw [fieldsUnder]
  induction record.fields with
  | nil => rfl
  | cons field rest induction =>
      rw [Entries.lookup_entry, List.filter_cons]
      by_cases own : name = field.1
      · have kept : decide (field.1 ∈ names) = true := decide_eq_true (own ▸ member)
        rw [if_pos own, if_pos kept, Entries.lookup_entry, if_pos own]
      · rw [if_neg own, ← induction]
        split
        · rw [Entries.lookup_entry, if_neg own]
        · rfl

/-- Records with the same fields under some names agree on these, whatever else they hold. -/
theorem agreeOn_of_fieldsUnder
    (same : left.fieldsUnder names = right.fieldsUnder names) :
    AgreeOn names left right := by
  intro name member
  rw [get, get, ← lookup_fieldsUnder member left, same, lookup_fieldsUnder member right]

/-- A field that is set under a further name leaves those under the names as they are. -/
theorem agreeOn_set
    {name : String}
    (further : name ∉ names)
    (record : Record)
    (value : Value) :
    AgreeOn names (record.set name value) record := by
  intro other member
  rw [get_set, if_neg]
  rintro rfl
  exact further member

end Record

namespace Predicate

variable {left right : Record}

mutual

/-- The outcome depends on the columns of the leaves alone. -/
theorem holds_eq_of_agreeOn :
    ∀ {predicate : Predicate},
      Record.AgreeOn predicate.leafColumns left right →
      predicate.holds left = predicate.holds right
  | .and children, agree => by
      rw [holds, holds]
      exact allHold_eq_of_agreeOn agree
  | .or children, agree => by
      rw [holds, holds]
      exact someHold_eq_of_agreeOn agree
  | .compare _ _ _, agree | .like _ _, agree | .isIn _ _, agree | .isNull _, agree
  | .isNotNull _, agree | .spatial _, agree => by
      rw [leafColumns, Record.agreeOn_singleton] at agree
      simp only [holds, agree]

theorem allHold_eq_of_agreeOn :
    ∀ {children : List Predicate},
      Record.AgreeOn (leafColumnsOf children) left right →
      allHold children left = allHold children right
  | [], _ => rfl
  | child :: rest, agree => by
      obtain ⟨own, others⟩ := Record.agreeOn_append.mp agree
      rw [allHold, allHold, holds_eq_of_agreeOn own, allHold_eq_of_agreeOn others]

theorem someHold_eq_of_agreeOn :
    ∀ {children : List Predicate},
      Record.AgreeOn (leafColumnsOf children) left right →
      someHold children left = someHold children right
  | [], _ => rfl
  | child :: rest, agree => by
      obtain ⟨own, others⟩ := Record.agreeOn_append.mp agree
      rw [someHold, someHold, holds_eq_of_agreeOn own, someHold_eq_of_agreeOn others]

end

/-- Every column of a leaf is among the columns of the predicate. -/
theorem leafColumns_subset_columns (predicate : Predicate) :
    predicate.leafColumns ⊆ predicate.columns :=
  fun _ member => List.mem_eraseDups.mpr member

/--
Records that agree on the columns of a predicate have the same outcome, failures
included, and so have all records that differ from one of them only in fields
under other names: such fields may be set, dropped and moved.
-/
theorem outcome_determined_by_columns
    {predicate : Predicate}
    (agree : left.AgreeOn predicate.columns right) :
    predicate.holds left = predicate.holds right ∧
      (∀ name ∉ predicate.columns, ∀ value : Value,
        predicate.holds (left.set name value) = predicate.holds right) ∧
      ∀ altered : Record,
        altered.fieldsUnder predicate.columns = left.fieldsUnder predicate.columns →
          predicate.holds altered = predicate.holds right := by
  have determined {first second : Record} (same : first.AgreeOn predicate.columns second) :
      predicate.holds first = predicate.holds second :=
    holds_eq_of_agreeOn fun name member =>
      same name (leafColumns_subset_columns predicate member)
  refine ⟨determined agree, ?_, ?_⟩
  · intro name further value
    rw [determined (Record.agreeOn_set further left value), determined agree]
  · intro altered kept
    rw [determined (Record.agreeOn_of_fieldsUnder kept), determined agree]

/-! ## Records with further fields -/

/-- A predicate that reads three columns, one of them twice. -/
def wideOrUnnamed : Predicate :=
  .or [.and [.compare "area" .gt (.int 5), .isNotNull "site"], .isNull "name",
    .compare "area" .lt (.int 0)]

/-- A record of the three columns. -/
def widePlace : Record :=
  ⟨[("area", .int 7), ("site", .string "north"), ("name", .string "moor")]⟩

/-- The same values in another order, with a field under another name between them. -/
def widePlaceMoved : Record :=
  ⟨[("name", .string "moor"), ("note", .bool true), ("site", .string "north"),
    ("area", .int 7)]⟩

/-- The first record with fields under other names around its own. -/
def widePlaceAnnotated : Record :=
  ⟨[("note", .null), ("area", .int 7), ("site", .string "north"), ("owner", .int 3),
    ("name", .string "moor")]⟩

theorem columns_wideOrUnnamed : wideOrUnnamed.columns = ["area", "site", "name"] := by
  decide

/-- Neither the order of the fields nor those under other names matter. -/
theorem outcome_determined_by_columns_wideOrUnnamed :
    widePlace.AgreeOn wideOrUnnamed.columns widePlaceMoved ∧
      widePlaceAnnotated.fieldsUnder wideOrUnnamed.columns =
        widePlace.fieldsUnder wideOrUnnamed.columns ∧
      wideOrUnnamed.holds widePlace = wideOrUnnamed.holds widePlaceMoved ∧
      wideOrUnnamed.holds widePlaceAnnotated = wideOrUnnamed.holds widePlaceMoved := by
  have agree : widePlace.AgreeOn wideOrUnnamed.columns widePlaceMoved := by
    rw [columns_wideOrUnnamed]
    simp [Record.AgreeOn, Record.get, widePlace, widePlaceMoved, List.lookup_cons]
  have kept :
      widePlaceAnnotated.fieldsUnder wideOrUnnamed.columns =
        widePlace.fieldsUnder wideOrUnnamed.columns := by
    rw [columns_wideOrUnnamed]
    simp [Record.fieldsUnder, widePlace, widePlaceAnnotated]
  obtain ⟨moved, _, annotated⟩ := outcome_determined_by_columns agree
  exact ⟨agree, kept, moved, annotated widePlaceAnnotated kept⟩

end Predicate

end GeoTables
