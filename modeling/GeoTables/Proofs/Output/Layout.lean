import GeoTables.Output.Writing
import GeoTables.Proofs.Outcome

/-!
# Written records as one text

An outlet without a bound takes every piece and nobody cancels its work, so
that writing fails only where a record has no form.  What is written is then
the opening of the layout, the items of the records with a separator in front
of each but the first, and the closing.
-/

namespace GeoTables

namespace Writing

variable {Result : Type}

/-- Take a step from what has been written so far. -/
def runFrom
    (written : Written)
    (step : Writing Result) :
    Except Failure Result × Written :=
  (step.run).run written

@[simp]
theorem runFrom_get (written : Written) :
    runFrom written (get : Writing Written) = (.ok written, written) := rfl

theorem runFrom_bind
    {First : Type}
    (written : Written)
    (first : Writing First)
    (next : First → Writing Result) :
    runFrom written (first >>= next) =
      match runFrom written first with
      | (.ok result, reached) => runFrom reached (next result)
      | (.error failure, reached) => (.error failure, reached) := by
  change StateT.run (ExceptT.run (first >>= next)) written = _
  rw [ExceptT.run_bind, StateT.run_bind]
  change (match (ExceptT.run first).run written with
    | (outcome, reached) => _) = _
  unfold runFrom
  rcases (ExceptT.run first).run written with ⟨_ | _, _⟩ <;> rfl

/-- An outlet without a bound takes every piece. -/
@[simp]
theorem runFrom_write
    (written : Written)
    (failure : String → Failure)
    (piece : List Char) :
    runFrom written (write .unbounded failure piece) = (.ok (), written.add piece) := rfl

end Writing

@[simp]
theorem Written.characters_add
    (written : Written)
    (piece : List Char) :
    (written.add piece).characters = written.characters ++ piece := by
  simp [Written.characters, Written.add]

namespace Layout

/-- The items behind other items, a separator in front of each. -/
def followed (layout : Layout) (items : List (List Char)) : List Char :=
  items.flatMap (layout.separator ++ ·)

/-- The items of a document, the first of which has no separator in front of it. -/
def body (layout : Layout) : List (List Char) → List Char
  | [] => []
  | first :: rest => first ++ layout.followed rest

/-- The document of some items. -/
def text (layout : Layout) (items : List (List Char)) : List Char :=
  layout.opening ++ layout.body items ++ layout.closing

end Layout

namespace Writing

variable (layout : Layout)

/-- What is known after a step: the failure, or else all that has been written. -/
def outcome (ended : Except Failure Unit × Written) : Except Failure (List Char) :=
  ended.1.map fun _ => ended.2.characters

/-- One record is written by its item, a separator in front of it unless it is the first. -/
theorem outcome_writeRecords_cons
    (index : Nat)
    (record : Record)
    (rest : List Record)
    (written : Written) :
    outcome (runFrom written (writeRecords .unbounded layout index (record :: rest))) =
      layout.item record >>= fun item =>
        outcome (runFrom
          ((if index > 0 then written.add layout.separator else written).add item)
          (writeRecords .unbounded layout (index + 1) rest)) := by
  have free : Outlet.unbounded.isCancelled index written.size = false := rfl
  rw [writeRecords]
  simp only [runFrom_bind, runFrom_get, free, Bool.false_eq_true, if_false]
  cases layout.item record with
  | error failure => split_ifs <;> rfl
  | ok item => split_ifs <;> rfl

/-- Records behind other ones are written as their items, a separator in front of each. -/
theorem outcome_writeRecords_succ
    (index : Nat)
    (records : List Record)
    (written : Written) :
    outcome (runFrom written (writeRecords .unbounded layout (index + 1) records)) =
      (records.mapM layout.item).map fun items =>
        written.characters ++ layout.followed items := by
  induction records generalizing index written with
  | nil => exact congrArg Except.ok (List.append_nil written.characters).symm
  | cons record rest induction =>
      rw [outcome_writeRecords_cons, Outcome.map_mapM_cons, if_pos (Nat.succ_pos index)]
      refine congrArg (layout.item record >>= ·) (funext fun item => ?_)
      rw [induction]
      simp [Layout.followed]

/-- All records are written as their items, a separator between them. -/
theorem outcome_writeRecords_zero
    (records : List Record)
    (written : Written) :
    outcome (runFrom written (writeRecords .unbounded layout 0 records)) =
      (records.mapM layout.item).map fun items =>
        written.characters ++ layout.body items := by
  cases records with
  | nil => exact congrArg Except.ok (List.append_nil written.characters).symm
  | cons record rest =>
      rw [outcome_writeRecords_cons, Outcome.map_mapM_cons, if_neg (Nat.lt_irrefl 0)]
      refine congrArg (layout.item record >>= ·) (funext fun item => ?_)
      rw [outcome_writeRecords_succ]
      simp [Layout.body]

/-- A piece behind a step comes behind all that the step has written. -/
theorem outcome_bind_write
    (written : Written)
    (step : Writing Unit)
    (failure : String → Failure)
    (piece : List Char) :
    outcome (runFrom written (step >>= fun _ => write .unbounded failure piece)) =
      (outcome (runFrom written step)).map (· ++ piece) := by
  rw [runFrom_bind]
  rcases runFrom written step with ⟨_ | _, reached⟩
  · rfl
  · exact congrArg Except.ok (Written.characters_add reached piece)

/-- All records are written as the document of their items. -/
theorem outcome_writeAll (records : List Record) :
    outcome (runFrom .nothing (writeAll .unbounded layout records)) =
      (records.mapM layout.item).map layout.text := by
  have opened : (Written.nothing.add layout.opening).characters = layout.opening := by
    rw [Written.characters_add]
    rfl
  rw [writeAll, runFrom_bind, runFrom_write]
  change outcome (runFrom _ (writeRecords .unbounded layout 0 records >>= fun _ => _)) = _
  rw [outcome_bind_write, outcome_writeRecords_zero, opened]
  cases records.mapM layout.item <;> rfl

end Writing

/-- Records are serialized as the document of their items, if each of them has one. -/
theorem serialize_eq
    (table : Table)
    (format : Format)
    (records : List Record) :
    serialize table format records =
      (records.mapM (Layout.ofFormat table format).item).map
        (Layout.ofFormat table format).text := by
  rw [← Writing.outcome_writeAll, serialize, writeRecords, Writing.runFrom]
  rcases (Writing.writeAll .unbounded (Layout.ofFormat table format) records).run.run .nothing
    with ⟨_ | _, written⟩
  · rfl
  · rfl

end GeoTables
