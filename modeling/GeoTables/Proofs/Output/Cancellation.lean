import GeoTables.Proofs.Output.Layout
import GeoTables.Proofs.Table.Columns
import Mathlib.Data.List.Forall2
import Mathlib.Data.Nat.Find

/-!
# Cancelled work

A writer looks before every record whether its work has been cancelled, and
nowhere else.  Separators come after the check, in front of the record that
follows them.  When a check sees the work cancelled, the writer stops with the
opening of the document and the records before the check, exactly as they stand
in the whole document; when no check sees it, the whole document is written.

What other parties do between two checks shows only in what the checks see, so
that the statements hold of every way in which work can be cancelled.
-/

namespace GeoTables

@[simp]
theorem Text.byteSize_append (left right : List Char) :
    Text.byteSize (left ++ right) = Text.byteSize left + Text.byteSize right := by
  induction left with
  | nil => simp [Text.byteSize]
  | cons character rest induction =>
      change character.utf8Size + Text.byteSize (rest ++ right) =
        character.utf8Size + Text.byteSize rest + Text.byteSize right
      rw [induction, Nat.add_assoc]

theorem Text.byteSize_le_of_prefix
    {first whole : List Char}
    (begins : first <+: whole) :
    Text.byteSize first ≤ Text.byteSize whole := by
  obtain ⟨rest, rfl⟩ := begins
  rw [Text.byteSize_append]
  exact Nat.le_add_right _ _

/-- If a size fits, so does every smaller one. -/
theorem Outlet.fits_of_le
    {outlet : Outlet}
    {smaller greater : Nat}
    (ordered : smaller ≤ greater)
    (roomy : outlet.fits greater = true) :
    outlet.fits smaller = true := by
  unfold fits at *
  cases capacity : outlet.capacity with
  | none => rfl
  | some bound =>
      simp only [capacity, decide_eq_true_eq] at roomy ⊢
      omega

namespace Written

/-- The text is all that has been written, and its bytes have been counted. -/
def Holds (written : Written) (text : List Char) : Prop :=
  written.characters = text ∧ written.size = Text.byteSize text

theorem holds_nothing : nothing.Holds [] := ⟨rfl, rfl⟩

theorem Holds.add
    {written : Written}
    {text : List Char}
    (holds : written.Holds text)
    (piece : List Char) :
    (written.add piece).Holds (text ++ piece) := by
  refine ⟨?_, ?_⟩
  · rw [characters_add, holds.1]
  · rw [Text.byteSize_append, ← holds.2]
    rfl

end Written

namespace Layout

variable (layout : Layout)

/-- The document of some items without its closing. -/
def unclosed (items : List (List Char)) : List Char :=
  layout.opening ++ layout.body items

/-- The document as far as it is written before the item at a position. -/
def cut (items : List (List Char)) (position : Nat) : List Char :=
  layout.unclosed (items.take position)

/-- A further item comes with a separator in front of it unless it is the first. -/
theorem body_concat (before : List (List Char)) (item : List Char) :
    layout.body (before ++ [item]) =
      layout.body before ++ (if before.length > 0 then layout.separator else []) ++ item := by
  cases before with
  | nil => simp [body, followed]
  | cons first rest => simp [body, followed]

/-- The items of a document begin with the items of its first part. -/
theorem body_prefix (before after : List (List Char)) :
    layout.body before <+: layout.body (before ++ after) := by
  cases before with
  | nil => exact List.nil_prefix
  | cons first rest =>
      refine ⟨layout.followed after, ?_⟩
      simp [body, followed]

theorem unclosed_prefix (before after : List (List Char)) :
    layout.unclosed before <+: layout.unclosed (before ++ after) :=
  (List.prefix_append_right_inj layout.opening).mpr (layout.body_prefix before after)

/-- A document that is cut is the beginning of the whole. -/
theorem cut_prefix (items : List (List Char)) (position : Nat) :
    layout.cut items position <+: layout.text items := by
  have begins := layout.unclosed_prefix (items.take position) (items.drop position)
  rw [List.take_append_drop] at begins
  exact begins.trans (List.prefix_append _ _)

end Layout

namespace Writing

variable {outlet : Outlet} {layout : Layout} {written : Written}

/-- A piece that fits is written. -/
theorem runFrom_write_of_fits
    {piece : List Char}
    (roomy : outlet.fits (written.add piece).size = true)
    (failure : String → Failure) :
    runFrom written (write outlet failure piece) = (.ok (), written.add piece) := by
  rw [write, runFrom_bind, runFrom_get]
  dsimp only
  rw [if_pos roomy]
  rfl

/-- Behind a piece that fits the writing goes on. -/
theorem runFrom_write_bind
    {Result : Type}
    {piece : List Char}
    (roomy : outlet.fits (written.add piece).size = true)
    (failure : String → Failure)
    (next : Writing Result) :
    runFrom written (write outlet failure piece >>= fun _ => next) =
      runFrom (written.add piece) next := by
  rw [runFrom_bind, runFrom_write_of_fits roomy]

/-- A check that sees the work cancelled ends it. -/
theorem runFrom_writeRecords_of_cancelled
    {index : Nat}
    (seen : outlet.isCancelled index written.size = true)
    (record : Record)
    (rest : List Record) :
    runFrom written (writeRecords outlet layout index (record :: rest)) =
      (.error .cancelled, written) := by
  rw [writeRecords, runFrom_bind, runFrom_get]
  dsimp only
  rw [if_pos seen]
  rfl

/-- A record is written with what stands in front of it if its check sees nothing. -/
theorem exists_runFrom_writeRecords_cons
    {before : List (List Char)}
    {item : List Char}
    {record : Record}
    (holds : written.Holds (layout.unclosed before))
    (formed : layout.item record = .ok item)
    (roomy : outlet.fits (Text.byteSize (layout.unclosed (before ++ [item]))) = true)
    (unseen : outlet.isCancelled before.length written.size = false)
    (rest : List Record) :
    ∃ reached : Written,
      reached.Holds (layout.unclosed (before ++ [item])) ∧
        runFrom written (writeRecords outlet layout before.length (record :: rest)) =
          runFrom reached (writeRecords outlet layout (before.length + 1) rest) := by
  have grown :
      layout.unclosed (before ++ [item]) =
        layout.unclosed before ++
          (if before.length > 0 then layout.separator else []) ++ item := by
    rw [Layout.unclosed, Layout.body_concat, Layout.unclosed]
    simp only [List.append_assoc]
  rw [grown] at roomy ⊢
  rw [writeRecords]
  simp only [runFrom_bind, runFrom_get, unseen, Bool.false_eq_true, if_false, formed]
  by_cases further : before.length > 0
  · rw [if_pos further] at roomy ⊢
    have separated := holds.add layout.separator
    have complete := separated.add item
    have roomySeparator : outlet.fits (written.add layout.separator).size = true := by
      refine Outlet.fits_of_le ?_ roomy
      rw [separated.2, Text.byteSize_append _ item]
      exact Nat.le_add_right _ _
    have roomyItem : outlet.fits ((written.add layout.separator).add item).size = true := by
      rw [complete.2]
      exact roomy
    refine ⟨_, complete, ?_⟩
    rw [if_pos further, runFrom_write_bind roomySeparator, runFrom_write_bind roomyItem]
  · rw [if_neg further] at roomy ⊢
    rw [List.append_nil] at roomy ⊢
    have complete := holds.add item
    have roomyItem : outlet.fits (written.add item).size = true := by
      rw [complete.2]
      exact roomy
    refine ⟨_, complete, ?_⟩
    rw [if_neg further, runFrom_write_bind roomyItem]

/-- Records are written one after the other as long as no check sees the work cancelled. -/
theorem exists_runFrom_writeRecords
    {records : List Record}
    {items before : List (List Char)}
    (formed : List.Forall₂ (fun record item => layout.item record = .ok item) records items)
    (holds : written.Holds (layout.unclosed before))
    (roomy : outlet.fits (Text.byteSize (layout.unclosed (before ++ items))) = true)
    (unseen : ∀ position < records.length,
      outlet.isCancelled (before.length + position)
        (Text.byteSize (layout.unclosed (before ++ items.take position))) = false)
    (rest : List Record) :
    ∃ reached : Written,
      reached.Holds (layout.unclosed (before ++ items)) ∧
        runFrom written (writeRecords outlet layout before.length (records ++ rest)) =
          runFrom reached (writeRecords outlet layout (before.length + records.length) rest) := by
  induction formed generalizing before written with
  | nil => exact ⟨written, by rwa [List.append_nil], rfl⟩
  | @cons record item records items own others induction =>
      have further : before ++ item :: items = before ++ [item] ++ items := by simp
      rw [further] at roomy ⊢
      have ownUnseen : outlet.isCancelled before.length written.size = false := by
        have first := unseen 0 (Nat.succ_pos _)
        rw [List.take_zero, List.append_nil] at first
        rw [holds.2]
        exact first
      have ownRoomy :=
        Outlet.fits_of_le
          (Text.byteSize_le_of_prefix (layout.unclosed_prefix (before ++ [item]) items)) roomy
      obtain ⟨next, nextHolds, step⟩ :=
        exists_runFrom_writeRecords_cons holds own ownRoomy ownUnseen (records ++ rest)
      have length : (before ++ [item]).length = before.length + 1 := List.length_append
      have othersUnseen : ∀ position < records.length,
          outlet.isCancelled ((before ++ [item]).length + position)
            (Text.byteSize
              (layout.unclosed (before ++ [item] ++ items.take position))) = false := by
        intro position inside
        have later := unseen (position + 1) (Nat.succ_lt_succ inside)
        rw [length, Nat.add_assoc, Nat.add_comm 1]
        simpa using later
      obtain ⟨reached, reachedHolds, run⟩ := induction nextHolds roomy othersUnseen
      refine ⟨reached, reachedHolds, ?_⟩
      rw [List.cons_append, step, ← length, run, length, List.length_cons, Nat.add_assoc,
        Nat.add_comm 1]

end Writing

/-- The check before the record at a position sees the work cancelled. -/
def Outlet.seesAt
    (outlet : Outlet)
    (layout : Layout)
    (items : List (List Char))
    (position : Nat) :
    Bool :=
  outlet.isCancelled position (Text.byteSize (layout.cut items position))

namespace Writing

variable
  {outlet : Outlet}
  {layout : Layout}
  {records : List Record}
  {items : List (List Char)}
  {position : Nat}

/-- A writer comes to every check before which none sees the work cancelled. -/
theorem exists_runFrom_writeAll
    (formed : List.Forall₂ (fun record item => layout.item record = .ok item) records items)
    (roomy : outlet.fits (Text.byteSize (layout.text items)) = true)
    (inside : position ≤ records.length)
    (unseen : ∀ earlier < position, outlet.seesAt layout items earlier = false) :
    ∃ reached : Written,
      reached.Holds (layout.cut items position) ∧
        runFrom .nothing (writeAll outlet layout records) =
          runFrom reached (do
            writeRecords outlet layout position (records.drop position)
            write outlet .write layout.closing) := by
  have opened : (Written.nothing.add layout.opening).Holds (layout.unclosed []) := by
    simpa [Layout.unclosed, Layout.body] using Written.holds_nothing.add layout.opening
  have roomyCut : outlet.fits (Text.byteSize (layout.cut items position)) = true :=
    Outlet.fits_of_le (Text.byteSize_le_of_prefix (layout.cut_prefix items position)) roomy
  have roomyOpening : outlet.fits (Written.nothing.add layout.opening).size = true := by
    rw [opened.2]
    exact Outlet.fits_of_le
      (Text.byteSize_le_of_prefix (layout.unclosed_prefix [] (items.take position))) roomyCut
  have length : (records.take position).length = position := List.length_take_of_le inside
  have firstUnseen : ∀ earlier < (records.take position).length,
      outlet.isCancelled (([] : List (List Char)).length + earlier)
        (Text.byteSize
          (layout.unclosed ([] ++ (items.take position).take earlier))) = false := by
    intro earlier before
    rw [length] at before
    have early := unseen earlier before
    rw [List.length_nil, Nat.zero_add, List.nil_append, List.take_take,
      Nat.min_eq_left (Nat.le_of_lt before)]
    exact early
  obtain ⟨reached, holds, run⟩ :=
    exists_runFrom_writeRecords (List.forall₂_take position formed) opened roomyCut firstUnseen
      (records.drop position)
  rw [List.take_append_drop, length, List.length_nil, Nat.zero_add] at run
  refine ⟨reached, holds, ?_⟩
  rw [writeAll, runFrom_write_bind roomyOpening, runFrom_bind, run, runFrom_bind]

/-- The first check that sees the work cancelled leaves the document cut before its record. -/
theorem exists_runFrom_writeAll_of_cancelled
    (formed : List.Forall₂ (fun record item => layout.item record = .ok item) records items)
    (roomy : outlet.fits (Text.byteSize (layout.text items)) = true)
    (inside : position < records.length)
    (unseen : ∀ earlier < position, outlet.seesAt layout items earlier = false)
    (seen : outlet.seesAt layout items position = true) :
    ∃ reached : Written,
      reached.Holds (layout.cut items position) ∧
        runFrom .nothing (writeAll outlet layout records) = (.error .cancelled, reached) := by
  obtain ⟨reached, holds, run⟩ :=
    exists_runFrom_writeAll formed roomy (Nat.le_of_lt inside) unseen
  refine ⟨reached, holds, ?_⟩
  rw [Outlet.seesAt, ← holds.2] at seen
  rw [run, runFrom_bind, List.drop_eq_getElem_cons inside,
    runFrom_writeRecords_of_cancelled seen]

/-- If no check sees the work cancelled, the whole document is written. -/
theorem exists_runFrom_writeAll_of_unseen
    (formed : List.Forall₂ (fun record item => layout.item record = .ok item) records items)
    (roomy : outlet.fits (Text.byteSize (layout.text items)) = true)
    (unseen : ∀ position < records.length, outlet.seesAt layout items position = false) :
    ∃ reached : Written,
      reached.Holds (layout.text items) ∧
        runFrom .nothing (writeAll outlet layout records) = (.ok (), reached) := by
  obtain ⟨reached, holds, run⟩ :=
    exists_runFrom_writeAll formed roomy (Nat.le_refl records.length) unseen
  have complete : layout.cut items records.length = layout.unclosed items := by
    rw [Layout.cut, List.take_of_length_le (Nat.le_of_eq formed.length_eq.symm)]
  rw [complete] at holds
  have closed := holds.add layout.closing
  have roomyClosing : outlet.fits (reached.add layout.closing).size = true := by
    rw [closed.2]
    exact roomy
  refine ⟨_, closed, ?_⟩
  rw [run, List.drop_length]
  change runFrom reached (write outlet .write layout.closing) = _
  exact runFrom_write_of_fits roomyClosing .write

end Writing

section Documents

variable
  {outlet : Outlet}
  {table : Table}
  {format : Format}
  {records : List Record}
  {items : List (List Char)}
  {position : Nat}

/-- A result of writing is known from where its run ends. -/
theorem writeRecords_of_runFrom
    {outcome : Except Failure Unit}
    {reached : Written}
    {text : List Char}
    (holds : reached.Holds text)
    (run :
      Writing.runFrom .nothing
          (Writing.writeAll outlet (Layout.ofFormat table format) records) =
        (outcome, reached)) :
    writeRecords outlet table format records = (outcome, text) := by
  rw [Writing.runFrom] at run
  rw [writeRecords, run, ← holds.1]

/-- Work that a check sees cancelled leaves the document cut before the record of this check. -/
theorem writeRecords_of_cancelled
    (formed : records.mapM (Layout.ofFormat table format).item = .ok items)
    (roomy : outlet.fits (Text.byteSize ((Layout.ofFormat table format).text items)) = true)
    (inside : position < records.length)
    (seen : outlet.seesAt (Layout.ofFormat table format) items position = true)
    (unseen : ∀ earlier < position,
      outlet.seesAt (Layout.ofFormat table format) items earlier = false) :
    writeRecords outlet table format records =
      (.error .cancelled, (Layout.ofFormat table format).cut items position) := by
  obtain ⟨reached, holds, run⟩ :=
    Writing.exists_runFrom_writeAll_of_cancelled (Outcome.mapM_eq_ok.mp formed) roomy inside
      unseen seen
  exact writeRecords_of_runFrom holds run

/-- Work that no check sees cancelled leaves the whole document. -/
theorem writeRecords_of_unseen
    (formed : records.mapM (Layout.ofFormat table format).item = .ok items)
    (roomy : outlet.fits (Text.byteSize ((Layout.ofFormat table format).text items)) = true)
    (unseen : ∀ position < records.length,
      outlet.seesAt (Layout.ofFormat table format) items position = false) :
    writeRecords outlet table format records =
      (.ok (), (Layout.ofFormat table format).text items) := by
  obtain ⟨reached, holds, run⟩ :=
    Writing.exists_runFrom_writeAll_of_unseen (Outcome.mapM_eq_ok.mp formed) roomy unseen
  exact writeRecords_of_runFrom holds run

/-- The work ends as cancelled exactly if some check sees it so. -/
theorem writeRecords_cancelled_iff
    (formed : records.mapM (Layout.ofFormat table format).item = .ok items)
    (roomy : outlet.fits (Text.byteSize ((Layout.ofFormat table format).text items)) = true) :
    (writeRecords outlet table format records).1 = .error .cancelled ↔
      ∃ position < records.length,
        outlet.seesAt (Layout.ofFormat table format) items position = true := by
  constructor
  · intro ended
    by_contra none
    rw [writeRecords_of_unseen formed roomy fun position inside =>
      (Bool.not_eq_true _).mp fun sees => none ⟨position, inside, sees⟩] at ended
    cases ended
  · intro someSees
    -- The work ends at the first of the checks that see it cancelled.
    obtain ⟨inside, seen⟩ := Nat.find_spec someSees
    rw [writeRecords_of_cancelled formed roomy inside seen fun earlier before =>
      (Bool.not_eq_true _).mp fun sees =>
        Nat.find_min someSees before ⟨Nat.lt_trans before inside, sees⟩]

/-- The records before a cut are serialized as the document up to the cut, closed. -/
theorem serialize_take
    (formed : records.mapM (Layout.ofFormat table format).item = .ok items)
    (position : Nat) :
    serialize table format (records.take position) =
      .ok ((Layout.ofFormat table format).cut items position ++
        (Layout.ofFormat table format).closing) := by
  have first := Outcome.mapM_eq_ok.mpr
    (List.forall₂_take position (Outcome.mapM_eq_ok.mp formed))
  rw [serialize_eq, first]
  rfl

end Documents

/--
Writing records that can be serialized, to an outlet with room for them, ends as
cancelled exactly if a check before a record sees the work cancelled.  If the
first such check comes before the record at a position, what is written is the
opening and the records before it, as they begin the whole document; if there is
none, it is the whole document.
-/
theorem cancellation_cuts_between_records
    {table : Table}
    {format : Format}
    {records : List Record}
    {text : List Char}
    {outlet : Outlet}
    (serializes : serialize table format records = .ok text)
    (roomy : outlet.fits (Text.byteSize text) = true) :
    let layout := Layout.ofFormat table format
    ∃ items,
      records.mapM layout.item = .ok items ∧
      text = layout.opening ++ layout.body items ++ layout.closing ∧
      ((writeRecords outlet table format records).1 = .error .cancelled ↔
        ∃ position < records.length, outlet.seesAt layout items position = true) ∧
      (∀ position < records.length,
        outlet.seesAt layout items position = true →
        (∀ earlier < position, outlet.seesAt layout items earlier = false) →
          writeRecords outlet table format records =
              (.error .cancelled, layout.opening ++ layout.body (items.take position)) ∧
            layout.opening ++ layout.body (items.take position) <+: text ∧
            serialize table format (records.take position) =
              .ok (layout.opening ++ layout.body (items.take position) ++ layout.closing)) ∧
      ((∀ position < records.length, outlet.seesAt layout items position = false) →
        writeRecords outlet table format records = (.ok (), text)) := by
  intro layout
  rw [serialize_eq] at serializes
  obtain ⟨items, formed, rfl⟩ := Outcome.map_eq_ok.mp serializes
  refine ⟨items, formed, rfl, writeRecords_cancelled_iff formed roomy, ?_,
    writeRecords_of_unseen formed roomy⟩
  intro position inside seen unseen
  exact ⟨writeRecords_of_cancelled formed roomy inside seen unseen,
    layout.cut_prefix items position, serialize_take formed position⟩

/-! ## Work that is cancelled between two records -/

/-- An outlet whose work is cancelled while the first record is written. -/
def impatientOutlet : Outlet :=
  { Outlet.unbounded with isCancelled := fun records _ => decide (0 < records) }

/-- Of two parcels the first is written, without a comma behind it. -/
theorem cancellation_cuts_between_records_parcels :
    ∃ text,
      serialize parcelsTable .json [.ofFields [("id", .int 1)], .ofFields [("id", .int 2)]] =
          .ok text ∧
        impatientOutlet.fits (Text.byteSize text) = true ∧
        writeRecords impatientOutlet parcelsTable .json
            [.ofFields [("id", .int 1)], .ofFields [("id", .int 2)]] =
          (.error .cancelled,
            "[\x7b\"id\":1,\"area\":null,\"site\":null\x7d".toList) := by
  have serializes :
      serialize parcelsTable .json [.ofFields [("id", .int 1)], .ofFields [("id", .int 2)]] =
        .ok ("[\x7b\"id\":1,\"area\":null,\"site\":null\x7d".toList ++
          ",\x7b\"id\":2,\"area\":null,\"site\":null\x7d]".toList) := by
    rw [serialize_eq]
    rfl
  have roomy (size : Nat) : impatientOutlet.fits size = true := rfl
  obtain ⟨items, formed, _, _, cut, _⟩ :=
    cancellation_cuts_between_records serializes (roomy _)
  refine ⟨_, serializes, roomy _, ?_⟩
  rw [(cut 1 (by decide) rfl fun earlier before => by
    rw [Nat.lt_one_iff.mp before]
    rfl).1]
  cases formed
  rfl

end GeoTables
