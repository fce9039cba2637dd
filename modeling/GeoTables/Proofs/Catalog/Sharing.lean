import GeoTables.Proofs.Catalog.Latest
import Mathlib.Data.Fintype.Card

/-!
# Caches that callers share

Callers use one cache at the same time.  A use looks the table up, describes
its declaration if there was no entry, and offers the result; between two of
these steps all other callers may take theirs, in any order, and entries may be
dropped.

As long as no entry is dropped, an entry that was inserted stays, and every
caller that is served was served this entry, whatever its own declaration
describes.  With entries dropped as well, whatever is served was described from
the declaration of a caller for this name.  A caller fails only if its own
look found nothing and its own declaration cannot be described, and it leaves
the entries as they are.
-/

namespace GeoTables.TableCache

/-! ## The steps of a use -/

/-- How far a use of the cache has come. -/
inductive Stage where
  | waiting
  | missed
  | holding (table : Table)
  | finished (outcome : Except SchemaFault Table)

namespace Stage

/-- The use has not looked yet. -/
def isWaiting : Stage → Bool
  | .waiting => true
  | _ => false

/-- The steps that a use has left. -/
def remaining : Stage → Nat
  | .waiting => 3
  | .missed => 2
  | .holding _ => 1
  | .finished _ => 0

/-- A stage that a use comes to only if its look found nothing. -/
def followsMiss : Stage → Bool
  | .missed | .holding _ | .finished (.error _) => true
  | .waiting | .finished (.ok _) => false

theorem exists_finished_iff
    {stage : Stage} :
    (∃ outcome, stage = .finished outcome) ↔ stage.remaining = 0 := by
  cases stage <;> simp [remaining]

/-- The next step of a use for a declaration. -/
def advance (declaration : TableDeclaration) (stage : Stage) (cache : TableCache) :
    Stage × TableCache :=
  match stage with
  | .waiting =>
      match cache.look declaration.tableName with
      | (some table, cache) => (.finished (.ok table), cache)
      | (none, cache) => (.missed, cache)
  | .missed =>
      match declaration.describe with
      | .error fault => (.finished (.error fault), cache)
      | .ok table => (.holding table, cache)
  | .holding table =>
      let (present, cache) := cache.offer declaration.tableName table
      (.finished (.ok present), cache)
  | .finished outcome => (.finished outcome, cache)

end Stage

/-- What a step of a use does to its stage and to the cache. -/
inductive Advances (declaration : TableDeclaration) (cache : TableCache) :
    Stage → Stage → TableCache → Prop where
  | found
      {table : Table}
      (present : cache.get? declaration.tableName = some table) :
      Advances declaration cache .waiting (.finished (.ok table))
        { cache with hits := cache.hits + 1 }
  | missed
      (missing : cache.get? declaration.tableName = none) :
      Advances declaration cache .waiting .missed { cache with misses := cache.misses + 1 }
  | refused
      {fault : SchemaFault}
      (fails : declaration.describe = .error fault) :
      Advances declaration cache .missed (.finished (.error fault)) cache
  | described
      {table : Table}
      (describes : declaration.describe = .ok table) :
      Advances declaration cache .missed (.holding table) cache
  | adopted
      {own table : Table}
      (present : cache.get? declaration.tableName = some table) :
      Advances declaration cache (.holding own) (.finished (.ok table)) cache
  | inserted
      {table : Table}
      (missing : cache.get? declaration.tableName = none) :
      Advances declaration cache (.holding table) (.finished (.ok table))
        { cache with entries := cache.entries ++ [(declaration.tableName, table)] }
  | idle
      {outcome : Except SchemaFault Table} :
      Advances declaration cache (.finished outcome) (.finished outcome) cache

theorem advances_advance
    (declaration : TableDeclaration)
    (stage : Stage)
    (cache : TableCache) :
    Advances declaration cache stage
      (stage.advance declaration cache).1 (stage.advance declaration cache).2 := by
  cases stage with
  | waiting =>
      cases present : cache.get? declaration.tableName with
      | some table =>
          simp only [Stage.advance, look, present]
          exact .found present
      | none =>
          simp only [Stage.advance, look, present]
          exact .missed present
  | missed =>
      cases describes : declaration.describe with
      | error fault =>
          simp only [Stage.advance, describes]
          exact .refused describes
      | ok table =>
          simp only [Stage.advance, describes]
          exact .described describes
  | holding table =>
      cases present : cache.get? declaration.tableName with
      | some other =>
          simp only [Stage.advance, offer, present]
          exact .adopted present
      | none =>
          simp only [Stage.advance, offer, present]
          exact .inserted present
  | finished outcome => exact .idle

section

variable
  {declaration : TableDeclaration}
  {cache next : TableCache}
  {stage reached : Stage}

/-- An entry after a step was there before, or is the table that the use was holding. -/
theorem Advances.get?_eq_some_iff
    (advances : Advances declaration cache stage reached next)
    {name : TableName}
    {table : Table} :
    next.get? name = some table ↔
      cache.get? name = some table ∨
        cache.get? name = none ∧ declaration.tableName = name ∧ stage = .holding table := by
  cases advances with
  | inserted missing =>
      by_cases isName : name = declaration.tableName
      · subst isName
        rw [get?] at missing
        simp [get?, List.lookup_append, missing]
      · simp [get?, List.lookup_append, Entries.lookup_entry, isName, Ne.symm isName]
  | adopted present =>
      constructor
      · exact .inl
      · rintro (entry | ⟨missing, rfl, _⟩)
        · exact entry
        · rw [present] at missing
          cases missing
  | _ => simp [get?]

/-- A step drops no entry. -/
theorem Advances.isPartOf
    (advances : Advances declaration cache stage reached next) :
    cache.IsPartOf next :=
  fun _ _ entry => advances.get?_eq_some_iff.mpr (.inl entry)

/-- A use that a step finishes was served the entry that stands there now. -/
theorem Advances.get?_eq
    {table : Table}
    (advances : Advances declaration cache stage (.finished (.ok table)) next)
    (unfinished : stage.remaining ≠ 0) :
    next.get? declaration.tableName = some table := by
  cases advances with
  | found present => exact present
  | adopted present => exact present
  | inserted missing =>
      exact (Advances.inserted missing).get?_eq_some_iff.mpr (.inr ⟨missing, rfl, rfl⟩)
  | idle => exact absurd rfl unfinished

/-- A step changes the entries only if it serves the table that the use was holding. -/
theorem Advances.entries_eq
    (advances : Advances declaration cache stage reached next)
    (unserved : ∀ table, reached ≠ .finished (.ok table)) :
    next.entries = cache.entries := by
  cases advances with
  | inserted => exact absurd rfl (unserved _)
  | _ => rfl

theorem Advances.isWaiting
    (advances : Advances declaration cache stage reached next) :
    reached.isWaiting = false := by
  cases advances <;> rfl

/-- The look of a use is counted. -/
theorem Advances.looks_eq
    (advances : Advances declaration cache stage reached next) :
    next.hits + next.misses = cache.hits + cache.misses + if stage.isWaiting then 1 else 0 := by
  cases advances <;> simp [Stage.isWaiting] <;> omega

theorem Advances.remaining_le
    (advances : Advances declaration cache stage reached next) :
    reached.remaining ≤ stage.remaining - 1 := by
  cases advances <;> simp [Stage.remaining]

end

/-! ## Shared caches -/

/-- A cache with how far each of its callers has come. -/
structure Shared (Caller : Type) where
  cache : TableCache
  stage : Caller → Stage

/-- A caller takes its next step, or an entry is dropped. -/
inductive Event (Caller : Type) where
  | turn (caller : Caller)
  | invalidate (name : TableName)
  deriving DecidableEq

/-- No entry is dropped. -/
def DropsNothing {Caller : Type} (events : List (Event Caller)) : Prop :=
  ∀ name, .invalidate name ∉ events

namespace DropsNothing

variable {Caller : Type} {before after : List (Event Caller)} {event : Event Caller}

theorem left (keeps : DropsNothing (before ++ after)) : DropsNothing before :=
  fun name member => keeps name (List.mem_append_left after member)

theorem right (keeps : DropsNothing (before ++ after)) : DropsNothing after :=
  fun name member => keeps name (List.mem_append_right before member)

/-- An event that drops nothing is the turn of a caller. -/
theorem exists_turn (keeps : DropsNothing [event]) : ∃ caller, event = .turn caller := by
  cases event with
  | turn caller => exact ⟨caller, rfl⟩
  | invalidate name => exact absurd (List.mem_singleton_self _) (keeps name)

end DropsNothing

namespace Shared

variable {Caller : Type} [DecidableEq Caller] (declaration : Caller → TableDeclaration)

/-- A cache that no caller has looked into yet. -/
def start (cache : TableCache) : Shared Caller :=
  ⟨cache, fun _ => .waiting⟩

/-- What an event makes of a shared cache, the callers having these declarations. -/
def after (shared : Shared Caller) : Event Caller → Shared Caller
  | .turn caller =>
      let (stage, cache) := (shared.stage caller).advance (declaration caller) shared.cache
      ⟨cache, Function.update shared.stage caller stage⟩
  | .invalidate name => ⟨(shared.cache.invalidate name).2, shared.stage⟩

/-- The shared cache after a run of events. -/
def run (cache : TableCache) (events : List (Event Caller)) : Shared Caller :=
  events.foldl (after declaration) (start cache)

variable
  {declaration}
  {cache : TableCache}
  {shared : Shared Caller}
  {caller : Caller}

theorem run_append
    (cache : TableCache)
    (before later : List (Event Caller)) :
    run declaration cache (before ++ later) =
      later.foldl (after declaration) (run declaration cache before) :=
  List.foldl_append

theorem run_append_singleton
    (cache : TableCache)
    (events : List (Event Caller))
    (event : Event Caller) :
    run declaration cache (events ++ [event]) =
      (run declaration cache events).after declaration event :=
  run_append cache events [event]

/-- The caller of a turn takes a step, and all others stay where they are. -/
theorem exists_advances
    (declaration : Caller → TableDeclaration)
    (shared : Shared Caller)
    (caller : Caller) :
    ∃ reached next,
      shared.after declaration (.turn caller) =
          ⟨next, Function.update shared.stage caller reached⟩ ∧
        Advances (declaration caller) shared.cache (shared.stage caller) reached next :=
  ⟨_, _, rfl, advances_advance (declaration caller) (shared.stage caller) shared.cache⟩

/-- A use whose steps come in a row. -/
theorem after_turns
    (waits : shared.stage caller = .waiting) :
    let next := [Event.turn caller, .turn caller, .turn caller].foldl (after declaration) shared
    next.stage caller = .finished (shared.cache.getOrDescribe (declaration caller)).1 ∧
      next.cache = (shared.cache.getOrDescribe (declaration caller)).2 := by
  simp only [List.foldl_cons, List.foldl_nil, after, Function.update_self, waits, getOrDescribe,
    Stage.advance]
  rcases shared.cache.look (declaration caller).tableName with ⟨_ | table, next⟩
  · cases (declaration caller).describe <;> exact ⟨rfl, rfl⟩
  · exact ⟨rfl, rfl⟩

/-! ## What holds throughout a run -/

/-- A caller that has finished stays where it is. -/
theorem stage_after
    {outcome : Except SchemaFault Table}
    (finished : shared.stage caller = .finished outcome)
    (event : Event Caller) :
    (shared.after declaration event).stage caller = .finished outcome := by
  cases event with
  | invalidate name => exact finished
  | turn other =>
      obtain ⟨reached, next, same, advances⟩ := exists_advances declaration shared other
      rw [same]
      by_cases own : caller = other
      · subst own
        rw [finished] at advances
        cases advances
        exact Function.update_self caller _ shared.stage
      · exact (Function.update_of_ne own reached shared.stage).trans finished

theorem stage_run_append
    {outcome : Except SchemaFault Table}
    {before : List (Event Caller)}
    (finished : (run declaration cache before).stage caller = .finished outcome)
    (later : List (Event Caller)) :
    (run declaration cache (before ++ later)).stage caller = .finished outcome := by
  induction later using List.reverseRecOn with
  | nil => rwa [List.append_nil]
  | append_singleton others event induction =>
      rw [← List.append_assoc, run_append_singleton]
      exact stage_after induction event

/-! ## Where served tables come from -/

/-- The table stood under the name at the start, or a declaration of a caller for the name describes
it. -/
def IsOrigin
    (declaration : Caller → TableDeclaration)
    (cache : TableCache)
    (name : TableName)
    (table : Table) :
    Prop :=
  cache.get? name = some table ∨
    ∃ caller, (declaration caller).tableName = name ∧ (declaration caller).describe = .ok table

/-- What a caller holds or failed with is made of its own declaration, and what it was served has an
origin. -/
def IsAccounted
    (declaration : Caller → TableDeclaration)
    (cache : TableCache)
    (caller : Caller) :
    Stage → Prop
  | .waiting | .missed => True
  | .holding table => (declaration caller).describe = .ok table
  | .finished (.ok table) => IsOrigin declaration cache (declaration caller).tableName table
  | .finished (.error fault) => (declaration caller).describe = .error fault

/-- Every entry and every caller is accounted for. -/
structure IsSound
    (declaration : Caller → TableDeclaration)
    (cache : TableCache)
    (shared : Shared Caller) :
    Prop where
  entries : ∀ name table,
    shared.cache.get? name = some table → IsOrigin declaration cache name table
  callers : ∀ caller, IsAccounted declaration cache caller (shared.stage caller)

theorem IsSound.turn
    (sound : IsSound declaration cache shared)
    (caller : Caller) :
    IsSound declaration cache (shared.after declaration (.turn caller)) := by
  obtain ⟨reached, next, same, advances⟩ := exists_advances declaration shared caller
  have own := sound.callers caller
  rw [same]
  constructor
  · intro name table entry
    rcases advances.get?_eq_some_iff.mp entry with earlier | ⟨_, isName, holds⟩
    · exact sound.entries name table earlier
    · rw [holds] at own
      exact .inr ⟨caller, isName, own⟩
  · refine Function.forall_update_iff shared.stage _ |>.mpr ⟨?_, fun other _ => sound.callers other⟩
    generalize shared.stage caller = stage at own advances
    cases advances with
    | found present => exact sound.entries _ _ present
    | missed missing => trivial
    | refused fails => exact fails
    | described describes => exact describes
    | adopted present => exact sound.entries _ _ present
    | inserted missing => exact .inr ⟨caller, rfl, own⟩
    | idle => exact own

theorem IsSound.invalidate
    (sound : IsSound declaration cache shared)
    (name : TableName) :
    IsSound declaration cache (shared.after declaration (.invalidate name)) := by
  refine ⟨fun other table entry => ?_, sound.callers⟩
  change (shared.cache.invalidate name).2.get? other = some table at entry
  rw [get?_invalidate] at entry
  split_ifs at entry
  exact sound.entries other table entry

/-- After every run all entries and callers are accounted for. -/
theorem isSound_run
    (declaration : Caller → TableDeclaration)
    (cache : TableCache)
    (events : List (Event Caller)) :
    IsSound declaration cache (run declaration cache events) := by
  induction events using List.reverseRecOn with
  | nil => exact ⟨fun _ _ => .inl, fun _ => trivial⟩
  | append_singleton before event sound =>
      rw [run_append_singleton]
      cases event with
      | turn caller => exact sound.turn caller
      | invalidate name => exact sound.invalidate name

/-! ## Runs in which no entry is dropped -/

/-- Every caller that was served was served the entry that stands under its name. -/
def IsAgreed (declaration : Caller → TableDeclaration) (shared : Shared Caller) : Prop :=
  ∀ caller table,
    shared.stage caller = .finished (.ok table) →
      shared.cache.get? (declaration caller).tableName = some table

theorem IsAgreed.turn
    (agreed : shared.IsAgreed declaration)
    (caller : Caller) :
    (shared.after declaration (.turn caller)).IsAgreed declaration := by
  obtain ⟨reached, next, same, advances⟩ := exists_advances declaration shared caller
  rw [same]
  refine Function.forall_update_iff shared.stage
    (p := fun caller stage => ∀ table, stage = .finished (.ok table) →
      next.get? (declaration caller).tableName = some table) |>.mpr
    ⟨?_, fun other _ table served => ?_⟩
  · rintro table rfl
    by_cases unfinished : (shared.stage caller).remaining = 0
    · obtain ⟨outcome, finished⟩ := Stage.exists_finished_iff.mpr unfinished
      have before := agreed caller
      rw [finished] at advances before
      cases advances
      exact before table rfl
    · exact advances.get?_eq unfinished
  · exact advances.isPartOf _ _ (agreed other table served)

/-- Entries stay as long as none is dropped. -/
theorem isPartOf_foldl
    (shared : Shared Caller)
    {events : List (Event Caller)}
    (keeps : DropsNothing events) :
    shared.cache.IsPartOf (events.foldl (after declaration) shared).cache := by
  induction events generalizing shared with
  | nil => exact .refl shared.cache
  | cons event rest induction =>
      rw [← List.singleton_append] at keeps
      obtain ⟨caller, rfl⟩ := keeps.left.exists_turn
      obtain ⟨reached, next, same, advances⟩ := exists_advances declaration shared caller
      have first : shared.cache.IsPartOf (shared.after declaration (.turn caller)).cache := by
        rw [same]
        exact advances.isPartOf
      exact first.trans (induction _ keeps.right)

/-- All callers that are served agree as long as no entry is dropped. -/
theorem isAgreed_run
    (declaration : Caller → TableDeclaration)
    (cache : TableCache)
    {events : List (Event Caller)}
    (keeps : DropsNothing events) :
    (run declaration cache events).IsAgreed declaration := by
  induction events using List.reverseRecOn with
  | nil =>
      intro caller table served
      cases served
  | append_singleton before event induction =>
      obtain ⟨caller, rfl⟩ := keeps.right.exists_turn
      rw [run_append_singleton]
      exact (induction keeps.left).turn caller

/-- An entry stays as it is if no caller uses its name. -/
theorem get?_run_of_unused
    (declaration : Caller → TableDeclaration)
    (cache : TableCache)
    {events : List (Event Caller)}
    (keeps : DropsNothing events)
    {name : TableName}
    (unused : ∀ caller, (declaration caller).tableName ≠ name) :
    (run declaration cache events).cache.get? name = cache.get? name := by
  induction events using List.reverseRecOn with
  | nil => rfl
  | append_singleton before event induction =>
      obtain ⟨caller, rfl⟩ := keeps.right.exists_turn
      obtain ⟨reached, next, same, advances⟩ :=
        exists_advances declaration (run declaration cache before) caller
      rw [run_append_singleton, same, ← induction keeps.left]
      ext table
      simp [advances.get?_eq_some_iff, unused caller]

/-! ## Callers that fail -/

/-- Whoever found nothing looked at a moment at which there was no entry. -/
theorem exists_miss
    {events : List (Event Caller)}
    (missed : ((run declaration cache events).stage caller).followsMiss = true) :
    ∃ before after,
      events = before ++ .turn caller :: after ∧
        (run declaration cache before).stage caller = .waiting ∧
          (run declaration cache before).cache.get? (declaration caller).tableName = none := by
  induction events using List.reverseRecOn with
  | nil => cases missed
  | append_singleton before event induction =>
      -- A miss before the last event is one of the whole run.
      have earlier
          (missed : ((run declaration cache before).stage caller).followsMiss = true) :
          ∃ first after,
            before ++ [event] = first ++ .turn caller :: after ∧
              (run declaration cache first).stage caller = .waiting ∧
                (run declaration cache first).cache.get? (declaration caller).tableName = none := by
        obtain ⟨first, after, split, waits, missing⟩ := induction missed
        exact ⟨first, after ++ [event], by simp [split], waits, missing⟩
      rw [run_append_singleton] at missed
      cases event with
      | invalidate name => exact earlier missed
      | turn other =>
          obtain ⟨reached, next, same, advances⟩ :=
            exists_advances declaration (run declaration cache before) other
          rw [same] at missed
          by_cases own : caller = other
          · subst own
            simp only [Function.update_self] at missed
            generalize isStage : (run declaration cache before).stage caller = stage
              at advances earlier
            cases advances with
            | missed missing => exact ⟨before, [], rfl, isStage, missing⟩
            | refused fails => exact earlier rfl
            | described describes => exact earlier rfl
            | idle => exact earlier missed
            | found present => cases missed
            | adopted present => cases missed
            | inserted missing => cases missed
          · exact earlier (by simpa [own] using missed)

/-- A caller that fails changes no entry in any of its turns. -/
theorem entries_eq_of_failed
    {fault : SchemaFault}
    {before later : List (Event Caller)}
    (failed :
      (run declaration cache (before ++ .turn caller :: later)).stage caller =
        .finished (.error fault)) :
    (run declaration cache (before ++ [.turn caller])).cache.entries =
      (run declaration cache before).cache.entries := by
  obtain ⟨reached, next, same, advances⟩ :=
    exists_advances declaration (run declaration cache before) caller
  have reaches : (run declaration cache (before ++ [.turn caller])).stage caller = reached := by
    simp [run_append_singleton, same]
  rw [List.append_cons] at failed
  rw [run_append_singleton, same]
  refine advances.entries_eq ?_
  rintro table rfl
  cases failed.symm.trans (stage_run_append reaches later)

/-! ## Looks and turns -/

/-- The callers that have not looked yet. -/
def waiting [Fintype Caller] (shared : Shared Caller) : Finset Caller :=
  Finset.univ.filter fun caller => (shared.stage caller).isWaiting

/-- Every look is counted once, so that looks and waiting callers make up for all callers. -/
theorem looks_run
    [Fintype Caller]
    (declaration : Caller → TableDeclaration)
    (cache : TableCache)
    (events : List (Event Caller)) :
    let shared := run declaration cache events
    shared.cache.hits + shared.cache.misses + shared.waiting.card =
      cache.hits + cache.misses + Fintype.card Caller := by
  induction events using List.reverseRecOn with
  | nil =>
      have all : (start cache : Shared Caller).waiting = Finset.univ := Finset.filter_true_of_mem
        fun _ _ => rfl
      exact congrArg (cache.hits + cache.misses + Finset.card ·) all
  | append_singleton before event induction =>
      dsimp only at induction ⊢
      rw [run_append_singleton, ← induction]
      cases event with
      | invalidate name => rfl
      | turn caller =>
          obtain ⟨reached, next, same, advances⟩ :=
            exists_advances declaration (run declaration cache before) caller
          have left :
              waiting ⟨next, Function.update (run declaration cache before).stage caller reached⟩ =
                (run declaration cache before).waiting.erase caller := by
            ext other
            by_cases own : other = caller
            · subst own
              simp [waiting, advances.isWaiting]
            · simp [waiting, own]
          have looks := advances.looks_eq
          rw [same, left]
          dsimp only
          by_cases waits : ((run declaration cache before).stage caller).isWaiting = true
          · have member : caller ∈ (run declaration cache before).waiting := by
              simpa [waiting] using waits
            rw [looks, if_pos waits, ← Finset.card_erase_add_one member]
            omega
          · have absent : caller ∉ (run declaration cache before).waiting := by
              simpa [waiting] using waits
            rw [looks, if_neg waits, Nat.add_zero, Finset.erase_eq_of_notMem absent]

/-- A caller has as many steps left as it is short of three turns, or fewer. -/
theorem remaining_run
    (declaration : Caller → TableDeclaration)
    (cache : TableCache)
    (events : List (Event Caller))
    (caller : Caller) :
    ((run declaration cache events).stage caller).remaining ≤ 3 - events.count (.turn caller) := by
  induction events using List.reverseRecOn with
  | nil => exact le_refl 3
  | append_singleton before event induction =>
      rw [run_append_singleton, List.count_append, List.count_singleton]
      cases event with
      | invalidate name => exact induction
      | turn other =>
          obtain ⟨reached, next, same, advances⟩ :=
            exists_advances declaration (run declaration cache before) other
          rw [same]
          by_cases own : caller = other
          · subst own
            have fewer := advances.remaining_le
            simp only [Function.update_self, BEq.rfl, if_true]
            omega
          · simpa [own, Ne.symm own] using induction

/-! ## Runs of any callers -/

/-- A caller failed: its look found nothing, its own declaration cannot be described, and none of
its turns changed an entry. -/
structure FailsAlone
    (declaration : Caller → TableDeclaration)
    (cache : TableCache)
    (events : List (Event Caller))
    (caller : Caller)
    (fault : SchemaFault) :
    Prop where
  missed : ∃ before later,
    events = before ++ .turn caller :: later ∧
      (run declaration cache before).stage caller = .waiting ∧
        (run declaration cache before).cache.get? (declaration caller).tableName = none
  fails : (declaration caller).describe = .error fault
  unchanged : ∀ before later,
    events = before ++ .turn caller :: later →
      (run declaration cache (before ++ [.turn caller])).cache.entries =
        (run declaration cache before).cache.entries

theorem failsAlone_of_failed
    {events : List (Event Caller)}
    {fault : SchemaFault}
    (failed : (run declaration cache events).stage caller = .finished (.error fault)) :
    FailsAlone declaration cache events caller fault where
  missed := exists_miss (by rw [failed]; rfl)
  fails := by
    have own := (isSound_run declaration cache events).callers caller
    rwa [failed] at own
  unchanged := by
    rintro before later rfl
    exact entries_eq_of_failed failed

/--
Callers use one cache in any interleaving of their steps.  If no entry is
dropped, an entry that was inserted stays, all callers for its name that are
served are served this entry, and entries of other names stay as they are.
Also where entries are dropped, a table that is served stood there at the start
or was described from the declaration of a caller for its name, a caller fails
alone, every caller has counted one look when all have finished, and a caller
has finished after three turns.
-/
theorem callers_agree
    [Fintype Caller]
    (declaration : Caller → TableDeclaration)
    (cache : TableCache)
    (events : List (Event Caller)) :
    let final := run declaration cache events
    (DropsNothing events →
        (∀ before later, events = before ++ later →
            (run declaration cache before).cache.IsPartOf final.cache) ∧
          (∀ caller table, final.stage caller = .finished (.ok table) →
            final.cache.get? (declaration caller).tableName = some table) ∧
          ∀ name, (∀ caller, (declaration caller).tableName ≠ name) →
            final.cache.get? name = cache.get? name) ∧
      (∀ caller table, final.stage caller = .finished (.ok table) →
        IsOrigin declaration cache (declaration caller).tableName table) ∧
      (∀ caller fault, final.stage caller = .finished (.error fault) →
        FailsAlone declaration cache events caller fault) ∧
      ((∀ caller, ∃ outcome, final.stage caller = .finished outcome) →
        final.cache.hits + final.cache.misses =
          cache.hits + cache.misses + Fintype.card Caller) ∧
      ∀ caller, 3 ≤ events.count (.turn caller) →
        ∃ outcome, final.stage caller = .finished outcome := by
  refine ⟨fun keeps => ⟨?_, ?_, ?_⟩, ?_, ?_, ?_, ?_⟩
  · rintro before later rfl
    rw [run_append]
    exact isPartOf_foldl _ keeps.right
  · exact isAgreed_run declaration cache keeps
  · exact fun name unused => get?_run_of_unused declaration cache keeps unused
  · intro caller table served
    have own := (isSound_run declaration cache events).callers caller
    rwa [served] at own
  · exact fun caller fault failed => failsAlone_of_failed failed
  · intro finished
    have none : (run declaration cache events).waiting = ∅ := by
      refine Finset.filter_false_of_mem fun caller _ => ?_
      obtain ⟨outcome, isFinished⟩ := finished caller
      rw [isFinished]
      exact Bool.false_ne_true
    have looks := looks_run declaration cache events
    dsimp only at looks
    rwa [none, Finset.card_empty, Nat.add_zero] at looks
  · intro caller turns
    have left := remaining_run declaration cache events caller
    exact Stage.exists_finished_iff.mpr (by omega)

/-- Parcels with a column that is declared twice. -/
def doubledParcels : TableDeclaration :=
  { parcels with columns := parcels.columns ++ parcels.columns }

/-- Declarations of three callers for one name. -/
def rivals : Fin 3 → TableDeclaration
  | 0 => parcels
  | 1 => Registry.bareParcels
  | 2 => doubledParcels

/-- All of them find nothing; the second is the first to offer its table. -/
def race : List (Event (Fin 3)) :=
  [.turn 0, .turn 1, .turn 2, .turn 0, .turn 1, .turn 1, .turn 2, .turn 0, .turn 2]

/-- The first caller adopts what the second one offered, though its own declaration describes
another table; the third one fails. -/
theorem callers_agree_rivals :
    DropsNothing race ∧
      ∃ table fault,
        Registry.bareParcels.describe = .ok table ∧
          parcels.describe ≠ .ok table ∧
          (run rivals empty race).stage 0 = .finished (.ok table) ∧
          (run rivals empty race).cache.get? parcels.tableName = some table ∧
          (run rivals empty race).stage 2 = .finished (.error fault) ∧
          FailsAlone rivals empty race 2 fault ∧
          (run rivals empty race).cache.hits + (run rivals empty race).cache.misses = 3 := by
  have keeps : DropsNothing race := by simp [DropsNothing, race]
  have turns : ∀ caller, 3 ≤ race.count (.turn caller) := by decide
  obtain ⟨table, described, other⟩ := Registry.exists_describe_bareParcels
  obtain ⟨fault, isFault⟩ : ∃ fault, doubledParcels.describe = .error fault := by
    cases outcome : doubledParcels.describe with
    | error fault => exact ⟨fault, rfl⟩
    | ok table =>
        have distinct := (TableDeclaration.exists_describe_iff.mp ⟨_, outcome⟩).distinct
        exact absurd distinct (by decide)
  have bareName : Registry.bareParcels.tableName = parcels.tableName := rfl
  have doubledName : doubledParcels.tableName = parcels.tableName := rfl
  have stages :
      (run rivals empty race).stage 0 = .finished (.ok table) ∧
        (run rivals empty race).stage 2 = .finished (.error fault) := by
    simp [run, race, start, after, Stage.advance, look, offer, get?, rivals, described, isFault,
      describe_parcels, empty, bareName, doubledName, Function.update]
  obtain ⟨adopts, refused⟩ := stages
  obtain ⟨agree, _, fails, looks, finishes⟩ := callers_agree rivals empty race
  refine ⟨keeps, table, fault, described, ?_, adopts, ?_, refused, fails 2 fault refused, ?_⟩
  · rw [describe_parcels]
    rintro ⟨⟩
    exact other rfl
  · exact (agree keeps).2.1 0 table adopts
  · exact looks fun caller => finishes caller (turns caller)

end Shared

end GeoTables.TableCache
