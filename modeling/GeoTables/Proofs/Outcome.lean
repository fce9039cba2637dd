import Mathlib.Data.List.Forall2

/-!
# Outcomes of steps that may fail

A step that may fail gives a value or a fault.  The lemmas of this file take
composed steps apart: a chain succeeds exactly when each of its steps does, and
fails with the fault of the first step that does not.
-/

namespace GeoTables.Outcome

variable {Fault Other Value Result : Type}

@[simp]
theorem bind_eq_ok
    {outcome : Except Fault Value}
    {next : Value → Except Fault Result}
    {result : Result} :
    outcome >>= next = .ok result ↔
      ∃ value, outcome = .ok value ∧ next value = .ok result := by
  cases outcome <;> simp [bind, Except.bind]

@[simp]
theorem bind_eq_error
    {outcome : Except Fault Value}
    {next : Value → Except Fault Result}
    {fault : Fault} :
    outcome >>= next = .error fault ↔
      outcome = .error fault ∨
        ∃ value, outcome = .ok value ∧ next value = .error fault := by
  cases outcome <;> simp [bind, Except.bind]

@[simp]
theorem map_eq_ok
    {outcome : Except Fault Value}
    {change : Value → Result}
    {result : Result} :
    outcome.map change = .ok result ↔
      ∃ value, outcome = .ok value ∧ change value = result := by
  cases outcome <;> simp [Except.map]

@[simp]
theorem map_eq_error
    {outcome : Except Fault Value}
    {change : Value → Result}
    {fault : Fault} :
    outcome.map change = .error fault ↔ outcome = .error fault := by
  cases outcome <;> simp [Except.map]

@[simp]
theorem mapError_eq_ok
    {outcome : Except Fault Value}
    {change : Fault → Other}
    {result : Value} :
    outcome.mapError change = .ok result ↔ outcome = .ok result := by
  cases outcome <;> simp [Except.mapError]

/-- To see that a step succeeds is enough to have its value. -/
theorem exists_eq_ok_of_isSome
    {outcome : Except Fault Value}
    (succeeds : outcome.toOption.isSome = true) :
    ∃ value, outcome = .ok value := by
  cases outcome with
  | error fault => cases succeeds
  | ok value => exact ⟨value, rfl⟩

@[simp]
theorem pure_eq_ok
    {value result : Value} :
    (pure value : Except Fault Value) = .ok result ↔ value = result := by
  simp [pure, Except.pure]

@[simp]
theorem pure_ne_error
    {value : Value}
    {fault : Fault} :
    (pure value : Except Fault Value) ≠ .error fault := by
  simp [pure, Except.pure]

/-- The fault of an outcome, if it is one. -/
def fault? : Except Fault Value → Option Fault
  | .ok _ => none
  | .error fault => some fault

@[simp]
theorem fault?_eq_some
    {outcome : Except Fault Value}
    {fault : Fault} :
    fault? outcome = some fault ↔ outcome = .error fault := by
  cases outcome <;> simp [fault?]

@[simp]
theorem fault?_eq_none
    {outcome : Except Fault Value} :
    fault? outcome = none ↔ ∃ value, outcome = .ok value := by
  cases outcome <;> simp [fault?]

@[simp]
theorem fault?_map
    (change : Value → Result)
    (outcome : Except Fault Value) :
    fault? (outcome.map change) = fault? outcome := by
  cases outcome <;> rfl

@[simp]
theorem fault?_mapError
    (change : Fault → Other)
    (outcome : Except Fault Value) :
    fault? (outcome.mapError change) = (fault? outcome).map change := by
  cases outcome <;> rfl

/-- If the fault of the second step does not depend on the first one, it comes behind its fault. -/
theorem fault?_bind
    {outcome : Except Fault Value}
    {next : Value → Except Fault Result}
    {later : Option Fault}
    (same : ∀ value, fault? (next value) = later) :
    fault? (outcome >>= next) = (fault? outcome).or later := by
  cases outcome with
  | error fault => rfl
  | ok value => exact same value

/-- A step that is taken for every member fails with the fault of one of them. -/
theorem exists_fault_of_mapM
    {step : Value → Except Fault Result}
    {values : List Value}
    {fault : Fault}
    (fails : values.mapM step = .error fault) :
    ∃ value ∈ values, step value = .error fault := by
  induction values with
  | nil => simp at fails
  | cons value rest induction =>
      simp only [List.mapM_cons, bind_eq_error, pure_ne_error, and_false,
        exists_const, or_false] at fails
      rcases fails with own | ⟨_, _, later⟩
      · exact ⟨value, by simp, own⟩
      · obtain ⟨found, member, own⟩ := induction later
        exact ⟨found, List.mem_cons_of_mem value member, own⟩

/-- A traversal that takes a step for each member, in a state that the members before it lead to,
fails at the first member whose step does. -/
theorem traversal_eq_error
    {State : Type}
    {run : State → List Value → Except Fault Result}
    {step : State → Value → Except Fault Other}
    {next : State → Value → State}
    {combine : Other → Result → Result}
    (nil : ∀ state, ∃ result, run state [] = .ok result)
    (cons : ∀ state value rest,
      run state (value :: rest) =
        step state value >>= fun own => (run (next state value) rest).map (combine own))
    {values : List Value}
    {state : State}
    {fault : Fault} :
    run state values = .error fault ↔
      ∃ before value after,
        values = before ++ value :: after ∧
          (∃ result, run state before = .ok result) ∧
            step (before.foldl next state) value = .error fault := by
  induction values generalizing state with
  | nil =>
      obtain ⟨result, isResult⟩ := nil state
      simp [isResult]
  | cons first rest induction =>
      simp only [cons, bind_eq_error, map_eq_error, induction]
      constructor
      · rintro (own | ⟨taken, isTaken, before, value, after, rfl, ⟨result, reached⟩, fails⟩)
        · exact ⟨[], first, rest, rfl, nil state, own⟩
        · refine ⟨first :: before, value, after, rfl, ⟨combine taken result, ?_⟩, fails⟩
          rw [cons, isTaken, bind_eq_ok]
          exact ⟨taken, rfl, map_eq_ok.mpr ⟨result, reached, rfl⟩⟩
      · rintro ⟨_ | ⟨_, before⟩, value, after, split, ⟨result, reached⟩, fails⟩
        · cases split
          exact .inl fails
        · cases split
          rw [cons, bind_eq_ok] at reached
          obtain ⟨taken, isTaken, further⟩ := reached
          obtain ⟨others, remaining, _⟩ := map_eq_ok.mp further
          exact .inr ⟨taken, isTaken, before, value, after, rfl, ⟨others, remaining⟩, fails⟩

/-- A step that is taken for every member fails with the fault of the first member on which it
does. -/
theorem mapM_eq_error
    {step : Value → Except Fault Result}
    {values : List Value}
    {fault : Fault} :
    values.mapM step = .error fault ↔
      ∃ before value after,
        values = before ++ value :: after ∧
          (∃ results, before.mapM step = .ok results) ∧ step value = .error fault := by
  have cons (_ : Unit) (value : Value) (rest : List Value) :
      (value :: rest).mapM step =
        step value >>= fun own => (rest.mapM step).map (List.cons own) := by
    rw [List.mapM_cons]
    cases step value with
    | error fault => rfl
    | ok result => cases rest.mapM step <;> rfl
  exact @traversal_eq_error _ _ _ _ _ (fun _ values => values.mapM step) (fun _ => step)
    (fun _ _ => ()) List.cons (fun _ => ⟨[], rfl⟩) cons values () fault

/-- The results of a list are that of its first member and those of the others. -/
theorem map_mapM_cons
    (step : Value → Except Fault Result)
    (change : List Result → Other)
    (value : Value)
    (rest : List Value) :
    ((value :: rest).mapM step).map change =
      step value >>= fun result =>
        (rest.mapM step).map fun results => change (result :: results) := by
  rw [List.mapM_cons]
  cases step value with
  | error fault => rfl
  | ok result => cases rest.mapM step <;> rfl

/-- Results may be changed one by one or all at the end. -/
theorem mapM_map
    (step : Value → Except Fault Result)
    (change : Result → Other)
    (values : List Value) :
    (values.mapM fun value => (step value).map change) =
      (values.mapM step).map (List.map change) := by
  induction values with
  | nil => rfl
  | cons value rest induction =>
      rw [List.mapM_cons, induction, map_mapM_cons]
      cases step value with
      | error fault => rfl
      | ok result => cases rest.mapM step <;> rfl

/-- A step that is taken for every member succeeds exactly if it does for each of them. -/
theorem mapM_eq_ok
    {step : Value → Except Fault Result}
    {values : List Value}
    {results : List Result} :
    values.mapM step = .ok results ↔
      List.Forall₂ (fun value result => step value = .ok result) values results := by
  induction values generalizing results with
  | nil => rw [List.mapM_nil, pure_eq_ok, List.forall₂_nil_left_iff, eq_comm]
  | cons value rest induction =>
      simp only [List.mapM_cons, bind_eq_ok, pure_eq_ok, induction]
      constructor
      · rintro ⟨result, own, others, remaining, rfl⟩
        exact .cons own remaining
      · rintro (_ | ⟨own, remaining⟩)
        exact ⟨_, own, _, remaining, rfl⟩

/-- Results that are as wanted exist exactly if each member has one. -/
theorem exists_mapM_eq_ok_iff
    {step : Value → Except Fault Result}
    {wanted : Value → Result → Prop}
    {values : List Value} :
    (∃ results, values.mapM step = .ok results ∧ List.Forall₂ wanted values results) ↔
      ∀ value ∈ values, ∃ result, step value = .ok result ∧ wanted value result := by
  induction values with
  | nil => simp
  | cons value rest induction =>
      rw [List.forall_mem_cons, ← induction]
      simp only [List.mapM_cons, bind_eq_ok, pure_eq_ok]
      constructor
      · rintro ⟨_, ⟨result, own, others, remaining, rfl⟩, _ | ⟨first, further⟩⟩
        exact ⟨⟨result, own, first⟩, others, remaining, further⟩
      · rintro ⟨⟨result, own, first⟩, others, remaining, further⟩
        exact ⟨_, ⟨result, own, others, remaining, rfl⟩, .cons first further⟩

/-- Every member of the first of two paired lists has a partner in the second. -/
theorem exists_partner
    {relation : Value → Result → Prop}
    {values : List Value}
    {results : List Result}
    (paired : List.Forall₂ relation values results)
    {value : Value}
    (member : value ∈ values) :
    ∃ result ∈ results, relation value result := by
  induction paired with
  | nil => cases member
  | cons head tail induction =>
      rcases List.mem_cons.mp member with rfl | later
      · exact ⟨_, by simp, head⟩
      · obtain ⟨result, found, related⟩ := induction later
        exact ⟨result, List.mem_cons_of_mem _ found, related⟩

/-- Every member can be paired exactly if each of them has a partner. -/
theorem exists_partners_iff
    {relation : Value → Result → Prop}
    {values : List Value} :
    (∃ results, List.Forall₂ relation values results) ↔
      ∀ value ∈ values, ∃ result, relation value result := by
  induction values with
  | nil => simp
  | cons value rest induction =>
      rw [List.forall_mem_cons, ← induction]
      constructor
      · rintro ⟨_, _ | ⟨own, others⟩⟩
        exact ⟨⟨_, own⟩, _, others⟩
      · rintro ⟨⟨result, own⟩, results, others⟩
        exact ⟨result :: results, .cons own others⟩

/-- What holds of a member exactly if it holds of its partner, holds of all or of none alike. -/
theorem forall_iff_of_forall₂
    {relation : Value → Result → Prop}
    {first : Value → Prop}
    {second : Result → Prop}
    {values : List Value}
    {results : List Result}
    (paired : List.Forall₂ relation values results)
    (same : ∀ {value result}, relation value result → (first value ↔ second result)) :
    (∀ value ∈ values, first value) ↔ ∀ result ∈ results, second result := by
  induction paired with
  | nil => exact iff_of_true nofun nofun
  | cons head tail induction =>
      rw [List.forall_mem_cons, List.forall_mem_cons, same head, induction]

/-- Two lists of partners of one list are partners of each other. -/
theorem forall₂_of_common
    {relation : Value → Result → Prop}
    {further : Value → Other → Prop}
    {wanted : Result → Other → Prop}
    {values : List Value}
    {results : List Result}
    {others : List Other}
    (paired : List.Forall₂ relation values results)
    (alsoPaired : List.Forall₂ further values others)
    (carries : ∀ {value result other},
      relation value result → further value other → wanted result other) :
    List.Forall₂ wanted results others := by
  induction paired generalizing others with
  | nil =>
      cases alsoPaired
      exact .nil
  | cons head tail induction =>
      obtain _ | ⟨own, rest⟩ := alsoPaired
      exact .cons (carries head own) (induction rest)

/-- What holds between the members of a list carries over to their partners. -/
theorem pairwise_of_forall₂
    {relation : Value → Result → Prop}
    {between : Value → Value → Prop}
    {wanted : Result → Result → Prop}
    {values : List Value}
    {results : List Result}
    (paired : List.Forall₂ relation values results)
    (pairwise : values.Pairwise between)
    (carries : ∀ {left right first second},
      between left right → relation left first → relation right second → wanted first second) :
    results.Pairwise wanted := by
  induction paired with
  | nil => exact .nil
  | cons head tail induction =>
      obtain ⟨first, others⟩ := List.pairwise_cons.mp pairwise
      refine List.pairwise_cons.mpr ⟨?_, induction others⟩
      intro result member
      obtain ⟨value, isValue, related⟩ := exists_partner tail.flip member
      exact carries (first value isValue) head related

/-- A step that may give nothing gives something for all members of a list one by one. -/
theorem mapM_eq_some
    {step : Value → Option Result}
    {values : List Value}
    {results : List Result} :
    values.mapM step = some results ↔
      List.Forall₂ (fun value result => step value = some result) values results := by
  induction values generalizing results with
  | nil => simp [eq_comm]
  | cons value rest induction =>
      simp only [List.mapM_cons, Option.bind_eq_bind, Option.bind_eq_some_iff, Option.pure_def,
        Option.some.injEq, induction]
      constructor
      · rintro ⟨result, own, others, remaining, rfl⟩
        exact .cons own remaining
      · rintro (_ | ⟨own, remaining⟩)
        exact ⟨_, own, _, remaining, rfl⟩

/-- Members are paired through partners between them exactly if a list of such partners exists. -/
theorem exists_forall₂_iff
    {relation : Value → Result → Prop}
    {further : Result → Other → Prop}
    {values : List Value}
    {others : List Other} :
    (∃ results, List.Forall₂ relation values results ∧ List.Forall₂ further results others) ↔
      List.Forall₂ (fun value other => ∃ result, relation value result ∧ further result other)
        values others := by
  induction values generalizing others with
  | nil => simp
  | cons value rest induction =>
      constructor
      · rintro ⟨_, _ | ⟨own, remaining⟩, _ | ⟨found, rested⟩⟩
        exact .cons ⟨_, own, found⟩ (induction.mp ⟨_, remaining, rested⟩)
      · rintro (_ | ⟨⟨result, own, found⟩, others⟩)
        obtain ⟨results, remaining, rested⟩ := induction.mpr others
        exact ⟨result :: results, .cons own remaining, .cons found rested⟩

/-- Partners of partners exist for a whole list exactly if each member has one. -/
theorem exists_further_iff
    {relation : Value → Result → Prop}
    {step : Result → Other → Prop}
    {wanted : Value → Other → Prop}
    {holds : Value → Prop}
    {values : List Value}
    {results : List Result}
    (paired : List.Forall₂ relation values results)
    (same : ∀ {value result}, relation value result →
      ((∃ other, step result other ∧ wanted value other) ↔ holds value)) :
    (∃ others, List.Forall₂ step results others ∧ List.Forall₂ wanted values others) ↔
      ∀ value ∈ values, holds value := by
  induction paired with
  | nil => simp
  | cons head tail induction =>
      rw [List.forall_mem_cons, ← same head, ← induction]
      constructor
      · rintro ⟨_, _ | ⟨own, remaining⟩, _ | ⟨first, further⟩⟩
        exact ⟨⟨_, own, first⟩, _, remaining, further⟩
      · rintro ⟨⟨other, own, first⟩, others, remaining, further⟩
        exact ⟨other :: others, .cons own remaining, .cons first further⟩

end GeoTables.Outcome
