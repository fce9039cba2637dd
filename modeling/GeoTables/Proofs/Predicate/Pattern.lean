import GeoTables.Predicate.Pattern
import Mathlib.Data.List.Forall2
import Mathlib.Logic.Relation

/-!
# Texts that match patterns

A text matches a pattern exactly if it falls into consecutive pieces that the
tokens of the pattern take in their order.

A state of matching is promising if the tokens that are left can take the text
that is left, or the tokens behind the last run can take a later part of the
text for which they are tried.  Every step keeps this.  Where a further run is
reached, the run before it is forgotten; nothing is lost, since whatever a
later place for the tokens in between would leave to the new run, the run can
skip as well from where it stands.
-/

namespace GeoTables

namespace PatternToken

/-- The pieces of a text that a token takes. -/
def Takes : PatternToken → List Char → Prop
  | .anyRun, _ => True
  | .anyOne, piece => ∃ character, piece = [character]
  | .literal character, piece => piece = [character]

/-- The text falls into consecutive pieces that the tokens take in their order. -/
def TakeAll (tokens : List PatternToken) (text : List Char) : Prop :=
  ∃ pieces, List.Forall₂ Takes tokens pieces ∧ pieces.flatten = text

/-! ## Texts that tokens take -/

variable {token : PatternToken} {tokens : List PatternToken} {text : List Char}

theorem takeAll_nil : TakeAll [] text ↔ text = [] := by
  simp [TakeAll, eq_comm]

theorem takeAll_cons :
    TakeAll (token :: tokens) text ↔
      ∃ piece rest, token.Takes piece ∧ TakeAll tokens rest ∧ piece ++ rest = text := by
  constructor
  · rintro ⟨_, _ | ⟨own, others⟩, rfl⟩
    exact ⟨_, _, own, ⟨_, others, rfl⟩, rfl⟩
  · rintro ⟨piece, _, own, ⟨pieces, others, rfl⟩, rfl⟩
    exact ⟨piece :: pieces, .cons own others, rfl⟩

/-- A run takes what stands before some later part of the text. -/
theorem takeAll_anyRun :
    TakeAll (.anyRun :: tokens) text ↔ ∃ rest, rest <:+ text ∧ TakeAll tokens rest := by
  rw [takeAll_cons]
  constructor
  · rintro ⟨piece, rest, _, others, rfl⟩
    exact ⟨rest, List.suffix_append piece rest, others⟩
  · rintro ⟨rest, ⟨piece, rfl⟩, others⟩
    exact ⟨piece, rest, trivial, others, rfl⟩

/-- All tokens but runs take the single characters that they accept. -/
theorem takes_iff
    (single : token ≠ .anyRun)
    {piece : List Char} :
    token.Takes piece ↔ ∃ character, token.accepts character = true ∧ piece = [character] := by
  cases token with
  | anyRun => exact absurd rfl single
  | anyOne => simp [Takes, accepts]
  | literal wanted => simp [Takes, accepts]

theorem takeAll_of_ne_anyRun
    (single : token ≠ .anyRun) :
    TakeAll (token :: tokens) text ↔
      ∃ character rest,
        token.accepts character = true ∧ TakeAll tokens rest ∧ text = character :: rest := by
  rw [takeAll_cons]
  constructor
  · rintro ⟨_, rest, own, others, rfl⟩
    obtain ⟨character, accepted, rfl⟩ := (takes_iff single).mp own
    exact ⟨character, rest, accepted, others, rfl⟩
  · rintro ⟨character, rest, accepted, others, rfl⟩
    exact ⟨[character], rest, (takes_iff single).mpr ⟨character, accepted, rfl⟩, others, rfl⟩

/-- Tokens without a run take one character each, and leave the others to the tokens behind. -/
theorem takeAll_append
    {seen : List PatternToken}
    (single : .anyRun ∉ seen)
    (taken : TakeAll (seen ++ tokens) text) :
    seen.length ≤ text.length ∧ TakeAll tokens (text.drop seen.length) := by
  induction seen generalizing text with
  | nil => exact ⟨Nat.zero_le _, taken⟩
  | cons token others induction =>
      rw [List.mem_cons, not_or] at single
      obtain ⟨character, rest, _, further, rfl⟩ :=
        (takeAll_of_ne_anyRun (Ne.symm single.1)).mp taken
      obtain ⟨enough, left⟩ := induction single.2 further
      exact ⟨Nat.succ_le_succ enough, left⟩

/-- Nothing but runs can take the empty text. -/
theorem takeAll_empty : TakeAll tokens [] ↔ tokens.all (· == .anyRun) = true := by
  induction tokens with
  | nil => simp [takeAll_nil]
  | cons token rest induction =>
      by_cases run : token = .anyRun
      · subst run
        simp [takeAll_anyRun, induction]
      · simp [takeAll_of_ne_anyRun run, run]

end PatternToken

open PatternToken (TakeAll takeAll_nil takeAll_anyRun takeAll_of_ne_anyRun takeAll_append
  takeAll_empty)

namespace Matching

/-- Tokens that cannot go on with a character take no text that begins with it. -/
theorem IsStuck.not_takeAll
    {tokens : List PatternToken}
    {character : Char}
    (stuck : IsStuck tokens character)
    (text : List Char) :
    ¬TakeAll tokens (character :: text) := by
  cases tokens with
  | nil => simp [takeAll_nil]
  | cons token rest =>
      obtain ⟨single, refused⟩ := stuck token rfl
      rw [takeAll_of_ne_anyRun single]
      rintro ⟨other, _, accepted, _, same⟩
      cases same
      cases refused.symm.trans accepted

/-! ## What every step keeps -/

/-- What is left of the tokens behind the last run, and of the text for which they are tried, is
what is left of all; no run was among them so far, so they have taken one character each. -/
def IsAligned (state : Matching) : Prop :=
  ∀ behind later, state.resume = some (behind, later) →
    ∃ seen taken,
      behind = seen ++ state.tokens ∧ later = taken ++ state.text ∧
        seen.length = taken.length ∧ .anyRun ∉ seen

/-- The state can lead to a match, in place or with the last run taking more. -/
def IsPromising (state : Matching) : Prop :=
  TakeAll state.tokens state.text ∨
    ∃ behind later rest,
      state.resume = some (behind, later) ∧ rest <:+ later ∧ rest ≠ later ∧ TakeAll behind rest

theorem isAligned_behind_run
    (tokens : List PatternToken)
    (text : List Char) :
    IsAligned ⟨tokens, text, some (tokens, text)⟩ := by
  rintro _ _ ⟨⟩
  exact ⟨[], [], rfl, rfl, rfl, List.not_mem_nil⟩

theorem IsAligned.of_continues
    {state next : Matching}
    (aligned : state.IsAligned)
    (continues : state.step = .continues next) :
    next.IsAligned := by
  have makes := makes_step state
  rw [continues] at makes
  cases makes with
  | run tokens character text resume => exact isAligned_behind_run tokens (character :: text)
  | again stuck text behind skipped later => exact isAligned_behind_run behind later
  | @one token character single accepted tokens text resume =>
      intro behind later isResume
      obtain ⟨seen, taken, rfl, rfl, same, runless⟩ := aligned behind later isResume
      refine ⟨seen ++ [token], taken ++ [character], by simp, by simp, by simp [same], ?_⟩
      simp [runless, Ne.symm single]

/-- Behind a run a state is promising if the run and the tokens behind it can take the text. -/
theorem isPromising_behind_run
    {tokens : List PatternToken}
    {text : List Char} :
    IsPromising ⟨tokens, text, some (tokens, text)⟩ ↔ TakeAll (.anyRun :: tokens) text := by
  rw [takeAll_anyRun]
  constructor
  · rintro (taken | ⟨_, _, rest, ⟨⟩, later, _, taken⟩)
    · exact ⟨text, List.suffix_rfl, taken⟩
    · exact ⟨rest, later, taken⟩
  · rintro ⟨rest, later, taken⟩
    by_cases same : rest = text
    · exact .inl (same ▸ taken)
    · exact .inr ⟨tokens, text, rest, rfl, later, same, taken⟩

/-- A match that an earlier run would reach is also reached by the run at which matching stands. -/
theorem IsAligned.takeAll_of_later
    {tokens behind : List PatternToken}
    {text later rest : List Char}
    {resume : Option (List PatternToken × List Char)}
    (aligned : IsAligned ⟨.anyRun :: tokens, text, resume⟩)
    (isResume : resume = some (behind, later))
    (further : rest <:+ later)
    (taken : TakeAll behind rest) :
    TakeAll (.anyRun :: tokens) text := by
  obtain ⟨seen, skipped, rfl, rfl, same, runless⟩ := aligned behind later isResume
  obtain ⟨_, own⟩ := takeAll_append runless taken
  obtain ⟨left, isLeft, others⟩ := takeAll_anyRun.mp own
  have within : rest.drop seen.length <:+ text := by
    obtain ⟨front, split⟩ := further
    have moved : rest.drop seen.length = text.drop front.length :=
      calc rest.drop seen.length
        _ = (front ++ rest).drop (front.length + seen.length) :=
            (List.drop_length_add_append seen.length).symm
        _ = (skipped ++ text).drop (skipped.length + front.length) := by
            rw [split, same, Nat.add_comm]
        _ = text.drop front.length := List.drop_length_add_append front.length
    exact moved ▸ List.drop_suffix front.length text
  exact takeAll_anyRun.mpr ⟨left, isLeft.trans within, others⟩

/-- A step neither makes a match possible nor loses one. -/
theorem isPromising_iff_of_continues
    {state next : Matching}
    (aligned : state.IsAligned)
    (continues : state.step = .continues next) :
    state.IsPromising ↔ next.IsPromising := by
  have makes := makes_step state
  rw [continues] at makes
  cases makes with
  | run tokens character text resume =>
      rw [isPromising_behind_run]
      constructor
      · rintro (taken | ⟨behind, later, rest, isResume, further, _, taken⟩)
        · exact taken
        · exact aligned.takeAll_of_later isResume further taken
      · exact .inl
  | @one token character single accepted tokens text resume =>
      have same : TakeAll (token :: tokens) (character :: text) ↔ TakeAll tokens text := by
        simp [takeAll_of_ne_anyRun single, accepted]
      simp only [IsPromising, same]
  | @again tokens character stuck text behind skipped later =>
      rw [isPromising_behind_run, takeAll_anyRun]
      constructor
      · rintro (taken | ⟨_, _, rest, ⟨⟩, further, other, taken⟩)
        · exact (stuck.not_takeAll text taken).elim
        · exact ⟨rest, (List.suffix_cons_iff.mp further).resolve_left other, taken⟩
      · rintro ⟨rest, further, taken⟩
        refine .inr ⟨behind, skipped :: later, rest, rfl, further.trans (List.suffix_cons _ _),
          ?_, taken⟩
        rintro rfl
        exact absurd further.length_le (by simp)

/-- Matching ends with the answer whether the state is promising. -/
theorem isPromising_iff_of_ends
    {state : Matching}
    {answer : Bool}
    (aligned : state.IsAligned)
    (ends : state.step = .ends answer) :
    state.IsPromising ↔ answer = true := by
  have makes := makes_step state
  rw [ends] at makes
  cases makes with
  | finished tokens resume =>
      rw [← takeAll_empty, IsPromising, or_iff_left_iff_imp]
      rintro ⟨behind, later, rest, isResume, further, other, taken⟩
      obtain ⟨seen, skipped, rfl, rfl, same, runless⟩ := aligned behind later isResume
      obtain ⟨enough, _⟩ := takeAll_append runless taken
      -- The tokens that have been seen need all of the text that they were tried on.
      exact absurd (further.eq_of_length_le (by simpa [← same] using enough)) other
  | @failed tokens character stuck text resume last =>
      refine iff_of_false ?_ Bool.false_ne_true
      rintro (taken | ⟨behind, later, rest, isResume, further, other, _⟩)
      · exact stuck.not_takeAll text taken
      · obtain rfl := last behind later isResume
        exact other (List.suffix_nil.mp further)

/-! ## Whole runs -/

/-- The answer of a state that is aligned tells whether it is promising. -/
theorem answer_eq_true_iff
    {state : Matching}
    (aligned : state.IsAligned) :
    state.answer = true ↔ state.IsPromising := by
  fun_induction answer state with
  | case1 state next continues induction =>
      rw [isPromising_iff_of_continues aligned continues]
      exact induction (aligned.of_continues continues)
  | case2 state answer ends => exact (isPromising_iff_of_ends aligned ends).symm

/-- From every state some number of steps leads to one that ends with the answer. -/
theorem exists_ends (state : Matching) :
    ∃ last,
      Relation.ReflTransGen (fun state next => state.step = .continues next) state last ∧
        last.step = .ends state.answer := by
  fun_induction answer state with
  | case1 state next continues induction =>
      obtain ⟨last, steps, ends⟩ := induction
      exact ⟨last, .head continues steps, ends⟩
  | case2 state answer ends => exact ⟨state, .refl, ends⟩

theorem isAligned_start (text pattern : String) : (start text pattern).IsAligned :=
  nofun

end Matching

/-- A text matches a pattern if the tokens of the pattern take it. -/
theorem matchesPattern_eq_true_iff
    (text pattern : String) :
    matchesPattern text pattern = true ↔
      TakeAll (PatternToken.ofPattern pattern.toList) text.toList := by
  rw [matchesPattern, Matching.answer_eq_true_iff (Matching.isAligned_start text pattern)]
  exact or_iff_left nofun

/--
Matching a text with a pattern comes to an end, although it may set the text
back, and its answer is whether the text falls into consecutive pieces that the
tokens of the pattern take in their order: any piece for a run, any single
character for a placeholder, and for a literal just that character.
-/
theorem matching_decides
    (text pattern : String) :
    (∃ last,
      Relation.ReflTransGen (fun state next => Matching.step state = .continues next)
          (Matching.start text pattern) last ∧
        last.step = .ends (matchesPattern text pattern)) ∧
      (matchesPattern text pattern = true ↔
        ∃ pieces,
          List.Forall₂ PatternToken.Takes (PatternToken.ofPattern pattern.toList) pieces ∧
            pieces.flatten = text.toList) :=
  ⟨Matching.exists_ends (Matching.start text pattern), matchesPattern_eq_true_iff text pattern⟩

-- Where no `c` follows the first `ab` and a character, the text is set back.
example : matchesPattern "ababbc" "%ab_c" = true := by cbv

end GeoTables
