/-!
# Patterns

In a pattern `%` stands for any run of characters and `_` for any single one.
A backslash takes the next character literally; one at the end stands for
itself.

Matching goes through the tokens of a pattern and through the text side by
side.  A run takes nothing at first.  Where a character is not the one that is
wanted, the tokens behind the last run are tried again, one character after
the place where they were tried before; the runs before it are not reconsidered.
Although the text is set back, matching ends: either fewer runs lie ahead, or
the last of them takes more, or less of the text is left.
-/

namespace GeoTables

/-- A part of a pattern. -/
inductive PatternToken where
  | anyRun
  | anyOne
  | literal (character : Char)
  deriving DecidableEq, Repr

namespace PatternToken

/-- The tokens of a pattern. -/
def ofPattern : List Char → List PatternToken
  | [] => []
  | '%' :: rest => .anyRun :: ofPattern rest
  | '_' :: rest => .anyOne :: ofPattern rest
  | ['\\'] => [.literal '\\']
  | '\\' :: character :: rest => .literal character :: ofPattern rest
  | character :: rest => .literal character :: ofPattern rest

/-- The token takes the character and no other one. -/
def accepts : PatternToken → Char → Bool
  | .anyRun, _ => false
  | .anyOne, _ => true
  | .literal wanted, character => wanted == character

/-- The number of runs among tokens. -/
def runs (tokens : List PatternToken) : Nat :=
  tokens.count .anyRun

end PatternToken

/-- A state of matching. -/
structure Matching where
  /-- The tokens that are left. -/
  tokens : List PatternToken
  /-- The text that is left. -/
  text : List Char
  /-- The tokens behind the last run, and the text on which they were last tried. -/
  resume : Option (List PatternToken × List Char)

namespace Matching

/-- What a step of matching leads to. -/
inductive Progress where
  | continues (next : Matching)
  | ends (answer : Bool)

/-- Try the tokens behind the last run on the text one character further on. -/
def retry : Option (List PatternToken × List Char) → Progress
  | some (tokens, _ :: text) => .continues ⟨tokens, text, some (tokens, text)⟩
  | _ => .ends false

/-- A step of matching; at the end of the text nothing but runs may be left. -/
def step : Matching → Progress
  | ⟨tokens, [], _⟩ => .ends (tokens.all (· == .anyRun))
  | ⟨.anyRun :: tokens, character :: text, _⟩ =>
      .continues ⟨tokens, character :: text, some (tokens, character :: text)⟩
  | ⟨token :: tokens, character :: text, resume⟩ =>
      if token.accepts character then .continues ⟨tokens, text, resume⟩ else retry resume
  | ⟨[], _ :: _, resume⟩ => retry resume

/-- The tokens cannot go on with the character: none is left, or the first is for other ones. -/
def IsStuck (tokens : List PatternToken) (character : Char) : Prop :=
  ∀ token ∈ tokens.head?, token ≠ .anyRun ∧ token.accepts character = false

/-- What a step makes of a state. -/
inductive Makes : Matching → Progress → Prop where
  | finished (tokens : List PatternToken) (resume : Option (List PatternToken × List Char)) :
      Makes ⟨tokens, [], resume⟩ (.ends (tokens.all (· == .anyRun)))
  | run
      (tokens : List PatternToken)
      (character : Char)
      (text : List Char)
      (resume : Option (List PatternToken × List Char)) :
      Makes ⟨.anyRun :: tokens, character :: text, resume⟩
        (.continues ⟨tokens, character :: text, some (tokens, character :: text)⟩)
  | one
      {token : PatternToken}
      {character : Char}
      (single : token ≠ .anyRun)
      (accepted : token.accepts character = true)
      (tokens : List PatternToken)
      (text : List Char)
      (resume : Option (List PatternToken × List Char)) :
      Makes ⟨token :: tokens, character :: text, resume⟩ (.continues ⟨tokens, text, resume⟩)
  | again
      {tokens : List PatternToken}
      {character : Char}
      (stuck : IsStuck tokens character)
      (text : List Char)
      (behind : List PatternToken)
      (skipped : Char)
      (later : List Char) :
      Makes ⟨tokens, character :: text, some (behind, skipped :: later)⟩
        (.continues ⟨behind, later, some (behind, later)⟩)
  | failed
      {tokens : List PatternToken}
      {character : Char}
      (stuck : IsStuck tokens character)
      (text : List Char)
      {resume : Option (List PatternToken × List Char)}
      (last : ∀ behind later, resume = some (behind, later) → later = []) :
      Makes ⟨tokens, character :: text, resume⟩ (.ends false)

/-- Tokens that cannot go on are given up or tried again. -/
theorem makes_retry
    {tokens : List PatternToken}
    {character : Char}
    (stuck : IsStuck tokens character)
    (text : List Char)
    (resume : Option (List PatternToken × List Char)) :
    Makes ⟨tokens, character :: text, resume⟩ (retry resume) := by
  rcases resume with _ | ⟨behind, _ | ⟨skipped, later⟩⟩
  · exact .failed stuck text nofun
  · exact .failed stuck text (by rintro _ _ ⟨⟩; rfl)
  · exact .again stuck text behind skipped later

/-- Every step is one of these. -/
theorem makes_step (state : Matching) : state.Makes state.step := by
  fun_cases step state with
  | case1 tokens resume => exact .finished tokens resume
  | case2 tokens character text resume => exact .run tokens character text resume
  | case3 token tokens character text resume single accepted =>
      exact .one single accepted tokens text resume
  | case4 token tokens character text resume single refused =>
      refine makes_retry ?_ text resume
      rintro _ ⟨⟩
      exact ⟨single, by simpa using refused⟩
  | case5 character text resume =>
      refine makes_retry ?_ text resume
      rintro _ ⟨⟩

/-- The runs that lie ahead, the text for the last run and the text that is left. -/
def size (state : Matching) : Nat × Nat × Nat :=
  let (tokens, text) := state.resume.getD ([], [])
  (max (PatternToken.runs state.tokens) (PatternToken.runs tokens), text.length,
    state.text.length)

/-- A state is smaller than another one. -/
def Smaller (next state : Matching) : Prop :=
  Prod.Lex (· < ·) (Prod.Lex (· < ·) (· < ·)) next.size state.size

/-- Every step makes the state smaller. -/
theorem smaller_of_step
    {state next : Matching}
    (continues : state.step = .continues next) :
    next.Smaller state := by
  have makes := makes_step state
  rw [continues] at makes
  cases makes with
  | run tokens character text resume =>
      have run : PatternToken.runs (.anyRun :: tokens) = PatternToken.runs tokens + 1 :=
        List.count_cons_self
      refine .left _ _ ?_
      change max (PatternToken.runs tokens) (PatternToken.runs tokens) <
        max (PatternToken.runs (.anyRun :: tokens)) _
      omega
  | @one token character single accepted tokens text resume =>
      have runs : PatternToken.runs tokens ≤ PatternToken.runs (token :: tokens) :=
        List.count_le_count_cons
      refine .right' _ (Nat.max_le.mpr ⟨?_, Nat.le_max_right _ _⟩)
        (.right _ (Nat.lt_succ_self text.length))
      exact Nat.le_trans runs (Nat.le_max_left _ _)
  | @again tokens character stuck text behind skipped later =>
      refine .right' _ ?_ (.left _ _ (Nat.lt_succ_self later.length))
      exact Nat.max_le.mpr ⟨Nat.le_max_right _ _, Nat.le_max_right _ _⟩

/-- The answer in which matching ends. -/
def answer (state : Matching) : Bool :=
  match _ : state.step with
  | .continues next => next.answer
  | .ends answer => answer
termination_by state.size
decreasing_by exact smaller_of_step ‹_›

/-- The state in which the matching of a text with a pattern begins. -/
def start (text pattern : String) : Matching :=
  ⟨PatternToken.ofPattern pattern.toList, text.toList, none⟩

end Matching

/-- A text matches a pattern. -/
def matchesPattern (text pattern : String) : Bool :=
  (Matching.start text pattern).answer

end GeoTables
