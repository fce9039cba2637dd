import GeoTables.Proofs.Geometry.Wkt.Grammar
import GeoTables.Proofs.Geometry.Wkt.Names

/-!
# Tokens that a geometry takes

Behind the word for its type a geometry that is no collection consists of
parentheses, commas, numbers, words for a layout and the word for an empty
geometry.  Each reader takes such tokens only, if it finds something; what it
takes when it fails does not matter.
-/

namespace GeoTables.Wkt

open Text

/-- The words that stand behind the word for a type, collections apart. -/
def fillers : List (List Char) :=
  "EMPTY".toList :: layouts.map fun layout => layout.1.toList

/-- A token that is neither the word for a type nor a fault. -/
def Token.IsFiller : Token → Prop
  | .opening | .closing | .comma | .number _ => True
  | .word name => capitals name ∈ fillers
  | .badNumber | .stop => False

/-- Nothing but fillers stands in front of the tokens that are left. -/
inductive Passes : List Token → List Token → Prop where
  | none (left : List Token) : Passes left left
  | filler
      {token : Token}
      {rest left : List Token}
      (isFiller : token.IsFiller)
      (further : Passes rest left) :
      Passes (token :: rest) left

namespace Passes

theorem trans
    {input between left : List Token}
    (first : Passes input between)
    (second : Passes between left) :
    Passes input left := by
  induction first with
  | none => exact second
  | filler isFiller _ induction => exact .filler isFiller (induction second)

/-- If nothing is left, all tokens are fillers. -/
theorem isFiller_of_mem
    {input : List Token}
    (all : Passes input [])
    {token : Token}
    (member : token ∈ input) :
    token.IsFiller := by
  generalize ended : ([] : List Token) = left at all
  induction all with
  | none =>
      rw [← ended] at member
      cases member
  | filler isFiller _ induction =>
      rcases List.mem_cons.mp member with rfl | later
      · exact isFiller
      · exact induction later ended

end Passes

/-- What the reader takes before it finds something are fillers. -/
def TakesFillers {α : Type} (reader : Reader α) : Prop :=
  ∀ input value left, outcome reader input = (.ok value, left) → Passes input left

namespace TakesFillers

variable {α β : Type}

theorem pure (value : α) : TakesFillers (pure value : Reader α) := by
  rintro input other left ⟨⟩
  exact .none input

theorem bind
    {first : Reader α}
    {next : α → Reader β}
    (own : TakesFillers first)
    (further : ∀ value, TakesFillers (next value)) :
    TakesFillers (first >>= next) := by
  intro input value left out
  obtain ⟨between, rest, read, continued⟩ := exists_outcome_of_bind_eq_ok out
  exact (own input between rest read).trans (further between rest value left continued)

theorem ordinate (name : Char) : TakesFillers (ordinate name) := by
  intro input value left out
  cases input with
  | nil => cases out
  | cons token rest =>
      cases token <;> cases out
      exact .filler trivial (.none left)

theorem layoutWord : TakesFillers layoutWord := by
  intro input value left out
  cases input with
  | nil => cases out
  | cons token rest =>
      cases token with
      | word name =>
          rw [outcome_layoutWord_word] at out
          split at out
          · rename_i layout isLayout
            cases out
            refine .filler ?_ (.none left)
            have named := List.find?_some isLayout
            refine List.mem_cons_of_mem _ (List.mem_map.mpr ⟨layout, ?_, ?_⟩)
            · exact List.mem_of_find?_eq_some isLayout
            · exact (beq_iff_eq.mp named).symm
          · split_ifs at out <;> cases out
            exact .none _
      | _ => cases out <;> exact .none _

theorem behindComma
    {further last : Reader α}
    (ifFurther : TakesFillers further)
    (ifLast : TakesFillers last) :
    TakesFillers (do
      if ← nextIs .comma then
        let _ ← next
        further
      else
        last) := by
  intro input value left out
  rw [outcome_bind, outcome_nextIs] at out
  cases input with
  | nil => exact ifLast _ _ _ out
  | cons token rest =>
      cases more : (some token == some Token.comma) with
      | false =>
          rw [List.head?_cons, more] at out
          exact ifLast _ _ _ out
      | true =>
          obtain rfl : token = .comma := by simpa using more
          exact .filler trivial (ifFurther rest value left out)

/-- A body in parentheses, or the word for an empty geometry. -/
theorem enclosed
    {body : Reader α}
    (inside : TakesFillers body)
    (empty : α) :
    TakesFillers (enclosed empty body) := by
  intro input value left out
  cases input with
  | nil => cases out
  | cons token rest =>
      cases token with
      | opening =>
          rw [outcome_enclosed] at out
          rcases read : outcome body rest with ⟨result, between⟩
          rw [read] at out
          cases between with
          | nil => cases out
          | cons last others =>
              cases last <;> cases result <;> cases out
              have closed : Passes (.closing :: left) left := .filler trivial (.none left)
              exact .filler trivial ((inside rest _ _ read).trans closed)
      | word name =>
          rw [outcome_enclosed_word] at out
          split_ifs at out with isEmpty
          · refine .filler ?_ (pure empty rest value left out)
            exact List.mem_cons.mpr (.inl (beq_iff_eq.mp isEmpty))
          · cases out
      | _ => cases out

end TakesFillers

theorem compositional_takesFillers : Compositional @TakesFillers where
  pure := .pure
  fault fault := by rintro input value left ⟨⟩
  bind := .bind
  ordinate := .ordinate
  layoutWord := .layoutWord
  sized each := fun input => each input.length input
  beforeOpening ifOpened ifBare := by
    intro input value left out
    rw [outcome_bind, outcome_nextIs] at out
    dsimp only at out
    split_ifs at out
    · exact ifOpened input value left out
    · exact ifBare input value left out
  behindComma := .behindComma
  enclosed := .enclosed

/-- Behind the word for a type other than that of collections there are fillers only. -/
theorem takesFillers_geometryAfter
    {name : List Char}
    {tag : Tag}
    {attached : Option Layout}
    (isTag : tag? name = some (tag, attached))
    (simple : tag ≠ .collection)
    (depth : Nat) :
    TakesFillers (geometryAfter depth name) := by
  refine compositional_takesFillers.geometryAfter fun other _ isCollection _ => ?_
  rw [isTag] at isCollection
  cases isCollection
  exact absurd rfl simple

end GeoTables.Wkt
