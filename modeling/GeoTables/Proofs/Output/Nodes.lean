import GeoTables.Proofs.Output.Markup

/-!
# Reading elements

A plain reader of a document knows little: what stands between `<` and the next
`>` is a tag, a tag that begins with a slash closes the element that was opened
last and has to name it, and `&` begins a reference to one of five characters.
All else is character data.  The reader either gives the elements of a text as
a whole, with their names, their texts and the elements within them, or none.

A text has the tokens of some nodes if the reader finds these tokens in it,
whatever follows.  Character data goes on until the next tag begins, so it has
its tokens only in front of a tag.
-/

namespace GeoTables.Xml

/-- Character data or an element with what lies within it. -/
inductive Node where
  | text (characters : List Char)
  | element (name : List Char) (children : List Node)

/-- A maximal piece of character data or a tag. -/
inductive Token where
  | text (characters : List Char)
  | start (name : List Char)
  | stop (name : List Char)
  deriving DecidableEq, Repr

/-! ## Tokens of a text -/

/-- The characters that can be referred to without a declaration. -/
def entities : List (List Char × Char) :=
  [("amp".toList, '&'), ("lt".toList, '<'), ("gt".toList, '>'), ("quot".toList, '"'),
    ("apos".toList, '\'')]

/-- What the reader is within; what it has read of it is reversed. -/
inductive Scanning where
  | data (run : List Char)
  | reference (run name : List Char)
  | tag (inside : List Char)

/-- Character data as a piece, if there is any. -/
def textTokens (characters : List Char) : List Token :=
  if characters.isEmpty then [] else [.text characters]

/-- The tag that stands between `<` and `>`. -/
def tagToken : List Char → Token
  | '/' :: name => .stop name
  | name => .start name

/-- The tokens of a text from a character on. -/
def tokensFrom : Scanning → List Char → Option (List Token)
  | .data run, [] => some (textTokens run.reverse)
  | .reference _ _, [] | .tag _, [] => none
  | .data run, character :: rest =>
      if character = '<' then
        (tokensFrom (.tag []) rest).map (textTokens run.reverse ++ ·)
      else if character = '&' then
        tokensFrom (.reference run []) rest
      else
        tokensFrom (.data (character :: run)) rest
  | .reference run name, character :: rest =>
      if character = ';' then
        (entities.lookup name.reverse).bind fun referred =>
          tokensFrom (.data (referred :: run)) rest
      else
        tokensFrom (.reference run (character :: name)) rest
  | .tag inside, character :: rest =>
      if character = '>' then
        (tokensFrom (.data []) rest).map (tagToken inside.reverse :: ·)
      else
        tokensFrom (.tag (character :: inside)) rest

/-! ## Nodes of tokens -/

/-- An element that is not closed yet, with the nodes before it, reversed. -/
structure OpenElement where
  name : List Char
  before : List Node

/-- The nodes read in the innermost open element, reversed, and the open elements. -/
structure Reading where
  nodes : List Node
  opened : List OpenElement

/-- Take one token. -/
def Reading.step (reading : Reading) : Token → Option Reading
  | .text characters => some { reading with nodes := .text characters :: reading.nodes }
  | .start name => some ⟨[], ⟨name, reading.nodes⟩ :: reading.opened⟩
  | .stop name =>
      match reading.opened with
      | [] => none
      | element :: outer =>
          if element.name = name then
            some ⟨.element name reading.nodes.reverse :: element.before, outer⟩
          else
            none

/-- The nodes of a text in which every element is closed. -/
def nodes? (text : List Char) : Option (List Node) := do
  let tokens ← tokensFrom (.data []) text
  let reading ← tokens.foldlM Reading.step ⟨[], []⟩
  if reading.opened.isEmpty then some reading.nodes.reverse else none

mutual

/-- The tokens by which a node is written. -/
def Node.tokens : Node → List Token
  | .text characters => [.text characters]
  | .element name children => .start name :: nodeTokens children ++ [.stop name]

/-- The tokens by which nodes are written one after the other. -/
def nodeTokens : List Node → List Token
  | [] => []
  | node :: rest => node.tokens ++ nodeTokens rest

end

mutual

/-- The tokens of a node are read as the node, whatever is open. -/
theorem foldlM_tokens
    (rest : List Token) :
    ∀ (node : Node) (nodes : List Node) (opened : List OpenElement),
      (node.tokens ++ rest).foldlM Reading.step ⟨nodes, opened⟩ =
        rest.foldlM Reading.step ⟨node :: nodes, opened⟩
  | .text characters, nodes, opened => rfl
  | .element name children, nodes, opened => by
      have within := foldlM_nodeTokens (.stop name :: rest) children [] (⟨name, nodes⟩ :: opened)
      rw [Node.tokens, List.append_assoc, List.cons_append, List.foldlM_cons]
      change (nodeTokens children ++ .stop name :: rest).foldlM Reading.step
        ⟨[], ⟨name, nodes⟩ :: opened⟩ = _
      rw [within, List.foldlM_cons]
      simp [Reading.step]

theorem foldlM_nodeTokens
    (rest : List Token) :
    ∀ (children nodes : List Node) (opened : List OpenElement),
      (nodeTokens children ++ rest).foldlM Reading.step ⟨nodes, opened⟩ =
        rest.foldlM Reading.step ⟨children.reverse ++ nodes, opened⟩
  | [], nodes, opened => rfl
  | node :: children, nodes, opened => by
      rw [nodeTokens, List.append_assoc, foldlM_tokens, foldlM_nodeTokens]
      simp

end

/-! ## Tokens of written texts -/

/-- Whatever follows the text, the reader finds these tokens in it. -/
def HasTokens (text : List Char) (tokens : List Token) : Prop :=
  ∀ rest,
    tokensFrom (.data []) (text ++ rest) = (tokensFrom (.data []) rest).map (tokens ++ ·)

/-- In front of a tag the reader finds these tokens in the text. -/
def HasTokensBeforeTag (text : List Char) (tokens : List Token) : Prop :=
  ∀ rest,
    tokensFrom (.data []) (text ++ '<' :: rest) =
      (tokensFrom (.data []) ('<' :: rest)).map (tokens ++ ·)

namespace HasTokens

theorem nil : HasTokens [] [] := by
  intro rest
  simp

theorem append
    {left right : List Char}
    {tokens others : List Token}
    (first : HasTokens left tokens)
    (second : HasTokens right others) :
    HasTokens (left ++ right) (tokens ++ others) := by
  intro rest
  rw [List.append_assoc, first, second, Option.map_map]
  simp only [Function.comp_def, List.append_assoc]

theorem beforeTag
    {text : List Char}
    {tokens : List Token}
    (has : HasTokens text tokens) :
    HasTokensBeforeTag text tokens :=
  fun rest => has ('<' :: rest)

end HasTokens

/-- A tag goes on until the next `>`. -/
theorem tokensFrom_tag
    {inside : List Char}
    (closed : ∀ character ∈ inside, character ≠ '>')
    (run rest : List Char) :
    tokensFrom (.tag run) (inside ++ '>' :: rest) =
      (tokensFrom (.data []) rest).map (tagToken (run.reverse ++ inside) :: ·) := by
  induction inside generalizing run with
  | nil => simp [tokensFrom]
  | cons character others induction =>
      rw [List.forall_mem_cons] at closed
      rw [List.cons_append, tokensFrom, if_neg closed.1, induction closed.2]
      simp

/-- A tag is one token. -/
theorem HasTokens.tag
    {inside : List Char}
    (closed : ∀ character ∈ inside, character ≠ '>') :
    HasTokens ('<' :: inside ++ ['>']) [tagToken inside] := by
  intro rest
  have found := tokensFrom_tag closed [] rest
  rw [List.append_assoc, List.cons_append, tokensFrom, if_pos rfl]
  change (tokensFrom (.tag []) (inside ++ '>' :: rest)).map _ = _
  rw [found, Option.map_map]
  rfl

/-- The tokens in front of a tag are followed by those of the tag. -/
theorem HasTokensBeforeTag.append
    {left inside : List Char}
    {tokens others : List Token}
    (first : HasTokensBeforeTag left tokens)
    (second : HasTokens ('<' :: inside) others) :
    HasTokens (left ++ '<' :: inside) (tokens ++ others) := by
  intro rest
  have followed := second rest
  rw [List.cons_append] at followed
  rw [List.append_assoc, List.cons_append, first, followed, Option.map_map]
  simp only [Function.comp_def, List.append_assoc]

/-- An element has its two tags around the tokens of its content. -/
theorem HasTokensBeforeTag.element
    {name inner : List Char}
    {tokens : List Token}
    (closed : ∀ character ∈ name, character ≠ '>')
    (noSlash : name.head? ≠ some '/')
    (within : HasTokensBeforeTag inner tokens) :
    HasTokens (startTag name ++ inner ++ endTag name)
      (.start name :: tokens ++ [.stop name]) := by
  have isStart : tagToken name = .start name := by
    unfold tagToken
    split
    · exact absurd rfl noSlash
    · rfl
  have start : HasTokens (startTag name) [.start name] := isStart ▸ HasTokens.tag closed
  have stop : HasTokens (endTag name) [.stop name] :=
    HasTokens.tag (List.forall_mem_cons.mpr ⟨by decide, closed⟩)
  rw [List.append_assoc]
  exact start.append (within.append stop)

/-- Characters that begin no markup are taken as they are. -/
theorem tokensFrom_data
    {text : List Char}
    (noTag : ∀ character ∈ text, character ≠ '<')
    (noReference : ∀ character ∈ text, character ≠ '&')
    (run rest : List Char) :
    tokensFrom (.data run) (text ++ rest) = tokensFrom (.data (text.reverse ++ run)) rest := by
  induction text generalizing run with
  | nil => rfl
  | cons character others induction =>
      rw [List.forall_mem_cons] at noTag noReference
      rw [List.cons_append, tokensFrom, if_neg noTag.1, if_neg noReference.1,
        induction noTag.2 noReference.2]
      simp

/-- An escaped character is taken as the character. -/
theorem tokensFrom_escapeCharacter
    (character : Char)
    (run rest : List Char) :
    tokensFrom (.data run) (escapeCharacter character ++ rest) =
      tokensFrom (.data (character :: run)) rest := by
  unfold escapeCharacter
  split
  case h_6 notAmpersand notLess _ _ _ =>
    rw [List.singleton_append, tokensFrom, if_neg notLess, if_neg notAmpersand]
  all_goals rfl

/-- An escaped text is taken as the text. -/
theorem tokensFrom_escape
    (text : String)
    (run rest : List Char) :
    tokensFrom (.data run) (escape text ++ rest) =
      tokensFrom (.data (text.toList.reverse ++ run)) rest := by
  have each (characters : List Char) :
      tokensFrom (.data run) (characters.flatMap escapeCharacter ++ rest) =
        tokensFrom (.data (characters.reverse ++ run)) rest := by
    induction characters generalizing run with
    | nil => rfl
    | cons character others induction =>
        rw [List.flatMap_cons, List.append_assoc, tokensFrom_escapeCharacter, induction]
        simp
  exact each text.toList

/-- Character data ends where a tag begins. -/
theorem HasTokensBeforeTag.of_data
    {text characters : List Char}
    (taken : ∀ rest,
      tokensFrom (.data []) (text ++ rest) = tokensFrom (.data characters.reverse) rest) :
    HasTokensBeforeTag text (textTokens characters) := by
  intro rest
  have nothing : textTokens [] = [] := rfl
  rw [taken, tokensFrom, if_pos rfl, tokensFrom, if_pos rfl, List.reverse_reverse,
    List.reverse_nil, nothing, Option.map_map]
  rfl

/-- A text that has the tokens of some nodes is read as these nodes. -/
theorem nodes?_of_hasTokens
    {text : List Char}
    {nodes : List Node}
    (has : HasTokens text (nodeTokens nodes)) :
    nodes? text = some nodes := by
  have found : tokensFrom (.data []) text = some (nodeTokens nodes) := by
    have whole := has []
    rw [List.append_nil] at whole
    rw [whole]
    simp [tokensFrom, textTokens]
  have read := foldlM_nodeTokens [] nodes [] []
  rw [List.append_nil] at read
  simp [nodes?, found, read]

end GeoTables.Xml
