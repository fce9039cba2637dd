import GeoTables.Json.Printing
import GeoTables.Proofs.Text.Utf8
import GeoTables.Service.Url

/-!
# Encoded segments

A segment of a path spells a text octet by octet: a character that may stand in a
segment stands for itself, and every octet may be escaped.  Each text is spelled so
by some segment, and a segment, alone or joined to others by slashes, is decoded to
what it spells.  A segment never has a slash in it, but what it spells may.
-/

namespace GeoTables

namespace Url

/-! ## Spelling octets -/

/-- The character may stand for itself in a segment. -/
def isPlain (character : Char) : Bool :=
  character.isAlphanum || "-._~!$&'()*+,;=:@".toList.contains character

/-- The characters of a segment spell octets. -/
inductive Spells : List Char → List UInt8 → Prop where
  | nil : Spells [] []
  | plain
      {character : Char}
      {encoded : List Char}
      {spelled : List UInt8}
      (plain : isPlain character = true)
      (rest : Spells encoded spelled) :
      Spells (character :: encoded) (String.utf8EncodeChar character ++ spelled)
  | escape
      {high low : Char}
      {octet : UInt8}
      {encoded : List Char}
      {spelled : List UInt8}
      (escaped : escaped? high low = some octet)
      (rest : Spells encoded spelled) :
      Spells ('%' :: high :: low :: encoded) (octet :: spelled)

variable {encoded : List Char} {spelled : List UInt8}

theorem ne_of_isPlain
    {character other : Char}
    (plain : isPlain character = true)
    (reserved : isPlain other = false) :
    character ≠ other := by
  rintro rfl
  rw [plain] at reserved
  cases reserved

theorem ne_slash_of_escaped?
    {high low : Char}
    {octet : UInt8}
    (escaped : escaped? high low = some octet) :
    high ≠ '/' ∧ low ≠ '/' := by
  have noDigit : Text.hexValue? '/' = none := by decide
  simp only [escaped?, Option.bind_eq_bind, Option.bind_eq_some_iff] at escaped
  obtain ⟨_, isHigh, _, isLow, _⟩ := escaped
  constructor
  · rintro rfl
    rw [noDigit] at isHigh
    cases isHigh
  · rintro rfl
    rw [noDigit] at isLow
    cases isLow

/-- No slash stands in a segment. -/
theorem Spells.slash_notMem (spells : Spells encoded spelled) : '/' ∉ encoded := by
  induction spells with
  | nil => exact List.not_mem_nil
  | plain plain _ induction =>
      exact List.not_mem_cons_of_ne_of_not_mem (ne_of_isPlain plain (by decide)).symm induction
  | escape escaped _ induction =>
      obtain ⟨high, low⟩ := ne_slash_of_escaped? escaped
      simp [high.symm, low.symm, induction]

theorem octets_cons
    {character : Char}
    (notPercent : character ≠ '%')
    (rest : List Char) :
    octets (character :: rest) = String.utf8EncodeChar character ++ octets rest := by
  rw [octets]
  exact fun _ _ _ isPercent => absurd isPercent notPercent

/-- A segment has the octets that it spells, whatever follows. -/
theorem Spells.octets_append
    (spells : Spells encoded spelled)
    (rest : List Char) :
    octets (encoded ++ rest) = spelled ++ octets rest := by
  induction spells with
  | nil => rfl
  | plain plain _ induction =>
      rw [List.cons_append, octets_cons (ne_of_isPlain plain (by decide)), induction,
        List.append_assoc]
  | escape escaped _ induction =>
      rw [List.cons_append, List.cons_append, List.cons_append, octets, escaped]
      dsimp only
      rw [induction, List.cons_append]

theorem Spells.octets_eq (spells : Spells encoded spelled) : octets encoded = spelled := by
  have whole : octets (encoded ++ []) = spelled ++ octets [] := spells.octets_append []
  rwa [octets, List.append_nil, List.append_nil] at whole

theorem Spells.append
    {others : List Char}
    {further : List UInt8}
    (spells : Spells encoded spelled)
    (spellOthers : Spells others further) :
    Spells (encoded ++ others) (spelled ++ further) := by
  induction spells with
  | nil => exact spellOthers
  | plain plain _ induction =>
      rw [List.append_assoc]
      exact .plain plain induction
  | escape escaped _ induction => exact .escape escaped induction

/-! ## Spelling texts -/

/-- A segment encodes a text: it spells the octets of the text. -/
def Encodes (segment : List Char) (text : String) : Prop :=
  Spells segment (Text.encodeUtf8 text.toList)

/-- An octet as an escape. -/
def escapeOctet (octet : UInt8) : List Char :=
  ['%', Json.hexDigit (octet.toNat / 16), Json.hexDigit (octet.toNat % 16)]

/-- A segment that encodes a text, with no more escapes than it needs. -/
def encodeSegment (text : String) : List Char :=
  text.toList.flatMap fun character =>
    if isPlain character then
      [character]
    else
      (String.utf8EncodeChar character).flatMap escapeOctet

theorem escaped?_hexDigit (octet : UInt8) :
    escaped? (Json.hexDigit (octet.toNat / 16)) (Json.hexDigit (octet.toNat % 16)) =
      some octet := by
  have digit : ∀ value < 16, Text.hexValue? (Json.hexDigit value) = some value := by decide
  have small : octet.toNat < 256 := octet.toNat_lt
  have whole : octet.toNat / 16 * 16 + octet.toNat % 16 = octet.toNat := Nat.div_add_mod' _ _
  rw [escaped?, digit _ (by omega), digit _ (by omega)]
  simp only [Option.bind_eq_bind, Option.bind_some, whole]
  exact congrArg some UInt8.ofNat_toNat

theorem spells_escapeOctets (octets : List UInt8) : Spells (octets.flatMap escapeOctet) octets := by
  induction octets with
  | nil => exact .nil
  | cons octet rest induction => exact .escape (escaped?_hexDigit octet) induction

/-- Every text is encoded by some segment. -/
theorem encodes_encodeSegment (text : String) : Encodes (encodeSegment text) text := by
  rw [Encodes, encodeSegment]
  induction text.toList with
  | nil => exact .nil
  | cons character rest induction =>
      rw [List.flatMap_cons]
      split_ifs with plain
      · exact .plain plain induction
      · exact (spells_escapeOctets _).append induction

/-- Segments joined by slashes have the octets of the texts joined by slashes. -/
theorem octets_intercalate
    {segments : List (List Char)}
    {texts : List String}
    (encode : List.Forall₂ Encodes segments texts) :
    octets (['/'].intercalate segments) =
      Text.encodeUtf8 (['/'].intercalate (texts.map String.toList)) := by
  induction encode with
  | nil => rfl
  | @cons segment text segments texts encodes rest induction =>
      cases rest with
      | nil => simpa using encodes.octets_eq
      | cons =>
          rw [List.intercalate_cons_cons, List.append_assoc, encodes.octets_append,
            List.singleton_append, octets_cons (by decide), induction]
          simp [Text.encodeUtf8, List.intercalate_cons_cons]

theorem decodeSegment?_intercalate
    {segments : List (List Char)}
    {texts : List String}
    (encode : List.Forall₂ Encodes segments texts) :
    decodeSegment? (['/'].intercalate segments) =
      some (['/'].intercalate (texts.map String.toList)) := by
  rw [decodeSegment?, octets_intercalate encode, Text.decodeUtf8?_encodeUtf8]

/-- A segment is decoded to the text that it encodes. -/
theorem Encodes.decodeSegment?_eq
    {segment : List Char}
    {text : String}
    (encodes : Encodes segment text) :
    decodeSegment? segment = some text.toList := by
  simpa using decodeSegment?_intercalate (.cons encodes .nil)

theorem Encodes.ne_nil
    {segment : List Char}
    {text : String}
    (encodes : Encodes segment text)
    (nonempty : text ≠ "") :
    segment ≠ [] := by
  rintro rfl
  have decoded : some [] = some text.toList := encodes.decodeSegment?_eq
  exact nonempty (String.toList_eq_nil_iff.mp (Option.some.inj decoded).symm)

theorem slash_notMem_of_encode
    {segments : List (List Char)}
    {texts : List String}
    (encode : List.Forall₂ Encodes segments texts) :
    ∀ segment ∈ segments, '/' ∉ segment := by
  induction encode with
  | nil => exact List.forall_mem_nil _
  | cons encodes _ induction =>
      exact List.forall_mem_cons.mpr ⟨Spells.slash_notMem encodes, induction⟩

end Url

end GeoTables
