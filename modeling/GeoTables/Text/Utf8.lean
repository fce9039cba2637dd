/-!
# Decoding UTF-8

Octets are decoded one by one.  Between characters nothing is owed; after the
first octet of a longer character a number of octets is owed, the next of them
within bounds that exclude overlong forms, surrogates and code points beyond
the last.  An octet that does not continue what is owed ends it as a fault and
is looked at again as the first of a character.
-/

namespace GeoTables.Text

/-- What is owed of a character whose first octets were read. -/
structure OwedOctets where
  count : Nat
  low : Nat
  high : Nat
  value : Nat
  deriving DecidableEq, Repr

/-- The parts that the first octet of a character completes, and what is owed after it. -/
def firstOctet (octet : Nat) : List (Option Char) × Option OwedOctets :=
  if octet < 0x80 then
    ([some (Char.ofNat octet)], none)
  else if 0xC2 ≤ octet && octet ≤ 0xDF then
    ([], some ⟨1, 0x80, 0xBF, octet - 0xC0⟩)
  else if octet = 0xE0 then
    ([], some ⟨2, 0xA0, 0xBF, 0⟩)
  else if octet = 0xED then
    ([], some ⟨2, 0x80, 0x9F, 0xD⟩)
  else if 0xE1 ≤ octet && octet ≤ 0xEF then
    ([], some ⟨2, 0x80, 0xBF, octet - 0xE0⟩)
  else if octet = 0xF0 then
    ([], some ⟨3, 0x90, 0xBF, 0⟩)
  else if 0xF1 ≤ octet && octet ≤ 0xF3 then
    ([], some ⟨3, 0x80, 0xBF, octet - 0xF0⟩)
  else if octet = 0xF4 then
    ([], some ⟨3, 0x80, 0x8F, 4⟩)
  else
    ([none], none)

/-- The parts that an octet completes, and what is owed after it. -/
def nextOctet (owed : Option OwedOctets) (octet : Nat) : List (Option Char) × Option OwedOctets :=
  match owed with
  | none => firstOctet octet
  | some owed =>
      if owed.low ≤ octet && octet ≤ owed.high then
        let value := owed.value * 64 + (octet - 0x80)
        if owed.count = 1 then
          ([some (Char.ofNat value)], none)
        else
          ([], some ⟨owed.count - 1, 0x80, 0xBF, value⟩)
      else
        let (parts, owed) := firstOctet octet
        (none :: parts, owed)

/-- The characters of octets, with nothing in place of each fault. -/
def decodeParts (owed : Option OwedOctets) : List UInt8 → List (Option Char)
  | [] => if owed.isSome then [none] else []
  | octet :: rest =>
      let (parts, owed) := nextOctet owed octet.toNat
      parts ++ decodeParts owed rest

/-- The text of octets without faults. -/
def decodeUtf8? (octets : List UInt8) : Option (List Char) :=
  (decodeParts none octets).mapM id

/-- The text of octets, with the replacement character for each fault. -/
def decodeUtf8Lossy (octets : List UInt8) : List Char :=
  (decodeParts none octets).map fun part => part.getD '\uFFFD'

/-- The octets of a text. -/
def encodeUtf8 (characters : List Char) : List UInt8 :=
  characters.flatMap String.utf8EncodeChar

end GeoTables.Text
