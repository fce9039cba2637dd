/-!
# Entries

An entry gives a value to a key, and a key is looked up in a list of entries
from its front.  There are two ways to keep one entry for each key: in the order
in which the keys came, where a change leaves the entry in its place, and in an
order of the keys.  Either way a change is seen under its own key alone.
-/

namespace GeoTables.Entries

variable {Key Content : Type} [DecidableEq Key]

/-- Change the content of a key in its place; a key without content comes last. -/
def alter
    (key : Key)
    (change : Option Content → Content) :
    List (Key × Content) → List (Key × Content)
  | [] => [(key, change none)]
  | (other, kept) :: rest =>
      if other = key then
        (key, change (some kept)) :: rest
      else
        (other, kept) :: alter key change rest

/-- Put content under a key, before the first key that it precedes. -/
def place
    (before : Key → Key → Bool)
    (key : Key)
    (content : Content) :
    List (Key × Content) → List (Key × Content)
  | [] => [(key, content)]
  | (other, kept) :: rest =>
      if before key other then
        (key, content) :: (other, kept) :: rest
      else if other = key then
        (key, content) :: rest
      else
        (other, kept) :: place before key content rest

/-- The first entry answers for its key and for no other one. -/
theorem lookup_entry
    (key other : Key)
    (content : Content)
    (rest : List (Key × Content)) :
    ((key, content) :: rest).lookup other =
      if other = key then some content else rest.lookup other := by
  rw [List.lookup_cons]
  split <;> simp_all

@[simp]
theorem lookup_alter
    (key other : Key)
    (change : Option Content → Content)
    (entries : List (Key × Content)) :
    (alter key change entries).lookup other =
      if other = key then some (change (entries.lookup key)) else entries.lookup other := by
  induction entries with
  | nil => simp [alter, lookup_entry]
  | cons entry rest rested => grind [alter, lookup_entry]

@[simp]
theorem lookup_place
    (before : Key → Key → Bool)
    (key other : Key)
    (content : Content)
    (entries : List (Key × Content)) :
    (place before key content entries).lookup other =
      if other = key then some content else entries.lookup other := by
  induction entries with
  | nil => simp [place, lookup_entry]
  | cons entry rest rested => grind [place, lookup_entry]

/-- A key that is dropped has no content any more, and no other key changes. -/
@[simp]
theorem lookup_filter_ne
    (key other : Key)
    (entries : List (Key × Content)) :
    (entries.filter fun entry => entry.1 != key).lookup other =
      if other = key then none else entries.lookup other := by
  induction entries with
  | nil => simp
  | cons entry rest rested => grind [lookup_entry]

end GeoTables.Entries
