import GeoTables.Entries

/-!
# Trees of rows

A tree keeps rows in the order of their keys, one row for each key.  A row
whose table has a key is kept under the text of its key; any other row under a
serial number, which no other row has.  Serial numbers come before texts, and
texts are ordered by their code points, which is the order of their bytes.
-/

namespace GeoTables

/-- The key of a stored row. -/
inductive RowKey where
  | serial (number : Nat)
  | text (key : List Char)
  deriving DecidableEq, Repr

namespace RowKey

/-- The first key comes before the second. -/
def before : RowKey → RowKey → Bool
  | .serial left, .serial right => left < right
  | .serial _, .text _ => true
  | .text _, .serial _ => false
  | .text left, .text right => left < right

end RowKey

/-- Stored rows with their keys, in the order of the keys. -/
structure RowTree where
  entries : List (RowKey × List Char)

namespace RowTree

/-- The tree without rows. -/
def empty : RowTree := ⟨[]⟩

instance : Inhabited RowTree := ⟨empty⟩

/-- The number of rows. -/
def size (tree : RowTree) : Nat :=
  tree.entries.length

/-- The row of a key. -/
def get? (tree : RowTree) (key : RowKey) : Option (List Char) :=
  tree.entries.lookup key

/-- Put a row under a key, in place of any other row there. -/
def put (tree : RowTree) (key : RowKey) (row : List Char) : RowTree :=
  ⟨Entries.place RowKey.before key row tree.entries⟩

@[simp]
theorem get?_empty (key : RowKey) : empty.get? key = none := rfl

@[simp]
theorem get?_put
    (tree : RowTree)
    (key other : RowKey)
    (row : List Char) :
    (tree.put key row).get? other =
      if other = key then some row else tree.get? other := by
  simp [get?, put]

end RowTree

end GeoTables
