import GeoTables.Proofs.Store.Keys

/-!
# Contents that are placed one after the other

Contents that are placed under the keys of rows, into an order that is strict,
are in a strict order again.  Each is found under its key exactly if no other one
was placed there after it, so that the last one placed under a key is the one
that is found, and there is one for each key.
-/

namespace GeoTables

namespace RowKey

variable {Content Other : Type}

/-- The entries are in the strict order of their keys. -/
def IsOrdered (entries : List (RowKey × Content)) : Prop :=
  entries.Pairwise fun left right => left.1.before right.1 = true

/-- Place contents under their keys, one after the other. -/
def placeAll (kept given : List (RowKey × Content)) : List (RowKey × Content) :=
  given.foldl (fun reached entry => Entries.place before entry.1 entry.2 reached) kept

variable {key : RowKey} {content : Content} {kept given : List (RowKey × Content)}

theorem IsOrdered.place
    (ordered : IsOrdered kept)
    (key : RowKey)
    (content : Content) :
    IsOrdered (Entries.place before key content kept) := by
  apply Entries.pairwise_place
  · exact fun _ _ _ => before_trans
  · exact before_total
  · exact ordered

theorem IsOrdered.placeAll
    (ordered : IsOrdered kept)
    (given : List (RowKey × Content)) :
    IsOrdered (placeAll kept given) :=
  List.foldlRecOn given _ ordered fun _ ordered entry _ => ordered.place entry.1 entry.2

/-- Members that stand in the order of their keys have no other order. -/
theorem eq_of_perm
    {Member : Type}
    {keyOf : Member → RowKey}
    {left right : List Member}
    (perm : left.Perm right)
    (leftOrdered : left.Pairwise fun first second => (keyOf first).before (keyOf second) = true)
    (rightOrdered :
      right.Pairwise fun first second => (keyOf first).before (keyOf second) = true) :
    left = right :=
  perm.eq_of_pairwise (fun _ _ _ _ early late => absurd rfl (ne_of_before (before_trans early late)))
    leftOrdered rightOrdered

theorem IsOrdered.nodup (ordered : IsOrdered kept) : (kept.map Prod.fst).Nodup :=
  List.pairwise_map.mpr (ordered.imp ne_of_before)

/-- Content is an entry of an order exactly if it is found under its key. -/
theorem IsOrdered.mem_iff
    (ordered : IsOrdered kept) :
    (key, content) ∈ kept ↔ kept.lookup key = some content :=
  ⟨fun member => Entries.lookup_of_mem ordered.nodup member, Entries.mem_of_lookup⟩

/-- The content that was placed last under a key is found there. -/
theorem lookup_placeAll
    (kept given : List (RowKey × Content))
    (key : RowKey) :
    (placeAll kept given).lookup key = (given.reverse.lookup key).or (kept.lookup key) := by
  induction given generalizing kept with
  | nil => rfl
  | cons first rest induction =>
      change (placeAll (Entries.place before first.1 first.2 kept) rest).lookup key = _
      rw [induction, Entries.lookup_place, List.reverse_cons, List.lookup_append, Option.or_assoc,
        Entries.lookup_entry]
      congr 1
      split_ifs <;> rfl

/-- Content is found exactly if no other one was placed under its key after it. -/
theorem lookup_placeAll_nil_eq_some_iff :
    (placeAll [] given).lookup key = some content ↔
      ∃ earlier later,
        given = earlier ++ (key, content) :: later ∧ key ∉ later.map Prod.fst := by
  rw [lookup_placeAll, List.lookup_nil, Option.or_none]
  constructor
  · intro found
    obtain ⟨later, earlier, split, others⟩ := List.lookup_eq_some_iff.mp found
    refine ⟨earlier.reverse, later.reverse, ?_, ?_⟩
    · rw [← List.reverse_reverse given, split, List.reverse_append, List.reverse_cons,
        List.append_assoc, List.singleton_append]
    · rw [← Entries.lookup_eq_none_iff, List.lookup_eq_none_iff]
      exact fun other member => others other (List.mem_reverse.mp member)
  · rintro ⟨earlier, later, rfl, last⟩
    rw [List.reverse_append, List.reverse_cons, List.append_assoc, List.lookup_append,
      Entries.lookup_eq_none_iff.mpr, Option.none_or, List.singleton_append,
      Entries.lookup_entry, if_pos rfl]
    rwa [List.map_reverse, List.mem_reverse]

/-- The entries are the contents after which no other one was placed under their key. -/
theorem mem_placeAll_nil_iff :
    (key, content) ∈ placeAll [] given ↔
      ∃ earlier later,
        given = earlier ++ (key, content) :: later ∧ key ∉ later.map Prod.fst := by
  have ordered : IsOrdered (placeAll [] given) := IsOrdered.placeAll .nil given
  rw [ordered.mem_iff, lookup_placeAll_nil_eq_some_iff]

/-- There are entries for the keys that are given and no other ones. -/
theorem mem_keys_placeAll_nil_iff :
    key ∈ (placeAll [] given).map Prod.fst ↔ key ∈ given.map Prod.fst := by
  have unfound : (placeAll [] given).lookup key = none ↔ given.reverse.lookup key = none := by
    rw [lookup_placeAll, List.lookup_nil, Option.or_none]
  rw [Entries.lookup_eq_none_iff, Entries.lookup_eq_none_iff, not_iff_not, List.map_reverse,
    List.mem_reverse] at unfound
  exact unfound

/-- There is one entry for each key. -/
theorem length_placeAll_nil :
    (placeAll [] given).length = (given.map Prod.fst).toFinset.card := by
  have ordered : IsOrdered (placeAll [] given) := IsOrdered.placeAll .nil given
  have keys :
      ((placeAll [] given).map Prod.fst).toFinset = (given.map Prod.fst).toFinset := by
    ext key
    rw [List.mem_toFinset, List.mem_toFinset, mem_keys_placeAll_nil_iff]
  rw [← keys, List.toFinset_card_of_nodup ordered.nodup, List.length_map]

/-- Contents that are placed under distinct keys are all kept. -/
theorem placeAll_nil_perm
    (distinct : (given.map Prod.fst).Nodup) :
    (placeAll [] given).Perm given := by
  have ordered : IsOrdered (placeAll [] given) := IsOrdered.placeAll .nil given
  apply (List.perm_ext_iff_of_nodup ordered.nodup.of_map distinct.of_map).mpr
  rintro ⟨key, content⟩
  rw [mem_placeAll_nil_iff]
  constructor
  · rintro ⟨earlier, later, rfl, _⟩
    exact List.mem_append_right earlier List.mem_cons_self
  · intro member
    obtain ⟨earlier, later, rfl⟩ := List.append_of_mem member
    rw [List.map_append, List.map_cons] at distinct
    exact ⟨earlier, later, rfl, (List.nodup_cons.mp distinct.of_append_right).1⟩

/-- Contents may be changed before they are placed or after. -/
theorem map_placeAll
    (change : Content → Other)
    (kept given : List (RowKey × Content)) :
    (placeAll kept given).map (Prod.map id change) =
      placeAll (kept.map (Prod.map id change)) (given.map (Prod.map id change)) := by
  induction given generalizing kept with
  | nil => rfl
  | cons first rest induction =>
      change (placeAll (Entries.place before first.1 first.2 kept) rest).map _ = _
      rw [induction, Entries.map_place]
      rfl

end RowKey

end GeoTables
