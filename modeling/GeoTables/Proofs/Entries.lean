import GeoTables.Entries
import Mathlib.Data.List.Nodup

/-!
# Entries with distinct keys

If no key is given twice, entries are found under their keys, no matter in
which order they were put.  A change of all contents commutes with putting
them, and a change of one content keeps the keys distinct.
-/

namespace GeoTables.Entries

variable {Key Content Other : Type} [DecidableEq Key]

/-- An entry is found under its key. -/
theorem lookup_of_mem
    {entries : List (Key × Content)}
    (nodup : (entries.map Prod.fst).Nodup)
    {entry : Key × Content}
    (member : entry ∈ entries) :
    entries.lookup entry.1 = some entry.2 := by
  induction entries with
  | nil => cases member
  | cons first rest induction =>
      rw [List.map_cons, List.nodup_cons] at nodup
      rw [lookup_entry]
      rcases List.mem_cons.mp member with rfl | later
      · exact if_pos rfl
      · have different : entry.1 ≠ first.1 := by
          intro same
          exact nodup.1 (same ▸ List.mem_map_of_mem later)
        rw [if_neg different]
        exact induction nodup.2 later

theorem lookup_eq_none_iff
    {entries : List (Key × Content)}
    {key : Key} :
    entries.lookup key = none ↔ key ∉ entries.map Prod.fst := by
  rw [List.lookup_eq_none_iff, List.mem_map]
  constructor
  · rintro absent ⟨entry, member, rfl⟩
    have different := absent entry member
    simp at different
  · intro absent entry member
    rw [bne_iff_ne]
    rintro rfl
    exact absent ⟨entry, member, rfl⟩

/-- An entry that is found is one of the entries. -/
theorem mem_of_lookup
    {entries : List (Key × Content)}
    {key : Key}
    {content : Content}
    (found : entries.lookup key = some content) :
    (key, content) ∈ entries := by
  obtain ⟨before, after, split, _⟩ := List.lookup_eq_some_iff.mp found
  rw [split]
  exact List.mem_append_right before List.mem_cons_self

/-- Contents may be changed before a key is looked up or after. -/
theorem lookup_map
    (change : Content → Other)
    (key : Key)
    (entries : List (Key × Content)) :
    (entries.map (Prod.map id change)).lookup key = (entries.lookup key).map change := by
  induction entries with
  | nil => rfl
  | cons first rest induction =>
      obtain ⟨other, kept⟩ := first
      rw [List.map_cons, Prod.map_apply, id, lookup_entry, lookup_entry, induction]
      split_ifs <;> rfl

/-- Of entries that are set one after the other, each is seen under its key. -/
theorem view_foldl
    {State : Type}
    {view : State → Key → Option Content}
    {set : State → Key → Content → State}
    (law : ∀ state key content other,
      view (set state key content) other =
        if other = key then some content else view state other)
    {given : List (Key × Content)}
    (nodup : (given.map Prod.fst).Nodup)
    (state : State)
    (other : Key) :
    view (given.foldl (fun reached entry => set reached entry.1 entry.2) state) other =
      (given.lookup other).or (view state other) := by
  induction given generalizing state with
  | nil => rfl
  | cons first rest induction =>
      rw [List.map_cons, List.nodup_cons] at nodup
      rw [List.foldl_cons, induction nodup.2, law, lookup_entry]
      split_ifs with same
      · rw [lookup_eq_none_iff.mpr (same ▸ nodup.1), Option.none_or, Option.some_or]
      · rfl

section

variable {key : Key} {change : Option Content → Content} {entries : List (Key × Content)}

/-- Changing the content of a key adds no key but this one. -/
theorem map_fst_alter :
    (alter key change entries).map Prod.fst =
      if key ∈ entries.map Prod.fst then
        entries.map Prod.fst
      else
        entries.map Prod.fst ++ [key] := by
  induction entries with
  | nil => rfl
  | cons first rest induction =>
      obtain ⟨other, kept⟩ := first
      unfold alter
      by_cases same : other = key
      · simp [same]
      · simp only [if_neg same, List.map_cons, induction, List.mem_cons, Ne.symm same, false_or]
        split_ifs <;> rfl

/-- Keys stay distinct. -/
theorem nodup_alter
    (nodup : (entries.map Prod.fst).Nodup) :
    ((alter key change entries).map Prod.fst).Nodup := by
  rw [map_fst_alter]
  split_ifs with present
  · exact nodup
  · refine List.nodup_append.mpr ⟨nodup, List.nodup_singleton key, ?_⟩
    rintro other member _ (_ | ⟨_, ⟨⟩⟩) rfl
    exact present member

/-- An entry with a new content is the changed one or was there before. -/
theorem mem_of_mem_alter
    {content : Content}
    {entry : Key × Content}
    (member : entry ∈ alter key (fun _ => content) entries) :
    entry = (key, content) ∨ entry ∈ entries := by
  induction entries with
  | nil => simpa [alter] using member
  | cons first rest induction =>
      unfold alter at member
      grind

end

/-- Nothing is changed but what was there. -/
theorem alter_eq_alter_lookup
    (key : Key)
    (change : Option Content → Content)
    (entries : List (Key × Content)) :
    alter key change entries = alter key (fun _ => change (entries.lookup key)) entries := by
  induction entries with
  | nil => rfl
  | cons first rest induction =>
      obtain ⟨other, kept⟩ := first
      by_cases same : other = key
      · simp [alter, same]
      · simp [alter, same, lookup_entry, Ne.symm same, ← induction]

/-- Contents may be changed before an entry is changed or after. -/
theorem map_alter
    (change : Content → Other)
    (key : Key)
    (content : Content)
    (entries : List (Key × Content)) :
    (alter key (fun _ => content) entries).map (Prod.map id change) =
      alter key (fun _ => change content) (entries.map (Prod.map id change)) := by
  induction entries with
  | nil => rfl
  | cons first rest induction =>
      obtain ⟨other, kept⟩ := first
      by_cases same : other = key <;> simp [alter, same, induction]

/-- With a change one content comes and the one that was found goes. -/
theorem count_alter
    [DecidableEq Content]
    (key : Key)
    (content other : Content)
    (entries : List (Key × Content)) :
    ((alter key (fun _ => content) entries).map Prod.snd).count other +
        (if entries.lookup key = some other then 1 else 0) =
      (entries.map Prod.snd).count other + if content = other then 1 else 0 := by
  induction entries with
  | nil => simp [alter, List.count_cons]
  | cons first rest induction =>
      obtain ⟨name, kept⟩ := first
      by_cases same : name = key
      · simp [alter, same, List.count_cons]
        omega
      · simp [alter, same, lookup_entry, Ne.symm same, List.count_cons]
        omega

section

variable {before : Key → Key → Bool} {key : Key} {content : Content}

theorem mem_of_mem_place
    {entries : List (Key × Content)}
    {entry : Key × Content}
    (member : entry ∈ place before key content entries) :
    entry = (key, content) ∨ entry ∈ entries := by
  induction entries with
  | nil => simpa [place] using member
  | cons first rest induction =>
      unfold place at member
      grind

/-- Entries in a strict order of their keys stay in it. -/
theorem pairwise_place
    (transitive : ∀ first second third : Key,
      before first second = true → before second third = true → before first third = true)
    (total : ∀ first second : Key,
      before first second = true ∨ first = second ∨ before second first = true)
    {entries : List (Key × Content)}
    (ordered : entries.Pairwise fun left right => before left.1 right.1 = true) :
    (place before key content entries).Pairwise
      fun left right => before left.1 right.1 = true := by
  induction entries with
  | nil => exact List.pairwise_singleton _ _
  | cons first rest induction =>
      obtain ⟨other, kept⟩ := first
      obtain ⟨least, others⟩ := List.pairwise_cons.mp ordered
      unfold place
      split_ifs with earlier same
      · refine List.pairwise_cons.mpr ⟨?_, ordered⟩
        rintro entry (_ | ⟨_, later⟩)
        · exact earlier
        · exact transitive _ _ _ earlier (least entry later)
      · subst same
        exact List.pairwise_cons.mpr ⟨least, others⟩
      · refine List.pairwise_cons.mpr ⟨?_, induction others⟩
        intro entry member
        rcases mem_of_mem_place member with rfl | later
        · have later := (total key other).resolve_left earlier
          exact later.resolve_left (Ne.symm same)
        · exact least entry later

theorem place_ne_nil
    (entries : List (Key × Content)) :
    place before key content entries ≠ [] := by
  cases entries with
  | nil => exact List.cons_ne_nil _ _
  | cons first rest =>
      unfold place
      split_ifs <;> exact List.cons_ne_nil _ _

/-- An entry with another key comes before or after the only other one. -/
theorem place_singleton
    (before : Key → Key → Bool)
    {key other : Key}
    (content kept : Content)
    (different : other ≠ key) :
    place before key content [(other, kept)] = [(key, content), (other, kept)] ∨
      place before key content [(other, kept)] = [(other, kept), (key, content)] := by
  unfold place
  split_ifs
  · exact .inl rfl
  · exact .inr rfl

/-- Contents may be changed before an entry is placed or after. -/
theorem map_place
    (change : Content → Other)
    (entries : List (Key × Content)) :
    (place before key content entries).map (Prod.map id change) =
      place before key (change content) (entries.map (Prod.map id change)) := by
  induction entries with
  | nil => rfl
  | cons first rest induction =>
      obtain ⟨other, kept⟩ := first
      simp only [place, List.map_cons, Prod.map_apply, id]
      split_ifs <;> simp [induction]

end

end GeoTables.Entries
