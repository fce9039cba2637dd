import GeoTables.Proofs.Store.Calls
import GeoTables.Proofs.Store.Tree

/-!
# Scans that are interrupted

A scan reads a tree row by row: each time the first row behind the key that it
read last.  Calls may be made between two reads, and a read may see the tree as
it was at any moment since the scan began, so that what is written meanwhile is
found or not.  A scan never finds a key twice, every row that it finds was held
under its key at some moment, and no key is missed that was there when the scan
began.  A scan that is not interrupted finds what is held.
-/

namespace GeoTables

namespace RowTree

/-- The rows behind a key, or all of them. -/
def behind (tree : RowTree) (last : Option RowKey) : List (RowKey × List Char) :=
  tree.entries.filter fun entry => last.all fun key => key.before entry.1

variable {tree : RowTree} {last : Option RowKey} {entry : RowKey × List Char}

theorem mem_behind_iff :
    entry ∈ tree.behind last ↔
      entry ∈ tree.entries ∧ ∀ key ∈ last, key.before entry.1 = true := by
  rw [behind, List.mem_filter]
  cases last <;> simp

theorem behind_none (tree : RowTree) : tree.behind none = tree.entries :=
  List.filter_eq_self.mpr fun _ _ => rfl

theorem isOrdered_behind
    (ordered : RowKey.IsOrdered tree.entries)
    (last : Option RowKey) :
    RowKey.IsOrdered (tree.behind last) :=
  List.Pairwise.sublist List.filter_sublist ordered

/-- Of the rows behind a key no other one is before the first. -/
theorem eq_or_before_of_head?
    {other : RowKey × List Char}
    (ordered : RowKey.IsOrdered tree.entries)
    (first : (tree.behind last).head? = some entry)
    (member : other ∈ tree.behind last) :
    other = entry ∨ entry.1.before other.1 = true := by
  obtain ⟨rest, split⟩ := List.head?_eq_some_iff.mp first
  have orderedRows := isOrdered_behind ordered last
  rw [split] at orderedRows member
  exact (List.mem_cons.mp member).imp_right fun later =>
    (List.pairwise_cons.mp orderedRows).1 other later

/-- Behind the first of the rows are the others. -/
theorem behind_eq_cons
    (ordered : RowKey.IsOrdered tree.entries)
    (first : (tree.behind last).head? = some entry) :
    tree.behind last = entry :: tree.behind (some entry.1) := by
  obtain ⟨rest, split⟩ := List.head?_eq_some_iff.mp first
  have orderedRows := isOrdered_behind ordered last
  rw [split] at orderedRows
  have isFirst : entry ∈ tree.behind last := split ▸ List.mem_cons_self
  have isLast : tree.behind (some entry.1) = (tree.behind last).filter fun other =>
      entry.1.before other.1 := by
    rw [behind, behind, List.filter_filter]
    refine List.filter_congr fun other _ => ?_
    rw [Option.all_some, Bool.eq_iff_iff, Bool.and_eq_true, Option.all_eq_true]
    refine ⟨fun later => ⟨later, fun key isKey => ?_⟩, And.left⟩
    exact RowKey.before_trans ((mem_behind_iff.mp isFirst).2 key isKey) later
  have irreflexive : ¬entry.1.before entry.1 = true := fun early =>
    RowKey.ne_of_before early rfl
  have others : (rest.filter fun other => entry.1.before other.1) = rest :=
    List.filter_eq_self.mpr (List.pairwise_cons.mp orderedRows).1
  rw [isLast, split, List.filter_cons, if_neg irreflexive, others]

end RowTree

namespace RowStore

/-! ## What calls do to a tree -/

/-- All trees are in the order of their keys. -/
def IsOrdered (store : RowStore) : Prop :=
  ∀ name, RowKey.IsOrdered (store.tree name).entries

/-- The keys of the rows in the tree of a name. -/
def keys (store : RowStore) (name : String) : List RowKey :=
  (store.tree name).entries.map Prod.fst

theorem isOrdered_empty : IsOrdered .empty := fun _ => .nil

theorem IsOrdered.call
    {store : RowStore}
    (ordered : store.IsOrdered)
    (call : Call) :
    (store.call call).IsOrdered := by
  intro name
  cases accepted : call.record with
  | error failure =>
      rw [call_of_refused (Call.outcome_eq_error_iff.mpr accepted)]
      exact ordered name
  | ok record =>
      by_cases same : call.table.qualifiedName = name
      · rw [← same, tree_call_of_accepted accepted]
        exact RowKey.IsOrdered.place (ordered _) _ _
      · rw [tree_call_of_ne same]
        exact ordered name

/-- A run of calls keeps the trees in order. -/
theorem isOrdered_run
    {store : RowStore}
    (ordered : store.IsOrdered)
    (calls : List Call) :
    (run store calls).IsOrdered :=
  List.foldlRecOn calls _ ordered fun _ ordered call _ => ordered.call call

/-- No call removes a key. -/
theorem keys_subset_call
    (store : RowStore)
    (call : Call)
    (name : String) :
    store.keys name ⊆ (store.call call).keys name := by
  intro key
  cases accepted : call.record with
  | error failure =>
      rw [call_of_refused (Call.outcome_eq_error_iff.mpr accepted)]
      exact id
  | ok record =>
      by_cases same : call.table.qualifiedName = name
      · rw [keys, keys, ← same, tree_call_of_accepted accepted, RowTree.put, ← not_imp_not,
          ← Entries.lookup_eq_none_iff, ← Entries.lookup_eq_none_iff, Entries.lookup_place]
        split_ifs <;> simp
      · rw [keys, keys, tree_call_of_ne same]
        exact id

/-! ## Scans -/

/--
A scan of the tree of a name finds rows behind the key that it read last, while
calls are made to a store; it began when the store was the last of those of the
past, and each read sees one of them or the store as it is.
-/
inductive Finds (name : String) :
    RowStore → List RowStore → Option RowKey → List Call → List (RowKey × List Char) → Prop where
  | done
      {store seen : RowStore}
      {past : List RowStore}
      {last : Option RowKey}
      (sees : seen ∈ store :: past)
      (ends : (seen.tree name).behind last = []) :
      Finds name store past last [] []
  | read
      {store seen : RowStore}
      {past : List RowStore}
      {last : Option RowKey}
      {calls : List Call}
      {entry : RowKey × List Char}
      {found : List (RowKey × List Char)}
      (sees : seen ∈ store :: past)
      (first : ((seen.tree name).behind last).head? = some entry)
      (further : Finds name store past (some entry.1) calls found) :
      Finds name store past last calls (entry :: found)
  | call
      {store : RowStore}
      {past : List RowStore}
      {last : Option RowKey}
      {calls : List Call}
      {found : List (RowKey × List Char)}
      (call : Call)
      (further : Finds name (store.call call) (store :: past) last calls found) :
      Finds name store past last (call :: calls) found

section

variable
  {name : String}
  {store : RowStore}
  {past : List RowStore}
  {last : Option RowKey}
  {calls : List Call}
  {found : List (RowKey × List Char)}

/-- The rows are found in the order of their keys, behind the key that was read last. -/
theorem Finds.isOrdered
    (finds : Finds name store past last calls found) :
    RowKey.IsOrdered found ∧
      ∀ entry ∈ found, ∀ key ∈ last, key.before entry.1 = true := by
  induction finds with
  | done => exact ⟨.nil, nofun⟩
  | call _ _ induction => exact induction
  | read _ first _ induction =>
      obtain ⟨ordered, later⟩ := induction
      have early := (RowTree.mem_behind_iff.mp (List.mem_of_head? first)).2
      refine ⟨List.pairwise_cons.mpr ⟨fun other member => later other member _ rfl, ordered⟩, ?_⟩
      refine List.forall_mem_cons.mpr ⟨early, fun other member key isKey => ?_⟩
      exact RowKey.before_trans (early key isKey) (later other member _ rfl)

/-- Every row that is found was held at some moment. -/
theorem Finds.wasHeld
    (finds : Finds name store past last calls found) :
    ∀ entry ∈ found,
      (∃ seen ∈ past, entry ∈ (seen.tree name).entries) ∨
        ∃ earlier later,
          calls = earlier ++ later ∧ entry ∈ ((run store earlier).tree name).entries := by
  induction finds with
  | done => exact nofun
  | call call _ induction =>
      intro entry member
      rcases induction entry member with ⟨seen, isPast, isHeld⟩ | ⟨earlier, later, rfl, isHeld⟩
      · rcases List.mem_cons.mp isPast with rfl | isPast
        · exact .inr ⟨[], _, rfl, isHeld⟩
        · exact .inl ⟨seen, isPast, isHeld⟩
      · exact .inr ⟨call :: earlier, later, rfl, isHeld⟩
  | read sees first _ induction =>
      refine List.forall_mem_cons.mpr ⟨?_, induction⟩
      have isHeld := (RowTree.mem_behind_iff.mp (List.mem_of_head? first)).1
      rcases List.mem_cons.mp sees with rfl | isPast
      · exact .inr ⟨[], _, rfl, isHeld⟩
      · exact .inl ⟨_, isPast, isHeld⟩

/-- A key that was there at every moment is found, unless it was read before. -/
theorem Finds.mem_keys
    {key : RowKey}
    (finds : Finds name store past last calls found)
    (ordered : ∀ seen ∈ store :: past, seen.IsOrdered)
    (present : ∀ seen ∈ store :: past, key ∈ seen.keys name)
    (isBehind : ∀ other ∈ last, other.before key = true) :
    key ∈ found.map Prod.fst := by
  induction finds with
  | done sees ends =>
      obtain ⟨entry, isHeld, rfl⟩ := List.mem_map.mp (present _ sees)
      have member := RowTree.mem_behind_iff.mpr ⟨isHeld, isBehind⟩
      rw [ends] at member
      cases member
  | call call further induction =>
      refine induction ?_ ?_ isBehind
      · exact List.forall_mem_cons.mpr ⟨(ordered _ List.mem_cons_self).call call, ordered⟩
      · exact List.forall_mem_cons.mpr
          ⟨keys_subset_call _ call name (present _ List.mem_cons_self), present⟩
  | read sees first _ induction =>
      obtain ⟨entry, isHeld, rfl⟩ := List.mem_map.mp (present _ sees)
      have member := RowTree.mem_behind_iff.mpr ⟨isHeld, isBehind⟩
      rcases RowTree.eq_or_before_of_head? (ordered _ sees name) first member with rfl | later
      · exact List.mem_cons_self
      · refine List.mem_cons_of_mem _ (induction ordered present fun other isOther => ?_)
        obtain rfl := Option.some.inj isOther
        exact later

/-- A scan that is not interrupted finds the rows that are held. -/
theorem Finds.eq_behind
    (finds : Finds name store past last calls found)
    (ordered : store.IsOrdered)
    (alone : past = [])
    (undisturbed : calls = []) :
    found = (store.tree name).behind last := by
  induction finds with
  | call => cases undisturbed
  | done sees ends =>
      subst alone
      obtain rfl := List.mem_singleton.mp sees
      exact ends.symm
  | read sees first _ induction =>
      subst alone
      obtain rfl := List.mem_singleton.mp sees
      rw [RowTree.behind_eq_cons (ordered name) first, induction ordered rfl undisturbed]

/-- Whatever calls are made, a scan ends if no more of them come. -/
theorem exists_finds
    (ordered : store.IsOrdered)
    (name : String)
    (past : List RowStore)
    (last : Option RowKey)
    (calls : List Call) :
    ∃ found, Finds name store past last calls found := by
  induction calls generalizing store past with
  | cons call calls induction =>
      obtain ⟨found, finds⟩ := induction (ordered.call call) (store :: past)
      exact ⟨found, .call call finds⟩
  | nil =>
      generalize isCount : ((store.tree name).behind last).length = count
      induction count generalizing last with
      | zero => exact ⟨[], .done List.mem_cons_self (List.length_eq_zero_iff.mp isCount)⟩
      | succ count induction =>
          obtain ⟨entry, rest, split⟩ := List.exists_cons_of_length_eq_add_one isCount
          have first : ((store.tree name).behind last).head? = some entry := by rw [split]; rfl
          have others := RowTree.behind_eq_cons (ordered name) first
          rw [others, List.length_cons, Nat.succ_inj] at isCount
          obtain ⟨found, finds⟩ := induction (some entry.1) isCount
          exact ⟨_, .read List.mem_cons_self first finds⟩

end

/-! ## What is certain of a scan -/

/-- What is certain of the rows that a scan finds for a table while calls are made. -/
structure IsConsistentPerKey
    (store : RowStore)
    (table : Table)
    (calls : List Call)
    (found : List (RowKey × List Char)) : Prop where
  ascending : found.Pairwise fun left right => left.1.before right.1 = true
  wasHeld :
    ∀ entry ∈ found, ∃ earlier later,
      calls = earlier ++ later ∧
        ((run store earlier).tree table.qualifiedName).get? entry.1 = some entry.2
  complete :
    ∀ entry ∈ (store.tree table.qualifiedName).entries, entry.1 ∈ found.map Prod.fst
  undisturbed :
    calls = [] → store.scan table = found.mapM fun entry => storedRecord table entry.2

/-- A scan that begins in order is consistent for each key. -/
theorem Finds.isConsistentPerKey
    {store : RowStore}
    {table : Table}
    {calls : List Call}
    {found : List (RowKey × List Char)}
    (finds : Finds table.qualifiedName store [] none calls found)
    (ordered : store.IsOrdered) :
    IsConsistentPerKey store table calls found where
  ascending := finds.isOrdered.1
  wasHeld entry member := by
    rcases finds.wasHeld entry member with ⟨_, none, _⟩ | ⟨earlier, later, split, isHeld⟩
    · cases none
    · exact ⟨earlier, later, split, (isOrdered_run ordered earlier _).mem_iff.mp isHeld⟩
  complete entry isHeld :=
    finds.mem_keys (List.forall_mem_singleton.mpr ordered)
      (List.forall_mem_singleton.mpr (List.mem_map_of_mem isHeld)) nofun
  undisturbed none := by
    rw [finds.eq_behind ordered rfl none, RowTree.behind_none]
    rfl

end RowStore

end GeoTables
