import Mathlib

/-!
# Grouping by a key

Items are filed one by one under their keys, in a dictionary which keeps the order in which its keys
were first used.  The result is the partition of the items by their keys: every group holds the
items of its key in their order, and the groups are in the order of their first items.
-/

namespace Souk.Grouping

variable {Key Item : Type*} [DecidableEq Key]

/-- File an item at the end of the group of its key; a new key opens a group after the others. -/
def file : List (Key × List Item) → Key → Item → List (Key × List Item)
  | [], key, item => [(key, [item])]
  | (other, members) :: rest, key, item =>
      if other = key then (other, members ++ [item]) :: rest
      else (other, members) :: file rest key item

/-- All items, filed in their order. -/
def groupBy (keyOf : Item → Key) (items : List Item) : List (Key × List Item) :=
  items.foldl (fun groups item => file groups (keyOf item) item) []

/-- The position of the first item of a key, or the number of items. -/
def firstAt (keyOf : Item → Key) (items : List Item) (key : Key) : Nat :=
  items.findIdx fun item => keyOf item = key

/-- Some groups are the partition of some items by their keys. -/
structure IsGrouping (keyOf : Item → Key) (items : List Item) (groups : List (Key × List Item)) :
    Prop where
  mem_keys : ∀ key, key ∈ groups.map Prod.fst ↔ key ∈ items.map keyOf
  members : ∀ group ∈ groups, group.2 = items.filter fun item => keyOf item = group.1
  perm : (groups.flatMap Prod.snd).Perm items
  ordered : (groups.map Prod.fst).Pairwise fun key later =>
    firstAt keyOf items key < firstAt keyOf items later

section First

variable {keyOf : Item → Key} {items : List Item} {key : Key}

theorem firstAt_lt_length (known : key ∈ items.map keyOf) :
    firstAt keyOf items key < items.length := by
  obtain ⟨item, member, same⟩ := List.mem_map.mp known
  exact List.findIdx_lt_length_of_exists ⟨item, member, decide_eq_true same⟩

/-- A known key keeps its first position when an item is added. -/
theorem firstAt_append_of_mem (known : key ∈ items.map keyOf) (item : Item) :
    firstAt keyOf (items ++ [item]) key = firstAt keyOf items key := by
  rw [firstAt, List.findIdx_append]
  exact if_pos (firstAt_lt_length known)

theorem length_le_firstAt (unlisted : key ∉ items.map keyOf) (item : Item) :
    items.length ≤ firstAt keyOf (items ++ [item]) key := by
  have missed : ¬firstAt keyOf items key < items.length := by
    intro found
    obtain ⟨other, member, same⟩ := List.findIdx_lt_length.mp found
    exact unlisted (List.mem_map.mpr ⟨other, member, of_decide_eq_true same⟩)
  rw [firstAt, List.findIdx_append]
  refine le_of_le_of_eq ?_ (if_neg missed).symm
  exact Nat.le_add_left _ _

end First

section File

variable {groups : List (Key × List Item)} {key : Key} {item : Item}

theorem file_of_notMem (new : key ∉ groups.map Prod.fst) :
    file groups key item = groups ++ [(key, [item])] := by
  induction groups with
  | nil => rfl
  | cons group rest induction =>
      rw [List.map_cons, List.mem_cons, not_or] at new
      obtain ⟨differ, new⟩ := new
      rw [file, if_neg fun same => differ same.symm, induction new, List.cons_append]

/-- A known key keeps its group where it is. -/
theorem map_fst_file_of_mem (known : key ∈ groups.map Prod.fst) :
    (file groups key item).map Prod.fst = groups.map Prod.fst := by
  induction groups with
  | nil => cases known
  | cons group rest induction =>
      obtain ⟨other, members⟩ := group
      rw [file]
      split
      · rfl
      · rename_i differ
        have later : key ∈ rest.map Prod.fst :=
          (List.mem_cons.mp known).resolve_left fun same => differ same.symm
        rw [List.map_cons, List.map_cons, induction later]

/-- The items of the groups are those from before and the new one. -/
theorem flatMap_file_perm :
    ((file groups key item).flatMap Prod.snd).Perm (groups.flatMap Prod.snd ++ [item]) := by
  induction groups with
  | nil => exact .refl _
  | cons group rest induction =>
      obtain ⟨other, members⟩ := group
      rw [file]
      split
      · rw [List.flatMap_cons, List.flatMap_cons, List.append_assoc, List.append_assoc]
        exact .append_left members List.perm_append_comm
      · rw [List.flatMap_cons, List.flatMap_cons, List.append_assoc]
        exact .append_left members induction

/-- A group after filing is one of another key from before, or that of the key with the item at its
end. -/
theorem of_mem_file {group : Key × List Item} (nodup : (groups.map Prod.fst).Nodup)
    (known : key ∈ groups.map Prod.fst) (member : group ∈ file groups key item) :
    group.1 ≠ key ∧ group ∈ groups ∨
      ∃ members, (key, members) ∈ groups ∧ group = (key, members ++ [item]) := by
  induction groups with
  | nil => cases known
  | cons first rest induction =>
      obtain ⟨other, members⟩ := first
      rw [List.map_cons, List.nodup_cons] at nodup
      rw [file] at member
      split at member
      · rename_i same
        subst same
        rcases List.mem_cons.mp member with rfl | later
        · exact .inr ⟨members, List.mem_cons_self, rfl⟩
        · refine .inl ⟨fun same => ?_, List.mem_cons_of_mem _ later⟩
          exact nodup.1 (List.mem_map.mpr ⟨group, later, same⟩)
      · rename_i differ
        have later : key ∈ rest.map Prod.fst :=
          (List.mem_cons.mp known).resolve_left fun same => differ same.symm
        rcases List.mem_cons.mp member with rfl | filed
        · exact .inl ⟨differ, List.mem_cons_self⟩
        · rcases induction nodup.2 later filed with ⟨differs, old⟩ | ⟨found, old, same⟩
          · exact .inl ⟨differs, List.mem_cons_of_mem _ old⟩
          · exact .inr ⟨found, List.mem_cons_of_mem _ old, same⟩

end File

namespace IsGrouping

variable {keyOf : Item → Key} {items : List Item} {groups : List (Key × List Item)}

theorem nodup_keys (grouping : IsGrouping keyOf items groups) : (groups.map Prod.fst).Nodup := by
  refine grouping.ordered.imp fun {key later} before same => ?_
  rw [same] at before
  exact lt_irrefl _ before

/-- The first positions of the keys so far stay what they are. -/
theorem ordered_append (grouping : IsGrouping keyOf items groups) (item : Item) :
    (groups.map Prod.fst).Pairwise fun key later =>
      firstAt keyOf (items ++ [item]) key < firstAt keyOf (items ++ [item]) later := by
  refine grouping.ordered.imp_of_mem fun {key later} member laterMember before => ?_
  have known := (grouping.mem_keys key).mp member
  have laterKnown := (grouping.mem_keys later).mp laterMember
  rwa [firstAt_append_of_mem known, firstAt_append_of_mem laterKnown]

theorem members_append_of_ne (grouping : IsGrouping keyOf items groups) {item : Item}
    {group : Key × List Item} (member : group ∈ groups) (differ : group.1 ≠ keyOf item) :
    group.2 = (items ++ [item]).filter fun item => keyOf item = group.1 := by
  rw [List.filter_append, List.filter_singleton, decide_eq_false differ.symm, cond_false,
    List.append_nil]
  exact grouping.members group member

theorem file_of_mem (grouping : IsGrouping keyOf items groups) {item : Item}
    (known : keyOf item ∈ groups.map Prod.fst) :
    IsGrouping keyOf (items ++ [item]) (file groups (keyOf item) item) where
  mem_keys key := by
    rw [map_fst_file_of_mem known, grouping.mem_keys, List.map_append, List.mem_append,
      List.map_singleton, List.mem_singleton]
    refine ⟨.inl, ?_⟩
    rintro (listed | rfl)
    · exact listed
    · exact (grouping.mem_keys _).mp known
  members group member := by
    rcases of_mem_file grouping.nodup_keys known member with ⟨differ, old⟩ | ⟨members, old, rfl⟩
    · exact grouping.members_append_of_ne old differ
    · rw [List.filter_append, List.filter_singleton, decide_eq_true rfl, cond_true,
        ← grouping.members _ old]
  perm := flatMap_file_perm.trans (grouping.perm.append_right [item])
  ordered := by
    rw [map_fst_file_of_mem known]
    exact grouping.ordered_append item

theorem file_of_notMem (grouping : IsGrouping keyOf items groups) {item : Item}
    (new : keyOf item ∉ groups.map Prod.fst) :
    IsGrouping keyOf (items ++ [item]) (file groups (keyOf item) item) where
  mem_keys key := by
    rw [Grouping.file_of_notMem new, List.map_append, List.map_append, List.mem_append,
      List.mem_append, grouping.mem_keys, List.map_singleton, List.map_singleton]
  members group member := by
    rw [Grouping.file_of_notMem new] at member
    rcases List.mem_append.mp member with old | last
    · refine grouping.members_append_of_ne old fun same => ?_
      exact new (List.mem_map.mpr ⟨group, old, same⟩)
    · obtain rfl := List.mem_singleton.mp last
      have none_before : items.filter (fun other => keyOf other = keyOf item) = [] := by
        refine List.filter_eq_nil_iff.mpr fun other among => ?_
        rw [decide_eq_true_iff]
        intro same
        exact new ((grouping.mem_keys _).mpr (List.mem_map.mpr ⟨other, among, same⟩))
      rw [List.filter_append, none_before, List.filter_singleton, decide_eq_true rfl, cond_true,
        List.nil_append]
  perm := flatMap_file_perm.trans (grouping.perm.append_right [item])
  ordered := by
    have keys : (file groups (keyOf item) item).map Prod.fst =
        groups.map Prod.fst ++ [keyOf item] := by
      rw [Grouping.file_of_notMem new, List.map_append, List.map_singleton]
    rw [keys, List.pairwise_append]
    refine ⟨grouping.ordered_append item, List.pairwise_singleton _ _, ?_⟩
    intro key member last same
    obtain rfl := List.mem_singleton.mp same
    have known := (grouping.mem_keys key).mp member
    have unlisted : keyOf item ∉ items.map keyOf := fun listed =>
      new ((grouping.mem_keys _).mpr listed)
    rw [firstAt_append_of_mem known]
    exact (firstAt_lt_length known).trans_le (length_le_firstAt unlisted item)

end IsGrouping

/-- The groups of all items are the partition of them by their keys. -/
theorem isGrouping_groupBy (keyOf : Item → Key) (items : List Item) :
    IsGrouping keyOf items (groupBy keyOf items) := by
  induction items using List.reverseRecOn with
  | nil => exact ⟨fun _ => Iff.rfl, by simp [groupBy], .nil, .nil⟩
  | append_singleton items item induction =>
      rw [groupBy, List.foldl_concat]
      by_cases known : keyOf item ∈ (groupBy keyOf items).map Prod.fst
      · exact induction.file_of_mem known
      · exact induction.file_of_notMem known

section Counts

variable {keyOf : Item → Key} {items : List Item} {groups : List (Key × List Item)}

theorem IsGrouping.sum_length (grouping : IsGrouping keyOf items groups) :
    (groups.map fun group => group.2.length).sum = items.length := by
  rw [← grouping.perm.length_eq, List.length_flatMap]

/-- What is counted group by group is counted over all items. -/
theorem IsGrouping.sum_countP (grouping : IsGrouping keyOf items groups) (counted : Item → Bool) :
    (groups.map fun group => group.2.countP counted).sum = items.countP counted := by
  rw [← grouping.perm.countP_eq, List.countP_flatMap]
  rfl

end Counts

end Souk.Grouping
