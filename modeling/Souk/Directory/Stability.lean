import Souk.Directory.Layout

/-!
# The map is stable

For an order which separates distinct fingerprints, the cell of a stall is a function of its own
fingerprint and of the fingerprints of the roster which sort before it: the roster's order does not
count, and neither do the stalls which sort after it.
-/

namespace Souk.Directory

variable {Item : Type*}

section Order

variable (localeCompare : JsString → JsString → Ordering) (fingerprint : Item → JsString)

/-- No two stalls of a roster have one fingerprint. -/
def Distinct (roster : List Item) : Prop := (roster.map fingerprint).Nodup

/-- A fingerprint of the roster which sorts before the given one. -/
def Earlier (roster : List Item) (own other : JsString) : Prop :=
  other ∈ roster.map fingerprint ∧ localeCompare other own = .lt

/-- The fingerprints of the roster which sort before the given one, in their order. -/
def earlierThan (roster : List Item) (own : JsString) : List JsString :=
  ((sortStalls localeCompare fingerprint roster).map fingerprint).filter
    fun other => localeCompare other own = .lt

/-- What the place of a stall depends on, on a grid of given size. -/
structure MapStable (cols rows : Nat) : Prop where
  /-- Every stall of the roster is placed, each once. -/
  placed : ∀ roster,
    ((placeStalls localeCompare fingerprint roster cols rows).map Placed.item).Perm roster
  /-- The order of the roster makes no difference. -/
  permuted : ∀ roster shuffled, Distinct fingerprint roster → shuffled.Perm roster →
    placeStalls localeCompare fingerprint shuffled cols rows =
      placeStalls localeCompare fingerprint roster cols rows
  /-- Two stalls of one fingerprint, in rosters with the same fingerprints before it, stand on one
  square. -/
  earlierOnly : ∀ roster other, Distinct fingerprint roster → Distinct fingerprint other →
    ∀ stall ∈ placeStalls localeCompare fingerprint roster cols rows,
    ∀ twin ∈ placeStalls localeCompare fingerprint other cols rows,
      fingerprint stall.item = fingerprint twin.item →
      (∀ before, Earlier localeCompare fingerprint roster (fingerprint stall.item) before ↔
        Earlier localeCompare fingerprint other (fingerprint stall.item) before) →
      stall.square = twin.square
  /-- Stalls which sort after a stall do not move it, whether they come or go. -/
  laterNever : ∀ roster added, Distinct fingerprint (roster ++ added) →
    ∀ stall : Placed Item, stall.item ∈ roster →
      (∀ item ∈ added, localeCompare (fingerprint stall.item) (fingerprint item) = .lt) →
      (stall ∈ placeStalls localeCompare fingerprint (roster ++ added) cols rows ↔
        stall ∈ placeStalls localeCompare fingerprint roster cols rows)
  /-- A stall stands on its home cell unless one which sorts before it stands there. -/
  atHome : ∀ roster, Distinct fingerprint roster →
    ∀ stall ∈ placeStalls localeCompare fingerprint roster cols rows,
      (∀ other ∈ placeStalls localeCompare fingerprint roster cols rows,
        localeCompare (fingerprint other.item) (fingerprint stall.item) = .lt →
          other.square ≠ square cols (homeCell (cols * rows) (fingerprint stall.item))) →
      stall.square = square cols (homeCell (cols * rows) (fingerprint stall.item))

end Order

section Placing

variable {fingerprint : Item → JsString} {cols cells : Nat}

/-- A stall is placed after those before it in the list, and by them alone. -/
theorem mem_placeFrom_iff {taken : List Nat} {items : List Item} {placed : Placed Item} :
    placed ∈ placeFrom fingerprint cols cells taken items ↔
      ∃ early late, items = early ++ placed.item :: late ∧
        placed.square = square cols (cellFor cells (seats cells taken (early.map fingerprint))
          (fingerprint placed.item)) := by
  constructor
  · intro member
    induction items generalizing taken with
    | nil => cases member
    | cons item rest induction =>
        rw [placeFrom] at member
        rcases List.mem_cons.mp member with rfl | later
        · exact ⟨[], rest, rfl, rfl⟩
        · obtain ⟨early, late, rfl, stands⟩ := induction later
          exact ⟨item :: early, late, rfl, stands⟩
  · rintro ⟨early, late, rfl, stands⟩
    rw [placeFrom_append, placeFrom, List.mem_append, List.mem_cons]
    obtain ⟨col, row⟩ := Prod.mk.inj stands
    exact .inr (.inl (Placed.ext rfl col row))

/-- Every taken cell has a stall on its square. -/
theorem exists_placed_of_mem_seats {items : List Item} {cell : Nat}
    (member : cell ∈ seats cells [] (items.map fingerprint)) :
    ∃ placed ∈ placeFrom fingerprint cols cells [] items, placed.square = square cols cell := by
  have squares := @map_square_seats _ fingerprint cols cells [] items
  have onSquare : square cols cell ∈
      (seats cells [] (items.map fingerprint)).map (square cols) := List.mem_map_of_mem member
  rw [squares, List.map_nil, List.append_nil, List.mem_reverse] at onSquare
  exact List.mem_map.mp onSquare

end Placing

section Stable

variable {localeCompare : JsString → JsString → Ordering} {fingerprint : Item → JsString}

theorem Distinct.of_append {roster added : List Item}
    (distinct : Distinct fingerprint (roster ++ added)) : Distinct fingerprint roster :=
  distinct.sublist ((List.sublist_append_left roster added).map fingerprint)

theorem mem_earlierThan {roster : List Item} {own other : JsString} :
    other ∈ earlierThan localeCompare fingerprint roster own ↔
      Earlier localeCompare fingerprint roster own other := by
  rw [earlierThan, List.mem_filter, decide_eq_true_iff,
    ((sortStalls_perm roster).map fingerprint).mem_iff, Earlier]

variable [Std.TransCmp localeCompare]

theorem not_lt_of_lt {a b : JsString} (below : localeCompare a b = .lt) :
    localeCompare b a ≠ .lt := by
  rw [Std.OrientedCmp.gt_of_lt below]
  decide

variable [Std.LawfulEqCmp localeCompare]

/-- Distinct fingerprints are sorted strictly. -/
theorem pairwise_sortStalls {roster : List Item} (distinct : Distinct fingerprint roster) :
    (sortStalls localeCompare fingerprint roster).Pairwise
      fun a b => localeCompare (fingerprint a) (fingerprint b) = .lt := by
  have sorted : (sortStalls localeCompare fingerprint roster).Pairwise
      fun a b => decide (localeCompare (fingerprint a) (fingerprint b) ≠ .gt) = true := by
    apply List.pairwise_mergeSort
    · intro a b c
      simp only [decide_eq_true_iff, ne_eq, Ordering.ne_gt_iff_isLE]
      exact Std.TransCmp.isLE_trans
    · intro a b
      rw [Bool.or_eq_true, decide_eq_true_iff, decide_eq_true_iff]
      by_contra neither
      rw [not_or, not_not, not_not, Std.OrientedCmp.gt_iff_lt] at neither
      exact not_lt_of_lt neither.1 (Std.OrientedCmp.gt_iff_lt.mp neither.2)
  have apart : (sortStalls localeCompare fingerprint roster).Pairwise
      fun a b => fingerprint a ≠ fingerprint b :=
    List.pairwise_map.mp (((sortStalls_perm roster).map fingerprint).nodup_iff.mpr distinct)
  refine (sorted.and apart).imp fun {a b} both => ?_
  have notGt := decide_eq_true_iff.mp both.1
  cases compared : localeCompare (fingerprint a) (fingerprint b) with
  | lt => rfl
  | eq => exact absurd (Std.LawfulEqCmp.eq_of_compare compared) both.2
  | gt => exact absurd compared notGt

/-- Rosters with the same stalls are sorted alike. -/
theorem sortStalls_eq_of_perm {roster shuffled : List Item}
    (distinct : Distinct fingerprint roster) (perm : shuffled.Perm roster) :
    sortStalls localeCompare fingerprint shuffled =
      sortStalls localeCompare fingerprint roster := by
  have shuffledDistinct : Distinct fingerprint shuffled :=
    (perm.map fingerprint).nodup_iff.mpr distinct
  refine List.Perm.eq_of_pairwise ?_ (pairwise_sortStalls shuffledDistinct)
    (pairwise_sortStalls distinct)
    ((sortStalls_perm shuffled).trans (perm.trans (sortStalls_perm roster).symm))
  intro a b _ _ below above
  exact absurd above (not_lt_of_lt below)

/-- The fingerprints before a given one are determined by which they are. -/
theorem earlierThan_eq {roster other : List Item} {own : JsString}
    (distinct : Distinct fingerprint roster) (otherDistinct : Distinct fingerprint other)
    (same : ∀ before, Earlier localeCompare fingerprint roster own before ↔
      Earlier localeCompare fingerprint other own before) :
    earlierThan localeCompare fingerprint roster own =
      earlierThan localeCompare fingerprint other own := by
  have sorted : ∀ {items : List Item}, Distinct fingerprint items →
      (earlierThan localeCompare fingerprint items own).Pairwise
        fun a b => localeCompare a b = .lt :=
    fun itemsDistinct => (List.pairwise_map.mpr (pairwise_sortStalls itemsDistinct)).filter _
  have nodup : ∀ {items : List Item}, Distinct fingerprint items →
      (earlierThan localeCompare fingerprint items own).Nodup := fun {items} itemsDistinct =>
    (((sortStalls_perm items).map fingerprint).nodup_iff.mpr itemsDistinct).filter _
  refine List.Perm.eq_of_pairwise ?_ (sorted distinct) (sorted otherDistinct) ?_
  · intro a b _ _ below above
    exact absurd above (not_lt_of_lt below)
  · refine (List.perm_ext_iff_of_nodup (nodup distinct) (nodup otherDistinct)).mpr fun before => ?_
    rw [mem_earlierThan, mem_earlierThan, same before]

/-- In a sorted list, what stands before a stall is what sorts before it. -/
theorem map_early_eq {roster early late : List Item} {item : Item}
    (distinct : Distinct fingerprint roster)
    (split : sortStalls localeCompare fingerprint roster = early ++ item :: late) :
    early.map fingerprint = earlierThan localeCompare fingerprint roster (fingerprint item) := by
  have sorted := @pairwise_sortStalls _ localeCompare _ _ _ _ distinct
  rw [split, List.pairwise_append, List.pairwise_cons] at sorted
  obtain ⟨_, ⟨after, _⟩, before⟩ := sorted
  have kept : (early.map fingerprint).filter
      (fun other => localeCompare other (fingerprint item) = .lt) = early.map fingerprint := by
    refine List.filter_eq_self.mpr fun other member => decide_eq_true ?_
    obtain ⟨stall, among, rfl⟩ := List.mem_map.mp member
    exact before stall among item List.mem_cons_self
  have dropped : ((item :: late).map fingerprint).filter
      (fun other => localeCompare other (fingerprint item) = .lt) = [] := by
    refine List.filter_eq_nil_iff.mpr fun other member => ?_
    rw [decide_eq_true_iff]
    obtain ⟨stall, among, rfl⟩ := List.mem_map.mp member
    rcases List.mem_cons.mp among with rfl | later
    · have self : localeCompare (fingerprint stall) (fingerprint stall) = .eq :=
        Std.ReflCmp.compare_self
      rw [self]
      decide
    · exact not_lt_of_lt (after stall later)
  rw [earlierThan, split, List.map_append, List.filter_append, kept, dropped, List.append_nil]

/-- Where a stall of a roster stands. -/
theorem mem_placeStalls_iff {roster : List Item} {cols rows : Nat} {stall : Placed Item}
    (distinct : Distinct fingerprint roster) :
    stall ∈ placeStalls localeCompare fingerprint roster cols rows ↔
      stall.item ∈ roster ∧
        stall.square = square cols (cellFor (cols * rows)
          (seats (cols * rows) []
            (earlierThan localeCompare fingerprint roster (fingerprint stall.item)))
          (fingerprint stall.item)) := by
  rw [placeStalls, mem_placeFrom_iff, ← (sortStalls_perm roster).mem_iff]
  constructor
  · rintro ⟨early, late, split, stands⟩
    rw [map_early_eq distinct split] at stands
    exact ⟨by rw [split]; exact List.mem_append_right _ List.mem_cons_self, stands⟩
  · rintro ⟨member, stands⟩
    obtain ⟨early, late, split⟩ := List.append_of_mem member
    rw [← map_early_eq distinct split] at stands
    exact ⟨early, late, split, stands⟩

/-- What sorts after a stall does not change what sorts before it. -/
theorem earlierThan_append {roster added : List Item} {own : JsString}
    (distinct : Distinct fingerprint (roster ++ added))
    (after : ∀ item ∈ added, localeCompare own (fingerprint item) = .lt) :
    earlierThan localeCompare fingerprint (roster ++ added) own =
      earlierThan localeCompare fingerprint roster own := by
  refine earlierThan_eq distinct distinct.of_append fun before => ?_
  rw [Earlier, Earlier, List.map_append, List.mem_append]
  constructor
  · rintro ⟨listed | new, below⟩
    · exact ⟨listed, below⟩
    · obtain ⟨item, among, rfl⟩ := List.mem_map.mp new
      exact absurd below (not_lt_of_lt (after item among))
  · rintro ⟨listed, below⟩
    exact ⟨.inl listed, below⟩

/-- On every grid the map is stable, for an order which separates distinct fingerprints. -/
theorem mapStable (cols rows : Nat) : MapStable localeCompare fingerprint cols rows where
  placed roster := by
    rw [placeStalls, map_item_placeFrom]
    exact sortStalls_perm roster
  permuted roster shuffled distinct perm := by
    rw [placeStalls, placeStalls, sortStalls_eq_of_perm distinct perm]
  earlierOnly roster other distinct otherDistinct stall member twin twinMember same before := by
    obtain ⟨_, stands⟩ := (mem_placeStalls_iff distinct).mp member
    obtain ⟨_, twinStands⟩ := (mem_placeStalls_iff otherDistinct).mp twinMember
    rw [stands, twinStands, ← same, earlierThan_eq distinct otherDistinct before]
  laterNever roster added distinct stall listed after := by
    rw [mem_placeStalls_iff distinct, mem_placeStalls_iff distinct.of_append,
      earlierThan_append distinct after, List.mem_append]
    exact and_congr_left fun _ => ⟨fun _ => listed, .inl⟩
  atHome roster distinct stall member vacant := by
    obtain ⟨early, late, split, stands⟩ := mem_placeFrom_iff.mp member
    have sorted := @pairwise_sortStalls _ localeCompare _ _ _ _ distinct
    rw [split, List.pairwise_append] at sorted
    have isFree : homeCell (cols * rows) (fingerprint stall.item) ∉
        seats (cols * rows) [] (early.map fingerprint) := by
      intro occupied
      obtain ⟨other, placed, onHome⟩ := @exists_placed_of_mem_seats _ _ cols _ _ _ occupied
      have among : other.item ∈ early := by
        rw [← @map_item_placeFrom _ fingerprint cols (cols * rows) [] early]
        exact List.mem_map_of_mem placed
      refine vacant other ?_ (sorted.2.2 other.item among stall.item List.mem_cons_self) onHome
      rw [placeStalls, split, placeFrom_append]
      exact List.mem_append_left _ placed
    rw [stands, cellFor_of_free isFree]

end Stable

instance : Std.TransCmp codeUnitOrder := inferInstanceAs (Std.TransOrd (List UInt16))

instance : Std.LawfulEqCmp codeUnitOrder := inferInstanceAs (Std.LawfulEqOrd (List UInt16))

theorem mapStable_codeUnitOrder : MapStable codeUnitOrder (id : JsString → JsString) 3 2 :=
  mapStable 3 2

end Souk.Directory
