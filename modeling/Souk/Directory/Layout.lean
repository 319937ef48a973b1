import Souk.Library.Machine
import Souk.Library.Probing

/-!
# Where a stall stands

The layout of the market view.  A stall wants the cell its fingerprint hashes to; if another one
stands there it walks on by a stride which is derived from the same hash, until it comes by a free
cell or has made as many steps as there are cells.  The walk sees the cells of one residue class
only, those congruent to its home cell modulo the greatest common divisor of stride and grid: two
stalls share a square exactly if one of them finds its class full.
-/

namespace Souk.Directory

open Probing

/-- A string of JavaScript: its UTF-16 code units. -/
abbrev JsString := List UInt16

def hashFingerprint (fingerprint : JsString) : UInt32 :=
  fingerprint.foldl (fun h charCode => (h ^^^ charCode.toUInt32) * 0x01000193) 0x811c9dc5

/-- The cell a fingerprint hashes to. -/
def homeCell (cells : Nat) (fingerprint : JsString) : Nat :=
  (hashFingerprint fingerprint).toNat % cells

/-- The step of the walk; on a grid of one cell the hash is reduced modulo one. -/
def stride (cells : Nat) (fingerprint : JsString) : Nat :=
  1 + (hashFingerprint fingerprint >>> 8).toNat % (if cells - 1 = 0 then 1 else cells - 1)

/-- The probing loop: the cell at which the walk of a fingerprint ends. -/
def cellFor (cells : Nat) (taken : List Nat) (fingerprint : JsString) : Nat :=
  firstFree (stepBy cells (stride cells fingerprint)) (fun cell => cell ∉ taken) cells
    (homeCell cells fingerprint)

@[ext]
structure Placed (Item : Type*) where
  item : Item
  col : Nat
  row : Nat

section PlaceStalls

variable {Item : Type*} (localeCompare : JsString → JsString → Ordering)
  (fingerprint : Item → JsString)

/-- The stalls in the order of their fingerprints; the sort is stable. -/
def sortStalls (stalls : List Item) : List Item :=
  stalls.mergeSort fun a b => localeCompare (fingerprint a) (fingerprint b) ≠ .gt

/-- The loop of `placeStalls` over the sorted stalls, with the cells taken so far. -/
def placeFrom (cols cells : Nat) : List Nat → List Item → List (Placed Item)
  | _, [] => []
  | taken, item :: rest =>
      let cell := cellFor cells taken (fingerprint item)
      { item, col := cell % cols, row := cell / cols } ::
        placeFrom cols cells (cell :: taken) rest

def placeStalls (stalls : List Item) (cols rows : Nat) : List (Placed Item) :=
  placeFrom fingerprint cols (cols * rows) [] (sortStalls localeCompare fingerprint stalls)

end PlaceStalls

/-- Column and row of a cell. -/
def square (cols cell : Nat) : Nat × Nat := (cell % cols, cell / cols)

/-- Column and row at which a stall stands. -/
def Placed.square {Item : Type*} (placed : Placed Item) : Nat × Nat := (placed.col, placed.row)

/-- The cells taken when the stalls of some fingerprints have been placed after each other. -/
def seats (cells : Nat) (taken : List Nat) (fingerprints : List JsString) : List Nat :=
  fingerprints.foldl (fun taken fingerprint => cellFor cells taken fingerprint :: taken) taken

section Cells

variable {cells : Nat} {taken : List Nat} {fingerprint : JsString}

theorem homeCell_lt (positive : 0 < cells) : homeCell cells fingerprint < cells :=
  Nat.mod_lt _ positive

theorem cellFor_lt (positive : 0 < cells) : cellFor cells taken fingerprint < cells :=
  @firstFree_induction _ _ _ _ _ (fun cell => cell < cells) (homeCell_lt positive)
    fun _ _ => Nat.mod_lt _ positive

/-- A stall whose home cell is free stands there. -/
theorem cellFor_of_free (isFree : homeCell cells fingerprint ∉ taken) :
    cellFor cells taken fingerprint = homeCell cells fingerprint :=
  firstFree_of_free (decide_eq_true isFree)

theorem square_injective (cols : Nat) : Function.Injective (square cols) := by
  intro cell other same
  obtain ⟨col, row⟩ := Prod.mk.inj same
  rw [← Nat.div_add_mod cell cols, ← Nat.div_add_mod other cols, col, row]

end Cells

section Placing

variable {Item : Type*} {localeCompare : JsString → JsString → Ordering}
  {fingerprint : Item → JsString} {cols cells : Nat}

theorem sortStalls_perm (stalls : List Item) :
    (sortStalls localeCompare fingerprint stalls).Perm stalls :=
  List.mergeSort_perm stalls _

@[simp]
theorem map_item_placeFrom (taken : List Nat) (items : List Item) :
    (placeFrom fingerprint cols cells taken items).map Placed.item = items := by
  induction items generalizing taken with
  | nil => rfl
  | cons item rest induction =>
      rw [placeFrom, List.map_cons, induction]

theorem placeFrom_append (taken : List Nat) (early late : List Item) :
    placeFrom fingerprint cols cells taken (early ++ late) =
      placeFrom fingerprint cols cells taken early ++
        placeFrom fingerprint cols cells (seats cells taken (early.map fingerprint)) late := by
  induction early generalizing taken with
  | nil => rfl
  | cons item rest induction =>
      simp only [List.cons_append, placeFrom, induction, List.map_cons, seats, List.foldl_cons]

/-- The stalls stand on the squares of the cells which have become taken. -/
theorem map_square_seats (taken : List Nat) (items : List Item) :
    (seats cells taken (items.map fingerprint)).map (square cols) =
      ((placeFrom fingerprint cols cells taken items).map Placed.square).reverse ++
        taken.map (square cols) := by
  induction items generalizing taken with
  | nil => rfl
  | cons item rest induction =>
      calc (seats cells taken ((item :: rest).map fingerprint)).map (square cols)
          = ((placeFrom fingerprint cols cells
                (cellFor cells taken (fingerprint item) :: taken) rest).map
                  Placed.square).reverse ++
              (cellFor cells taken (fingerprint item) :: taken).map (square cols) :=
            induction (cellFor cells taken (fingerprint item) :: taken)
        _ = ((placeFrom fingerprint cols cells taken (item :: rest)).map
                Placed.square).reverse ++ taken.map (square cols) := by
            simp only [placeFrom, Placed.square, square, List.map_cons, List.reverse_cons,
              List.append_assoc, List.singleton_append]

theorem placed_inside {taken : List Nat} {items : List Item} {placed : Placed Item} {rows : Nat}
    (wide : 1 ≤ cols) (high : 1 ≤ rows)
    (member : placed ∈ placeFrom fingerprint cols (cols * rows) taken items) :
    placed.col < cols ∧ placed.row < rows := by
  have positive : 0 < cols * rows := Nat.mul_pos wide high
  induction items generalizing taken with
  | nil => cases member
  | cons item rest induction =>
      rw [placeFrom] at member
      rcases List.mem_cons.mp member with rfl | later
      · exact ⟨Nat.mod_lt _ wide, Nat.div_lt_of_lt_mul (cellFor_lt positive)⟩
      · exact induction later

end Placing

/-! ## Who finds a square of its own -/

/-- The placing of one stall after the other. -/
def placing (cells : Nat) : Machine (List Nat) JsString where
  step taken fingerprint := some (cellFor cells taken fingerprint :: taken)

/-- Some cell is free among those the walk of a fingerprint can see. -/
def HasRoom (cells : Nat) (taken : List Nat) (fingerprint : JsString) : Prop :=
  ∃ cell < cells, cell ≡ homeCell cells fingerprint [MOD (stride cells fingerprint).gcd cells] ∧
    cell ∉ taken

/-- Every stall of the roster is placed once, inside the grid and on a square of its own. -/
structure EachApart {Item : Type*} (stalls : List Item) (cols rows : Nat)
    (placed : List (Placed Item)) : Prop where
  once : (placed.map Placed.item).Perm stalls
  inside : ∀ stall ∈ placed, stall.col < cols ∧ stall.row < rows
  apart : (placed.map Placed.square).Nodup

section Room

variable {cells : Nat} {taken : List Nat} {fingerprint : JsString}

theorem run_placing (cells : Nat) (taken : List Nat) (fingerprints : List JsString) :
    (placing cells).run taken fingerprints = some (seats cells taken fingerprints) := by
  induction fingerprints generalizing taken with
  | nil => rfl
  | cons fingerprint rest induction => exact induction (cellFor cells taken fingerprint :: taken)

/-- The walk ends in a free cell exactly if its residue class has one. -/
theorem cellFor_free_iff (positive : 0 < cells) :
    cellFor cells taken fingerprint ∉ taken ↔ HasRoom cells taken fingerprint := by
  have walk := @free_firstFree_stepBy_iff cells (stride cells fingerprint)
    (homeCell cells fingerprint) (fun cell => cell ∉ taken) (homeCell_lt positive)
  simp only [decide_eq_true_eq] at walk
  exact walk

/-- The cells are apart precisely if every stall has found room. -/
theorem nodup_seats_iff (positive : 0 < cells) (fingerprints : List JsString) :
    (seats cells [] fingerprints).Nodup ↔
      (placing cells).Along (HasRoom cells) [] fingerprints := by
  refine @Machine.run_iff_along _ _ (placing cells) (HasRoom cells) List.Nodup
    (fun taken => ¬taken.Nodup) ?_ ?_ ?_ (fun apart shared => shared apart) _ _ _ List.nodup_nil
    (run_placing cells [] fingerprints)
  · rintro taken _ fingerprint apart room ⟨⟩
    exact List.nodup_cons.mpr ⟨(cellFor_free_iff positive).mpr room, apart⟩
  · rintro taken _ fingerprint _ full ⟨⟩ apart
    exact full ((cellFor_free_iff positive).mp (List.nodup_cons.mp apart).1)
  · rintro taken _ fingerprint shared ⟨⟩ apart
    exact shared (List.nodup_cons.mp apart).2

/-- Strides without a common divisor with the grid find room as long as there is any. -/
theorem along_hasRoom_of_coprime {fingerprints : List JsString}
    (coprime : ∀ fingerprint ∈ fingerprints, (stride cells fingerprint).Coprime cells)
    (fits : taken.length + fingerprints.length ≤ cells) :
    (placing cells).Along (HasRoom cells) taken fingerprints := by
  induction fingerprints generalizing taken with
  | nil => trivial
  | cons fingerprint rest induction =>
      rw [List.length_cons] at fits
      refine ⟨exists_free_of_coprime (coprime fingerprint List.mem_cons_self) (by omega), ?_⟩
      rintro _ ⟨⟩
      refine induction (fun other member => coprime other (List.mem_cons_of_mem _ member)) ?_
      rw [List.length_cons]
      omega

end Room

variable {Item : Type*}

/-- Every stall stands on a square of its own precisely if each one finds, when its turn comes, a
free cell which is congruent to its home cell modulo the common divisor of its stride and the
grid. -/
theorem eachApart_iff (localeCompare : JsString → JsString → Ordering)
    (fingerprint : Item → JsString) (stalls : List Item) {cols rows : Nat} (wide : 1 ≤ cols)
    (high : 1 ≤ rows) :
    EachApart stalls cols rows (placeStalls localeCompare fingerprint stalls cols rows) ↔
      (placing (cols * rows)).Along (HasRoom (cols * rows)) []
        ((sortStalls localeCompare fingerprint stalls).map fingerprint) := by
  have positive : 0 < cols * rows := Nat.mul_pos wide high
  rw [← nodup_seats_iff positive, ← List.nodup_map_iff (square_injective cols), map_square_seats,
    List.map_nil, List.append_nil, List.nodup_reverse]
  constructor
  · exact EachApart.apart
  · intro apart
    refine ⟨?_, fun stall => placed_inside wide high, apart⟩
    rw [placeStalls, map_item_placeFrom]
    exact sortStalls_perm stalls

/-- The string of an ASCII text. -/
def jsString (text : String) : JsString :=
  text.toList.map fun char => UInt16.ofNat char.toNat

/-- The order of the code units, which is that of `localeCompare` on lowercase hexadecimal. -/
def codeUnitOrder (a b : JsString) : Ordering := compare a b

/-- Four stalls whose strides are odd; three of them want the same cell of four. -/
def market : List JsString :=
  [jsString "0000000000000003", jsString "0000000000000004", jsString "0000000000000008",
    jsString "0000000000000013"]

theorem eachApart_market :
    EachApart market 2 2 (placeStalls codeUnitOrder id market 2 2) := by
  have sorted : sortStalls codeUnitOrder id market = market :=
    List.mergeSort_of_pairwise (by decide +kernel)
  refine (eachApart_iff codeUnitOrder id market (by decide) (by decide)).mpr ?_
  rw [sorted, List.map_id]
  exact along_hasRoom_of_coprime (by decide +kernel) (by decide)

/-- Three stalls which want the same cell and walk by two. -/
def crowd : List JsString :=
  [jsString "0000000000000007", jsString "000000000000000c", jsString "0000000000000010"]

/-- The third walk goes to and fro between the two taken cells and ends on the first stall. -/
theorem crowd_not_eachApart :
    crowd.Nodup ∧ crowd.length ≤ 2 * 2 ∧
      ¬EachApart crowd 2 2 (placeStalls codeUnitOrder id crowd 2 2) := by
  have sorted : sortStalls codeUnitOrder id crowd = crowd :=
    List.mergeSort_of_pairwise (by decide +kernel)
  have squares : ((placeFrom id 2 4 [] crowd).map Placed.square) = [(0, 0), (0, 1), (0, 0)] := by
    decide +kernel
  refine ⟨by decide +kernel, by decide, fun each => ?_⟩
  have apart := each.apart
  rw [placeStalls, sorted, squares] at apart
  exact absurd apart (by decide)

end Souk.Directory
