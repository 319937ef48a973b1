import Mathlib

/-!
# Probing for a free cell

A walk goes from cell to cell until it finds one which is free, for a bounded number of steps.  With
a constant stride around a circle it visits the cells of one residue class, modulo the greatest
common divisor of the stride and the number of cells, and no others.
-/

namespace Souk.Probing

variable {Cell : Type*}

/-- The first free cell of a walk, or the cell at which it gives up. -/
def firstFree (next : Cell → Cell) (free : Cell → Bool) : Nat → Cell → Cell
  | 0, cell => cell
  | steps + 1, cell => if free cell then cell else firstFree next free steps (next cell)

section Walk

variable {next : Cell → Cell} {free : Cell → Bool} {steps : Nat} {cell : Cell}

theorem firstFree_of_free (isFree : free cell = true) :
    firstFree next free steps cell = cell := by
  cases steps with
  | zero => rfl
  | succ steps => rw [firstFree, if_pos isFree]

/-- The walk ends in a free cell exactly if it comes by one. -/
theorem free_firstFree_iff :
    free (firstFree next free steps cell) = true ↔
      ∃ count ≤ steps, free (next^[count] cell) = true := by
  induction steps generalizing cell with
  | zero =>
      constructor
      · intro isFree
        exact ⟨0, le_rfl, isFree⟩
      · rintro ⟨count, bound, isFree⟩
        obtain rfl : count = 0 := by omega
        exact isFree
  | succ steps induction =>
      rw [firstFree]
      by_cases here : free cell = true
      · rw [if_pos here]
        exact ⟨fun _ => ⟨0, by omega, here⟩, fun _ => here⟩
      · rw [if_neg here, induction]
        constructor
        · rintro ⟨count, bound, isFree⟩
          exact ⟨count + 1, by omega, isFree⟩
        · rintro ⟨count, bound, isFree⟩
          cases count with
          | zero => exact absurd isFree here
          | succ count => exact ⟨count, by omega, isFree⟩

/-- What holds of the cells of a walk holds of its end. -/
theorem firstFree_induction {Holds : Cell → Prop} (start : Holds cell)
    (step : ∀ cell, Holds cell → Holds (next cell)) : Holds (firstFree next free steps cell) := by
  induction steps generalizing cell with
  | zero => exact start
  | succ steps induction =>
      rw [firstFree]
      split
      · exact start
      · exact induction (step cell start)

end Walk

/-- One stride around a circle of cells. -/
def stepBy (cells stride cell : Nat) : Nat := (cell + stride) % cells

section Circle

variable {cells stride home cell : Nat}

theorem iterate_stepBy (inside : home < cells) (count : Nat) :
    (stepBy cells stride)^[count] home = (home + count * stride) % cells := by
  induction count with
  | zero => simp [Nat.mod_eq_of_lt inside]
  | succ count induction =>
      rw [Function.iterate_succ_apply', induction, stepBy, Nat.mod_add_mod, Nat.succ_mul,
        Nat.add_assoc]

/-- A number of strides keeps the residue modulo the common divisor. -/
theorem modEq_of_strides {count : Nat} (reached : home + count * stride ≡ cell [MOD cells]) :
    cell ≡ home [MOD stride.gcd cells] := by
  have modGcd : home + count * stride ≡ cell [MOD stride.gcd cells] :=
    reached.of_dvd (Nat.gcd_dvd_right stride cells)
  have strides : count * stride ≡ 0 [MOD stride.gcd cells] :=
    Nat.modEq_zero_iff_dvd.mpr ((Nat.gcd_dvd_left stride cells).mul_left count)
  exact modGcd.symm.trans (strides.add_left home)

/-- A cell is a number of strides away exactly if the common divisor divides the difference. -/
theorem exists_strides_iff (positive : 0 < cells) :
    (∃ count < cells, home + count * stride ≡ cell [MOD cells]) ↔
      cell ≡ home [MOD stride.gcd cells] := by
  constructor
  · rintro ⟨count, _, reached⟩
    exact modEq_of_strides reached
  · intro congruent
    obtain ⟨factor, difference⟩ := Nat.modEq_iff_dvd.mp congruent.symm
    have bezout := Nat.gcd_eq_gcd_ab stride cells
    have modulus : (cells : ℤ) ≠ 0 := by exact_mod_cast positive.ne'
    -- The strides of Bézout's identity, reduced to less than one round.
    let strides : ℤ := Nat.gcdA stride cells * factor
    have nonnegative : 0 ≤ strides % cells := Int.emod_nonneg strides modulus
    refine ⟨(strides % cells).toNat, ?_, ?_⟩
    · have bound : strides % cells < cells :=
        Int.emod_lt_of_pos strides (by exact_mod_cast positive)
      omega
    · have reduced : strides % cells = strides - cells * (strides / cells) := by
        rw [Int.emod_def]
      refine Nat.modEq_iff_dvd.mpr ⟨Nat.gcdB stride cells * factor + strides / cells * stride, ?_⟩
      push_cast
      rw [Int.toNat_of_nonneg nonnegative, reduced]
      calc (cell : ℤ) - (home + (strides - cells * (strides / cells)) * stride)
          = (cell - home) - strides * stride + cells * (strides / cells) * stride := by ring
        _ = (stride * Nat.gcdA stride cells + cells * Nat.gcdB stride cells) * factor -
              strides * stride + cells * (strides / cells) * stride := by rw [difference, bezout]
        _ = cells * (Nat.gcdB stride cells * factor + strides / cells * stride) := by
            simp only [strides]
            ring

/-- The cells of a walk around the circle are those of one residue class. -/
theorem exists_iterate_stepBy_iff (inside : home < cells) :
    (∃ count ≤ cells, (stepBy cells stride)^[count] home = cell) ↔
      cell < cells ∧ cell ≡ home [MOD stride.gcd cells] := by
  have positive : 0 < cells := by omega
  constructor
  · rintro ⟨count, _, rfl⟩
    rw [iterate_stepBy inside]
    exact ⟨Nat.mod_lt _ positive, modEq_of_strides (Nat.mod_modEq _ _).symm⟩
  · rintro ⟨bound, congruent⟩
    obtain ⟨count, round, reached⟩ := (exists_strides_iff positive).mpr congruent
    refine ⟨count, round.le, ?_⟩
    rw [iterate_stepBy inside, reached, Nat.mod_eq_of_lt bound]

/-- A walk around the circle ends in a free cell exactly if its residue class has one. -/
theorem free_firstFree_stepBy_iff {free : Nat → Bool} (inside : home < cells) :
    free (firstFree (stepBy cells stride) free cells home) = true ↔
      ∃ cell < cells, cell ≡ home [MOD stride.gcd cells] ∧ free cell = true := by
  rw [free_firstFree_iff]
  constructor
  · rintro ⟨count, bound, isFree⟩
    obtain ⟨small, congruent⟩ := (exists_iterate_stepBy_iff inside).mp ⟨count, bound, rfl⟩
    exact ⟨_, small, congruent, isFree⟩
  · rintro ⟨cell, small, congruent, isFree⟩
    obtain ⟨count, bound, rfl⟩ := (exists_iterate_stepBy_iff inside).mpr ⟨small, congruent⟩
    exact ⟨count, bound, isFree⟩

/-- A stride without a common divisor finds a free cell if there is one. -/
theorem exists_free_of_coprime {taken : List Nat} (coprime : stride.Coprime cells)
    (room : taken.length < cells) :
    ∃ cell < cells, cell ≡ home [MOD stride.gcd cells] ∧ cell ∉ taken := by
  have missed : ∃ cell ∈ List.range cells, cell ∉ taken := by
    by_contra full
    push Not at full
    have bound := (List.subperm_of_subset List.nodup_range full).length_le
    rw [List.length_range] at bound
    omega
  obtain ⟨cell, member, isFree⟩ := missed
  refine ⟨cell, List.mem_range.mp member, ?_, isFree⟩
  rw [coprime]
  exact Nat.modEq_one

end Circle

end Souk.Probing
