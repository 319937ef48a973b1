import Mathlib

/-!
# The first entries of a ranking

A ranking has its entries in the order of a key, the greatest first.  Its first entries are none
of them below any of the rest, and of the entries above a bound they have as many as they can.
-/

namespace Souk

variable {Entry Key : Type*} [LinearOrder Key] (key : Entry → Key) {ranking entries : List Entry}

/-- The keys of some entries do not rise. -/
def Ranked (ranking : List Entry) : Prop :=
  ranking.Pairwise fun before after => key after ≤ key before

variable {key}

/-- What is cut off is not above what is left. -/
theorem Ranked.le_of_take (ranked : Ranked key ranking) (count : Nat) {kept cut : Entry}
    (among : kept ∈ ranking.take count) (off : cut ∈ ranking.drop count) : key cut ≤ key kept := by
  have split : (ranking.take count ++ ranking.drop count).Pairwise
      fun before after => key after ≤ key before := by
    rw [List.take_append_drop]
    exact ranked
  exact (List.pairwise_append.mp split).2.2 kept among cut off

theorem Ranked.take (ranked : Ranked key ranking) (count : Nat) :
    Ranked key (ranking.take count) :=
  List.Pairwise.sublist (List.take_sublist count ranking) ranked

/-- The entries above a bound stand in front. -/
theorem Ranked.countP_take (ranked : Ranked key ranking) (bound : Key) (count : Nat) :
    (ranking.take count).countP (bound < key ·) =
      min count (ranking.countP (bound < key ·)) := by
  induction ranking generalizing count with
  | nil => simp
  | cons entry ranking induction =>
      obtain ⟨first, rest⟩ := List.pairwise_cons.mp ranked
      cases count with
      | zero => simp
      | succ count =>
          rw [List.take_succ_cons, List.countP_cons, List.countP_cons, induction rest]
          by_cases above : bound < key entry
          · simp only [above, decide_true, if_true]
            omega
          · have none : ranking.countP (bound < key ·) = 0 := by
              rw [List.countP_eq_zero]
              intro other among beyond
              have below : key other ≤ key entry := first other among
              exact above ((of_decide_eq_true beyond).trans_le below)
            simp [none, above]

end Souk
