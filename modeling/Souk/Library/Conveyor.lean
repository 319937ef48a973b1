import Mathlib

/-!
# Queues whose consumer holds one item

A conveyor is a first-in first-out queue with one consumer, which takes an item into its hand and
then either carries it or drops it.  The ledger is part of the structure: what was offered is, in
order, what has left the hand, what is in the hand, and what waits.  Order and absence of
duplication are therefore facts about every conveyor, and completeness is exactly the absence of a
drop.
-/

namespace Souk

/-- A queue with one consumer, and the history of what passed through it. -/
structure Conveyor (Item : Type*) where
  /-- Everything ever put on the queue. -/
  offered : List Item
  /-- The items which have left the hand, each with whether it was carried. -/
  departed : List (Item × Bool)
  hand : Option Item
  waiting : List Item
  ledger : offered = departed.map Prod.fst ++ (hand.toList ++ waiting)

namespace Conveyor

variable {Item : Type*}

/-- The empty conveyor. -/
def empty : Conveyor Item := ⟨[], [], none, [], rfl⟩

/-- The items carried, in order. -/
def carried (conveyor : Conveyor Item) : List Item :=
  (conveyor.departed.filter fun item => item.2).map Prod.fst

/-- The items dropped, in order. -/
def dropped (conveyor : Conveyor Item) : List Item :=
  (conveyor.departed.filter fun item => !item.2).map Prod.fst

/-- Everything not dropped: carried, in the hand, or waiting. -/
def accounted (conveyor : Conveyor Item) : List Item :=
  conveyor.carried ++ (conveyor.hand.toList ++ conveyor.waiting)

/-- Offer an item. -/
def put (conveyor : Conveyor Item) (item : Item) : Conveyor Item where
  offered := conveyor.offered ++ [item]
  departed := conveyor.departed
  hand := conveyor.hand
  waiting := conveyor.waiting ++ [item]
  ledger := by simp [conveyor.ledger]

/-- Take the first waiting item into the empty hand. -/
def take (conveyor : Conveyor Item) {item : Item} {rest : List Item}
    (free : conveyor.hand = none) (first : conveyor.waiting = item :: rest) : Conveyor Item where
  offered := conveyor.offered
  departed := conveyor.departed
  hand := some item
  waiting := rest
  ledger := by simp [conveyor.ledger, free, first]

/-- Carry or drop the item in the hand. -/
def release (conveyor : Conveyor Item) {item : Item} (held : conveyor.hand = some item)
    (isCarried : Bool) : Conveyor Item where
  offered := conveyor.offered
  departed := conveyor.departed ++ [(item, isCarried)]
  hand := none
  waiting := conveyor.waiting
  ledger := by simp [conveyor.ledger, held]

@[simp]
theorem carried_release_true (conveyor : Conveyor Item) {item : Item}
    (held : conveyor.hand = some item) :
    (conveyor.release held true).carried = conveyor.carried ++ [item] := by
  simp [release, carried]

@[simp]
theorem carried_release_false (conveyor : Conveyor Item) {item : Item}
    (held : conveyor.hand = some item) :
    (conveyor.release held false).carried = conveyor.carried := by
  simp [release, carried]

@[simp]
theorem dropped_release_true (conveyor : Conveyor Item) {item : Item}
    (held : conveyor.hand = some item) :
    (conveyor.release held true).dropped = conveyor.dropped := by
  simp [release, dropped]

@[simp]
theorem dropped_release_false (conveyor : Conveyor Item) {item : Item}
    (held : conveyor.hand = some item) :
    (conveyor.release held false).dropped = conveyor.dropped ++ [item] := by
  simp [release, dropped]

/-- Nothing is duplicated or reordered, whatever is dropped. -/
theorem accounted_sublist (conveyor : Conveyor Item) :
    conveyor.accounted.Sublist conveyor.offered := by
  rw [conveyor.ledger, accounted]
  exact (List.filter_sublist.map _).append (List.Sublist.refl _)

theorem carried_filter_eq_iff (counted : Item → Bool) (departed : List (Item × Bool)) :
    ((departed.filter fun item => item.2).map Prod.fst).filter counted =
        (departed.map Prod.fst).filter counted ↔
      ∀ item ∈ (departed.filter fun item => !item.2).map Prod.fst, counted item = false := by
  induction departed with
  | nil => simp
  | cons head departed induction =>
      obtain ⟨item, isCarried⟩ := head
      cases isCarried with
      | true =>
          cases counts : counted item <;>
            simpa [List.filter_cons, counts] using induction
      | false =>
          cases counts : counted item with
          | false => simpa [List.filter_cons, counts] using induction
          | true =>
              have shorter := ((List.filter_sublist (l := departed)
                (p := fun item => item.2)).map Prod.fst).filter counted
              constructor
              · intro equality
                have lengths := congrArg List.length equality
                simp only [List.map_cons, List.filter_cons, counts, if_true,
                  List.length_cons, Bool.false_eq_true, if_false] at lengths
                have bound := shorter.length_le
                omega
              · intro uncounted
                have := uncounted item (by simp)
                rw [counts] at this
                cases this

/-- Every counted item is accounted for precisely when no counted item was dropped. -/
theorem accounted_eq_iff (conveyor : Conveyor Item) (counted : Item → Bool) :
    conveyor.accounted.filter counted = conveyor.offered.filter counted ↔
      ∀ item ∈ conveyor.dropped, counted item = false := by
  have offered := congrArg (List.filter counted) conveyor.ledger
  rw [List.filter_append] at offered
  rw [offered, accounted, List.filter_append, List.append_cancel_right_eq]
  exact carried_filter_eq_iff counted conveyor.departed

end Conveyor
end Souk
