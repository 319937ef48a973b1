import Souk.Library.Machine
import Souk.Python.Value

/-!
# The reconnect delay of a pod probe

The loop of `main` connects, waits and connects again.  The delay doubles up to a bound, and is
reset where a connection ends without an error, which none does.
-/

namespace Souk.PodProbeAgent

open Souk.Python

/-- How a connection goes, with the error it ends in. -/
inductive ConnectionOutcome where
  | ticketFails (error : Str)
  | dialFails (error : Str)
  | handshakeFails (error : Str)
  | registerFails (error : Str)
  /-- It attached, and `serve` returned: a read of the socket has failed. -/
  | served (error : Str)

namespace ConnectionOutcome

/-- The connection attached and served. -/
def attached : ConnectionOutcome → Bool
  | served _ => true
  | ticketFails _ | dialFails _ | handshakeFails _ | registerFails _ => false

/-- What `connectOnce` returns, where `none` is `nil`. -/
def connectOnce : ConnectionOutcome → Option Message
  | ticketFails error => some { format := "ticket: %w", values := [.str error] }
  | dialFails error => some { format := "dial: %w", values := [.str error] }
  | handshakeFails error => some { format := "handshake: %w", values := [.str error] }
  | registerFails error => some { format := "register: %w", values := [.str error] }
  | served error => some { format := "%w", values := [.str error] }

end ConnectionOutcome

namespace Reconnect

/-- The wait before the next connection, in seconds, if there is one. -/
def wait (backoff : Nat) (outcome : ConnectionOutcome) : Option Nat :=
  outcome.connectOnce.map fun _ => backoff

/-- The `backoff` behind an iteration of the loop, in seconds. -/
def nextBackoff (backoff : Nat) (outcome : ConnectionOutcome) : Nat :=
  match outcome.connectOnce with
  | some _ => if backoff < 30 then backoff * 2 else backoff
  | none => 1

/-- The loop of `main`, whose state is `backoff`. -/
def machine : Machine Nat ConnectionOutcome where
  step backoff outcome := some (nextBackoff backoff outcome)

/-- The reconnect waits between one and 32 seconds, and one second if the connection has served. -/
def Recovers (backoff : Nat) (outcome : ConnectionOutcome) : Prop :=
  ∃ delay, wait backoff outcome = some delay ∧ 1 ≤ delay ∧ delay ≤ 32 ∧
    (outcome.attached = true → delay = 1)

/-- A `backoff` which has grown: a power of two up to the bound. -/
def Grown (backoff : Nat) : Prop := backoff ∈ [2, 4, 8, 16, 32]

section

variable {backoff : Nat} {outcome : ConnectionOutcome}

/-- Every connection ends in an error. -/
theorem exists_connectOnce (outcome : ConnectionOutcome) :
    ∃ error, outcome.connectOnce = some error := by
  cases outcome <;> exact ⟨_, rfl⟩

theorem wait_eq (backoff : Nat) (outcome : ConnectionOutcome) :
    wait backoff outcome = some backoff := by
  obtain ⟨error, ended⟩ := exists_connectOnce outcome
  rw [wait, ended, Option.map_some]

theorem nextBackoff_eq (backoff : Nat) (outcome : ConnectionOutcome) :
    nextBackoff backoff outcome = if backoff < 30 then backoff * 2 else backoff := by
  obtain ⟨error, ended⟩ := exists_connectOnce outcome
  rw [nextBackoff, ended]

theorem recovers_iff : Recovers backoff outcome ↔
    1 ≤ backoff ∧ backoff ≤ 32 ∧ (outcome.attached = true → backoff = 1) := by
  constructor
  · rintro ⟨delay, waits, bounds⟩
    obtain rfl := Option.some.inj ((wait_eq backoff outcome).symm.trans waits)
    exact bounds
  · intro bounds
    exact ⟨backoff, wait_eq backoff outcome, bounds⟩

theorem grown_next (grown : Grown backoff) : Grown (nextBackoff backoff outcome) := by
  rw [nextBackoff_eq]
  simp only [Grown, List.mem_cons, List.not_mem_nil, or_false] at grown ⊢
  obtain rfl | rfl | rfl | rfl | rfl := grown <;> simp

/-- A delay which has grown recovers from nothing. -/
theorem recovers_iff_of_grown (grown : Grown backoff) :
    Recovers backoff outcome ↔ outcome.attached = false := by
  have bounds : 2 ≤ backoff ∧ backoff ≤ 32 := by
    simp only [Grown, List.mem_cons, List.not_mem_nil, or_false] at grown
    omega
  rw [recovers_iff, ← Bool.not_eq_true]
  constructor
  · rintro ⟨_, _, reset⟩ attached
    have one := reset attached
    omega
  · intro unattached
    exact ⟨by omega, bounds.2, fun attached => absurd attached unattached⟩

theorem along_recovers_of_grown {outcomes : List ConnectionOutcome} (grown : Grown backoff) :
    machine.Along Recovers backoff outcomes ↔ ∀ outcome ∈ outcomes, outcome.attached = false := by
  induction outcomes generalizing backoff with
  | nil => simp [Machine.Along]
  | cons outcome outcomes induction =>
      rw [List.forall_mem_cons, Machine.Along, recovers_iff_of_grown grown]
      refine and_congr_right fun _ => ?_
      constructor
      · intro later
        exact (induction (grown_next grown)).mp (later _ rfl)
      · rintro unattached next ⟨⟩
        exact (induction (grown_next grown)).mpr unattached

/-- The delay stays bounded and recovers exactly when no connection serves but the first. -/
theorem recovers_iff_unattached (outcomes : List ConnectionOutcome) :
    machine.Along Recovers 1 outcomes ↔ ∀ outcome ∈ outcomes.tail, outcome.attached = false := by
  cases outcomes with
  | nil => simp [Machine.Along]
  | cons outcome outcomes =>
      have first : Recovers 1 outcome := recovers_iff.mpr ⟨le_rfl, by omega, fun _ => rfl⟩
      have grown : Grown (nextBackoff 1 outcome) := by
        rw [nextBackoff_eq]
        simp [Grown]
      rw [List.tail_cons, ← along_recovers_of_grown grown]
      constructor
      · intro along
        exact along.2 _ rfl
      · intro later
        refine ⟨first, ?_⟩
        rintro next ⟨⟩
        exact later

end

/-- The second connection which serves is followed by two seconds. -/
theorem served_twice_not_recovers :
    ¬machine.Along Recovers 1 [.served (str "EOF"), .served (str "EOF")] := by
  rintro ⟨_, later⟩
  obtain ⟨_, _, reset⟩ := recovers_iff.mp (later _ rfl).1
  exact absurd (reset rfl) (by decide)

end Reconnect
end Souk.PodProbeAgent
