import Mathlib

/-!
# Programs which call their surroundings

A program ends with a value, ends with an error, or makes a call and goes on with the answer.  Its
surroundings answer as they please, knowing everything which happened before; where they do not
answer, the program ends as it does at an exception nobody catches.  The rules below show that a
program makes a call only when what happened before allows it.
-/

namespace Souk

/-- A program with calls from `Call`, each answered in its own type. -/
inductive Program (Error : Type) {Call : Type} (Answer : Call → Type) (α : Type) where
  | done (value : α)
  | raise (error : Error)
  | call (call : Call) (next : Answer call → Program Error Answer α)

/-- One call with its answer, if it got one. -/
structure CallEvent {Call : Type} (Answer : Call → Type) where
  call : Call
  answer : Option (Answer call)

namespace Program

variable {Error Call : Type} {Answer : Call → Type} {α β : Type}

/-- The first program, and the second from its value. -/
def bind (program : Program Error Answer α) (rest : α → Program Error Answer β) :
    Program Error Answer β :=
  match program with
  | done value => rest value
  | raise error => raise error
  | call action next => call action fun answer => (next answer).bind rest

instance : Monad (Program Error Answer) where
  pure := done
  bind := bind

/-- A single call. -/
def ask (action : Call) : Program Error Answer (Answer action) := call action done

/-- A computation without calls. -/
def ofExcept {Raised : Type} (wrap : Raised → Error) : Except Raised α → Program Error Answer α
  | .ok value => done value
  | .error raised => raise (wrap raised)

/-- What answers the calls, knowing the events so far. -/
abbrev Surroundings {Call : Type} (Answer : Call → Type) :=
  List (CallEvent Answer) → (call : Call) → Option (Answer call)

/-- The events of a run which starts after those of `past`, and its value if it ends with one. -/
def run (surroundings : Surroundings Answer) :
    List (CallEvent Answer) → Program Error Answer α → List (CallEvent Answer) × Option α
  | _, done value => ([], some value)
  | _, raise _ => ([], none)
  | past, call action next =>
      match surroundings past action with
      | none => ([⟨action, none⟩], none)
      | some answer =>
          let event : CallEvent Answer := ⟨action, some answer⟩
          let (events, result) := run surroundings (past ++ [event]) (next answer)
          (event :: events, result)

/-- Every call among the events was allowed by what had happened before it. -/
def Guarded (Allowed : List (CallEvent Answer) → Call → Prop) :
    List (CallEvent Answer) → List (CallEvent Answer) → Prop
  | _, [] => True
  | past, event :: events => Allowed past event.call ∧ Guarded Allowed (past ++ [event]) events

/-- Whatever the answers, the program makes only allowed calls, and if it ends with a value then the
value and the events satisfy the postcondition. -/
def Safe (Allowed : List (CallEvent Answer) → Call → Prop)
    (post : α → List (CallEvent Answer) → Prop) :
    Program Error Answer α → List (CallEvent Answer) → Prop
  | done value, past => post value past
  | raise _, _ => True
  | call action next, past =>
      Allowed past action ∧
        ∀ answer, Safe Allowed post (next answer) (past ++ [⟨action, some answer⟩])

section Rules

variable {Allowed : List (CallEvent Answer) → Call → Prop} {past : List (CallEvent Answer)}

@[simp]
theorem safe_pure {post : α → List (CallEvent Answer) → Prop} (value : α) :
    (pure value : Program Error Answer α).Safe Allowed post past ↔ post value past := Iff.rfl

@[simp]
theorem safe_raise {post : α → List (CallEvent Answer) → Prop} (error : Error) :
    (raise error : Program Error Answer α).Safe Allowed post past := trivial

@[simp]
theorem safe_ask (action : Call) {post : Answer action → List (CallEvent Answer) → Prop} :
    (ask action : Program Error Answer (Answer action)).Safe Allowed post past ↔
      Allowed past action ∧ ∀ answer, post answer (past ++ [⟨action, some answer⟩]) := Iff.rfl

@[simp]
theorem safe_bind {post : β → List (CallEvent Answer) → Prop} (program : Program Error Answer α)
    (rest : α → Program Error Answer β) :
    (program >>= rest).Safe Allowed post past ↔
      program.Safe Allowed (fun value past => (rest value).Safe Allowed post past) past := by
  change (program.bind rest).Safe Allowed post past ↔ _
  induction program generalizing past with
  | done value => exact Iff.rfl
  | raise error => exact Iff.rfl
  | call action next induction =>
      exact and_congr Iff.rfl (forall_congr' fun answer => induction answer)

@[simp]
theorem safe_ofExcept {Raised : Type} (wrap : Raised → Error)
    {post : α → List (CallEvent Answer) → Prop} (outcome : Except Raised α) :
    (ofExcept wrap outcome : Program Error Answer α).Safe Allowed post past ↔
      ∀ value, outcome = .ok value → post value past := by
  cases outcome with
  | ok value =>
      constructor
      · intro holds other same
        obtain rfl := Except.ok.inj same
        exact holds
      · intro holds
        exact holds value rfl
  | error raised => exact ⟨fun _ => nofun, fun _ => trivial⟩

@[simp]
theorem safe_ite {post : α → List (CallEvent Answer) → Prop} (condition : Prop)
    [Decidable condition] (yes no : Program Error Answer α) :
    (if condition then yes else no).Safe Allowed post past ↔
      (condition → yes.Safe Allowed post past) ∧ (¬condition → no.Safe Allowed post past) := by
  split <;> rename_i holds <;> simp [holds]

theorem Safe.weaken {post wider : α → List (CallEvent Answer) → Prop}
    {program : Program Error Answer α} (safe : program.Safe Allowed post past)
    (implies : ∀ value past, post value past → wider value past) :
    program.Safe Allowed wider past := by
  induction program generalizing past with
  | done value => exact implies value past safe
  | raise error => trivial
  | call action next induction =>
      exact ⟨safe.1, fun answer => induction answer (safe.2 answer)⟩

/-- Once a lasting condition holds which allows every call, any program is safe. -/
theorem safe_of_lasting {Lasting : List (CallEvent Answer) → Prop}
    (lasts : ∀ past event, Lasting past → Lasting (past ++ [event]))
    (allows : ∀ past action, Lasting past → Allowed past action)
    (program : Program Error Answer α) (lasting : Lasting past) :
    program.Safe Allowed (fun _ _ => True) past := by
  induction program generalizing past with
  | done value => trivial
  | raise error => trivial
  | call action next induction =>
      exact ⟨allows past action lasting, fun answer => induction answer (lasts past _ lasting)⟩

/-- A safe program keeps to the allowed calls in all surroundings. -/
theorem Safe.guarded {post : α → List (CallEvent Answer) → Prop} {program : Program Error Answer α}
    (safe : program.Safe Allowed post past) (surroundings : Surroundings Answer) :
    Guarded Allowed past (program.run surroundings past).1 := by
  induction program generalizing past with
  | done value => trivial
  | raise error => trivial
  | call action next induction =>
      rw [run]
      cases surroundings past action with
      | none => exact ⟨safe.1, trivial⟩
      | some answer => exact ⟨safe.1, induction answer (safe.2 answer)⟩

end Rules

end Program
end Souk
