import Souk.Library.Machine

/-!
# Two parties and the two lines between them

Each party is a machine which keeps the record of what it has sent.  Its peer hears that record one
entry at a time, in order and without repetition, and need not hear all of it: a line which is cut
is one on which nothing more is heard.  What is heard is the form in which an entry arrives, so the
line may change representations but not the sequence.
-/

namespace Souk

/-- The beginning of a record, with the next entry, is again a beginning of it. -/
theorem concat_isPrefix {Entry : Type*} {record heard : List Entry} {entry : Entry}
    (before : heard <+: record) (awaited : record[heard.length]? = some entry) :
    heard ++ [entry] <+: record := by
  have taken : heard = record.take heard.length := List.prefix_iff_eq_take.mp before
  have longer : record.take (heard.length + 1) = heard ++ [entry] := by
    rw [List.take_add_one, awaited, ← taken, Option.toList_some]
  exact longer ▸ List.take_prefix (heard.length + 1) record

/-- A machine which sends, and some of whose actions hear a message. -/
structure Party (State Action Sent Heard : Type*) where
  machine : Machine State Action
  /-- Everything sent, in order. -/
  sent : State → List Sent
  /-- The message which an action hears. -/
  hears : Action → Option Heard
  grows : ∀ {state next : State} {action : Action}, machine.step state action = some next →
    sent state <+: sent next

namespace Party

variable {State Action Sent Heard Entry : Type*} (party : Party State Action Sent Heard)
  (carries : Entry → Heard → Prop)

open Classical in
/-- A step of a party at the end of a record: where it hears, it hears the next entry. -/
noncomputable def stepOn (record heard : List Entry) (state : State) (action : Action) :
    Option (State × List Entry) :=
  match party.hears action with
  | none => (party.machine.step state action).map fun next => (next, heard)
  | some message =>
      match record[heard.length]? with
      | none => none
      | some entry =>
          if carries entry message then
            (party.machine.step state action).map fun next => (next, heard ++ [entry])
          else none

/-- The two ways of taking a step at the end of a record. -/
inductive Moves (record heard : List Entry) (state : State) :
    Action → State → List Entry → Prop
  | acts {action : Action} {next : State} (quiet : party.hears action = none)
      (taken : party.machine.step state action = some next) :
      Moves record heard state action next heard
  | hears {action : Action} {next : State} {message : Heard} {entry : Entry}
      (hearing : party.hears action = some message) (awaited : record[heard.length]? = some entry)
      (carried : carries entry message) (taken : party.machine.step state action = some next) :
      Moves record heard state action next (heard ++ [entry])

variable {party carries}

theorem moves_iff_stepOn {record heard later : List Entry} {state next : State} {action : Action} :
    party.stepOn carries record heard state action = some (next, later) ↔
      party.Moves carries record heard state action next later := by
  constructor
  · intro taken
    unfold stepOn at taken
    cases hearing : party.hears action with
    | none =>
        simp only [hearing, Option.map_eq_some_iff, Prod.mk.injEq] at taken
        obtain ⟨_, taken, rfl, rfl⟩ := taken
        exact .acts hearing taken
    | some message =>
        simp only [hearing] at taken
        split at taken
        · cases taken
        · rename_i entry awaited
          split at taken
          · rename_i carried
            simp only [Option.map_eq_some_iff, Prod.mk.injEq] at taken
            obtain ⟨_, taken, rfl, rfl⟩ := taken
            exact .hears hearing awaited carried taken
          · cases taken
  · intro moves
    cases moves with
    | acts quiet taken => simp only [stepOn, quiet, taken, Option.map_some]
    | hears hearing awaited carried taken =>
        simp only [stepOn, hearing, awaited, if_pos carried, taken, Option.map_some]

theorem Moves.taken {record heard later : List Entry} {state next : State} {action : Action}
    (moves : party.Moves carries record heard state action next later) :
    party.machine.step state action = some next := by
  cases moves with
  | acts _ taken => exact taken
  | hears _ _ _ taken => exact taken

/-- What has been heard stays the beginning of the record. -/
theorem Moves.heard_isPrefix {record heard later : List Entry} {state next : State}
    {action : Action} (moves : party.Moves carries record heard state action next later)
    (before : heard <+: record) : later <+: record := by
  cases moves with
  | acts => exact before
  | hears _ awaited => exact concat_isPrefix before awaited

end Party

/-- Two parties, and what each has heard of the other. -/
structure Duplex (Left Right LeftSent RightSent : Type*) where
  left : Left
  right : Right
  /-- What the left party has heard. -/
  toLeft : List RightSent
  /-- What the right party has heard. -/
  toRight : List LeftSent

namespace Duplex

variable {Left LeftAction LeftSent LeftHeard Right RightAction RightSent RightHeard : Type*}
  (leftParty : Party Left LeftAction LeftSent LeftHeard)
  (rightParty : Party Right RightAction RightSent RightHeard)
  (carriesToLeft : RightSent → LeftHeard → Prop) (carriesToRight : LeftSent → RightHeard → Prop)

/-- The two parties as one machine, where either of them takes the next step. -/
noncomputable def machine :
    Machine (Duplex Left Right LeftSent RightSent) (LeftAction ⊕ RightAction) where
  step duplex
    | .inl action =>
        (leftParty.stepOn carriesToLeft (rightParty.sent duplex.right) duplex.toLeft duplex.left
          action).map fun after => { duplex with left := after.1, toLeft := after.2 }
    | .inr action =>
        (rightParty.stepOn carriesToRight (leftParty.sent duplex.left) duplex.toRight duplex.right
          action).map fun after => { duplex with right := after.1, toRight := after.2 }

/-- Everything a step of the two parties can do. -/
inductive Moves (duplex : Duplex Left Right LeftSent RightSent) :
    LeftAction ⊕ RightAction → Duplex Left Right LeftSent RightSent → Prop
  | left {action : LeftAction} {next : Left} {heard : List RightSent}
      (moves : leftParty.Moves carriesToLeft (rightParty.sent duplex.right) duplex.toLeft
        duplex.left action next heard) :
      Moves duplex (.inl action) { duplex with left := next, toLeft := heard }
  | right {action : RightAction} {next : Right} {heard : List LeftSent}
      (moves : rightParty.Moves carriesToRight (leftParty.sent duplex.left) duplex.toRight
        duplex.right action next heard) :
      Moves duplex (.inr action) { duplex with right := next, toRight := heard }

variable {leftParty rightParty carriesToLeft carriesToRight}

/-- The one case analysis of a step. -/
theorem moves_of_step {duplex next : Duplex Left Right LeftSent RightSent}
    {action : LeftAction ⊕ RightAction}
    (taken : (machine leftParty rightParty carriesToLeft carriesToRight).step duplex action =
      some next) :
    duplex.Moves leftParty rightParty carriesToLeft carriesToRight action next := by
  cases action with
  | inl action =>
      obtain ⟨⟨after, heard⟩, stepped, rfl⟩ := Option.map_eq_some_iff.mp taken
      exact .left (Party.moves_iff_stepOn.mp stepped)
  | inr action =>
      obtain ⟨⟨after, heard⟩, stepped, rfl⟩ := Option.map_eq_some_iff.mp taken
      exact .right (Party.moves_iff_stepOn.mp stepped)

theorem step_of_moves {duplex next : Duplex Left Right LeftSent RightSent}
    {action : LeftAction ⊕ RightAction}
    (moves : duplex.Moves leftParty rightParty carriesToLeft carriesToRight action next) :
    (machine leftParty rightParty carriesToLeft carriesToRight).step duplex action =
      some next := by
  cases moves with
  | left moves =>
      simp only [machine, Party.moves_iff_stepOn.mpr moves, Option.map_some]
  | right moves =>
      simp only [machine, Party.moves_iff_stepOn.mpr moves, Option.map_some]

/-- A run goes on from where its first step leads. -/
theorem run_cons_of_moves {duplex next final : Duplex Left Right LeftSent RightSent}
    {action : LeftAction ⊕ RightAction} {actions : List (LeftAction ⊕ RightAction)}
    (moves : duplex.Moves leftParty rightParty carriesToLeft carriesToRight action next)
    (rest : (machine leftParty rightParty carriesToLeft carriesToRight).run next actions =
      some final) :
    (machine leftParty rightParty carriesToLeft carriesToRight).run duplex (action :: actions) =
      some final :=
  (Machine.run_cons_eq_some _).mpr ⟨next, step_of_moves moves, rest⟩

end Duplex
end Souk
