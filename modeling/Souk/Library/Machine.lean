import Mathlib

/-!
# Labelled machines and their runs

A machine refuses an action in a state or takes it to exactly one next state.  Concurrency is the
freedom of the action list: an interleaving of several parties is one list of their actions.  The
file packages the inductions over runs which every model below uses: an invariant reaches the end of
a run, a property of single steps holds along it, one machine follows another step by step, and a
run meets its specification exactly when no step of it takes the losing branch.
-/

namespace Souk

/-- A labelled transition system whose steps are partial functions. -/
structure Machine (State Action : Type*) where
  /-- The state after an action, or `none` where the action is not enabled. -/
  step : State → Action → Option State

namespace Machine

variable {State Action : Type*} (machine : Machine State Action)

/-- Execute a list of actions, failing at the first one which is not enabled. -/
def run : State → List Action → Option State
  | state, [] => some state
  | state, action :: actions => (machine.step state action).bind fun next => run next actions

@[simp]
theorem run_nil (state : State) : machine.run state [] = some state := rfl

theorem run_cons (state : State) (action : Action) (actions : List Action) :
    machine.run state (action :: actions) =
      (machine.step state action).bind fun next => machine.run next actions := rfl

theorem run_cons_eq_some {state final : State} {action : Action} {actions : List Action} :
    machine.run state (action :: actions) = some final ↔
      ∃ next, machine.step state action = some next ∧ machine.run next actions = some final := by
  rw [run_cons, Option.bind_eq_some_iff]

theorem run_append {state middle : State} {early : List Action}
    (execution : machine.run state early = some middle) (late : List Action) :
    machine.run state (early ++ late) = machine.run middle late := by
  induction early generalizing state with
  | nil =>
      obtain rfl : state = middle := by simpa using execution
      rfl
  | cons action early induction =>
      obtain ⟨next, step, rest⟩ := machine.run_cons_eq_some.mp execution
      rw [List.cons_append, run_cons, step, Option.bind_some, induction rest]

/-- A property of single steps holds at every step a run takes. -/
def Along (Good : State → Action → Prop) : State → List Action → Prop
  | _, [] => True
  | state, action :: actions =>
      Good state action ∧ ∀ next, machine.step state action = some next → Along Good next actions

variable {machine} in
theorem along_cons {Good : State → Action → Prop} {state next : State} {action : Action}
    {actions : List Action} (good : Good state action)
    (taken : machine.step state action = some next) (rest : machine.Along Good next actions) :
    machine.Along Good state (action :: actions) := by
  refine ⟨good, fun other step => ?_⟩
  obtain rfl := Option.some.inj (taken.symm.trans step)
  exact rest

variable {machine} in
theorem Along.of_append {Good : State → Action → Prop} {state middle : State}
    {early late : List Action} (along : machine.Along Good state (early ++ late))
    (execution : machine.run state early = some middle) : machine.Along Good middle late := by
  induction early generalizing state with
  | nil =>
      obtain rfl : state = middle := by simpa using execution
      exact along
  | cons action early induction =>
      obtain ⟨next, step, rest⟩ := machine.run_cons_eq_some.mp execution
      exact induction (along.2 next step) rest

/-- A property of actions alone holds along every run of such actions. -/
theorem along_of_forall {Good : Action → Prop} {state : State} {actions : List Action}
    (good : ∀ action ∈ actions, Good action) :
    machine.Along (fun _ action => Good action) state actions := by
  induction actions generalizing state with
  | nil => trivial
  | cons action actions induction =>
      refine ⟨good action List.mem_cons_self, fun next _ => induction fun later among => ?_⟩
      exact good later (List.mem_cons_of_mem action among)

/-- What is observed of the steps of a run, in order. -/
def collect {Seen : Type*} (observe : State → Action → Option Seen) :
    State → List Action → List Seen
  | _, [] => []
  | state, action :: actions =>
      (observe state action).toList ++
        ((machine.step state action).map fun next => collect observe next actions).getD []

theorem collect_cons {Seen : Type*} (observe : State → Action → Option Seen) {state next : State}
    {action : Action} (actions : List Action) (step : machine.step state action = some next) :
    machine.collect observe state (action :: actions) =
      (observe state action).toList ++ machine.collect observe next actions := by
  rw [collect, step, Option.map_some, Option.getD_some]

/-- A property of states holds in every state a run visits, both ends included. -/
def Throughout (Holds : State → Prop) : State → List Action → Prop
  | state, [] => Holds state
  | state, action :: actions =>
      Holds state ∧ ∀ next, machine.step state action = some next → Throughout Holds next actions

variable {machine}

/-- A property which every step preserves reaches the end of every run. -/
theorem run_invariant {Invariant : State → Prop}
    (preserved : ∀ {state next : State} {action : Action}, Invariant state →
      machine.step state action = some next → Invariant next)
    {state final : State} {actions : List Action} (start : Invariant state)
    (execution : machine.run state actions = some final) : Invariant final := by
  induction actions generalizing state with
  | nil =>
      obtain rfl : state = final := by simpa using execution
      exact start
  | cons action actions induction =>
      obtain ⟨next, step, rest⟩ := machine.run_cons_eq_some.mp execution
      exact induction (preserved start step) rest

/-- A property of what has been done which every step preserves holds of every run as a whole. -/
theorem run_recorded {Recorded : List Action → State → Prop}
    (preserved : ∀ {past : List Action} {state next : State} {action : Action},
      Recorded past state → machine.step state action = some next →
        Recorded (past ++ [action]) next)
    {past actions : List Action} {state final : State} (start : Recorded past state)
    (execution : machine.run state actions = some final) : Recorded (past ++ actions) final := by
  induction actions generalizing past state with
  | nil =>
      obtain rfl : state = final := by simpa using execution
      rwa [List.append_nil]
  | cons action actions induction =>
      obtain ⟨next, step, rest⟩ := machine.run_cons_eq_some.mp execution
      have recorded := induction (preserved start step) rest
      rwa [List.append_assoc, List.singleton_append] at recorded

/-- A machine whose every step is matched by a run of another is simulated by it. -/
theorem run_simulates {Abstract AbstractAction : Type*} {abstract : Machine Abstract AbstractAction}
    {Related : State → Abstract → Prop}
    (matched : ∀ {state next : State} {action : Action} {other : Abstract}, Related state other →
      machine.step state action = some next →
        ∃ actions after, abstract.run other actions = some after ∧ Related next after)
    {state final : State} {actions : List Action} {other : Abstract} (start : Related state other)
    (execution : machine.run state actions = some final) :
    ∃ matching after, abstract.run other matching = some after ∧ Related final after := by
  induction actions generalizing state other with
  | nil =>
      obtain rfl : state = final := by simpa using execution
      exact ⟨[], other, rfl, start⟩
  | cons action actions induction =>
      obtain ⟨next, step, rest⟩ := machine.run_cons_eq_some.mp execution
      obtain ⟨early, middle, matching, related⟩ := matched start step
      obtain ⟨late, after, later, end_related⟩ := induction related rest
      exact ⟨early ++ late, after, (abstract.run_append matching late).trans later, end_related⟩

/-- A machine whose every step another takes with it is followed by the other through every run. -/
theorem run_lockstep {Other : Type*} {other : Machine Other Action}
    {Related : State → Other → Prop}
    (matched : ∀ {state next : State} {action : Action} {here : Other}, Related state here →
      machine.step state action = some next →
        ∃ after, other.step here action = some after ∧ Related next after)
    {state final : State} {actions : List Action} {here : Other} (start : Related state here)
    (execution : machine.run state actions = some final) :
    ∃ after, other.run here actions = some after ∧ Related final after := by
  induction actions generalizing state here with
  | nil =>
      obtain rfl : state = final := by simpa using execution
      exact ⟨here, rfl, start⟩
  | cons action actions induction =>
      obtain ⟨next, step, rest⟩ := machine.run_cons_eq_some.mp execution
      obtain ⟨middle, taken, related⟩ := matched start step
      obtain ⟨after, later, end_related⟩ := induction related rest
      exact ⟨after, other.run_cons_eq_some.mpr ⟨middle, taken, later⟩, end_related⟩

/-- A property preserved by the good steps reaches the end of every run made of good steps. -/
theorem run_invariant_along {Good : State → Action → Prop} {Invariant : State → Prop}
    (preserved : ∀ {state next : State} {action : Action}, Invariant state → Good state action →
      machine.step state action = some next → Invariant next)
    {state final : State} {actions : List Action} (start : Invariant state)
    (good : machine.Along Good state actions)
    (execution : machine.run state actions = some final) : Invariant final := by
  induction actions generalizing state with
  | nil =>
      obtain rfl : state = final := by simpa using execution
      exact start
  | cons action actions induction =>
      obtain ⟨next, step, rest⟩ := machine.run_cons_eq_some.mp execution
      exact induction (preserved start good.1 step) (good.2 next step) rest

/-- What the good steps imply under an invariant they keep holds along every run made of them. -/
theorem along_of_along {Good Holds : State → Action → Prop} {Invariant : State → Prop}
    (kept : ∀ {state next : State} {action : Action}, Invariant state → Good state action →
      machine.step state action = some next → Invariant next)
    (holds : ∀ {state : State} {action : Action}, Invariant state → Good state action →
      Holds state action)
    {state : State} {actions : List Action} (start : Invariant state)
    (good : machine.Along Good state actions) : machine.Along Holds state actions := by
  induction actions generalizing state with
  | nil => trivial
  | cons action actions induction =>
      refine ⟨holds start good.1, fun next step => ?_⟩
      exact induction (kept start good.1 step) (good.2 next step)

/-- Two step properties hold along the same runs if they agree under an invariant which the second
keeps, for actions which the environment is relied on to take. -/
theorem along_iff_along {Left Right : State → Action → Prop} {Invariant : State → Prop}
    {Relied : Action → Prop}
    (kept : ∀ {state next : State} {action : Action}, Invariant state → Relied action →
      Right state action → machine.step state action = some next → Invariant next)
    (agree : ∀ {state : State} {action : Action}, Invariant state → Relied action →
      (Left state action ↔ Right state action))
    {state : State} {actions : List Action} (start : Invariant state)
    (relied : ∀ action ∈ actions, Relied action) :
    machine.Along Left state actions ↔ machine.Along Right state actions := by
  induction actions generalizing state with
  | nil => exact Iff.rfl
  | cons action actions induction =>
      have first : Relied action := relied action List.mem_cons_self
      have others : ∀ other ∈ actions, Relied other :=
        fun other among => relied other (List.mem_cons_of_mem action among)
      refine (and_congr_left' (agree start first)).trans (and_congr_right fun right => ?_)
      refine forall_congr' fun next => forall_congr' fun step => ?_
      exact induction (kept start first right step) others

/-- The exactness rule: a run ends well precisely when none of its steps is a losing one, where
the good steps keep the invariant and a loss is never repaired. -/
theorem run_iff_along {Good : State → Action → Prop} {Invariant Lost : State → Prop}
    (kept : ∀ {state next : State} {action : Action}, Invariant state → Good state action →
      machine.step state action = some next → Invariant next)
    (loses : ∀ {state next : State} {action : Action}, Invariant state → ¬Good state action →
      machine.step state action = some next → Lost next)
    (unrepaired : ∀ {state next : State} {action : Action}, Lost state →
      machine.step state action = some next → Lost next)
    (exclusive : ∀ {state : State}, Invariant state → ¬Lost state)
    {state final : State} {actions : List Action} (start : Invariant state)
    (execution : machine.run state actions = some final) :
    Invariant final ↔ machine.Along Good state actions := by
  constructor
  · intro final_kept
    induction actions generalizing state with
    | nil => trivial
    | cons action actions induction =>
        obtain ⟨next, step, rest⟩ := machine.run_cons_eq_some.mp execution
        have good : Good state action := by
          by_contra bad
          have final_lost : Lost final := run_invariant unrepaired (loses start bad step) rest
          exact exclusive final_kept final_lost
        refine ⟨good, fun other other_step => ?_⟩
        obtain rfl : next = other := Option.some.inj (step.symm.trans other_step)
        exact induction (kept start good step) rest
  · intro good
    exact run_invariant_along kept start good execution

theorem throughout_of_invariant {Invariant Holds : State → Prop}
    (preserved : ∀ {state next : State} {action : Action}, Invariant state →
      machine.step state action = some next → Invariant next)
    (holds : ∀ {state : State}, Invariant state → Holds state)
    {state : State} {actions : List Action} (start : Invariant state) :
    machine.Throughout Holds state actions := by
  induction actions generalizing state with
  | nil => exact holds start
  | cons action actions induction =>
      exact ⟨holds start, fun next step => induction (preserved start step)⟩

/-- What an invariant of the good steps implies holds throughout every run made of good steps. -/
theorem throughout_of_along {Good : State → Action → Prop} {Invariant Holds : State → Prop}
    (kept : ∀ {state next : State} {action : Action}, Invariant state → Good state action →
      machine.step state action = some next → Invariant next)
    (holds : ∀ {state : State}, Invariant state → Holds state)
    {state : State} {actions : List Action} (start : Invariant state)
    (good : machine.Along Good state actions) : machine.Throughout Holds state actions := by
  induction actions generalizing state with
  | nil => exact holds start
  | cons action actions induction =>
      refine ⟨holds start, fun next step => ?_⟩
      exact induction (kept start good.1 step) (good.2 next step)

theorem along_of_invariant {Good : State → Action → Prop} {Invariant : State → Prop}
    (preserved : ∀ {state next : State} {action : Action}, Invariant state →
      machine.step state action = some next → Invariant next)
    (good : ∀ {state : State}, Invariant state → ∀ action, Good state action)
    {state : State} {actions : List Action} (start : Invariant state) :
    machine.Along Good state actions := by
  induction actions generalizing state with
  | nil => trivial
  | cons action actions induction =>
      exact ⟨good start action, fun next step => induction (preserved start step)⟩

theorem Throughout.final {Holds : State → Prop} {state final : State} {actions : List Action}
    (throughout : machine.Throughout Holds state actions)
    (execution : machine.run state actions = some final) : Holds final := by
  induction actions generalizing state with
  | nil =>
      obtain rfl : state = final := by simpa using execution
      exact throughout
  | cons action actions induction =>
      obtain ⟨next, step, rest⟩ := machine.run_cons_eq_some.mp execution
      exact induction (throughout.2 next step) rest

/-- A state property holds throughout a run precisely when every step is good, where a good step
keeps the invariant and a bad one leaves it in a state which violates the property. -/
theorem throughout_iff_along {Good : State → Action → Prop} {Invariant Holds : State → Prop}
    (kept : ∀ {state next : State} {action : Action}, Invariant state → Good state action →
      machine.step state action = some next → Invariant next)
    (violates : ∀ {state next : State} {action : Action}, Invariant state → ¬Good state action →
      machine.step state action = some next → ¬Holds next)
    (refused : ∀ {state : State} {action : Action}, Invariant state →
      machine.step state action = none → Good state action)
    (holds : ∀ {state : State}, Invariant state → Holds state)
    {state : State} {actions : List Action} (start : Invariant state) :
    machine.Throughout Holds state actions ↔ machine.Along Good state actions := by
  induction actions generalizing state with
  | nil => exact ⟨fun _ => trivial, fun _ => holds start⟩
  | cons action actions induction =>
      cases taken : machine.step state action with
      | none =>
          constructor
          · intro _
            exact ⟨refused start taken, fun next step => by rw [taken] at step; cases step⟩
          · intro _
            exact ⟨holds start, fun next step => by rw [taken] at step; cases step⟩
      | some after =>
          constructor
          · rintro ⟨_, rest⟩
            have good : Good state action := by
              by_contra bad
              have after_holds : Holds after := by
                have visited := rest after taken
                cases actions with
                | nil => exact visited
                | cons _ _ => exact visited.1
              exact violates start bad taken after_holds
            refine ⟨good, fun next step => ?_⟩
            exact (induction (kept start good step)).mp (rest next step)
          · rintro ⟨good, rest⟩
            refine ⟨holds start, fun next step => ?_⟩
            exact (induction (kept start good step)).mpr (rest next step)

end Machine
end Souk
