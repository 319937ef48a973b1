import Souk.Library.Duplex
import Souk.Library.Records

/-!
# A caller and the connections it opens

The caller opens connections one after the other and speaks on the last of them only.  At the other
end of each stands a party of its own, which may go on reading what its line has carried when a
later connection is in use.  Each line is one on which entries are heard in order, and which may be
cut anywhere.
-/

namespace Souk

/-- A machine which opens connections, and some of whose actions take an entry to the open one or
hear a message of it. -/
structure Caller (State Action Sent Heard : Type*) where
  machine : Machine State Action
  opens : Action → Bool
  /-- The entry which an action takes to the line. -/
  takes : State → Action → Option Sent
  /-- The message which an action hears. -/
  hears : Action → Option Heard

/-- A connection with what its two ends have made of it. -/
structure Exchange (Server Sent Back : Type*) where
  server : Server
  /-- What the caller has taken to the line. -/
  line : List Sent
  /-- What the server has heard of it. -/
  heard : List Sent
  /-- What the caller has heard of the server. -/
  read : List Back

/-- A caller with its connections, the last one first. -/
structure Reconnecting (State Server Sent Back : Type*) where
  caller : State
  connections : List (Exchange Server Sent Back)

namespace Reconnecting

/-- Who takes the next step. -/
inductive Action (CallerAction ServerAction Server Sent Back : Type*) where
  /-- The caller opens the given connection. -/
  | opens (connection : Exchange Server Sent Back) (action : CallerAction)
  | caller (action : CallerAction)
  | server (index : Nat) (action : ServerAction)

variable {State CallerAction Sent ServerHeard Server ServerAction Back CallerHeard : Type*}
  (caller : Caller State CallerAction Sent CallerHeard)
  (server : Party Server ServerAction Back ServerHeard)
  (toServer : Sent → ServerHeard → Prop) (toCaller : Back → CallerHeard → Prop)
  (Fresh : Server → Prop)

/-- What a connection is when it is opened: nothing has been said on it by the caller, which may
have heard the server. -/
structure Opened (connection : Exchange Server Sent Back) : Prop where
  line : connection.line = []
  heard : connection.heard = []
  read : connection.read <+: server.sent connection.server
  fresh : Fresh connection.server

/-- The entry goes to the last connection. -/
def carry (reconnecting : Reconnecting State Server Sent Back) (entry : Option Sent) :
    List (Exchange Server Sent Back) :=
  match reconnecting.connections with
  | [] => []
  | current :: past => { current with line := current.line ++ entry.toList } :: past

/-- The caller hears the last connection. -/
def listen (reconnecting : Reconnecting State Server Sent Back) (entry : Back) :
    List (Exchange Server Sent Back) :=
  match reconnecting.connections with
  | [] => []
  | current :: past => { current with read := current.read ++ [entry] } :: past

/-- The entry which the caller hears next. -/
def awaited (reconnecting : Reconnecting State Server Sent Back) : Option Back :=
  reconnecting.connections.head?.bind fun current =>
    (server.sent current.server)[current.read.length]?

open Classical in
/-- One step of a caller or of one of its connections. -/
noncomputable def step (reconnecting : Reconnecting State Server Sent Back) :
    Action CallerAction ServerAction Server Sent Back →
      Option (Reconnecting State Server Sent Back)
  | .opens connection action =>
      if caller.opens action = true ∧ Opened server Fresh connection then
        (caller.machine.step reconnecting.caller action).map fun next =>
          ⟨next, connection :: reconnecting.connections⟩
      else none
  | .caller action =>
      if caller.opens action = true then none
      else
        match caller.hears action with
        | none =>
            (caller.machine.step reconnecting.caller action).map fun next =>
              ⟨next, reconnecting.carry (caller.takes reconnecting.caller action)⟩
        | some message =>
            match reconnecting.awaited server with
            | none => none
            | some entry =>
                if toCaller entry message then
                  (caller.machine.step reconnecting.caller action).map fun next =>
                    ⟨next, reconnecting.listen entry⟩
                else none
  | .server index action =>
      match reconnecting.connections[index]? with
      | none => none
      | some connection =>
          (server.stepOn toServer connection.line connection.heard connection.server action).map
            fun after =>
              { reconnecting with
                connections := reconnecting.connections.set index
                  { connection with server := after.1, heard := after.2 } }

/-- A caller and its connections as a machine. -/
noncomputable def machine :
    Machine (Reconnecting State Server Sent Back)
      (Action CallerAction ServerAction Server Sent Back) where
  step := step caller server toServer toCaller Fresh

/-- Everything a step can do. -/
inductive Moves (reconnecting : Reconnecting State Server Sent Back) :
    Action CallerAction ServerAction Server Sent Back →
      Reconnecting State Server Sent Back → Prop
  | opened {connection : Exchange Server Sent Back} {action : CallerAction} {next : State}
      (opens : caller.opens action = true) (opened : Opened server Fresh connection)
      (taken : caller.machine.step reconnecting.caller action = some next) :
      Moves reconnecting (.opens connection action)
        ⟨next, connection :: reconnecting.connections⟩
  | acted {action : CallerAction} {next : State} (stays : caller.opens action = false)
      (quiet : caller.hears action = none)
      (taken : caller.machine.step reconnecting.caller action = some next) :
      Moves reconnecting (.caller action)
        ⟨next, reconnecting.carry (caller.takes reconnecting.caller action)⟩
  | heard {action : CallerAction} {next : State} {message : CallerHeard} {entry : Back}
      (stays : caller.opens action = false) (hearing : caller.hears action = some message)
      (awaited : reconnecting.awaited server = some entry) (carried : toCaller entry message)
      (taken : caller.machine.step reconnecting.caller action = some next) :
      Moves reconnecting (.caller action) ⟨next, reconnecting.listen entry⟩
  | served {index : Nat} {connection : Exchange Server Sent Back} {action : ServerAction}
      {next : Server} {heard : List Sent}
      (found : reconnecting.connections[index]? = some connection)
      (moves : server.Moves toServer connection.line connection.heard connection.server action
        next heard) :
      Moves reconnecting (.server index action)
        { reconnecting with
          connections := reconnecting.connections.set index
            { connection with server := next, heard } }

variable {caller server toServer toCaller Fresh}
  {reconnecting next : Reconnecting State Server Sent Back}

/-- The one case analysis of a step. -/
theorem moves_of_step {action : Action CallerAction ServerAction Server Sent Back}
    (taken : (machine caller server toServer toCaller Fresh).step reconnecting action =
      some next) :
    reconnecting.Moves caller server toServer toCaller Fresh action next := by
  cases action with
  | opens connection action =>
      simp only [machine, step] at taken
      split at taken
      · rename_i opened
        obtain ⟨after, stepped, rfl⟩ := Option.map_eq_some_iff.mp taken
        exact .opened opened.1 opened.2 stepped
      · cases taken
  | caller action =>
      simp only [machine, step] at taken
      split at taken
      · cases taken
      rename_i stays
      have stays : caller.opens action = false := Bool.not_eq_true _ ▸ stays
      split at taken
      · rename_i quiet
        obtain ⟨after, stepped, rfl⟩ := Option.map_eq_some_iff.mp taken
        exact .acted stays quiet stepped
      · rename_i message hearing
        split at taken
        · cases taken
        · rename_i entry awaited
          split at taken
          · rename_i carried
            obtain ⟨after, stepped, rfl⟩ := Option.map_eq_some_iff.mp taken
            exact .heard stays hearing awaited carried stepped
          · cases taken
  | server index action =>
      simp only [machine, step] at taken
      split at taken
      · cases taken
      · rename_i connection found
        obtain ⟨⟨after, heard⟩, stepped, rfl⟩ := Option.map_eq_some_iff.mp taken
        exact .served found (Party.moves_iff_stepOn.mp stepped)

theorem step_of_moves {action : Action CallerAction ServerAction Server Sent Back}
    (moves : reconnecting.Moves caller server toServer toCaller Fresh action next) :
    (machine caller server toServer toCaller Fresh).step reconnecting action = some next := by
  cases moves with
  | opened opens opened taken =>
      simp only [machine, step, opens, opened, and_self, if_true, taken, Option.map_some]
  | acted stays quiet taken =>
      simp only [machine, step, stays, quiet, taken, Bool.false_eq_true, if_false,
        Option.map_some]
  | heard stays hearing awaited carried taken =>
      simp only [machine, step, stays, hearing, awaited, carried, taken, Bool.false_eq_true,
        if_false, if_true, Option.map_some]
  | served found moves =>
      simp only [machine, step, found, Party.moves_iff_stepOn.mpr moves, Option.map_some]

theorem run_cons_of_moves {action : Action CallerAction ServerAction Server Sent Back}
    {actions : List (Action CallerAction ServerAction Server Sent Back)}
    {final : Reconnecting State Server Sent Back}
    (moves : reconnecting.Moves caller server toServer toCaller Fresh action next)
    (rest : (machine caller server toServer toCaller Fresh).run next actions = some final) :
    (machine caller server toServer toCaller Fresh).run reconnecting (action :: actions) =
      some final :=
  (Machine.run_cons_eq_some _).mpr ⟨next, step_of_moves moves, rest⟩

/-! ## What carrying and hearing change -/

@[simp] theorem carry_none : reconnecting.carry none = reconnecting.connections := by
  unfold carry
  split
  · rename_i closed
    exact closed.symm
  · rename_i opened
    rw [opened, Option.toList_none, List.append_nil]

theorem carry_ne_nil {entry : Option Sent} (opened : reconnecting.connections ≠ []) :
    reconnecting.carry entry ≠ [] := by
  obtain ⟨current, past, shape⟩ := List.exists_cons_of_ne_nil opened
  rw [carry, shape]
  exact List.cons_ne_nil _ _

/-- What the connections have carried, in order. -/
def lines (reconnecting : Reconnecting State Server Sent Back) : List Sent :=
  reconnecting.connections.reverse.flatMap Exchange.line

theorem lines_carry {after : State} {entry : Option Sent}
    (opened : ∀ taken ∈ entry, reconnecting.connections ≠ []) :
    (Reconnecting.mk after (reconnecting.carry entry)).lines =
      reconnecting.lines ++ entry.toList := by
  cases entry with
  | none => simp [lines]
  | some entry =>
      obtain ⟨current, past, shape⟩ := List.exists_cons_of_ne_nil (opened entry rfl)
      simp only [lines, carry, shape, List.reverse_cons, List.flatMap_append,
        List.flatMap_singleton, List.append_assoc]

theorem lines_listen {after : State} (entry : Back) :
    (Reconnecting.mk after (reconnecting.listen entry)).lines = reconnecting.lines := by
  unfold lines listen
  split
  · rename_i closed
    rw [closed]
  · rename_i opened
    rw [opened, List.reverse_cons, List.reverse_cons, List.flatMap_append, List.flatMap_append,
      List.flatMap_singleton, List.flatMap_singleton]

theorem listen_ne_nil {entry : Back} (opened : reconnecting.connections ≠ []) :
    reconnecting.listen entry ≠ [] := by
  obtain ⟨current, past, shape⟩ := List.exists_cons_of_ne_nil opened
  rw [listen, shape]
  exact List.cons_ne_nil _ _

theorem lines_served {index : Nat} {connection : Exchange Server Sent Back} {server : Server}
    {heard : List Sent} (found : reconnecting.connections[index]? = some connection) :
    Reconnecting.lines { reconnecting with
      connections := reconnecting.connections.set index { connection with server, heard } } =
      reconnecting.lines := by
  have unchanged : (reconnecting.connections.set index { connection with server, heard }).map
      Exchange.line = reconnecting.connections.map Exchange.line :=
    map_set_of_same found rfl
  simp only [lines, List.flatMap_def, List.map_reverse, unchanged]

/-- What the caller has heard on the connections, in order. -/
def readings (reconnecting : Reconnecting State Server Sent Back) : List Back :=
  reconnecting.connections.reverse.flatMap Exchange.read

/-! ## Rules -/

/-- A property of single connections which every step keeps. -/
structure Kept (caller : Caller State CallerAction Sent CallerHeard)
    (server : Party Server ServerAction Back ServerHeard) (toServer : Sent → ServerHeard → Prop)
    (Fresh : Server → Prop) (Holds : Exchange Server Sent Back → Prop) : Prop where
  opened : ∀ connection, Opened server Fresh connection → Holds connection
  carried : ∀ connection entry, Holds connection →
    Holds { connection with line := connection.line ++ [entry] }
  read : ∀ connection entry, Holds connection →
    (server.sent connection.server)[connection.read.length]? = some entry →
    Holds { connection with read := connection.read ++ [entry] }
  served : ∀ connection action next heard, Holds connection →
    server.Moves toServer connection.line connection.heard connection.server action next heard →
    Holds { connection with server := next, heard }

theorem forall_set {Holds : Exchange Server Sent Back → Prop} {index : Nat}
    {after : Exchange Server Sent Back}
    (every : ∀ connection ∈ reconnecting.connections, Holds connection) (holds : Holds after) :
    ∀ connection ∈ reconnecting.connections.set index after, Holds connection := by
  intro connection among
  rcases List.mem_or_eq_of_mem_set among with old | rfl
  · exact every connection old
  · exact holds

/-- Such a property holds of every connection after a step. -/
theorem Kept.step {Holds : Exchange Server Sent Back → Prop}
    {action : Action CallerAction ServerAction Server Sent Back}
    (kept : Kept caller server toServer Fresh Holds)
    (every : ∀ connection ∈ reconnecting.connections, Holds connection)
    (moves : reconnecting.Moves caller server toServer toCaller Fresh action next) :
    ∀ connection ∈ next.connections, Holds connection := by
  cases moves with
  | opened _ opened _ => exact List.forall_mem_cons.mpr ⟨kept.opened _ opened, every⟩
  | @acted action =>
      cases taking : caller.takes reconnecting.caller action with
      | none => rwa [carry_none]
      | some entry =>
          cases shape : reconnecting.connections with
          | nil => simp [carry, shape]
          | cons current past =>
              rw [shape] at every
              obtain ⟨now, before⟩ := List.forall_mem_cons.mp every
              simp only [carry, shape]
              exact List.forall_mem_cons.mpr ⟨kept.carried current entry now, before⟩
  | @heard _ _ _ entry _ _ awaited =>
      cases shape : reconnecting.connections with
      | nil => simp [listen, shape]
      | cons current past =>
          rw [shape] at every
          obtain ⟨now, before⟩ := List.forall_mem_cons.mp every
          rw [Reconnecting.awaited, shape] at awaited
          simp only [listen, shape]
          exact List.forall_mem_cons.mpr ⟨kept.read current entry now awaited, before⟩
  | served found moves =>
      exact forall_set every (kept.served _ _ _ _ (every _ (List.mem_of_getElem? found)) moves)

/-- What has been heard at either end of a connection is a beginning of what was said. -/
structure Sound (server : Party Server ServerAction Back ServerHeard)
    (connection : Exchange Server Sent Back) : Prop where
  heard : connection.heard <+: connection.line
  read : connection.read <+: server.sent connection.server

theorem kept_sound : Kept caller server toServer Fresh
    (fun connection : Exchange Server Sent Back => Sound server connection) where
  opened connection opened := by
    refine ⟨?_, opened.read⟩
    rw [opened.heard]
    exact List.nil_prefix
  carried connection entry sound := ⟨sound.heard.trans (List.prefix_append _ _), sound.read⟩
  read connection entry sound awaited := ⟨sound.heard, concat_isPrefix sound.read awaited⟩
  served connection action next heard sound moves :=
    ⟨moves.heard_isPrefix sound.heard, sound.read.trans (server.grows moves.taken)⟩

/-- What the caller has heard stays heard. -/
theorem readings_subset_of_moves {action : Action CallerAction ServerAction Server Sent Back}
    (moves : reconnecting.Moves caller server toServer toCaller Fresh action next) :
    reconnecting.readings ⊆ next.readings := by
  cases moves with
  | opened =>
      simp only [readings, List.reverse_cons, List.flatMap_append]
      exact List.subset_append_left _ _
  | acted =>
      unfold readings carry
      split
      · rename_i closed
        rw [closed]
        exact List.Subset.refl _
      · rename_i opened
        simp [opened, List.flatMap_append]
  | heard =>
      unfold readings listen
      split
      · rename_i closed
        rw [closed]
        exact List.Subset.refl _
      · rename_i opened
        rw [opened]
        simp only [List.reverse_cons, List.flatMap_append, List.flatMap_singleton,
          ← List.append_assoc]
        exact List.subset_append_left _ _
  | @served index connection _ server heard found =>
      have unchanged : (reconnecting.connections.set index { connection with server, heard }).map
          Exchange.read = reconnecting.connections.map Exchange.read :=
        map_set_of_same found rfl
      simp only [readings, List.flatMap_def, List.map_reverse, unchanged]
      exact List.Subset.refl _

/-- The entry which an action hears is among what the caller has heard. -/
theorem mem_readings_listen {after : State} {entry : Back}
    (awaited : reconnecting.awaited server = some entry) :
    entry ∈ (Reconnecting.mk after (reconnecting.listen entry)).readings := by
  cases shape : reconnecting.connections with
  | nil => simp [Reconnecting.awaited, shape] at awaited
  | cons current past => simp [readings, listen, shape]

/-- The caller's part of a step is nothing or a step of the caller. -/
theorem caller_of_moves {action : Action CallerAction ServerAction Server Sent Back}
    (moves : reconnecting.Moves caller server toServer toCaller Fresh action next) :
    next.caller = reconnecting.caller ∨
      ∃ action, caller.machine.step reconnecting.caller action = some next.caller := by
  cases moves with
  | opened _ _ taken | acted _ _ taken | heard _ _ _ _ taken => exact .inr ⟨_, taken⟩
  | served => exact .inl rfl

end Reconnecting

end Souk
