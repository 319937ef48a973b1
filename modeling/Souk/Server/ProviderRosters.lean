import Souk.Server.ProviderLink

/-!
# The two roster tables of a provider link

A link remembers the names core registered for it and what their register frame declared about
interjections.  The declarations are replaced before core is called and the names after it has
answered, and a deletion touches the names alone.
-/

namespace Souk.Server.WsProvider

open Souk.Python

/-- What a roster declares about a name: its last entry counts. -/
def declares (agents : List Registration) (name : Str) : Bool :=
  ((agents.reverse.find? fun agent => agent.name = name).map (·.takesInterjections)).getD false

/-- The table `declare_interjections` builds from a roster. -/
def declarations (agents : List Registration) : List (Str × Bool) :=
  (agents.map fun agent => (agent.name, agent.takesInterjections)).reverse

/-- The two tables. -/
structure RosterTables where
  registeredNames : List Str
  interjections : List (Str × Bool)

namespace RosterTables

/-- `takes_interjections` -/
def takesInterjections (tables : RosterTables) (name : Str) : Bool :=
  (tables.interjections.lookup name).getD false

/-- A name is said to take interjections exactly if it is registered and declared so. -/
def InStep (tables : RosterTables) (accepted : List Registration) : Prop :=
  ∀ name, tables.takesInterjections name =
    (decide (name ∈ tables.registeredNames) && declares accepted name)

/-- The same names, and the same dictionary. -/
def Same (tables other : RosterTables) : Prop :=
  tables.registeredNames = other.registeredNames ∧
    ∀ name, tables.interjections.lookup name = other.interjections.lookup name

/-- The tables while a call into core is awaited. -/
def during (tables : RosterTables) : Option CoreCall → RosterTables
  | some (.registerAgents agents _) => { tables with interjections := declarations agents }
  | _ => tables

/-- The tables once core has answered a registration. -/
def afterRegistration (tables : RosterTables) : Except CoreError (List Str) → RosterTables
  | .ok registered => { tables with registeredNames := sortedNames registered }
  | .error _ => tables

/-- The tables once core has answered a deletion. -/
def afterDeletion (tables : RosterTables) (name : Str) : Except CoreError Unit → RosterTables
  | .ok () => { tables with registeredNames := tables.registeredNames.filter (· ≠ name) }
  | .error _ => tables

/-- The tables once core has answered. -/
def after (tables : RosterTables) (core : CoreReplies) : CoreCall → RosterTables
  | .registerAgents agents providerName =>
      tables.afterRegistration (core.registerAgents agents providerName)
  | .deleteAgent name => tables.afterDeletion name (core.deleteAgent name)

end RosterTables

/-- The tables of a socket. -/
def ProviderSocket.tables (socket : ProviderSocket) : RosterTables :=
  ⟨socket.registeredNames, socket.interjections⟩

/-- A link, with the roster core accepted last and the tables before the last frame. -/
structure RosterLink where
  link : ProviderLink
  accepted : List Registration
  before : RosterTables

namespace RosterLink

/-- The tables of the link. -/
def tables (state : RosterLink) : RosterTables := state.link.socket.tables

/-- The roster core has accepted last, once it has answered. -/
def acceptedAfter (state : RosterLink) (core : CoreReplies) : List Registration :=
  match state.link.loop with
  | .awaiting (.registerAgents agents providerName) =>
      match core.registerAgents agents providerName with
      | .ok _ => agents
      | .error _ => state.accepted
  | _ => state.accepted

/-- One step of the link. -/
def step (contract : Contract) (limits : Json.Limits) (state : RosterLink) (action : Action) :
    Option RosterLink :=
  (ProviderLink.step contract limits state.link action).map fun link =>
    match action with
    | .receive _ _ => { state with link, before := state.tables }
    | .answer core => { state with link, accepted := state.acceptedAfter core }
    | _ => { state with link }

/-- Links with their rosters as a machine. -/
def machine (contract : Contract) (limits : Json.Limits) : Machine RosterLink Action where
  step := step contract limits

/-- The link when its welcome has been queued. -/
def opened (publicKey funduqPublicKey answer : Str) (record : Record) : RosterLink where
  link := .opened publicKey funduqPublicKey answer record
  accepted := []
  before := ⟨[], []⟩

/-- Between two frames, and during a deletion, the tables are in step; during a registration they
answer from its roster. -/
def InStep (state : RosterLink) : Prop :=
  match state.link.loop with
  | .receiving | .awaiting (.deleteAgent _) => state.tables.InStep state.accepted
  | .awaiting (.registerAgents agents _) =>
      ∀ name, state.tables.takesInterjections name = declares agents name
  | .ended => True

/-- The step ends a frame which is refused, or has no roster in it. -/
def Refuses (state : RosterLink) : Action → Prop
  | .receive _ _ => True
  | .answer core =>
      match state.link.loop with
      | .awaiting (.registerAgents agents providerName) =>
          ∃ error, core.registerAgents agents providerName = .error error
      | .awaiting (.deleteAgent name) => ∃ error, core.deleteAgent name = .error error
      | _ => False
  | _ => False

/-- The claim about one step: the tables are in step behind it, and as before if it refuses. -/
def StaysInStep (contract : Contract) (limits : Json.Limits) (state : RosterLink)
    (action : Action) : Prop :=
  ∀ next, step contract limits state action = some next →
    next.InStep ∧
      (state.Refuses action → next.link.loop = .receiving → next.tables.Same next.before)

/-- A roster which core refuses declares what is in force, and a name which core deletes is not
declared to take interjections. -/
def Unchanging (state : RosterLink) : Action → Prop
  | .answer core =>
      match state.link.loop with
      | .awaiting (.registerAgents agents providerName) =>
          ∀ error, core.registerAgents agents providerName = .error error → ∀ name,
            (declarations agents).lookup name = state.before.interjections.lookup name
      | .awaiting (.deleteAgent name) =>
          core.deleteAgent name = .ok () → state.before.takesInterjections name = false
      | _ => True
  | _ => True

end RosterLink

/-- Core registers the names of the roster it is given, if it does not refuse. -/
def Registers : Action → Prop
  | .answer core => ∀ agents providerName registered,
      core.registerAgents agents providerName = .ok registered →
        ∀ name, name ∈ registered ↔ name ∈ agents.map Registration.name
  | _ => True

/-! ## The tables and one frame -/

theorem lookup_map (agents : List Registration) (name : Str) :
    ((agents.map fun agent => (agent.name, agent.takesInterjections)).lookup name) =
      (agents.find? fun agent => agent.name = name).map (·.takesInterjections) := by
  induction agents with
  | nil => rfl
  | cons agent agents induction =>
      by_cases same : agent.name = name
      · subst same
        simp
      · have other : (name == agent.name) = false := by simpa using fun equal => same equal.symm
        simp [List.lookup_cons, other, same, induction]

theorem getD_lookup_declarations (agents : List Registration) (name : Str) :
    ((declarations agents).lookup name).getD false = declares agents name := by
  rw [declarations, ← List.map_reverse, lookup_map, declares]

theorem mem_of_declares {agents : List Registration} {name : Str}
    (declared : declares agents name = true) : name ∈ agents.map Registration.name := by
  rw [declares] at declared
  cases found : agents.reverse.find? fun agent => agent.name = name with
  | none => simp [found] at declared
  | some agent =>
      have named : agent.name = name := by simpa using List.find?_some found
      exact List.mem_map.mpr ⟨agent, List.mem_reverse.mp (List.mem_of_find?_eq_some found), named⟩

namespace ProviderSocket

variable {contract : Contract} {core : CoreReplies} {socket next : ProviderSocket}

/-- Up to its await a frame replaces the declarations if it is a register frame core will see. -/
theorem tables_receive {limits : Json.Limits} {message : RawMessage} {call : Option CoreCall}
    (taken : socket.receive contract limits core message = .ok (next, call)) :
    next.tables = socket.tables.during call := by
  cases received_of_receive taken <;> rfl

theorem tables_onDeleted {name : Str} {reply : Except CoreError Unit}
    (taken : socket.onDeleted name reply = .ok next) :
    next.tables = socket.tables.afterDeletion name reply := by
  rcases reply with (message | message) | answered
  · obtain rfl := Except.ok.inj taken
    rfl
  · cases taken
  · obtain rfl := Except.ok.inj taken
    rfl

/-- Behind its await it replaces the names, or takes one out, if core has not refused. -/
theorem tables_resume {call : CoreCall} (taken : socket.resume core (some call) = .ok next) :
    next.tables = socket.tables.after core call := by
  cases call with
  | registerAgents agents providerName =>
      obtain rfl := Except.ok.inj taken
      rw [RosterTables.after]
      cases core.registerAgents agents providerName <;> rfl
  | deleteAgent name => exact tables_onDeleted taken

end ProviderSocket

/-! ## The tables and one step -/

namespace ProviderLink

variable {contract : Contract} {limits : Json.Limits} {link next : ProviderLink} {action : Action}

/-- What a step does to the tables and to the read loop. -/
inductive Turn (link : ProviderLink) : Action → ProviderLink → Prop
  | received {message : RawMessage} {core : CoreReplies} {next : ProviderLink}
      (call : Option CoreCall) (receiving : link.loop = .receiving)
      (tables : next.socket.tables = link.socket.tables.during call)
      (loop : next.loop = call.elim .receiving .awaiting) : Turn link (.receive message core) next
  | answered {core : CoreReplies} {next : ProviderLink} (call : CoreCall)
      (awaiting : link.loop = .awaiting call)
      (tables : next.socket.tables = link.socket.tables.after core call)
      (loop : next.loop = .receiving) : Turn link (.answer core) next
  | left {action : Action} {next : ProviderLink} (ended : next.loop = .ended) :
      Turn link action next
  | aside {action : Action} {next : ProviderLink} (answers : ∀ core, action ≠ .answer core)
      (receives : ∀ message core, action ≠ .receive message core)
      (tables : next.socket.tables = link.socket.tables) (loop : next.loop = link.loop) :
      Turn link action next

theorem aside_runQuery (index : Nat) (task : QueryTask) :
    (link.runQuery index task).socket.tables = link.socket.tables ∧
      (link.runQuery index task).loop = link.loop := by
  refine ⟨?_, rfl⟩
  simp only [runQuery]
  cases (task.advance link.record link.socket.publicKey).2 <;> rfl

theorem turn_of_aside (aside : action.IsAside)
    (tables : next.socket.tables = link.socket.tables) (loop : next.loop = link.loop) :
    Turn link action next := by
  refine .aside ?_ ?_ tables loop
  · rintro core rfl
    exact aside
  · rintro message core rfl
    exact aside

theorem turn_of_step (taken : step contract limits link action = some next) :
    Turn link action next := by
  cases moves_of_step taken with
  | left => exact .left rfl
  | received receiving received =>
      exact .received none receiving (ProviderSocket.tables_receive received) receiving
  | @called _ _ _ call receiving received =>
      exact .received (some call) receiving (ProviderSocket.tables_receive received) rfl
  | @answered _ call _ awaiting resumed =>
      exact .answered call awaiting (ProviderSocket.tables_resume resumed) rfl
  | @queried index task =>
      obtain ⟨tables, loop⟩ := @aside_runQuery link index task
      exact turn_of_aside trivial tables loop
  | raised | wrote => exact turn_of_aside trivial rfl rfl
  | sent aside | silenced aside | aside aside => exact turn_of_aside aside rfl rfl

end ProviderLink

namespace RosterLink

variable {contract : Contract} {limits : Json.Limits} {state next : RosterLink} {action : Action}

/-- What a step does to the tables, the read loop and the rosters. -/
inductive Turn (state : RosterLink) : Action → RosterLink → Prop
  | received {message : RawMessage} {core : CoreReplies} {next : RosterLink}
      (call : Option CoreCall) (receiving : state.link.loop = .receiving)
      (tables : next.tables = state.tables.during call)
      (loop : next.link.loop = call.elim .receiving .awaiting)
      (accepted : next.accepted = state.accepted) (before : next.before = state.tables) :
      Turn state (.receive message core) next
  | answered {core : CoreReplies} {next : RosterLink} (call : CoreCall)
      (awaiting : state.link.loop = .awaiting call)
      (tables : next.tables = state.tables.after core call) (loop : next.link.loop = .receiving)
      (accepted : next.accepted = state.acceptedAfter core) (before : next.before = state.before) :
      Turn state (.answer core) next
  | left {action : Action} {next : RosterLink} (ended : next.link.loop = .ended) :
      Turn state action next
  | aside {action : Action} {next : RosterLink} (answers : ∀ core, action ≠ .answer core)
      (receives : ∀ message core, action ≠ .receive message core)
      (tables : next.tables = state.tables) (loop : next.link.loop = state.link.loop)
      (accepted : next.accepted = state.accepted) (before : next.before = state.before) :
      Turn state action next

theorem turn_of_step (taken : step contract limits state action = some next) :
    Turn state action next := by
  obtain ⟨link, moved, rfl⟩ := Option.map_eq_some_iff.mp taken
  cases ProviderLink.turn_of_step moved with
  | received call receiving tables loop => exact .received call receiving tables loop rfl rfl
  | answered call awaiting tables loop => exact .answered call awaiting tables loop rfl rfl
  | left ended =>
      refine .left ?_
      cases action <;> exact ended
  | aside answers receives tables loop =>
      cases action with
      | receive message core => exact absurd rfl (receives message core)
      | answer core => exact absurd rfl (answers core)
      | cancelHandler | goLive | goOffline | deliver | cancelRun | query | queryRaises | watch
        | watchRaises | write | writeFails | recordChanges =>
          exact .aside answers receives tables loop rfl rfl

/-- The state between and during frames, as long as the tables have stayed in step. -/
def Settled (state : RosterLink) : Prop :=
  match state.link.loop with
  | .receiving => state.tables.InStep state.accepted
  | .awaiting call =>
      state.before.InStep state.accepted ∧ state.tables = state.before.during (some call)
  | .ended => True

theorem settled_of_receiving (receiving : state.link.loop = .receiving) :
    state.Settled ↔ state.tables.InStep state.accepted := by
  simp only [Settled, receiving]

theorem settled_of_awaiting {call : CoreCall} (awaiting : state.link.loop = .awaiting call) :
    state.Settled ↔ state.before.InStep state.accepted ∧
      state.tables = state.before.during (some call) := by
  simp only [Settled, awaiting]

theorem takesInterjections_during (tables : RosterTables) (agents : List Registration)
    (providerName : Value) (name : Str) :
    (tables.during (some (.registerAgents agents providerName))).takesInterjections name =
      declares agents name :=
  getD_lookup_declarations agents name

/-- Where the tables have stayed in step, they answer as they should. -/
theorem Settled.inStep (settled : state.Settled) : state.InStep := by
  rw [InStep]
  cases loop : state.link.loop with
  | receiving => exact (settled_of_receiving loop).mp settled
  | ended => trivial
  | awaiting call =>
      obtain ⟨inStep, tables⟩ := (settled_of_awaiting loop).mp settled
      cases call with
      | deleteAgent name => exact tables ▸ inStep
      | registerAgents agents providerName =>
          intro name
          rw [tables, takesInterjections_during]

theorem same_refl (tables : RosterTables) : tables.Same tables := ⟨rfl, fun _ => rfl⟩

theorem takesInterjections_congr {tables other : RosterTables} (same : tables.Same other)
    (name : Str) : tables.takesInterjections name = other.takesInterjections name := by
  rw [RosterTables.takesInterjections, RosterTables.takesInterjections, same.2]

/-! ### What core answers -/

/-- The names core has registered are those of the roster, and so are the declarations. -/
theorem inStep_registered {agents : List Registration} {providerName : Value}
    {registered : List Str}
    (roster : ∀ name, name ∈ registered ↔ name ∈ agents.map Registration.name)
    (before : RosterTables) :
    ((before.during (some (.registerAgents agents providerName))).afterRegistration
      (.ok registered)).InStep agents := by
  intro name
  have sorted : name ∈ sortedNames registered ↔ name ∈ agents.map Registration.name :=
    (List.mem_insertionSort _).trans (roster name)
  have taken := takesInterjections_during before agents providerName name
  change (before.during _).takesInterjections name = (decide (name ∈ sortedNames registered) && _)
  rw [taken]
  cases declared : declares agents name with
  | false => rw [Bool.and_false]
  | true => rw [Bool.and_true, decide_eq_true (sorted.mpr (mem_of_declares declared))]

/-- A deletion takes the name out of one table, which is enough if the other does not have it. -/
theorem inStep_deleted_iff {tables : RosterTables} {accepted : List Registration}
    (inStep : tables.InStep accepted) (name : Str) :
    (tables.afterDeletion name (.ok ())).InStep accepted ↔
      tables.takesInterjections name = false := by
  have registered (other : Str) : other ∈ (tables.afterDeletion name (.ok ())).registeredNames ↔
      other ∈ tables.registeredNames ∧ other ≠ name := by
    simp [RosterTables.afterDeletion]
  constructor
  · intro after
    have taken := after name
    rw [decide_eq_false (by simp [registered]), Bool.false_and] at taken
    exact taken
  · intro undeclared other
    change tables.takesInterjections other = _
    by_cases same : other = name
    · rw [same, undeclared, decide_eq_false (by simp [registered]), Bool.false_and]
    · rw [inStep other]
      simp [registered, same]

/-- A refused roster leaves the tables in step if it declares what was declared. -/
theorem same_refused_iff {before : RosterTables} {agents : List Registration}
    {providerName : Value} :
    (before.during (some (.registerAgents agents providerName))).Same before ↔
      ∀ name, (declarations agents).lookup name = before.interjections.lookup name :=
  ⟨And.right, fun same => ⟨rfl, same⟩⟩

theorem inStep_of_same {tables other : RosterTables} {accepted : List Registration}
    (same : tables.Same other) (inStep : other.InStep accepted) : tables.InStep accepted := by
  intro name
  rw [takesInterjections_congr same, inStep name, same.1]

theorem inStep_of_receiving (receiving : state.link.loop = .receiving) :
    state.InStep ↔ state.tables.InStep state.accepted := by
  simp only [InStep, receiving]

/-- Behind an answer of core the tables are in step, and as before if core has refused, exactly when
the answer was one which changes nothing it should not. -/
theorem answered_iff {core : CoreReplies} {call : CoreCall} (settled : state.Settled)
    (relied : Registers (.answer core)) (awaiting : state.link.loop = .awaiting call)
    (tables : next.tables = state.tables.after core call)
    (accepted : next.accepted = state.acceptedAfter core) (before : next.before = state.before) :
    (next.tables.InStep next.accepted ∧
        (state.Refuses (.answer core) → next.tables.Same next.before)) ↔
      state.Unchanging (.answer core) := by
  obtain ⟨inStep, started⟩ := (settled_of_awaiting awaiting).mp settled
  rw [started] at tables
  simp only [acceptedAfter, awaiting] at accepted
  simp only [Refuses, Unchanging, awaiting]
  cases call with
  | registerAgents agents providerName =>
      simp only [RosterTables.after] at tables
      cases reply : core.registerAgents agents providerName with
      | ok registered =>
          simp only [reply] at tables accepted
          have roster := @inStep_registered agents providerName registered
            (relied agents providerName registered reply) state.before
          rw [tables, accepted]
          simpa [reply] using roster
      | error error =>
          simp only [reply] at tables accepted
          have same : next.tables.Same next.before ↔
              ∀ name, (declarations agents).lookup name =
                state.before.interjections.lookup name := by
            rw [tables, before]
            exact @same_refused_iff state.before agents providerName
          constructor
          · rintro ⟨_, kept⟩ _ _
            exact same.mp (kept ⟨error, reply⟩)
          · intro unchanging
            have kept := same.mpr (unchanging error reply)
            refine ⟨?_, fun _ => kept⟩
            rw [accepted]
            exact inStep_of_same kept (before ▸ inStep)
  | deleteAgent name =>
      simp only [RosterTables.after] at tables
      cases reply : core.deleteAgent name with
      | ok answered =>
          simp only [reply] at tables
          have deleted : next.tables = state.before.afterDeletion name (.ok ()) := tables
          rw [deleted, accepted]
          simpa [reply] using inStep_deleted_iff inStep name
      | error error =>
          simp only [reply] at tables
          have same : next.tables = state.before := tables
          rw [same, accepted, before]
          simpa [reply] using ⟨inStep, same_refl state.before⟩

/-- Core's answer to a registration, and its consent to a deletion, are taken. -/
theorem step_answer {core : CoreReplies} {call : CoreCall} {socket : ProviderSocket}
    (awaiting : state.link.loop = .awaiting call)
    (resumed : state.link.socket.resume core (some call) = .ok socket) :
    ∃ next, step contract limits state (.answer core) = some next ∧
      next.link.loop = .receiving := by
  have moved : ProviderLink.step contract limits state.link (.answer core) =
      some { state.link with socket, loop := .receiving } := by
    simp only [ProviderLink.step, awaiting, resumed]
  exact ⟨_, by rw [step, moved, Option.map_some], rfl⟩

/-- Where a step does not stay in step, it can be taken. -/
theorem step_answer_of_changing {core : CoreReplies} {call : CoreCall}
    (awaiting : state.link.loop = .awaiting call) (changing : ¬state.Unchanging (.answer core)) :
    ∃ next, step contract limits state (.answer core) = some next ∧
      next.link.loop = .receiving := by
  cases call with
  | registerAgents agents providerName => exact step_answer awaiting rfl
  | deleteAgent name =>
      simp only [Unchanging, awaiting, not_forall] at changing
      obtain ⟨deleted, _⟩ := changing
      have resumed : state.link.socket.resume core (some (.deleteAgent name)) =
          state.link.socket.onDeleted name (.ok ()) := by rw [ProviderSocket.resume, deleted]
      exact step_answer awaiting (resumed.trans rfl)

theorem Settled.step (settled : state.Settled) (relied : Registers action)
    (unchanging : state.Unchanging action)
    (taken : RosterLink.step contract limits state action = some next) : next.Settled := by
  cases turn_of_step taken with
  | received call receiving tables loop accepted before =>
      have inStep := (settled_of_receiving receiving).mp settled
      cases call with
      | none =>
          rw [settled_of_receiving loop, tables, accepted]
          exact inStep
      | some call =>
          rw [settled_of_awaiting loop, before, accepted]
          exact ⟨inStep, tables⟩
  | answered call awaiting tables loop accepted before =>
      rw [settled_of_receiving loop]
      exact ((answered_iff settled relied awaiting tables accepted before).mpr unchanging).1
  | left ended =>
      rw [Settled, ended]
      trivial
  | aside answers receives tables loop accepted before =>
      simpa only [Settled, tables, loop, accepted, before] using settled

/-- A frame which is refused leaves the tables as they were. -/
theorem same_of_refuses (settled : state.Settled) (relied : Registers action)
    (unchanging : state.Unchanging action)
    (taken : RosterLink.step contract limits state action = some next)
    (refuses : state.Refuses action) (receiving : next.link.loop = .receiving) :
    next.tables.Same next.before := by
  cases turn_of_step taken with
  | received call _ tables loop accepted before =>
      cases call with
      | none =>
          rw [tables, before]
          exact same_refl state.tables
      | some call => cases loop.symm.trans receiving
  | answered call awaiting tables loop accepted before =>
      exact ((answered_iff settled relied awaiting tables accepted before).mpr unchanging).2 refuses
  | left ended => cases receiving.symm.trans ended
  | aside answers receives =>
      cases action with
      | receive message core => exact absurd rfl (receives message core)
      | answer core => exact absurd rfl (answers core)
      | cancelHandler | goLive | goOffline | deliver | cancelRun | query | queryRaises | watch
        | watchRaises | write | writeFails | recordChanges => exact refuses.elim

theorem unchanging_of_staysInStep (settled : state.Settled) (relied : Registers action)
    (stays : StaysInStep contract limits state action) : state.Unchanging action := by
  by_contra changing
  cases action with
  | answer core =>
      cases loop : state.link.loop with
      | awaiting call =>
          obtain ⟨next, taken, receiving⟩ :=
            @step_answer_of_changing contract limits _ _ _ loop changing
          obtain ⟨inStep, kept⟩ := stays next taken
          have afterwards := (inStep_of_receiving receiving).mp inStep
          cases turn_of_step taken with
          | answered other awaiting tables _ accepted before =>
              obtain rfl := ReadLoop.awaiting.inj (loop.symm.trans awaiting)
              refine changing ((answered_iff settled relied awaiting tables accepted before).mp ?_)
              exact ⟨afterwards, fun refuses => kept refuses receiving⟩
          | left ended => cases receiving.symm.trans ended
          | aside answers => exact answers core rfl
      | receiving | ended => exact changing (by simp [Unchanging, loop])
  | receive | cancelHandler | goLive | goOffline | deliver | cancelRun | query | queryRaises | watch
    | watchRaises | write | writeFails | recordChanges => exact changing trivial

theorem staysInStep_iff (settled : state.Settled) (relied : Registers action) :
    StaysInStep contract limits state action ↔ state.Unchanging action := by
  constructor
  · exact unchanging_of_staysInStep settled relied
  · intro unchanging next taken
    exact ⟨(settled.step relied unchanging taken).inStep,
      same_of_refuses settled relied unchanging taken⟩

theorem settled_opened (publicKey funduqPublicKey answer : Str) (record : Record) :
    (opened publicKey funduqPublicKey answer record).Settled := by
  intro name
  rfl

/-- Along a run of a link the tables stay in step, and refused frames leave them as they were,
exactly when every roster which core refuses declares what is in force and no name which core
deletes is declared to take interjections. -/
theorem tables_in_step_iff (contract : Contract) (limits : Json.Limits)
    (publicKey funduqPublicKey answer : Str) (record : Record) {actions : List Action}
    (relied : ∀ action ∈ actions, Registers action) :
    (machine contract limits).Along (StaysInStep contract limits)
        (opened publicKey funduqPublicKey answer record) actions ↔
      (machine contract limits).Along Unchanging
        (opened publicKey funduqPublicKey answer record) actions :=
  @Machine.along_iff_along _ _ (machine contract limits) _ _ Settled Registers
    (fun settled relied unchanging taken => settled.step relied unchanging taken)
    staysInStep_iff _ _ (settled_opened publicKey funduqPublicKey answer record) relied

/-! A register frame which declares that its agent takes interjections. -/

/-- The frame `{"type": "register", "agents": [{"name": "a", "takesInterjections": true}]}`. -/
def declaringFrame : Str :=
  "\x7b\"type\": \"register\", \"agents\": [\x7b\"name\": \"a\", \"takesInterjections\": true\x7d]\x7d"

/-- A contract which reads the declaration. -/
def declaringContract : Contract :=
  { plainContract with
    registration := fun fields =>
      .ok ⟨(Dict.get fields "name").asStr?.getD [], (Dict.get fields "takesInterjections").truthy,
        fields⟩ }

/-- A core which takes no roster. -/
def refusingCore : CoreReplies :=
  { plainCore with
    registerAgents := fun _ _ => .error (.funduq "the agent belongs to another key") }

def linkOpened : RosterLink := opened "k" "f" "s" emptyRecord

/-- The frame is read, and core answers. -/
def registration (core : CoreReplies) : List Action :=
  [.receive (.text declaringFrame) core, .answer core]

theorem registers_plainCore : ∀ action ∈ registration plainCore, Registers action := by
  intro action among
  rcases List.mem_cons.mp among with rfl | last
  · trivial
  · obtain rfl := List.mem_singleton.mp last
    intro agents providerName registered reply
    obtain rfl := Except.ok.inj reply
    exact fun name => Iff.rfl

theorem accepted_roster_in_step_iff :
    (∀ action ∈ registration plainCore, Registers action) ∧
      ((machine declaringContract Json.defaultLimits).Along
          (StaysInStep declaringContract Json.defaultLimits) linkOpened (registration plainCore) ↔
        (machine declaringContract Json.defaultLimits).Along Unchanging linkOpened
          (registration plainCore)) :=
  ⟨registers_plainCore, tables_in_step_iff declaringContract Json.defaultLimits "k" "f" "s"
    emptyRecord registers_plainCore⟩

def afterRefusal : RosterLink :=
  ((machine declaringContract Json.defaultLimits).run linkOpened (registration refusingCore)).getD
    linkOpened

theorem run_refusal :
    (machine declaringContract Json.defaultLimits).run linkOpened (registration refusingCore) =
      some afterRefusal := rfl

/-- Core has refused the roster, and its declaration is in force. -/
theorem refused_roster_declared :
    afterRefusal.tables.registeredNames = [] ∧
      afterRefusal.tables.takesInterjections "a" = true ∧
      ¬(machine declaringContract Json.defaultLimits).Along
        (StaysInStep declaringContract Json.defaultLimits) linkOpened
        (registration refusingCore) := by
  refine ⟨rfl, rfl, fun stays => ?_⟩
  obtain ⟨received, step, rest⟩ :=
    (machine declaringContract Json.defaultLimits).run_cons_eq_some.mp run_refusal
  obtain ⟨answered, taken, last⟩ :=
    (machine declaringContract Json.defaultLimits).run_cons_eq_some.mp rest
  obtain rfl : answered = afterRefusal := by simpa using last
  have inStep : afterRefusal.tables.InStep [] := ((stays.2 received step).1 afterRefusal taken).1
  have undeclared : afterRefusal.tables.takesInterjections "a" = false := inStep "a"
  cases undeclared

end RosterLink

end Souk.Server.WsProvider
