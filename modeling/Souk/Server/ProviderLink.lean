import Souk.Library.Machine
import Souk.Server.WsProvider

/-!
# A provider link and core

One `/ws/provider` connection from its welcome on, with the tasks which share it: the read loop, the
query tasks, the registration watcher and the writer.  Core runs beside them.  While the read loop
awaits `register_agents`, core may make names live and hand runs to the link; it hands runs only
to live names.
-/

namespace Souk.Server.WsProvider

open Souk.Python

/-- Where the read loop stands. -/
inductive ReadLoop where
  | receiving
  | awaiting (call : CoreCall)
  | ended

/-- Where `_watch_registration` stands. -/
inductive Watcher where
  | sleeping
  /-- Awaiting `get_agent` for the first of the names left, which core has not looked up. -/
  | asking (names : List Str) (found : Bool)
  /-- Awaiting it, while core's answer is on its way; the names left are those after it. -/
  | answered (listed : Bool) (names : List Str) (found : Bool)
  | ended

/-- The link, with core's view of it. -/
structure ProviderLink where
  socket : ProviderSocket
  loop : ReadLoop
  watcher : Watcher
  /-- The writer task has not ended. -/
  writing : Bool
  /-- The frames written to the socket. -/
  wire : List OutboundFrame
  /-- The names for which core hands runs to this link. -/
  live : List Str
  record : Record

/-- What can happen to a link. -/
inductive Action where
  /-- The read loop receives a message; core answers the calls it does not await. -/
  | receive (message : RawMessage) (core : CoreReplies)
  /-- Core answers the call which the read loop awaits. -/
  | answer (core : CoreReplies)
  /-- The handler is cancelled. -/
  | cancelHandler
  /-- Core makes a name of the awaited roster live. -/
  | goLive (name : Str)
  | goOffline (name : Str)
  /-- Core calls `deliver`. -/
  | deliver (run : DeliveredRun)
  /-- Core calls `cancel`. -/
  | cancelRun (runId : Str)
  /-- A query task runs up to its next await, with core's answer to the one it was in. -/
  | query (task : Nat)
  /-- A query task ends with an exception of core. -/
  | queryRaises (task : Nat)
  /-- The watcher runs up to its next await, or core looks up what it awaits. -/
  | watch
  /-- The watcher ends with an exception of core. -/
  | watchRaises
  /-- The writer writes the next frame. -/
  | write
  /-- The writer fails with the next frame in hand. -/
  | writeFails
  /-- The record changes. -/
  | recordChanges (record : Record)

/-- The action is none of the read loop. -/
def Action.IsAside : Action → Prop
  | .receive _ _ | .answer _ => False
  | _ => True

/-- Replace a query task. -/
def ProviderSocket.setQuery (socket : ProviderSocket) (index : Nat) (task : QueryTask) :
    ProviderSocket :=
  { socket with queries := socket.queries.set index task }

namespace ProviderLink

/-- The link when its welcome has been queued. -/
def opened (publicKey funduqPublicKey answer : Str) (record : Record) : ProviderLink where
  socket := .opened publicKey funduqPublicKey answer
  loop := .receiving
  watcher := .sleeping
  writing := true
  wire := []
  live := []
  record := record

/-- `provider.registered_names`, of which an agent is one this link serves. -/
def registeredNames (link : ProviderLink) : List Str := link.socket.registeredNames

/-- What the peer reads, in order: the frames on the wire, and those its writer goes on to write. -/
def frames (link : ProviderLink) : List OutboundFrame :=
  link.wire ++ if link.writing then link.socket.outbound else []

/-- The end of the read loop: its `finally` cancels the watcher and the writer. -/
def leave (link : ProviderLink) : ProviderLink :=
  { link with loop := .ended, watcher := .ended, writing := false }

/-- One step of the watcher, or of core towards the answer it awaits. -/
def watch (link : ProviderLink) : Option ProviderLink :=
  match link.watcher with
  | .sleeping =>
      match sortedNames link.registeredNames with
      | [] => some link
      | names => some { link with watcher := .asking names false }
  | .asking (name :: names) found =>
      let listed := link.record.listsAgent link.socket.publicKey name
      some { link with watcher := .answered listed names found }
  | .answered listed names found =>
      match names, found || listed with
      | [], true => some { link with watcher := .sleeping }
      | [], false =>
          some { link with
            watcher := .ended
            socket := link.socket.send
              (.close 1008 "funduq no longer lists these agents; re-register") }
      | names, found => some { link with watcher := .asking names found }
  | .asking [] _ | .ended => none

/-- One step of the writer, which ends at a close. -/
def write (link : ProviderLink) : Option ProviderLink :=
  match link.writing, link.socket.outbound with
  | true, .close _ _ :: rest =>
      some { link with writing := false, socket := { link.socket with outbound := rest } }
  | true, frame :: rest =>
      some { link with
        wire := link.wire ++ [frame]
        socket := { link.socket with outbound := rest } }
  | _, _ => none

/-- One step of a query task. -/
def runQuery (link : ProviderLink) (index : Nat) (task : QueryTask) : ProviderLink :=
  let (task, frame) := task.advance link.record link.socket.publicKey
  let socket := link.socket.setQuery index task
  { link with socket := frame.elim socket socket.send }

/-- One step of the link. -/
def step (contract : Contract) (limits : Json.Limits) (link : ProviderLink) :
    Action → Option ProviderLink
  | .receive message core =>
      match link.loop, message with
      | .receiving, .disconnect => some link.leave
      | .receiving, message =>
          match link.socket.receive contract limits core message with
          | .ok (socket, none) => some { link with socket }
          | .ok (socket, some call) => some { link with socket, loop := .awaiting call }
          | .error _ => some link.leave
      | _, _ => none
  | .answer core =>
      match link.loop with
      | .awaiting call =>
          match link.socket.resume core (some call) with
          | .ok socket => some { link with socket, loop := .receiving }
          | .error _ => some link.leave
      | _ => none
  | .cancelHandler =>
      match link.loop with
      | .ended => none
      | _ => some link.leave
  | .goLive name =>
      match link.loop with
      | .awaiting (.registerAgents agents _) =>
          if name ∈ agents.map Registration.name then
            some { link with live := name :: link.live }
          else none
      | _ => none
  | .goOffline name => some { link with live := link.live.filter (· ≠ name) }
  | .deliver run =>
      if run.agentName ∈ link.live then some { link with socket := link.socket.deliver run }
      else none
  | .cancelRun runId => some { link with socket := link.socket.cancel runId }
  | .query index => link.socket.queries[index]?.map (link.runQuery index)
  | .queryRaises index =>
      link.socket.queries[index]?.map fun _ =>
        { link with socket := link.socket.setQuery index .ended }
  | .watch => link.watch
  | .watchRaises =>
      match link.watcher with
      | .asking _ _ | .answered _ _ _ => some { link with watcher := .ended }
      | .sleeping | .ended => none
  | .write => link.write
  | .writeFails =>
      match link.writing, link.socket.outbound with
      | true, _ :: rest =>
          some { link with writing := false, socket := { link.socket with outbound := rest } }
      | _, _ => none
  | .recordChanges record => some { link with record }

/-- A link as a machine. -/
def machine (contract : Contract) (limits : Json.Limits) : Machine ProviderLink Action where
  step := step contract limits

/-! ## The frames a step adds -/

theorem frames_of_writing {link : ProviderLink} (writing : link.writing = true) :
    link.frames = link.wire ++ link.socket.outbound := by
  rw [frames, writing, if_pos rfl]

theorem frames_of_not_writing {link : ProviderLink} (silent : link.writing = false) :
    link.frames = link.wire := by
  rw [frames, silent, if_neg (by simp), List.append_nil]

/-- A step adds frames at the end while the writer lives, and may end the writer. -/
structure Extends (link next : ProviderLink) (added : List OutboundFrame) : Prop where
  kept : next.writing = true → link.writing = true ∧ next.frames = link.frames ++ added
  cut : next.writing = false → next.frames <+: link.frames

section Extends

variable {contract : Contract} {limits : Json.Limits} {link next : ProviderLink}
  {added : List OutboundFrame}

/-- A step which ends the writer. -/
theorem extends_of_silent (silent : next.writing = false) (wire : next.wire = link.wire) :
    Extends link next [] where
  kept := fun writes => by
    rw [silent] at writes
    cases writes
  cut := fun _ => by
    rw [frames_of_not_writing silent, wire]
    exact List.prefix_append link.wire _

theorem extends_of_outbound (wire : next.wire = link.wire) (writing : next.writing = link.writing)
    (outbound : next.socket.outbound = link.socket.outbound ++ added) :
    Extends link next added where
  kept := by
    intro writes
    have wrote : link.writing = true := writing ▸ writes
    refine ⟨wrote, ?_⟩
    rw [frames_of_writing writes, frames_of_writing wrote, wire, outbound, List.append_assoc]
  cut := by
    intro silent
    have was : link.writing = false := writing ▸ silent
    have same : next.frames = link.frames := by
      rw [frames_of_not_writing silent, frames_of_not_writing was, wire]
    exact same ▸ List.prefix_rfl

theorem extends_write {frame : OutboundFrame} {rest : List OutboundFrame}
    (writes : link.writing = true) (outbound : link.socket.outbound = frame :: rest) :
    Extends link { link with
      wire := link.wire ++ [frame]
      socket := { link.socket with outbound := rest } } [] where
  kept _ := ⟨writes, by simp [frames, writes, outbound]⟩
  cut silent := by
    rw [writes] at silent
    cases silent

end Extends

/-- The frames an action can put on the queue. -/
inductive Adds (link : ProviderLink) : Action → OutboundFrame → Prop
  | run (run : DeliveredRun) : Adds link (.deliver run) (.run run)
  | cancel (runId : Str) : Adds link (.cancelRun runId) (.cancel runId)
  | reply {action : Action} {frame : OutboundFrame} (reply : frame.isReply = true) :
      Adds link action frame
  | refusal {action : Action} {frame : OutboundFrame} (refusal : frame.isRefusal = true) :
      Adds link action frame
  | messages {index : Nat} {query : Query} {thread : Thread}
      (fetching : link.socket.queries[index]? = some (.fetching query thread))
      (messages : List Value) :
      Adds link (.query index) (.queryResult query.queryId (.result messages))
  | close (code : Nat) (reason : String) : Adds link .watch (.close code reason)

/-- Everything a step can do. -/
inductive Moves (contract : Contract) (limits : Json.Limits) (link : ProviderLink) :
    Action → ProviderLink → Prop
  | left {action : Action} : Moves contract limits link action link.leave
  | received {message : RawMessage} {core : CoreReplies} {socket : ProviderSocket}
      (receiving : link.loop = .receiving)
      (received : link.socket.receive contract limits core message = .ok (socket, none)) :
      Moves contract limits link (.receive message core) { link with socket }
  | called {message : RawMessage} {core : CoreReplies} {socket : ProviderSocket} {call : CoreCall}
      (receiving : link.loop = .receiving)
      (received : link.socket.receive contract limits core message = .ok (socket, some call)) :
      Moves contract limits link (.receive message core)
        { link with socket, loop := .awaiting call }
  | answered {core : CoreReplies} {call : CoreCall} {socket : ProviderSocket}
      (awaiting : link.loop = .awaiting call)
      (resumed : link.socket.resume core (some call) = .ok socket) :
      Moves contract limits link (.answer core) { link with socket, loop := .receiving }
  | sent {action : Action} {frame : OutboundFrame} (aside : action.IsAside)
      (adds : Adds link action frame) (watcher : Watcher)
      (watches : action ≠ .watch → watcher = link.watcher) :
      Moves contract limits link action { link with socket := link.socket.send frame, watcher }
  | queried {index : Nat} {task : QueryTask} (found : link.socket.queries[index]? = some task) :
      Moves contract limits link (.query index) (link.runQuery index task)
  | raised (index : Nat) :
      Moves contract limits link (.queryRaises index)
        { link with socket := link.socket.setQuery index .ended }
  | wrote {frame : OutboundFrame} {rest : List OutboundFrame} (writes : link.writing = true)
      (outbound : link.socket.outbound = frame :: rest) :
      Moves contract limits link .write
        { link with
          wire := link.wire ++ [frame]
          socket := { link.socket with outbound := rest } }
  | silenced {action : Action} (aside : action.IsAside) {frame : OutboundFrame}
      {rest : List OutboundFrame} (outbound : link.socket.outbound = frame :: rest) :
      Moves contract limits link action
        { link with writing := false, socket := { link.socket with outbound := rest } }
  | aside {action : Action} (aside : action.IsAside) (watcher : Watcher) (live : List Str)
      (record : Record) (watches : action ≠ .watch → watcher = link.watcher ∨ watcher = .ended)
      (changes : (∀ record, action ≠ .recordChanges record) → record = link.record) :
      Moves contract limits link action { link with watcher, live, record }

section Moves

variable {contract : Contract} {limits : Json.Limits} {link next : ProviderLink} {action : Action}

theorem moves_watch (taken : link.watch = some next) :
    Moves contract limits link .watch next := by
  have aside : Action.watch.IsAside := trivial
  have alone {watcher : Watcher} : Action.watch ≠ .watch →
      watcher = link.watcher ∨ watcher = .ended := fun other => absurd rfl other
  simp only [watch] at taken
  split at taken
  · split at taken
    · obtain rfl := Option.some.inj taken
      exact .aside aside _ _ _ alone fun _ => rfl
    · obtain rfl := Option.some.inj taken
      exact .aside aside _ _ _ alone fun _ => rfl
  · obtain rfl := Option.some.inj taken
    exact .aside aside _ _ _ alone fun _ => rfl
  · split at taken
    · obtain rfl := Option.some.inj taken
      exact .aside aside _ _ _ alone fun _ => rfl
    · obtain rfl := Option.some.inj taken
      exact .sent aside (.close _ _) _ fun other => absurd rfl other
    · obtain rfl := Option.some.inj taken
      exact .aside aside _ _ _ alone fun _ => rfl
  · cases taken
  · cases taken

theorem moves_write (taken : link.write = some next) :
    Moves contract limits link .write next := by
  have aside : Action.write.IsAside := trivial
  simp only [write] at taken
  split at taken
  · rename_i outbound
    obtain rfl := Option.some.inj taken
    exact .silenced aside outbound
  · rename_i writes outbound
    obtain rfl := Option.some.inj taken
    exact .wrote writes outbound
  · cases taken

/-- The one case analysis of a step, which every fact about the link uses. -/
theorem moves_of_step (taken : step contract limits link action = some next) :
    Moves contract limits link action next := by
  cases action with
  | receive message core =>
      simp only [step] at taken
      split at taken
      · obtain rfl := Option.some.inj taken
        exact .left
      · rename_i receiving _
        split at taken
        · rename_i received
          obtain rfl := Option.some.inj taken
          exact .received receiving received
        · rename_i received
          obtain rfl := Option.some.inj taken
          exact .called receiving received
        · obtain rfl := Option.some.inj taken
          exact .left
      · cases taken
  | answer core =>
      simp only [step] at taken
      split at taken
      · rename_i awaiting
        split at taken
        · rename_i resumed
          obtain rfl := Option.some.inj taken
          exact .answered awaiting resumed
        · obtain rfl := Option.some.inj taken
          exact .left
      · cases taken
  | cancelHandler =>
      simp only [step] at taken
      split at taken
      · cases taken
      · obtain rfl := Option.some.inj taken
        exact .left
  | goLive name =>
      simp only [step] at taken
      split at taken
      · split at taken
        · obtain rfl := Option.some.inj taken
          exact .aside (by trivial) _ _ _ (fun _ => .inl rfl) fun _ => rfl
        · cases taken
      · cases taken
  | goOffline name =>
      obtain rfl := Option.some.inj taken
      exact .aside (by trivial) _ _ _ (fun _ => .inl rfl) fun _ => rfl
  | recordChanges record =>
      obtain rfl := Option.some.inj taken
      exact .aside (by trivial) _ _ _ (fun _ => .inl rfl) fun unchanged =>
        absurd rfl (unchanged record)
  | deliver run =>
      simp only [step] at taken
      split at taken
      · obtain rfl := Option.some.inj taken
        exact .sent (by trivial) (.run run) _ fun _ => rfl
      · cases taken
  | cancelRun runId =>
      obtain rfl := Option.some.inj taken
      exact .sent (by trivial) (.cancel runId) _ fun _ => rfl
  | query index =>
      obtain ⟨task, found, rfl⟩ := Option.map_eq_some_iff.mp taken
      exact .queried found
  | queryRaises index =>
      obtain ⟨task, _, rfl⟩ := Option.map_eq_some_iff.mp taken
      exact .raised index
  | watch => exact moves_watch taken
  | watchRaises =>
      simp only [step] at taken
      split at taken
      · obtain rfl := Option.some.inj taken
        exact .aside (by trivial) _ _ _ (fun _ => .inr rfl) fun _ => rfl
      · obtain rfl := Option.some.inj taken
        exact .aside (by trivial) _ _ _ (fun _ => .inr rfl) fun _ => rfl
      · cases taken
      · cases taken
  | write => exact moves_write taken
  | writeFails =>
      simp only [step] at taken
      split at taken
      · rename_i outbound
        obtain rfl := Option.some.inj taken
        exact .silenced (by trivial) outbound
      · cases taken

end Moves

/-- Where the query tasks of the next state come from. -/
inductive Originates (link : ProviderLink) : Action → QueryTask → Prop
  | kept {action : Action} {task : QueryTask} (member : task ∈ link.socket.queries) :
      Originates link action task
  | spawned {action : Action} (parsed : Dict) : Originates link action (.spawned parsed)
  | advanced {index : Nat} {task : QueryTask} (found : link.socket.queries[index]? = some task) :
      Originates link (.query index) (task.advance link.record link.socket.publicKey).1
  | ended {action : Action} : Originates link action .ended

/-- What a step does to the socket. -/
structure Effect (link : ProviderLink) (action : Action) (next : ProviderLink) : Prop where
  publicKey : next.socket.publicKey = link.socket.publicKey
  queries : ∀ task ∈ next.socket.queries, Originates link action task
  frames : ∃ added, Extends link next added ∧ ∀ frame ∈ added, Adds link action frame

section Effect

variable {contract : Contract} {limits : Json.Limits} {link next : ProviderLink} {action : Action}

/-- A step which leaves the socket and the writer alone. -/
theorem effect_of_socket (socket : next.socket = link.socket) (wire : next.wire = link.wire)
    (writing : next.writing = link.writing) : Effect link action next where
  publicKey := congrArg ProviderSocket.publicKey socket
  queries := fun task member => .kept (socket ▸ member)
  frames := ⟨[], extends_of_outbound wire writing (by simp [socket]), by simp⟩

/-- A step which enqueues one frame. -/
theorem effect_of_send {frame : OutboundFrame} (adds : Adds link action frame)
    (socket : next.socket = link.socket.send frame) (wire : next.wire = link.wire)
    (writing : next.writing = link.writing) : Effect link action next where
  publicKey := by rw [socket]; rfl
  queries := fun task member => .kept (by rw [socket] at member; exact member)
  frames := by
    refine ⟨[frame], extends_of_outbound wire writing (by rw [socket]; rfl), ?_⟩
    intro other member
    obtain rfl := List.mem_singleton.mp member
    exact adds

/-- A step which ends the writer. -/
theorem effect_of_silent (silent : next.writing = false) (wire : next.wire = link.wire)
    (publicKey : next.socket.publicKey = link.socket.publicKey)
    (queries : next.socket.queries = link.socket.queries) : Effect link action next where
  publicKey := publicKey
  queries := fun task member => .kept (queries ▸ member)
  frames := ⟨[], extends_of_silent silent wire, by simp⟩

/-- A step of the read loop. -/
theorem effect_of_grows (grows : ProviderSocket.Grows link.socket next.socket)
    (wire : next.wire = link.wire) (writing : next.writing = link.writing) :
    Effect link action next where
  publicKey := grows.publicKey
  queries := by
    obtain ⟨spawned, queries⟩ := grows.queries
    intro task member
    rw [queries, List.mem_append, List.mem_map] at member
    obtain kept | ⟨parsed, _, rfl⟩ := member
    · exact .kept kept
    · exact .spawned parsed
  frames := by
    obtain ⟨replies, outbound, reply⟩ := grows.outbound
    exact ⟨replies, extends_of_outbound wire writing outbound, fun frame member =>
      .reply (reply frame member)⟩

theorem effect_runQuery {index : Nat} {task : QueryTask}
    (found : link.socket.queries[index]? = some task) :
    Effect link (.query index) (link.runQuery index task) := by
  have originates : ∀ other ∈ link.socket.queries.set index
      (task.advance link.record link.socket.publicKey).1,
      Originates link (.query index) other := by
    intro other member
    obtain kept | rfl := List.mem_or_eq_of_mem_set member
    · exact .kept kept
    · exact .advanced found
  cases answered : (task.advance link.record link.socket.publicKey).2 with
  | none =>
      refine ⟨?_, ?_, [], extends_of_outbound rfl rfl ?_, by simp⟩
      · simp [runQuery, answered, ProviderSocket.setQuery]
      · simpa [runQuery, answered, ProviderSocket.setQuery] using originates
      · simp [runQuery, answered, ProviderSocket.setQuery]
  | some frame =>
      refine ⟨?_, ?_, [frame], extends_of_outbound rfl rfl ?_, ?_⟩
      · simp [runQuery, answered, ProviderSocket.setQuery, ProviderSocket.send]
      · simpa [runQuery, answered, ProviderSocket.setQuery, ProviderSocket.send] using originates
      · simp [runQuery, answered, ProviderSocket.setQuery, ProviderSocket.send]
      · intro other member
        obtain rfl := List.mem_singleton.mp member
        obtain refusal | ⟨query, thread, messages, rfl, rfl⟩ := QueryTask.advance_frame answered
        · exact .refusal refusal
        · exact .messages found messages

theorem effect_queryRaises (index : Nat) :
    Effect link (.queryRaises index)
      { link with socket := link.socket.setQuery index .ended } where
  publicKey := rfl
  queries := by
    intro other member
    obtain kept | rfl := List.mem_or_eq_of_mem_set member
    · exact .kept kept
    · exact .ended
  frames := ⟨[], extends_of_outbound rfl rfl (List.append_nil _).symm, by simp⟩

/-- Everything a step can do to the socket. -/
theorem step_effect (taken : step contract limits link action = some next) :
    Effect link action next := by
  cases moves_of_step taken with
  | left | silenced => exact effect_of_silent rfl rfl rfl rfl
  | received _ received | called _ received =>
      exact effect_of_grows (ProviderSocket.grows_receive received) rfl rfl
  | answered _ resumed => exact effect_of_grows (ProviderSocket.grows_resume resumed) rfl rfl
  | sent _ adds => exact effect_of_send adds rfl rfl rfl
  | queried found => exact effect_runQuery found
  | raised index => exact effect_queryRaises index
  | wrote writes outbound =>
      exact ⟨rfl, fun _ member => .kept member, [], extends_write writes outbound, by simp⟩
  | aside => exact effect_of_socket rfl rfl rfl

end Effect

end ProviderLink
end Souk.Server.WsProvider
