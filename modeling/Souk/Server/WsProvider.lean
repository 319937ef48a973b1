import Souk.Server.Reads

/-!
# The provider socket

The state of one `/ws/provider` connection and the dispatch of its inbound frames.  Two branches of
the read loop await core, `register` and `deleteAgent`; the dispatch stops there and is resumed by
core's answer.  A query is answered by a task of its own, which awaits core up to four times.
-/

namespace Souk.Server.WsProvider

open Souk.Python

/-- `Registration`: one agent of a register frame, as core takes it. -/
structure Registration where
  name : Str
  takesInterjections : Bool
  /-- The validated entry. -/
  entry : Dict

/-- `DeliveredRun`: an offer, as core hands it over. -/
structure DeliveredRun where
  runId : Str
  threadId : Str
  agentName : Str
  runInput : Dict

/-- The three answers to an offer. -/
inductive VerdictName where
  | accepted
  | declined
  | refused
  deriving DecidableEq

/-- What `answer_offer` is called with. -/
inductive OfferAnswer where
  | verdict (accepted : Bool)
  | refusal (reason : Str)
  deriving DecidableEq

/-- The models of `funduq_contract` which police a frame. -/
structure Contract where
  /-- `Registration.model_validate`, or the text of its `ValidationError`. -/
  registration : Dict → Except Str Registration
  /-- `Verdict(id=…, verdict=…, reason=…)`, or the text of its `ValidationError`. -/
  verdict : Value → VerdictName → Option Str → Except Str Unit
  /-- `Refusal(reason=…)` does not raise. -/
  admitsReason : Str → Bool

/-- What a `queryResult` carries. -/
inductive QueryAnswer where
  | error (message : Message)
  | result (messages : List Value)

/-- The frames souk writes on this socket, and the close routed through its writer. -/
inductive OutboundFrame where
  | welcome (funduqPublicKey answer : Str)
  | run (run : DeliveredRun)
  | cancel (runId : Str)
  | queryResult (queryId : Str) (answer : QueryAnswer)
  | registered (names : List Str)
  | deleted (name : Str)
  | error (about : Dict) (message : Message)
  | close (code : Nat) (reason : String)

/-- The frames with which the read loop answers. -/
def OutboundFrame.isReply : OutboundFrame → Bool
  | registered _ | deleted _ | error _ _ => true
  | _ => false

/-- A well-formed question. -/
structure Query where
  queryId : Str
  threadId : Str
  limit : Option Nat

/-- Where a task `_answer_query` stands. -/
inductive QueryTask where
  /-- Created and not yet run. -/
  | spawned (parsed : Dict)
  /-- Awaiting `get_thread`. -/
  | reading (query : Query)
  /-- In `may_read`, awaiting its `get_thread`, with the thread read before. -/
  | admitting (query : Query) (thread : Thread)
  /-- In `may_read`, awaiting `parties_of`. -/
  | askingParties (query : Query) (thread : Thread)
  /-- Awaiting `get_thread_messages`. -/
  | fetching (query : Query) (thread : Thread)
  | ended

/-- `SocketProvider` with the queue and the query tasks of its connection. -/
structure ProviderSocket where
  publicKey : Str
  registeredNames : List Str
  /-- The last declaration of a name stands first. -/
  interjections : List (Str × Bool)
  outbound : List OutboundFrame
  queries : List QueryTask

/-- What the read loop awaits. -/
inductive CoreCall where
  | registerAgents (agents : List Registration) (providerName : Value)
  | deleteAgent (name : Str)

/-- Core's answers to the calls of the read loop. -/
structure CoreReplies where
  registerAgents : List Registration → Value → Except CoreError (List Str)
  deleteAgent : Str → Except CoreError Unit
  answerOffer : Value → OfferAnswer → Except CoreError Unit
  reportEvent : Value → Value → Except CoreError Bool
  finishRun : Value → Except CoreError Bool

/-- A contract which reads the name of an agent and admits everything else. -/
def plainContract : Contract where
  registration fields := .ok ⟨(Dict.get fields "name").asStr?.getD [], false, fields⟩
  verdict _ _ _ := .ok ()
  admitsReason _ := true

/-- A core which registers the names it is given, and knows every run. -/
def plainCore : CoreReplies where
  registerAgents agents _ := .ok (agents.map Registration.name)
  deleteAgent _ := .ok ()
  answerOffer _ _ := .ok ()
  reportEvent _ _ := .ok true
  finishRun _ := .ok true

/-- The frame `{"type": "register", "agents": [{"name": "a"}]}`. -/
def registerFrame : Str := "\x7b\"type\": \"register\", \"agents\": [\x7b\"name\": \"a\"\x7d]\x7d"

/-- What this socket accepts after the handshake. -/
def inboundFrameTypes : List Str := ["register", "deleteAgent", "ack", "event", "finish", "query"]

/-- What a provider may ask. -/
def queryMethods : List Str := ["thread_messages"]

/-! ## Parsing -/

/-- `[A-Za-z0-9_-]` -/
def isNamePoint (point : CodePoint) : Bool :=
  (0x41 ≤ point && point ≤ 0x5A) || (0x61 ≤ point && point ≤ 0x7A) ||
    (0x30 ≤ point && point ≤ 0x39) || point = 0x5F || point = 0x2D

/-- `_AGENT_NAME.match(name)`: `$` also matches in front of a final newline. -/
def matchesAgentName (name : Str) : Bool :=
  let body := if name.getLast? = some 0x0A then name.dropLast else name
  1 ≤ body.length && body.length ≤ 128 && body.all isNamePoint

/-- One entry of a register frame's `agents`. -/
def parseAgent (contract : Contract) (entry : Value) : Except Message Registration :=
  match entry with
  | .dict fields =>
      match contract.registration fields with
      | .error text =>
          .error { format := "invalid agent registration: %s", values := [.str text] }
      | .ok registration =>
          if matchesAgentName registration.name then .ok registration
          else .error
            { format := "invalid agent name %r: names are 1-128 characters of [A-Za-z0-9_-]"
              values := [.str registration.name] }
  | _ => .error { format := "each agent must be an object" }

/-- `_parse_registration` -/
def parseRegistration (contract : Contract) (frame : Dict) : Except Message (List Registration) :=
  match Dict.get frame "agents" with
  | .list (entry :: entries) => (entry :: entries).mapM (parseAgent contract)
  | _ => .error { format := "register needs a non-empty 'agents' list" }

/-- The name of the verdict an `ack` frame spells. -/
def verdictName (frame : Dict) : VerdictName :=
  if ((frame.lookup (str "accepted")).getD (.bool true)).truthy then .accepted
  else if (Dict.get frame "reason").nonEmptyStr?.isSome then .refused
  else .declined

/-- `_parse_verdict` -/
def parseVerdict (contract : Contract) (frame : Dict) :
    Except Message (VerdictName × Option Str) :=
  let reason := (Dict.get frame "reason").nonEmptyStr?
  match contract.verdict (Dict.get frame "runId") (verdictName frame) reason with
  | .ok () => .ok (verdictName frame, reason)
  | .error text => .error { format := "invalid ack: %s", values := [.str text] }

/-- The answer handed to `answer_offer`; the model of a refusal may raise. -/
def offerAnswer (contract : Contract) (verdict : VerdictName) (reason : Option Str) :
    Except Raised OfferAnswer :=
  match verdict with
  | .accepted => .ok (.verdict true)
  | .declined => .ok (.verdict false)
  | .refused =>
      let reason := reason.getD "refused"
      if contract.admitsReason reason then .ok (.refusal reason) else .error .valueError

/-! ## The read loop -/

namespace ProviderSocket

/-- A socket whose handshake has just been accepted. -/
def opened (publicKey funduqPublicKey answer : Str) : ProviderSocket where
  publicKey := publicKey
  registeredNames := []
  interjections := []
  outbound := [.welcome funduqPublicKey answer]
  queries := []

/-- `outbound.put_nowait(frame)` -/
def send (socket : ProviderSocket) (frame : OutboundFrame) : ProviderSocket :=
  { socket with outbound := socket.outbound ++ [frame] }

/-- `outbound.put_nowait({"type": "error", "message": …})` -/
def refuse (socket : ProviderSocket) (message : Message) : ProviderSocket :=
  socket.send (.error [] message)

/-- `declare_interjections` -/
def declareInterjections (socket : ProviderSocket) (agents : List Registration) :
    ProviderSocket :=
  { socket with
    interjections := (agents.map fun agent => (agent.name, agent.takesInterjections)).reverse }

/-- `takes_interjections` -/
def takesInterjections (socket : ProviderSocket) (agentName : Str) : Bool :=
  (socket.interjections.lookup agentName).getD false

/-- `SocketProvider.deliver` -/
def deliver (socket : ProviderSocket) (run : DeliveredRun) : ProviderSocket :=
  socket.send (.run run)

/-- `SocketProvider.cancel` -/
def cancel (socket : ProviderSocket) (runId : Str) : ProviderSocket := socket.send (.cancel runId)

/-- The `register` branch up to its await. -/
def onRegister (contract : Contract) (socket : ProviderSocket) (frame : Dict) :
    ProviderSocket × Option CoreCall :=
  match parseRegistration contract frame with
  | .error message => (socket.refuse message, none)
  | .ok agents =>
      (socket.declareInterjections agents,
        some (.registerAgents agents (Dict.get frame "providerName")))

/-- The `register` branch after core has answered. -/
def onRegistered (socket : ProviderSocket) : Except CoreError (List Str) → ProviderSocket
  | .ok registered =>
      { socket with registeredNames := sortedNames registered }.send
        (.registered (sortedNames registered))
  | .error error => socket.refuse { format := "%s", values := [.str error.text] }

/-- The `deleteAgent` branch up to its await. -/
def onDeleteAgent (socket : ProviderSocket) (frame : Dict) : ProviderSocket × Option CoreCall :=
  match (Dict.get frame "name").nonEmptyStr? with
  | none => (socket.refuse { format := "deleteAgent needs a name" }, none)
  | some name => (socket, some (.deleteAgent name))

/-- The `deleteAgent` branch after core has answered: only core's own errors are caught. -/
def onDeleted (socket : ProviderSocket) (name : Str) :
    Except CoreError Unit → Except Raised ProviderSocket
  | .ok () =>
      .ok ({ socket with registeredNames := socket.registeredNames.filter (· ≠ name) }.send
        (.deleted name))
  | .error (.funduq message) =>
      .ok (socket.send (.error [("name", .str name)] { format := "%s", values := [.str message] }))
  | .error (.value message) => .error (CoreError.value message).raised

/-- The `ack` branch, whose call into core is not guarded. -/
def onAck (contract : Contract) (core : CoreReplies) (socket : ProviderSocket) (frame : Dict) :
    Except Raised ProviderSocket :=
  match parseVerdict contract frame with
  | .error message => .ok (socket.refuse message)
  | .ok (verdict, reason) => do
      let answer ← offerAnswer contract verdict reason
      match core.answerOffer (Dict.get frame "runId") answer with
      | .ok () => return socket
      | .error error => throw error.raised

/-- What the `event` and `finish` branches make of core's answer. -/
def onReport (socket : ProviderSocket) (frame : Dict) (refusal : String) :
    Except CoreError Bool → Except Raised ProviderSocket
  | .ok true => .ok socket
  | .ok false =>
      .ok (socket.send (.error [("runId", Dict.get frame "runId")] { format := refusal }))
  | .error error => .error error.raised

/-- The dispatch of one parsed frame, up to its await. -/
def dispatch (contract : Contract) (core : CoreReplies) (socket : ProviderSocket) (frame : Dict) :
    Except Raised (ProviderSocket × Option CoreCall) := do
  let kind := Dict.get frame "type"
  let runId := Dict.get frame "runId"
  if ← notInSet kind inboundFrameTypes then
    return (socket.refuse { format := "unexpected frame %r", values := [kind] }, none)
  match kind with
  | .str kind =>
      if kind = "register" then return socket.onRegister contract frame
      else if kind = "deleteAgent" then return socket.onDeleteAgent frame
      else if kind = "ack" then return (← socket.onAck contract core frame, none)
      else if kind = "event" then
        let reply := core.reportEvent runId (Dict.get frame "event")
        return (← socket.onReport frame "event refused" reply, none)
      else if kind = "finish" then
        return (← socket.onReport frame "finish refused" (core.finishRun runId), none)
      else return ({ socket with queries := socket.queries ++ [.spawned frame] }, none)
  | _ => return (socket, none)

/-- One iteration of the read loop on a message which is not the disconnect, up to its await. -/
def receive (contract : Contract) (limits : Json.Limits) (core : CoreReplies)
    (socket : ProviderSocket) (message : RawMessage) :
    Except Raised (ProviderSocket × Option CoreCall) := do
  match ← parseFrame limits message with
  | none => return (socket.refuse { format := "unparseable frame" }, none)
  | some frame => socket.dispatch contract core frame

/-- The rest of an iteration, once core has answered the call it awaits. -/
def resume (core : CoreReplies) (socket : ProviderSocket) :
    Option CoreCall → Except Raised ProviderSocket
  | none => .ok socket
  | some (.registerAgents agents providerName) =>
      .ok (socket.onRegistered (core.registerAgents agents providerName))
  | some (.deleteAgent name) => socket.onDeleted name (core.deleteAgent name)

/-- A whole iteration of the read loop. -/
def iteration (contract : Contract) (limits : Json.Limits) (core : CoreReplies)
    (socket : ProviderSocket) (message : RawMessage) : Except Raised ProviderSocket := do
  let (received, call) ← socket.receive contract limits core message
  received.resume core call

theorem dispatch_str (contract : Contract) (core : CoreReplies) (socket : ProviderSocket)
    {frame : Dict} {kind : Str} (typed : Dict.get frame "type" = .str kind) :
    socket.dispatch contract core frame =
      if kind ∉ inboundFrameTypes then
        .ok (socket.refuse { format := "unexpected frame %r", values := [.str kind] }, none)
      else if kind = str "register" then .ok (socket.onRegister contract frame)
      else if kind = str "deleteAgent" then .ok (socket.onDeleteAgent frame)
      else if kind = str "ack" then do
        return (← socket.onAck contract core frame, none)
      else if kind = str "event" then do
        let reply := core.reportEvent (Dict.get frame "runId") (Dict.get frame "event")
        return (← socket.onReport frame "event refused" reply, none)
      else if kind = str "finish" then do
        let reply := core.finishRun (Dict.get frame "runId")
        return (← socket.onReport frame "finish refused" reply, none)
      else .ok ({ socket with queries := socket.queries ++ [.spawned frame] }, none) := by
  rw [dispatch, typed]
  by_cases known : kind ∈ inboundFrameTypes
  · simp only [notInSet, Value.hashable, Value.asStr?, known, not_true_eq_false, decide_false]
    rfl
  · simp only [notInSet, Value.hashable, Value.asStr?, known, not_false_eq_true, decide_true]
    rfl

theorem dispatch_not_str (contract : Contract) (core : CoreReplies) (socket : ProviderSocket)
    (frame : Dict) (typed : ∀ kind, Dict.get frame "type" ≠ .str kind) :
    socket.dispatch contract core frame =
      if (Dict.get frame "type").hashable then
        .ok (socket.refuse
          { format := "unexpected frame %r", values := [Dict.get frame "type"] }, none)
      else .error .typeError := by
  rw [dispatch]
  cases kind : Dict.get frame "type" with
  | str text => exact absurd kind (typed text)
  | null | bool | int | float | list | dict => rfl

/-- What the read loop does with a message, up to its await. -/
inductive Received (socket : ProviderSocket) : ProviderSocket → Option CoreCall → Prop
  | silent : Received socket socket none
  | replied {frame : OutboundFrame} (reply : frame.isReply = true) :
      Received socket (socket.send frame) none
  | registering (agents : List Registration) (providerName : Value) :
      Received socket (socket.declareInterjections agents)
        (some (.registerAgents agents providerName))
  | deleting (name : Str) : Received socket socket (some (.deleteAgent name))
  | queried (frame : Dict) :
      Received socket { socket with queries := socket.queries ++ [.spawned frame] } none

section Received

variable {contract : Contract} {core : CoreReplies} {socket next : ProviderSocket}

theorem received_onRegister {frame : Dict} {call : Option CoreCall}
    (taken : socket.onRegister contract frame = (next, call)) : Received socket next call := by
  simp only [onRegister] at taken
  split at taken
  · obtain ⟨rfl, rfl⟩ := taken
    exact .replied rfl
  · obtain ⟨rfl, rfl⟩ := taken
    exact .registering _ _

theorem received_onDeleteAgent {frame : Dict} {call : Option CoreCall}
    (taken : socket.onDeleteAgent frame = (next, call)) : Received socket next call := by
  simp only [onDeleteAgent] at taken
  split at taken
  · obtain ⟨rfl, rfl⟩ := taken
    exact .replied rfl
  · obtain ⟨rfl, rfl⟩ := taken
    exact .deleting _

theorem received_onAck {frame : Dict} (taken : socket.onAck contract core frame = .ok next) :
    Received socket next none := by
  simp only [onAck] at taken
  split at taken
  · obtain rfl := Except.ok.inj taken
    exact .replied rfl
  · obtain ⟨answer, _, taken⟩ := bind_eq_ok.mp taken
    split at taken
    · obtain rfl := Except.ok.inj taken
      exact .silent
    · cases taken

theorem received_onReport {frame : Dict} {refusal : String} {reply : Except CoreError Bool}
    (taken : socket.onReport frame refusal reply = .ok next) : Received socket next none := by
  rcases reply with error | (_ | _)
  · cases taken
  · obtain rfl := Except.ok.inj taken
    exact .replied rfl
  · obtain rfl := Except.ok.inj taken
    exact .silent

theorem received_dispatch {frame : Dict} {call : Option CoreCall}
    (taken : socket.dispatch contract core frame = .ok (next, call)) :
    Received socket next call := by
  by_cases typed : ∃ kind, Dict.get frame "type" = .str kind
  · obtain ⟨kind, typed⟩ := typed
    rw [dispatch_str contract core socket typed] at taken
    split at taken
    · obtain ⟨rfl, rfl⟩ := Except.ok.inj taken
      exact .replied rfl
    split at taken
    · exact received_onRegister (Except.ok.inj taken)
    split at taken
    · exact received_onDeleteAgent (Except.ok.inj taken)
    split at taken
    · obtain ⟨acked, branch, same⟩ := bind_eq_ok.mp taken
      obtain ⟨rfl, rfl⟩ := Except.ok.inj same
      exact received_onAck branch
    split at taken
    · obtain ⟨reported, branch, same⟩ := bind_eq_ok.mp taken
      obtain ⟨rfl, rfl⟩ := Except.ok.inj same
      exact received_onReport branch
    split at taken
    · obtain ⟨reported, branch, same⟩ := bind_eq_ok.mp taken
      obtain ⟨rfl, rfl⟩ := Except.ok.inj same
      exact received_onReport branch
    · obtain ⟨rfl, rfl⟩ := Except.ok.inj taken
      exact .queried frame
  · rw [dispatch_not_str contract core socket frame fun kind same => typed ⟨kind, same⟩] at taken
    split at taken
    · obtain ⟨rfl, rfl⟩ := Except.ok.inj taken
      exact .replied rfl
    · cases taken

/-- The one case analysis of the dispatch, which every fact about the read loop uses. -/
theorem received_of_receive {limits : Json.Limits} {message : RawMessage} {call : Option CoreCall}
    (taken : socket.receive contract limits core message = .ok (next, call)) :
    Received socket next call := by
  obtain ⟨parsed, _, taken⟩ := bind_eq_ok.mp taken
  cases parsed with
  | none =>
      obtain ⟨rfl, rfl⟩ := Except.ok.inj taken
      exact .replied rfl
  | some frame => exact received_dispatch taken

end Received

/-- What the read loop does to the socket between two of its awaits: it enqueues replies and spawns
query tasks. -/
structure Grows (socket next : ProviderSocket) : Prop where
  publicKey : next.publicKey = socket.publicKey
  outbound : ∃ replies, next.outbound = socket.outbound ++ replies ∧
    ∀ frame ∈ replies, frame.isReply = true
  queries : ∃ spawned : List Dict,
    next.queries = socket.queries ++ spawned.map QueryTask.spawned

section Grows

variable {contract : Contract} {core : CoreReplies} {socket next : ProviderSocket}

theorem grows_send {frame : OutboundFrame} (reply : frame.isReply = true) :
    Grows socket (socket.send frame) :=
  ⟨rfl, ⟨[frame], rfl, by simpa using reply⟩, ⟨[], by simp [send]⟩⟩

theorem grows_receive {limits : Json.Limits} {message : RawMessage} {call : Option CoreCall}
    (taken : socket.receive contract limits core message = .ok (next, call)) :
    Grows socket next := by
  cases received_of_receive taken with
  | silent => exact ⟨rfl, ⟨[], by simp, by simp⟩, ⟨[], by simp⟩⟩
  | replied reply => exact grows_send reply
  | registering agents providerName =>
      exact ⟨rfl, ⟨[], by simp [declareInterjections], by simp⟩,
        ⟨[], by simp [declareInterjections]⟩⟩
  | deleting name => exact ⟨rfl, ⟨[], by simp, by simp⟩, ⟨[], by simp⟩⟩
  | queried frame => exact ⟨rfl, ⟨[], by simp, by simp⟩, ⟨[frame], rfl⟩⟩

theorem grows_onRegistered (reply : Except CoreError (List Str)) :
    Grows socket (socket.onRegistered reply) := by
  cases reply with
  | ok registered =>
      exact ⟨rfl, ⟨[_], rfl, by simp [OutboundFrame.isReply]⟩, ⟨[], by simp [onRegistered, send]⟩⟩
  | error error => exact grows_send rfl

theorem grows_onDeleted {name : Str} {reply : Except CoreError Unit}
    (taken : socket.onDeleted name reply = .ok next) : Grows socket next := by
  rcases reply with (message | message) | answered
  · obtain rfl := Except.ok.inj taken
    exact grows_send rfl
  · cases taken
  · obtain rfl := Except.ok.inj taken
    exact ⟨rfl, ⟨[_], rfl, by simp [OutboundFrame.isReply]⟩, ⟨[], by simp [send]⟩⟩

theorem grows_resume {call : CoreCall} (taken : socket.resume core (some call) = .ok next) :
    Grows socket next := by
  cases call with
  | registerAgents agents providerName =>
      obtain rfl := Except.ok.inj taken
      exact grows_onRegistered _
  | deleteAgent name => exact grows_onDeleted taken

end Grows

end ProviderSocket

/-! ## Queries -/

/-- `answer(error="no such thread for this provider")` -/
def noSuchThread (query : Query) : OutboundFrame :=
  .queryResult query.queryId (.error { format := "no such thread for this provider" })

/-- `limit is not None and not (isinstance(limit, int) and limit > 0)`, as the limit it admits. -/
def parseLimit : Value → Option (Option Nat)
  | .null => some none
  | limit =>
      match limit.asInt? with
      | some limit => if 0 < limit then some (some limit.toNat) else none
      | none => none

/-- `_answer_query` up to its first await: a question, or the frame which answers it at once. -/
def parseQuery (parsed : Dict) : Except Raised (Query ⊕ OutboundFrame) := do
  let params := (Dict.get parsed "params").orElse (.dict [])
  match (Dict.get parsed "queryId").nonEmptyStr? with
  | none => return .inr (.error [] { format := "query needs a queryId" })
  | some queryId =>
      let answer (message : Message) : Query ⊕ OutboundFrame :=
        .inr (.queryResult queryId (.error message))
      let method := Dict.get parsed "method"
      if ← notInSet method queryMethods then
        return answer { format := "unknown query method %r", values := [method] }
      let threadId ← params.getAttr "threadId"
      let limit ← params.getAttr "limit"
      match threadId.nonEmptyStr?, parseLimit limit with
      | none, _ => return answer { format := "thread_messages needs a threadId" }
      | some _, none => return answer { format := "limit must be a positive integer" }
      | some threadId, some limit => return .inl ⟨queryId, threadId, limit⟩

/-- `messages[-limit:] if limit is not None else messages` -/
def lastMessages (messages : List Value) : Option Nat → List Value
  | none => messages
  | some limit => messages.drop (messages.length - limit)

/-- One step of a query task, from one await to the next, with what it puts on the queue. -/
def QueryTask.advance (record : Record) (publicKey : Str) :
    QueryTask → QueryTask × Option OutboundFrame
  | .spawned parsed =>
      match parseQuery parsed with
      | .ok (.inl query) => (.reading query, none)
      | .ok (.inr frame) => (.ended, some frame)
      | .error _ => (.ended, none)
  | .reading query =>
      match record.getThread query.threadId with
      | none => (.ended, some (noSuchThread query))
      | some thread =>
          if thread.providerKey = publicKey then (.admitting query thread, none)
          else (.ended, some (noSuchThread query))
  | .admitting query thread =>
      match record.getThread query.threadId with
      | none => (.ended, some (noSuchThread query))
      | some _ => (.askingParties query thread, none)
  | .askingParties query thread =>
      if partiesAdmit record query.threadId publicKey then (.fetching query thread, none)
      else (.ended, some (noSuchThread query))
  | .fetching query _ =>
      (.ended, some (.queryResult query.queryId
        (.result (lastMessages (record.getThreadMessages query.threadId) query.limit))))
  | .ended => (.ended, none)

/-- The rest of `_answer_query`, for a record which does not change meanwhile. -/
def answerQuestion (record : Record) (publicKey : Str) (query : Query) : OutboundFrame :=
  match record.getThread query.threadId with
  | none => noSuchThread query
  | some thread =>
      if thread.providerKey ≠ publicKey then noSuchThread query
      else if mayRead record query.threadId (some publicKey) then
        .queryResult query.queryId
          (.result (lastMessages (record.getThreadMessages query.threadId) query.limit))
      else noSuchThread query

/-- `_answer_query`, for a record which does not change meanwhile. -/
def answerQuery (record : Record) (publicKey : Str) (parsed : Dict) :
    Except Raised OutboundFrame := do
  match ← parseQuery parsed with
  | .inl query => return answerQuestion record publicKey query
  | .inr frame => return frame

/-- Steps of a query task under one record, with the frame the last of them enqueues. -/
def QueryTask.runs (record : Record) (publicKey : Str) : Nat → QueryTask → Option OutboundFrame
  | 0, _ => none
  | steps + 1, task =>
      match task.advance record publicKey with
      | (_, some frame) => some frame
      | (next, none) => next.runs record publicKey steps

/-- Five steps of a task under an unchanged record enqueue the frame `answerQuery` gives. -/
theorem QueryTask.runs_spawned (record : Record) (publicKey : Str) (parsed : Dict) :
    (QueryTask.spawned parsed).runs record publicKey 5 =
      match answerQuery record publicKey parsed with
      | .ok frame => some frame
      | .error _ => none := by
  cases parsedAs : parseQuery parsed with
  | error raised => simp [runs, advance, answerQuery, parsedAs, bind, Except.bind]
  | ok answer =>
      cases answer with
      | inr frame =>
          simp [runs, advance, answerQuery, parsedAs, bind, Except.bind, pure, Except.pure]
      | inl query =>
          cases found : record.getThread query.threadId with
          | none =>
              simp [runs, advance, answerQuery, answerQuestion, parsedAs, found, bind, Except.bind,
                pure, Except.pure]
          | some thread =>
              by_cases own : thread.providerKey = publicKey <;>
                cases admitted : partiesAdmit record query.threadId (some publicKey) <;>
                  simp [runs, advance, answerQuery, answerQuestion, mayRead, parsedAs, found, own,
                    admitted, bind, Except.bind, pure, Except.pure]

/-- The frames which answer a query without messages. -/
def OutboundFrame.isRefusal : OutboundFrame → Bool
  | error _ _ | queryResult _ (.error _) => true
  | _ => false

theorem isRefusal_of_parseQuery {parsed : Dict} {frame : OutboundFrame}
    (answered : parseQuery parsed = .ok (.inr frame)) : frame.isRefusal = true := by
  simp only [parseQuery] at answered
  split at answered
  · obtain rfl := Sum.inr.inj (Except.ok.inj answered)
    rfl
  · obtain ⟨unknown, _, answered⟩ := bind_eq_ok.mp answered
    cases unknown with
    | true =>
        obtain rfl := Sum.inr.inj (Except.ok.inj answered)
        rfl
    | false =>
        obtain ⟨threadId, _, answered⟩ := bind_eq_ok.mp answered
        obtain ⟨limit, _, answered⟩ := bind_eq_ok.mp answered
        split at answered
        · obtain rfl := Sum.inr.inj (Except.ok.inj answered)
          rfl
        · obtain rfl := Sum.inr.inj (Except.ok.inj answered)
          rfl
        · cases answered

/-- A query task answers with messages only from `get_thread_messages`. -/
theorem QueryTask.advance_frame {record : Record} {publicKey : Str} {task : QueryTask}
    {frame : OutboundFrame} (answered : (task.advance record publicKey).2 = some frame) :
    frame.isRefusal = true ∨ ∃ query thread messages,
      task = .fetching query thread ∧ frame = .queryResult query.queryId (.result messages) := by
  cases task with
  | spawned parsed =>
      refine Or.inl ?_
      simp only [advance] at answered
      split at answered
      · cases answered
      · rename_i parsedAs
        obtain rfl := Option.some.inj answered
        exact isRefusal_of_parseQuery parsedAs
      · cases answered
  | reading query =>
      refine Or.inl ?_
      simp only [advance] at answered
      split at answered
      · obtain rfl := Option.some.inj answered
        rfl
      · split at answered
        · cases answered
        · obtain rfl := Option.some.inj answered
          rfl
  | admitting query thread =>
      refine Or.inl ?_
      simp only [advance] at answered
      split at answered
      · obtain rfl := Option.some.inj answered
        rfl
      · cases answered
  | askingParties query thread =>
      refine Or.inl ?_
      simp only [advance] at answered
      split at answered
      · cases answered
      · obtain rfl := Option.some.inj answered
        rfl
  | fetching query thread =>
      obtain rfl := Option.some.inj answered
      exact Or.inr ⟨query, thread, _, rfl, rfl⟩
  | ended => cases answered

end Souk.Server.WsProvider
