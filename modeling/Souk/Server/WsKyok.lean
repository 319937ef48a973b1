import Souk.Library.Machine
import Souk.Server.WsCommon

/-!
# The LLM provider socket

One `/ws/kyok` connection: the table of completions in flight, the queue and the generator behind
each of them, the dispatch of inbound frames and the teardown.  A queue is reached in two ways,
from the table by request id and from its own generator, and outlives its table entry; the
connection therefore keeps the generators in a list and the table maps a request id to an index.
-/

namespace Souk.Server.WsKyok

open Souk.Python

/-- The exceptions with which one completion's answer fails. -/
inductive StreamError where
  | stoppedAnswering
  | disconnected
  | reported (message : Value)
  | refused (refusal : Dict)
  | invalidChunk
  | cancelled

/-- What `feed` and `fail_pending` put on the queue of a completion. -/
inductive Answer where
  | chunk (data : Dict)
  | done
  | failure (error : StreamError)

/-- Where the generator `_answer_stream` of a completion stands. -/
inductive StreamPhase where
  /-- Handed out by `complete` and never iterated. -/
  | created
  /-- Inside `wait_for(queue.get())`. -/
  | waiting
  /-- At its `yield`, with the caller holding the chunk. -/
  | suspended
  | returned
  | raised (error : StreamError)
  /-- Closed early by its consumer. -/
  | closed

/-- One completion as its consumer holds it. -/
structure AnswerStream (Chunk : Type) where
  requestId : Str
  queue : List Answer
  yielded : List Chunk
  phase : StreamPhase

/-- The frames souk writes on this socket. -/
inductive OutboundFrame where
  | welcome (funduqPublicKey answer : Str)
  | completionRequest (requestId : Str) (request : Dict)
  | registered (names : List Str)
  | deleted (name : Str)
  | error (about : Dict) (message : Message)

/-- One connection: `SocketLLMProvider` with the generators it handed out.  `queued` is a history
variable, every item ever put on a queue with the request id under which it was put. -/
structure Connection (Chunk : Type) where
  answers : AList fun _ : Str => Nat
  streams : List (AnswerStream Chunk)
  outbound : List OutboundFrame
  reading : Bool
  queued : List (Str × Answer)

/-- Core's answers to the two calls of the read loop. -/
structure CoreReplies where
  registerLlmProviders : List Str → Value → Except CoreError (List Str)
  deleteLlmOffering : Str → Except CoreError Unit

variable {Chunk : Type}

namespace Connection

/-- A connection whose handshake has just been accepted. -/
def opened (funduqPublicKey answer : Str) : Connection Chunk where
  answers := ∅
  streams := []
  outbound := [.welcome funduqPublicKey answer]
  reading := true
  queued := []

/-- `outbound.put_nowait(frame)`. -/
def send (connection : Connection Chunk) (frame : OutboundFrame) : Connection Chunk :=
  { connection with outbound := connection.outbound ++ [frame] }

/-- Replace the generator at an index. -/
def setStream (connection : Connection Chunk) (index : Nat) (stream : AnswerStream Chunk) :
    Connection Chunk :=
  { connection with streams := connection.streams.set index stream }

/-- `queue.put_nowait(item)` on the queue of one completion. -/
def put (connection : Connection Chunk) (requestId : Str) (index : Nat) (item : Answer) :
    Connection Chunk :=
  { connection with
    streams := connection.streams.modify index fun stream =>
      { stream with queue := stream.queue ++ [item] }
    queued := connection.queued ++ [(requestId, item)] }

/-- `complete`: the request goes out and its stream is handed back. -/
def complete (connection : Connection Chunk) (requestId : Str) (request : Dict) :
    Connection Chunk :=
  { connection with
    answers := connection.answers.insert requestId connection.streams.length
    streams := connection.streams ++
      [{ requestId, queue := [], yielded := [], phase := .created }]
    outbound := connection.outbound ++ [.completionRequest requestId request] }

/-- `feed`: route an item to its completion, or say that it is not in flight here. -/
def feed (connection : Connection Chunk) (requestId : Str) (item : Answer) :
    Connection Chunk × Bool :=
  match connection.answers.lookup requestId with
  | none => (connection, false)
  | some index => (connection.put requestId index item, true)

/-- `fail_pending`: every completion in flight fails, and the table is cleared. -/
def failPending (connection : Connection Chunk) : Connection Chunk :=
  { connection.answers.entries.foldl
      (fun state entry => state.put entry.1 entry.2 (.failure .disconnected)) connection with
    answers := ∅ }

/-- The teardown of the handler, as far as this object sees it. -/
def teardown (connection : Connection Chunk) : Connection Chunk :=
  { connection.failPending with reading := false }

/-- The end of a generator which had started: `finally: self._answers.pop(request_id, None)`. -/
def endStream (connection : Connection Chunk) (index : Nat) (stream : AnswerStream Chunk)
    (phase : StreamPhase) : Connection Chunk :=
  { connection.setStream index { stream with phase } with
    answers := connection.answers.erase stream.requestId }

/-- One item of the queue reaches the generator. -/
def takeItem (validate : Dict → Option Chunk) (connection : Connection Chunk) (index : Nat)
    (stream : AnswerStream Chunk) (item : Answer) : Connection Chunk :=
  match item with
  | .done => connection.endStream index stream .returned
  | .failure error => connection.endStream index stream (.raised error)
  | .chunk data =>
      match validate data with
      | some chunk =>
          connection.setStream index
            { stream with yielded := stream.yielded ++ [chunk], phase := .suspended }
      | none => connection.endStream index stream (.raised .invalidChunk)

/-- What this socket accepts after the handshake. -/
def inboundFrameTypes : List Str := ["register", "deleteModel", "chunk", "done", "error"]

/-- The `models` of a register frame: a non-empty list of non-empty strings. -/
def parseModels (value : Value) : Option (List Str) :=
  match value with
  | .list [] => none
  | .list models => models.mapM Value.nonEmptyStr?
  | _ => none

/-- The `register` branch of the read loop. -/
def onRegister (core : CoreReplies) (connection : Connection Chunk) (frame : Dict) :
    Connection Chunk :=
  match parseModels (Dict.get frame "models"), Dict.get frame "metadata" with
  | none, _ =>
      connection.send
        (.error [] { format := "register needs a non-empty 'models' list of strings" })
  | some models, .null | some models, .dict _ =>
      match core.registerLlmProviders models (Dict.get frame "metadata") with
      | .ok registered => connection.send (.registered (sortedNames registered))
      | .error error => connection.send (.error [] { format := "%s", values := [.str error.text] })
  | some _, _ => connection.send (.error [] { format := "metadata must be an object" })

/-- The `deleteModel` branch of the read loop, where only core's own errors are caught. -/
def onDeleteModel (core : CoreReplies) (connection : Connection Chunk) (frame : Dict) :
    Except Raised (Connection Chunk) :=
  match (Dict.get frame "name").nonEmptyStr? with
  | none => .ok (connection.send (.error [] { format := "deleteModel needs a name" }))
  | some name =>
      match core.deleteLlmOffering name with
      | .ok () => .ok (connection.send (.deleted name))
      | .error (.funduq message) =>
          .ok (connection.send
            (.error [("name", .str name)] { format := "%s", values := [.str message] }))
      | .error (.value message) => .error (CoreError.value message).raised

/-- The exception an `error` frame fails its completion with. -/
def reportedFailure (frame : Dict) : StreamError :=
  match Dict.get frame "refusal" with
  | .dict refusal => .refused refusal
  | _ =>
      .reported ((Dict.get frame "message").orElse (.str "LLM provider reported an error"))

/-- The item an answer frame carries, or none for a chunk which is not an object. -/
def answerOf (kind : Str) (frame : Dict) : Option Answer :=
  if kind = "chunk" then (Dict.get frame "data").asDict?.map .chunk
  else if kind = "done" then some .done
  else some (.failure (reportedFailure frame))

/-- The `chunk`, `done` and `error` branches of the read loop. -/
def onAnswer (connection : Connection Chunk) (kind : Str) (frame : Dict) : Connection Chunk :=
  match Dict.get frame "requestId" with
  | .str requestId =>
      match answerOf kind frame with
      | none =>
          connection.send
            (.error [("requestId", .str requestId)] { format := "chunk data must be an object" })
      | some item =>
          match connection.feed requestId item with
          | (fed, true) => fed
          | (same, false) =>
              same.send (.error [("requestId", .str requestId)]
                { format := "no such in-flight completion on this connection" })
  | _ => connection.send (.error [] { format := "frame needs a requestId" })

/-- The dispatch of one parsed frame. -/
def dispatch (core : CoreReplies) (connection : Connection Chunk) (frame : Dict) :
    Except Raised (Connection Chunk) := do
  let kind := Dict.get frame "type"
  if ← notInSet kind inboundFrameTypes then
    return connection.send (.error [] { format := "unknown frame type %r", values := [kind] })
  match kind with
  | .str kind =>
      if kind = "register" then return connection.onRegister core frame
      else if kind = "deleteModel" then connection.onDeleteModel core frame
      else return connection.onAnswer kind frame
  | _ => return connection

/-- One iteration of the read loop on a message which is not the disconnect. -/
def iteration (limits : Json.Limits) (core : CoreReplies) (connection : Connection Chunk)
    (message : RawMessage) : Except Raised (Connection Chunk) := do
  match ← parseFrame limits message with
  | none => return connection.send (.error [] { format := "unparseable frame" })
  | some frame => connection.dispatch core frame

/-! ### What a message can do -/

/-- The types of the frames which answer a completion. -/
def answerTypes : List Str := ["chunk", "done", "error"]

theorem feed_of_lookup {connection : Connection Chunk} {requestId : Str} {index : Nat}
    (found : connection.answers.lookup requestId = some index) (item : Answer) :
    connection.feed requestId item = (connection.put requestId index item, true) := by
  rw [feed, found]

theorem known_of_notInSet {kind : Str} {names : List Str}
    (membership : notInSet (.str kind) names = .ok false) : kind ∈ names := by
  simpa [notInSet, show (Value.str kind).hashable = true from rfl, Value.asStr?] using membership

theorem onRegister_sends {connection : Connection Chunk} (core : CoreReplies) (frame : Dict) :
    ∃ sent, connection.onRegister core frame = connection.send sent := by
  unfold onRegister
  split <;> (try split) <;> exact ⟨_, rfl⟩

theorem onDeleteModel_sends {core : CoreReplies} {frame : Dict}
    {connection next : Connection Chunk}
    (outcome : connection.onDeleteModel core frame = .ok next) :
    ∃ sent, next = connection.send sent := by
  unfold onDeleteModel at outcome
  split at outcome
  · cases outcome
    exact ⟨_, rfl⟩
  · split at outcome <;> cases outcome <;> exact ⟨_, rfl⟩

/-- An answer frame is refused by a frame back, or its item is queued on its completion. -/
theorem onAnswer_cases {connection : Connection Chunk} {kind : Str} {frame : Dict} :
    (∃ sent, connection.onAnswer kind frame = connection.send sent) ∨
      ∃ requestId index item, Dict.get frame "requestId" = .str requestId ∧
        answerOf kind frame = some item ∧ connection.answers.lookup requestId = some index ∧
        connection.onAnswer kind frame = connection.put requestId index item := by
  unfold onAnswer
  split
  · rename_i requestId named
    split
    · exact .inl ⟨_, rfl⟩
    · rename_i item carries
      cases found : connection.answers.lookup requestId with
      | none =>
          rw [feed, found]
          exact .inl ⟨_, rfl⟩
      | some index =>
          rw [feed_of_lookup found]
          exact .inr ⟨requestId, index, item, named, carries, found, rfl⟩
  · exact .inl ⟨_, rfl⟩

/-- What one frame can do to a connection: nothing, send a frame, or queue an item on a completion
of the table. -/
theorem dispatch_cases {core : CoreReplies} {frame : Dict} {connection next : Connection Chunk}
    (outcome : connection.dispatch core frame = .ok next) :
    next = connection ∨ (∃ sent, next = connection.send sent) ∨
      ∃ kind requestId index item, Dict.get frame "type" = .str kind ∧ kind ∈ answerTypes ∧
        Dict.get frame "requestId" = .str requestId ∧ answerOf kind frame = some item ∧
        connection.answers.lookup requestId = some index ∧
        next = connection.put requestId index item := by
  unfold dispatch at outcome
  cases membership : notInSet (Dict.get frame "type") inboundFrameTypes with
  | error raised => simp [membership, bind, Except.bind] at outcome
  | ok unknown =>
      cases unknown with
      | true =>
          obtain rfl : connection.send _ = next := by
            simpa [membership, bind, Except.bind, pure, Except.pure] using outcome
          exact .inr (.inl ⟨_, rfl⟩)
      | false =>
          simp only [membership, bind, Except.bind, pure, Except.pure, Bool.false_eq_true,
            if_false] at outcome
          split at outcome
          · rename_i kind typed
            split at outcome
            · cases outcome
              exact .inr (.inl (onRegister_sends core frame))
            · rename_i notRegister
              split at outcome
              · exact .inr (.inl (onDeleteModel_sends outcome))
              · rename_i notDelete
                cases outcome
                have answering : kind ∈ answerTypes := by
                  have known := known_of_notInSet (typed ▸ membership)
                  simp only [inboundFrameTypes, answerTypes, List.mem_cons] at known ⊢
                  tauto
                rcases onAnswer_cases with sent | ⟨requestId, index, item, queues⟩
                · exact .inr (.inl sent)
                · exact .inr (.inr ⟨kind, requestId, index, item, typed, answering, queues⟩)
          · cases outcome
            exact .inl rfl

/-- What one message can do to a connection: nothing, send a frame, or queue an item on a
completion of the table. -/
theorem iteration_cases {limits : Json.Limits} {core : CoreReplies} {message : RawMessage}
    {connection next : Connection Chunk}
    (outcome : connection.iteration limits core message = .ok next) :
    next = connection ∨ (∃ frame, next = connection.send frame) ∨
      ∃ frame kind requestId index item, parseFrame limits message = .ok (some frame) ∧
        Dict.get frame "type" = .str kind ∧ kind ∈ answerTypes ∧
        Dict.get frame "requestId" = .str requestId ∧ answerOf kind frame = some item ∧
        connection.answers.lookup requestId = some index ∧
        next = connection.put requestId index item := by
  unfold iteration at outcome
  cases parsed : parseFrame limits message with
  | error raised => simp [parsed, bind, Except.bind] at outcome
  | ok read =>
      cases read with
      | none =>
          obtain rfl : connection.send _ = next := by
            simpa [parsed, bind, Except.bind, pure, Except.pure] using outcome
          exact .inr (.inl ⟨_, rfl⟩)
      | some frame =>
          simp only [parsed, bind, Except.bind] at outcome
          rcases dispatch_cases outcome with same | sent | ⟨kind, requestId, index, item, queues⟩
          · exact .inl same
          · exact .inr (.inl sent)
          · exact .inr (.inr ⟨frame, kind, requestId, index, item, rfl, queues⟩)

end Connection

/-- What can happen on one connection. -/
inductive Action where
  /-- Core calls `complete`, which draws this request id. -/
  | complete (requestId : Str) (request : Dict)
  /-- The read loop receives a message; core answers the call it makes, if any. -/
  | receive (message : RawMessage) (core : CoreReplies)
  /-- The handler is cancelled at an await of its loop. -/
  | cancelHandler
  /-- The consumer of a stream asks for its next chunk. -/
  | resume (index : Nat)
  /-- The next item of its queue reaches a waiting stream. -/
  | take (index : Nat)
  | gapTimeout (index : Nat)
  /-- The task iterating a waiting stream is cancelled. -/
  | cancelConsumer (index : Nat)
  /-- The consumer closes or drops a stream which is not running. -/
  | close (index : Nat)

/-- One step of the connection.  Request ids are drawn fresh. -/
def step (validate : Dict → Option Chunk) (limits : Json.Limits) (connection : Connection Chunk) :
    Action → Option (Connection Chunk)
  | .complete requestId request =>
      if requestId ∈ connection.streams.map AnswerStream.requestId then none
      else some (connection.complete requestId request)
  | .receive message core =>
      if connection.reading then
        match message with
        | .disconnect => some connection.teardown
        | message =>
            match connection.iteration limits core message with
            | .ok next => some next
            | .error _ => some connection.teardown
      else none
  | .cancelHandler => if connection.reading then some connection.teardown else none
  | .resume index => do
      let stream ← connection.streams[index]?
      match stream.phase with
      | .created | .suspended => some (connection.setStream index { stream with phase := .waiting })
      | _ => none
  | .take index => do
      let stream ← connection.streams[index]?
      match stream.phase, stream.queue with
      | .waiting, item :: rest =>
          some (connection.takeItem validate index { stream with queue := rest } item)
      | _, _ => none
  | .gapTimeout index => do
      let stream ← connection.streams[index]?
      match stream.phase with
      | .waiting => some (connection.endStream index stream (.raised .stoppedAnswering))
      | _ => none
  | .cancelConsumer index => do
      let stream ← connection.streams[index]?
      match stream.phase with
      | .waiting => some (connection.endStream index stream (.raised .cancelled))
      | _ => none
  | .close index => do
      let stream ← connection.streams[index]?
      match stream.phase with
      | .created => some (connection.setStream index { stream with phase := .closed })
      | .suspended => some (connection.endStream index stream .closed)
      | _ => none

/-- One `/ws/kyok` connection as a machine. -/
def machine (validate : Dict → Option Chunk) (limits : Json.Limits) :
    Machine (Connection Chunk) Action where
  step := step validate limits

/-! ## What a step can do -/

/-- Everything a step can do. -/
inductive Moves (validate : Dict → Option Chunk) (limits : Json.Limits)
    (connection : Connection Chunk) : Action → Connection Chunk → Prop
  | completed {requestId : Str} (fresh : requestId ∉ connection.streams.map AnswerStream.requestId)
      (request : Dict) :
      Moves validate limits connection (.complete requestId request)
        (connection.complete requestId request)
  | torn {action : Action} : Moves validate limits connection action connection.teardown
  | ignored {message : RawMessage} {core : CoreReplies} :
      Moves validate limits connection (.receive message core) connection
  | replied {message : RawMessage} {core : CoreReplies} (frame : OutboundFrame) :
      Moves validate limits connection (.receive message core) (connection.send frame)
  | fed {message : RawMessage} {core : CoreReplies} {frame : Dict} {kind requestId : Str}
      {index : Nat} {item : Answer} (reading : connection.reading = true)
      (parsed : parseFrame limits message = .ok (some frame))
      (typed : Dict.get frame "type" = .str kind) (answering : kind ∈ Connection.answerTypes)
      (named : Dict.get frame "requestId" = .str requestId)
      (carries : Connection.answerOf kind frame = some item)
      (found : connection.answers.lookup requestId = some index) :
      Moves validate limits connection (.receive message core) (connection.put requestId index item)
  | resumed {index : Nat} {stream : AnswerStream Chunk}
      (found : connection.streams[index]? = some stream)
      (idle : stream.phase = .created ∨ stream.phase = .suspended) :
      Moves validate limits connection (.resume index)
        (connection.setStream index { stream with phase := .waiting })
  | took {index : Nat} {stream : AnswerStream Chunk} {item : Answer} {rest : List Answer}
      (found : connection.streams[index]? = some stream) (waiting : stream.phase = .waiting)
      (queue_eq : stream.queue = item :: rest) :
      Moves validate limits connection (.take index)
        (connection.takeItem validate index { stream with queue := rest } item)
  | raised {action : Action} {index : Nat} {stream : AnswerStream Chunk}
      (found : connection.streams[index]? = some stream) (error : StreamError) :
      Moves validate limits connection action (connection.endStream index stream (.raised error))
  | closed {index : Nat} {stream : AnswerStream Chunk}
      (found : connection.streams[index]? = some stream) :
      Moves validate limits connection (.close index) (connection.endStream index stream .closed)
  | dropped {index : Nat} {stream : AnswerStream Chunk}
      (found : connection.streams[index]? = some stream) (created : stream.phase = .created) :
      Moves validate limits connection (.close index)
        (connection.setStream index { stream with phase := .closed })

theorem moves_of_iteration {validate : Dict → Option Chunk} {limits : Json.Limits}
    {connection next : Connection Chunk} {message : RawMessage} {core : CoreReplies}
    (reading : connection.reading = true)
    (outcome : connection.iteration limits core message = .ok next) :
    Moves validate limits connection (.receive message core) next := by
  rcases Connection.iteration_cases outcome with
    rfl | ⟨frame, rfl⟩ |
      ⟨frame, kind, requestId, index, item, parsed, typed, answering, named, carries, found, rfl⟩
  · exact .ignored
  · exact .replied frame
  · exact .fed reading parsed typed answering named carries found

/-- The one case analysis of a step, which every invariant of the connection uses. -/
theorem moves_of_step {validate : Dict → Option Chunk} {limits : Json.Limits}
    {connection next : Connection Chunk} {action : Action}
    (taken : step validate limits connection action = some next) :
    Moves validate limits connection action next := by
  cases action with
  | complete requestId request =>
      simp only [step] at taken
      split at taken
      · cases taken
      · rename_i fresh
        obtain rfl := Option.some.inj taken
        exact .completed fresh request
  | receive message core =>
      simp only [step] at taken
      split at taken
      · rename_i reading
        split at taken
        · obtain rfl := Option.some.inj taken
          exact .torn
        · split at taken
          · rename_i outcome
            obtain rfl := Option.some.inj taken
            exact moves_of_iteration reading outcome
          · obtain rfl := Option.some.inj taken
            exact .torn
      · cases taken
  | cancelHandler =>
      simp only [step] at taken
      split at taken
      · obtain rfl := Option.some.inj taken
        exact .torn
      · cases taken
  | resume index =>
      obtain ⟨stream, found, taken⟩ := Option.bind_eq_some_iff.mp taken
      split at taken
      · rename_i created
        obtain rfl := Option.some.inj taken
        exact .resumed found (.inl created)
      · rename_i suspended
        obtain rfl := Option.some.inj taken
        exact .resumed found (.inr suspended)
      · cases taken
  | take index =>
      obtain ⟨stream, found, taken⟩ := Option.bind_eq_some_iff.mp taken
      split at taken
      · rename_i waiting queue_eq
        obtain rfl := Option.some.inj taken
        exact .took found waiting queue_eq
      · cases taken
  | gapTimeout index | cancelConsumer index =>
      obtain ⟨stream, found, taken⟩ := Option.bind_eq_some_iff.mp taken
      split at taken
      · obtain rfl := Option.some.inj taken
        exact .raised found _
      · cases taken
  | close index =>
      obtain ⟨stream, found, taken⟩ := Option.bind_eq_some_iff.mp taken
      split at taken
      · rename_i created
        obtain rfl := Option.some.inj taken
        exact .dropped found created
      · obtain rfl := Option.some.inj taken
        exact .closed found
      · cases taken

end Souk.Server.WsKyok
