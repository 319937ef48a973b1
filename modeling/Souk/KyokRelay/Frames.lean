import Souk.ClientSdk.Completions
import Souk.Python.JsonWire
import Souk.Server.WsKyokTable

/-!
# The frames of `/ws/kyok` between the gateway and the bridge

Both ends build a dictionary and read what `json.loads` makes of its text.  The file has what the
bridge reads of each frame of the gateway, and what the gateway queues for each frame of the bridge.
-/

namespace Souk.KyokRelay

open Souk.Python
open Souk.Server (RawMessage parseFrame notInSet)
open Souk.Server.WsKyok (Answer Connection CoreReplies OutboundFrame StreamError queuedUnder)
open Souk.ClientSdk (BridgeFrame Completion readBridgeFrame)

/-! ## Down to the bridge -/

/-- `{"type": "completionRequest", "requestId": request_id, **request}` -/
def envelope (requestId : Str) (request : Dict) : Dict :=
  request.foldl (fun fields field => Dict.set fields field.1 field.2)
    [("type", .str "completionRequest"), ("requestId", .str requestId)]

/-- The type of a frame of the gateway. -/
def frameType : OutboundFrame → String
  | .welcome _ _ => "welcome"
  | .completionRequest _ _ => "completionRequest"
  | .registered _ => "registered"
  | .deleted _ => "deleted"
  | .error _ _ => "error"

/-- The request a frame of the gateway hands over, under its id. -/
def requested? : OutboundFrame → Option (Str × Dict)
  | .completionRequest requestId request => some (requestId, request)
  | .welcome _ _ | .registered _ | .deleted _ | .error _ _ => none

/-- The text of a frame of the gateway.  Of a frame which asks for nothing only the type matters. -/
def ReachesBridge (encoder : Json.Encoder) (limits : Json.Limits) (frame : OutboundFrame)
    (raw : Str) : Prop :=
  match frame with
  | .completionRequest requestId request =>
      Carries encoder limits (.ofValue (.dict (envelope requestId request))) raw
  | .welcome _ _ | .registered _ | .deleted _ | .error _ _ =>
      ∃ fields, Json.loads limits raw = .ok (.dict fields) ∧
        Dict.get fields "type" = .str (frameType frame)

/-- A request as core hands it over: its id is read back as it is, and the delivered envelope has no
member of the transport's. -/
def Deliverable (requestId : Str) (request : Dict) : Prop :=
  Json.rereadStr requestId = requestId ∧
    ∀ field ∈ request, Json.rereadStr field.1 ≠ str "type" ∧
      Json.rereadStr field.1 ≠ str "requestId"

/-- The names of the two members which the transport adds are ASCII. -/
theorem reread_type : Json.rereadStr (str "type") = str "type" := rfl

theorem reread_requestId : Json.rereadStr (str "requestId") = str "requestId" := rfl

/-- The members of the transport are found under their names, whatever else arrives. -/
def Apart (fields : Dict) : Prop :=
  ∀ field ∈ fields, Json.rereadStr field.1 ≠ str "type" ∧
    Json.rereadStr field.1 ≠ str "requestId"

theorem Apart.set {fields : Dict} (apart : Apart fields) {key : Str} {value : Value}
    (other : Json.rereadStr key ≠ str "type" ∧ Json.rereadStr key ≠ str "requestId") :
    Apart (Dict.set fields key value) := by
  induction fields with
  | nil =>
      intro field among
      obtain rfl := List.mem_singleton.mp among
      exact other
  | cons head fields induction =>
      obtain ⟨name, old⟩ := head
      have later : Apart fields := fun field among => apart field (List.mem_cons_of_mem _ among)
      intro field among
      rw [Dict.set] at among
      split at among
      · rcases List.mem_cons.mp among with rfl | old_field
        · exact other
        · exact later field old_field
      · rcases List.mem_cons.mp among with rfl | new_field
        · exact apart _ List.mem_cons_self
        · exact induction later field new_field

/-- Members under other names leave the two of the transport in front. -/
theorem envelope_shape {requestId : Str} {request : Dict} (apart : Apart request) :
    ∃ rest, envelope requestId request =
        (str "type", .str "completionRequest") :: (str "requestId", .str requestId) :: rest ∧
      Apart rest := by
  have folded : ∀ fields rest : Dict, Apart fields → Apart rest →
      ∃ after, fields.foldl (fun fields field => Dict.set fields field.1 field.2)
          ((str "type", .str "completionRequest") :: (str "requestId", .str requestId) :: rest) =
          (str "type", .str "completionRequest") :: (str "requestId", .str requestId) :: after ∧
        Apart after := by
    intro fields
    induction fields with
    | nil => exact fun rest _ kept => ⟨rest, rfl, kept⟩
    | cons field fields induction =>
        intro rest among kept
        have other := among field List.mem_cons_self
        have notType : str "type" ≠ field.1 := fun same => other.1 (same ▸ reread_type)
        have notId : str "requestId" ≠ field.1 := fun same => other.2 (same ▸ reread_requestId)
        rw [List.foldl_cons, Dict.set, if_neg notType, Dict.set, if_neg notId]
        exact induction _ (fun later later_mem => among later (List.mem_cons_of_mem _ later_mem))
          (kept.set other)
  exact folded request [] apart (List.forall_mem_nil _)

/-- A name under which nothing else arrives keeps its member. -/
theorem lookup_rereadFields {name : Str} {before fields : Dict}
    (apart : ∀ field ∈ fields, Json.rereadStr field.1 ≠ name) :
    (Json.rereadFields before fields).lookup name = before.lookup name := by
  induction fields generalizing before with
  | nil => rfl
  | cons field fields induction =>
      obtain ⟨key, value⟩ := field
      have other : name ≠ Json.rereadStr key := (apart _ List.mem_cons_self).symm
      rw [Json.rereadFields,
        induction fun later among => apart later (List.mem_cons_of_mem _ among),
        Dict.lookup_set_of_ne other]

/-- What the bridge reads of a frame of the gateway: a request under the same id, or nothing. -/
theorem readBridgeFrame_of_reaches {encoder : Json.Encoder} {limits : Json.Limits}
    {validates : Dict → Bool} {frame : OutboundFrame} {raw : Str}
    (reaches : ReachesBridge encoder limits frame raw)
    (deliverable : ∀ pair ∈ requested? frame, Deliverable pair.1 pair.2) :
    ∃ started, readBridgeFrame limits validates raw = .ok started ∧
      started.map Completion.requestId = (requested? frame).map fun pair => .str pair.1 := by
  cases frame with
  | completionRequest requestId request =>
      obtain ⟨same_id, apart⟩ := deliverable (requestId, request) rfl
      obtain ⟨rest, shape, others⟩ := @envelope_shape requestId request apart
      obtain ⟨value, received, read⟩ := reaches
      obtain rfl : Json.reread (.dict (envelope requestId request)) = value := by
        simpa [Object.received, Object.written_ofValue] using received
      have fields : Json.reread (.dict (envelope requestId request)) =
          .dict (Json.rereadFields [(str "type", .str "completionRequest"),
            (str "requestId", .str requestId)] rest) := by
        rw [shape]
        simp only [Json.reread, Json.rereadFields, reread_type, reread_requestId, same_id]
        rfl
      have typed := @lookup_rereadFields (str "type")
        [(str "type", .str "completionRequest"), (str "requestId", .str requestId)] rest
        fun field among => (others field among).1
      have named := @lookup_rereadFields (str "requestId")
        [(str "type", .str "completionRequest"), (str "requestId", .str requestId)] rest
        fun field among => (others field among).2
      rw [fields] at read
      have kind : Dict.get (Json.rereadFields [(str "type", .str "completionRequest"),
          (str "requestId", .str requestId)] rest) (str "type") = .str "completionRequest" := by
        rw [Dict.get, typed]
        rfl
      have item : (Value.dict (Json.rereadFields [(str "type", .str "completionRequest"),
          (str "requestId", .str requestId)] rest)).item (str "requestId") =
          .ok (.str requestId) := by
        rw [Value.item_eq_ok]
        exact ⟨_, rfl, named⟩
      simp only [readBridgeFrame, read, bind, Except.bind, Value.getAttr, kind, item,
        Value.asStr?, if_true]
      exact ⟨_, rfl, rfl⟩
  | welcome | registered | deleted | error =>
      obtain ⟨fields, read, typed⟩ := reaches
      refine ⟨none, ?_, rfl⟩
      have other : (Dict.get fields "type").asStr? ≠ some (str "completionRequest") := by
        rw [typed, Value.asStr?, frameType]
        simp
      simp only [readBridgeFrame, read, bind, Except.bind, Value.getAttr, if_neg other]
      rfl

/-! ## Up to the gateway -/

/-- The message a frame of the bridge arrives as. -/
def ReachesGateway (encoder : Json.Encoder) (limits : Json.Limits) (frame : BridgeFrame) :
    RawMessage → Prop
  | .text raw => Carries encoder limits frame.toObject raw
  | .bytes | .disconnect => False

/-- What an arrived frame has the gateway queue, and under which request id. -/
def answerIn (fields : Dict) : Option (Str × Answer) :=
  match Dict.get fields "type", Dict.get fields "requestId" with
  | .str kind, .str requestId =>
      if kind ∈ Connection.answerTypes then
        (Connection.answerOf kind fields).map fun item => (requestId, item)
      else none
  | _, _ => none

/-- What a frame of the bridge has the gateway queue. -/
def answer? (encoder : Json.Encoder) (frame : BridgeFrame) : Option (Str × Answer) :=
  ((frame.toObject.received encoder).bind Value.asDict?).bind answerIn

/-- The object a handler's chunk arrives as: the gateway takes no other chunk. -/
def payload? (encoder : Json.Encoder) (data : Object) : Option Dict :=
  (data.received encoder).bind Value.asDict?

/-- The failure which a reported message, or none, becomes. -/
def reported (message : Str) : StreamError :=
  .reported ((Value.str (Json.rereadStr message)).orElse (.str "LLM provider reported an error"))

/-- The failure which a refusal becomes: one which is no object is a message. -/
def refusedAs (message : Str) : Value → StreamError
  | .dict refusal => .refused refusal
  | _ => reported message

section Answers

variable {encoder : Json.Encoder} {requestId : Str}

theorem received_requestId (same_id : Json.rereadStr requestId = requestId) :
    (Object.ofValue (.str requestId)).received encoder = some (.str requestId) := by
  rw [Object.ofValue, Object.received_str, same_id]

theorem answer?_chunk (same_id : Json.rereadStr requestId = requestId) (data : Object) :
    answer? encoder (.chunk (.str requestId) data) =
      (payload? encoder data).map fun fields => (requestId, .chunk fields) := by
  refine (Object.read_record encoder answerIn ["type", "requestId", "data"] rfl (by decide)
    (by decide)).trans ?_
  simp only [List.mapM_cons, List.mapM_nil, Object.received_str, received_requestId same_id,
    payload?]
  cases data.received encoder with
  | none => rfl
  | some value => cases value <;> rfl

theorem answer?_done (same_id : Json.rereadStr requestId = requestId) :
    answer? encoder (.done (.str requestId)) = some (requestId, .done) := by
  refine (Object.read_record encoder answerIn ["type", "requestId"] rfl (by decide)
    (by decide)).trans ?_
  simp only [List.mapM_cons, List.mapM_nil, Object.received_str, received_requestId same_id]
  rfl

theorem answer?_error (same_id : Json.rereadStr requestId = requestId) (message : Str) :
    answer? encoder (.error (.str requestId) message none) =
      some (requestId, .failure (reported message)) := by
  refine (Object.read_record encoder answerIn ["type", "requestId", "message"] rfl (by decide)
    (by decide)).trans ?_
  simp only [List.mapM_cons, List.mapM_nil, Object.received_str, received_requestId same_id]
  rfl

theorem answer?_refused (same_id : Json.rereadStr requestId = requestId) (message : Str)
    (refusal : Object) :
    answer? encoder (.error (.str requestId) message (some refusal)) =
      (refusal.received encoder).map fun value =>
        (requestId, .failure (refusedAs message value)) := by
  refine (Object.read_record encoder answerIn ["type", "requestId", "message", "refusal"] rfl
    (by decide) (by decide)).trans ?_
  simp only [List.mapM_cons, List.mapM_nil, Object.received_str, received_requestId same_id]
  cases refusal.received encoder with
  | none => rfl
  | some value => cases value <;> rfl

end Answers

theorem answer?_deleteModel {encoder : Json.Encoder} (name : Str) :
    answer? encoder (.deleteModel name) = none := by
  refine (Object.read_record encoder answerIn ["type", "name"] rfl (by decide)
    (by decide)).trans ?_
  simp only [List.mapM_cons, List.mapM_nil, Object.received_str]
  rfl

/-- A frame which answers a request is queued under the id of that request. -/
theorem owner_of_answer? {encoder : Json.Encoder} {frame : BridgeFrame} {requestId owner : Str}
    {item : Answer} (answers : answer? encoder frame = some (owner, item))
    (names : frame.requestId? = some (.str requestId))
    (same_id : Json.rereadStr requestId = requestId) : owner = requestId := by
  cases frame with
  | chunk other data =>
      obtain rfl := Option.some.inj names
      rw [answer?_chunk same_id] at answers
      obtain ⟨_, _, same⟩ := Option.map_eq_some_iff.mp answers
      exact (congrArg Prod.fst same).symm
  | done other =>
      obtain rfl := Option.some.inj names
      rw [answer?_done same_id] at answers
      exact (congrArg Prod.fst (Option.some.inj answers)).symm
  | error other message refusal =>
      obtain rfl := Option.some.inj names
      cases refusal with
      | none =>
          rw [answer?_error same_id] at answers
          exact (congrArg Prod.fst (Option.some.inj answers)).symm
      | some refusal =>
          rw [answer?_refused same_id] at answers
          obtain ⟨_, _, same⟩ := Option.map_eq_some_iff.mp answers
          exact (congrArg Prod.fst same).symm
  | deleteModel name => cases names

/-! ## The read loop of the gateway -/

/-- What an arrived frame says where it has something queued. -/
theorem answerIn_eq_some {fields : Dict} {requestId : Str} {item : Answer} :
    answerIn fields = some (requestId, item) ↔
      ∃ kind, Dict.get fields "type" = .str kind ∧ Dict.get fields "requestId" = .str requestId ∧
        kind ∈ Connection.answerTypes ∧ Connection.answerOf kind fields = some item := by
  constructor
  · intro answers
    unfold answerIn at answers
    split at answers
    · rename_i kind owner typed named
      split at answers
      · rename_i answering
        obtain ⟨_, carries, same⟩ := Option.map_eq_some_iff.mp answers
        obtain ⟨rfl, rfl⟩ := Prod.mk.inj same
        exact ⟨kind, typed, named, answering, carries⟩
      · cases answers
    · cases answers
  · rintro ⟨kind, typed, named, answering, carries⟩
    simp only [answerIn, typed, named, if_pos answering, carries, Option.map_some]

/-- What the gateway makes of an arrived frame: its item is queued where its completion is in the
table, and otherwise nothing is. -/
theorem dispatch_of_answerIn {Chunk : Type} {core : CoreReplies} {fields : Dict}
    {connection next : Connection Chunk} (outcome : connection.dispatch core fields = .ok next) :
    (∃ requestId index item, answerIn fields = some (requestId, item) ∧
        connection.answers.lookup requestId = some index ∧
        next = connection.put requestId index item) ∨
      (next = connection ∨ ∃ sent, next = connection.send sent) ∧
        ∀ requestId item, answerIn fields = some (requestId, item) →
          requestId ∉ connection.answers := by
  cases answers : answerIn fields with
  | none =>
      refine .inr ⟨?_, by simp⟩
      rcases Connection.dispatch_cases outcome with
        same | sent | ⟨kind, requestId, index, item, typed, answering, named, carries, -⟩
      · exact .inl same
      · exact .inr sent
      · have queues := answerIn_eq_some.mpr ⟨kind, typed, named, answering, carries⟩
        rw [queues] at answers
        cases answers
  | some answer =>
      obtain ⟨requestId, item⟩ := answer
      obtain ⟨kind, typed, named, answering, carries⟩ := answerIn_eq_some.mp answers
      rw [Connection.dispatch_answer answering typed] at outcome
      obtain rfl := Except.ok.inj outcome
      simp only [Connection.onAnswer, named, carries]
      cases found : connection.answers.lookup requestId with
      | some index =>
          rw [Connection.feed_of_lookup found]
          exact .inl ⟨requestId, index, item, rfl, found, rfl⟩
      | none =>
          refine .inr ⟨.inr ?_, ?_⟩
          · rw [Connection.feed, found]
            exact ⟨_, rfl⟩
          · intro owner other same
            obtain ⟨rfl, rfl⟩ := Prod.mk.inj (Option.some.inj same)
            exact AList.lookup_eq_none.mp found

/-- The same of a frame of the bridge, as the read loop receives it. -/
theorem iteration_of_reaches {Chunk : Type} {encoder : Json.Encoder} {limits : Json.Limits}
    {core : CoreReplies} {frame : BridgeFrame} {message : RawMessage}
    {connection next : Connection Chunk} (reaches : ReachesGateway encoder limits frame message)
    (outcome : connection.iteration limits core message = .ok next) :
    (∃ requestId index item, answer? encoder frame = some (requestId, item) ∧
        connection.answers.lookup requestId = some index ∧
        next = connection.put requestId index item) ∨
      (next = connection ∨ ∃ sent, next = connection.send sent) ∧
        ∀ requestId item, answer? encoder frame = some (requestId, item) →
          requestId ∉ connection.answers := by
  cases message with
  | bytes | disconnect => cases reaches
  | text raw =>
      obtain ⟨value, received, read⟩ := reaches
      have parsed : parseFrame limits (.text raw) = .ok value.asDict? := by
        rw [parseFrame, read]
      rw [answer?, received, Option.bind_some]
      simp only [Connection.iteration, parsed, bind, Except.bind] at outcome
      cases object : value.asDict? with
      | none =>
          rw [object] at outcome
          obtain rfl := Except.ok.inj outcome
          exact .inr ⟨.inr ⟨_, rfl⟩, by simp⟩
      | some fields =>
          rw [object] at outcome
          exact dispatch_of_answerIn outcome

end Souk.KyokRelay
