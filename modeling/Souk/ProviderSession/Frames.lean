import Souk.AgentSdk.Queries
import Souk.Python.JsonWire
import Souk.Server.MalformedQueries

/-!
# The frames of `/ws/provider` as they are read at the other end

Three kinds of frames have the read loop of the gateway tell core something: a verdict, an event and
a finish.  A fourth one asks, and a `queryResult` answers.  What either end does is read off the
dictionary which arrives; the file reduces that to the frame which the other end put on its queue.
-/

namespace Souk.ProviderSession

open Souk.Python
open Souk.Server (RawMessage parseFrame)
open Souk.Server.WsProvider (Contract CoreReplies OfferAnswer ProviderSocket Query offerAnswer
  parseLimit parseQuery parseVerdict)
open Souk.AgentSdk (OutboundFrame)

/-- What the read loop tells core without awaiting it. -/
inductive Report where
  /-- `answer_offer` -/
  | verdict (runId : Value) (answer : OfferAnswer)
  /-- `report_event` -/
  | event (runId event : Value)
  /-- `finish_run` -/
  | finish (runId : Value)

/-- The verdict of an `ack` frame, where the contract takes it. -/
def verdictIn (contract : Contract) (fields : Dict) : Option Report :=
  match parseVerdict contract fields with
  | .error _ => none
  | .ok (verdict, reason) =>
      match offerAnswer contract verdict reason with
      | .ok answer => some (.verdict (Dict.get fields "runId") answer)
      | .error _ => none

/-- What a frame has the read loop tell core. -/
def reportIn (contract : Contract) (fields : Dict) : Option Report :=
  match Dict.get fields "type" with
  | .str kind =>
      if kind = "ack" then verdictIn contract fields
      else if kind = "event" then
        some (.event (Dict.get fields "runId") (Dict.get fields "event"))
      else if kind = "finish" then some (.finish (Dict.get fields "runId"))
      else none
  | _ => none

/-- Two cores give one answer to what they are told. -/
def Agree (left right : CoreReplies) : Report → Prop
  | .verdict runId answer => left.answerOffer runId answer = right.answerOffer runId answer
  | .event runId event => left.reportEvent runId event = right.reportEvent runId event
  | .finish runId => left.finishRun runId = right.finishRun runId

theorem onAck_congr {contract : Contract} {left right : CoreReplies} {socket : ProviderSocket}
    {fields : Dict} (agree : ∀ report ∈ verdictIn contract fields, Agree left right report) :
    socket.onAck contract left fields = socket.onAck contract right fields := by
  unfold ProviderSocket.onAck
  unfold verdictIn at agree
  cases parsed : parseVerdict contract fields with
  | error message => rfl
  | ok verdict =>
      obtain ⟨verdict, reason⟩ := verdict
      cases offered : offerAnswer contract verdict reason with
      | error raised => simp only [offered, bind, Except.bind]
      | ok answer =>
          simp only [parsed, offered] at agree
          have same : left.answerOffer _ answer = right.answerOffer _ answer := agree _ rfl
          simp only [offered, bind, Except.bind, same]

/-- The dispatch of a frame hears nothing of core but the answer to what it tells. -/
theorem dispatch_congr {contract : Contract} {left right : CoreReplies} {socket : ProviderSocket}
    {fields : Dict} (agree : ∀ report ∈ reportIn contract fields, Agree left right report) :
    socket.dispatch contract left fields = socket.dispatch contract right fields := by
  by_cases typed : ∃ kind, Dict.get fields "type" = .str kind
  · obtain ⟨kind, typed⟩ := typed
    rw [ProviderSocket.dispatch_str contract left socket typed,
      ProviderSocket.dispatch_str contract right socket typed]
    simp only [reportIn, typed] at agree
    split
    · rfl
    split
    · rfl
    split
    · rfl
    split
    · rename_i ack
      rw [if_pos ack] at agree
      rw [onAck_congr agree]
    rename_i notAck
    rw [if_neg notAck] at agree
    split
    · rename_i event
      rw [if_pos event] at agree
      have same : left.reportEvent _ _ = right.reportEvent _ _ := agree _ rfl
      rw [same]
    rename_i notEvent
    rw [if_neg notEvent] at agree
    split
    · rename_i finish
      rw [if_pos finish] at agree
      have same : left.finishRun _ = right.finishRun _ := agree _ rfl
      rw [same]
    · rfl
  · have untyped : ∀ kind, Dict.get fields "type" ≠ .str kind := fun kind same => typed ⟨kind, same⟩
    rw [ProviderSocket.dispatch_not_str contract left socket fields untyped,
      ProviderSocket.dispatch_not_str contract right socket fields untyped]

/-- What a frame of the provider has the gateway tell core. -/
def report? (contract : Contract) (encoder : Json.Encoder) (frame : OutboundFrame) :
    Option Report :=
  ((frame.toObject.received encoder).bind Value.asDict?).bind (reportIn contract)

/-- What the read loop tells core of a message. -/
def tells (contract : Contract) (limits : Json.Limits) (message : RawMessage) : Option Report :=
  match parseFrame limits message with
  | .ok (some fields) => reportIn contract fields
  | .ok none | .error _ => none

theorem receive_congr {contract : Contract} {limits : Json.Limits} {left right : CoreReplies}
    {socket : ProviderSocket} {message : RawMessage}
    (agree : ∀ report ∈ tells contract limits message, Agree left right report) :
    socket.receive contract limits left message = socket.receive contract limits right message := by
  rw [ProviderSocket.receive, ProviderSocket.receive]
  unfold tells at agree
  cases parsed : parseFrame limits message with
  | error raised => rfl
  | ok frame =>
      cases frame with
      | none => rfl
      | some fields =>
          rw [parsed] at agree
          exact dispatch_congr agree

/-- The message a frame of the provider arrives as. -/
def ReachesGateway (encoder : Json.Encoder) (limits : Json.Limits) (frame : OutboundFrame) :
    RawMessage → Prop
  | .text raw => Carries encoder limits frame.toObject raw
  | .bytes | .disconnect => False

theorem tells_of_reaches {contract : Contract} {encoder : Json.Encoder} {limits : Json.Limits}
    {frame : OutboundFrame} {message : RawMessage}
    (reaches : ReachesGateway encoder limits frame message) :
    tells contract limits message = report? contract encoder frame := by
  cases message with
  | bytes | disconnect => cases reaches
  | text raw =>
      obtain ⟨value, received, read⟩ := reaches
      have parsed : parseFrame limits (.text raw) = .ok value.asDict? := by rw [parseFrame, read]
      rw [tells, parsed, report?, received, Option.bind_some]
      cases value.asDict? <;> rfl

/-! ## What each frame has told -/

section Frames

variable {contract : Contract} {encoder : Json.Encoder}

/-- A question has core told nothing by the read loop. -/
theorem report?_query (queryId threadId : Str) (limit : Option Int) :
    report? contract encoder (.query queryId threadId limit) = none := by
  refine (Object.read_record encoder (reportIn contract) ["type", "queryId", "method", "params"]
    rfl (by decide) (by decide)).trans ?_
  simp only [List.mapM_cons, List.mapM_nil, Object.received_str]
  cases Object.received encoder _ with
  | none => rfl
  | some value => rfl

end Frames

/-! ## Questions -/

/-- The dictionary as which a question arrives. -/
def questionFields (queryId threadId : Str) (limit : Option Int) : Dict :=
  [("type", .str "query"), ("queryId", .str (Json.rereadStr queryId)),
    ("method", .str "thread_messages"),
    ("params", .dict [("threadId", .str (Json.rereadStr threadId)),
      ("limit", limit.elim .null .int)])]

theorem received_query (encoder : Json.Encoder) (queryId threadId : Str) (limit : Option Int) :
    (OutboundFrame.query queryId threadId limit).toObject.received encoder =
      some (.dict (questionFields queryId threadId limit)) := by
  refine (Object.received_record encoder ["type", "queryId", "method", "params"] rfl (by decide)
    (by decide)).trans ?_
  have params : (Object.record [("threadId", .str threadId),
      ("limit", limit.elim .none .int)]).received encoder =
        some (.dict [("threadId", .str (Json.rereadStr threadId)),
          ("limit", limit.elim .null .int)]) := by
    refine (Object.received_record encoder ["threadId", "limit"] rfl (by decide)
      (by decide)).trans ?_
    cases limit <;> rfl
  simp only [List.mapM_cons, List.mapM_nil, Object.received_str, params]
  rfl

/-- The `type` of a frame. -/
def kind : OutboundFrame → String
  | .event .. => "event"
  | .finish _ => "finish"
  | .ack .. => "ack"
  | .query .. => "query"

/-- A frame arrives under its type. -/
theorem typed_of_received {encoder : Json.Encoder} {frame : OutboundFrame} {fields : Dict}
    (received : frame.toObject.received encoder = some (.dict fields)) :
    Dict.get fields "type" = .str (kind frame) := by
  have plain : Json.rereadStr (str (kind frame)) = str (kind frame) := by
    have every : ∀ name ∈ ["event", "finish", "ack", "query"],
        Json.rereadStr (str name) = str name := by decide
    apply every
    cases frame <;> simp [kind]
  cases frame with
  | event runId payload =>
      exact Object.first_of_received encoder ["runId", "event"] rfl (by decide) (by decide) plain
        received
  | finish runId =>
      exact Object.first_of_received encoder ["runId"] rfl (by decide) (by decide) plain received
  | ack runId accepted reason =>
      cases reason with
      | none =>
          exact Object.first_of_received encoder ["runId", "accepted"] rfl (by decide) (by decide)
            plain received
      | some reason =>
          exact Object.first_of_received encoder ["runId", "accepted", "reason"] rfl (by decide)
            (by decide) plain received
  | query queryId threadId limit =>
      exact Object.first_of_received encoder ["queryId", "method", "params"] rfl (by decide)
        (by decide) plain received

/-- Only a question arrives as one. -/
theorem query_of_typed {encoder : Json.Encoder} {frame : OutboundFrame} {fields : Dict}
    (received : frame.toObject.received encoder = some (.dict fields))
    (typed : Dict.get fields "type" = .str "query") :
    ∃ queryId threadId limit, frame = .query queryId threadId limit := by
  have same : str (kind frame) = str "query" :=
    Value.str.inj ((typed_of_received received).symm.trans typed)
  rw [str_inj] at same
  cases frame with
  | query queryId threadId limit => exact ⟨queryId, threadId, limit, rfl⟩
  | event | finish | ack => simp [kind] at same

/-- The question of a provider is read by the gateway as it was asked, or refused under its id. -/
theorem parseQuery_questionFields (queryId threadId : Str) (limit : Option Int) :
    (∃ query : Query, parseQuery (questionFields queryId threadId limit) = .ok (.inl query) ∧
      query.queryId = Json.rereadStr queryId ∧ query.threadId = Json.rereadStr threadId ∧
      limit = query.limit.map Int.ofNat) ∨
    (∃ message, parseQuery (questionFields queryId threadId limit) =
      .ok (.inr (.queryResult (Json.rereadStr queryId) (.error message))) ∧
      (Json.rereadStr threadId = [] ∨ ∃ count ≤ 0, limit = some count)) ∨
    (∃ message, parseQuery (questionFields queryId threadId limit) =
      .ok (.inr (.error [] message))) := by
  have asked : Dict.get (questionFields queryId threadId limit) "queryId" =
      .str (Json.rereadStr queryId) := rfl
  have params : (Dict.get (questionFields queryId threadId limit) "params").orElse (.dict []) =
      .dict [("threadId", .str (Json.rereadStr threadId)), ("limit", limit.elim .null .int)] := rfl
  have method : Dict.get (questionFields queryId threadId limit) "method" =
      .str "thread_messages" := rfl
  cases queried : (Value.str (Json.rereadStr queryId)).nonEmptyStr? with
  | none =>
      refine .inr (.inr ⟨{ format := "query needs a queryId" }, ?_⟩)
      simp only [parseQuery, asked, queried]
      rfl
  | some name =>
      obtain ⟨named, -⟩ := Server.WsProvider.nonEmptyStr?_eq_some.mp queried
      obtain rfl := Value.str.inj named
      rw [← asked] at queried
      cases thread : (Value.str (Json.rereadStr threadId)).nonEmptyStr? with
      | none =>
          refine .inr (.inl ?_)
          obtain ⟨message, parsed⟩ :=
            Server.WsProvider.parseQuery_refused queried method params (.inl thread)
          refine ⟨message, parsed, .inl ?_⟩
          by_contra nonempty
          have some_thread := Server.WsProvider.nonEmptyStr?_eq_some.mpr ⟨rfl, nonempty⟩
          rw [thread] at some_thread
          cases some_thread
      | some other =>
          obtain ⟨same, -⟩ := Server.WsProvider.nonEmptyStr?_eq_some.mp thread
          obtain rfl := Value.str.inj same
          cases limited : parseLimit (limit.elim .null .int) with
          | none =>
              refine .inr (.inl ?_)
              obtain ⟨message, parsed⟩ :=
                Server.WsProvider.parseQuery_refused queried method params (.inr limited)
              refine ⟨message, parsed, .inr ?_⟩
              cases limit with
              | none => cases limited
              | some count =>
                  refine ⟨count, ?_, rfl⟩
                  simp only [Option.elim_some, parseLimit, Value.asInt?] at limited
                  split at limited
                  · cases limited
                  · omega
          | some bound =>
              refine .inl ⟨_, Server.WsProvider.parseQuery_question queried method params thread
                limited, rfl, rfl, ?_⟩
              cases limit with
              | none =>
                  obtain rfl := Option.some.inj limited
                  rfl
              | some count =>
                  simp only [Option.elim_some, parseLimit, Value.asInt?] at limited
                  split at limited
                  · obtain rfl := Option.some.inj limited
                    rename_i positive
                    exact congrArg some (Int.toNat_of_nonneg positive.le).symm
                  · cases limited

/-! ## Answers -/

/-- What `answer` puts on the queue of the gateway. -/
def answerObject (queryId : Str) (field : String) (content : Object) : Object :=
  .record [("type", .str (str "queryResult")), ("queryId", .str queryId), (field, content)]

/-- The `type` of a frame of the gateway. -/
def gatewayKind : Server.WsProvider.OutboundFrame → String
  | .welcome .. => "welcome"
  | .run _ => "run"
  | .cancel _ => "cancel"
  | .queryResult .. => "queryResult"
  | .registered _ => "registered"
  | .deleted _ => "deleted"
  | .error .. => "error"
  | .close .. => "_close"

/-- The message a frame of the gateway arrives as.  The text of an error is not looked at. -/
def ReachesProvider (encoder : Json.Encoder) (limits : Json.Limits)
    (frame : Server.WsProvider.OutboundFrame) (raw : Str) : Prop :=
  match frame with
  | .queryResult queryId (.result messages) =>
      Carries encoder limits (answerObject queryId "result" (.ofValue (.list messages))) raw
  | .queryResult queryId (.error _) =>
      ∃ text, Carries encoder limits (answerObject queryId "error" (.str text)) raw
  | .close .. => False
  | .welcome .. | .run _ | .cancel _ | .registered _ | .deleted _ | .error .. =>
      ∃ fields, Json.loads limits raw = .ok (.dict fields) ∧
        Dict.get fields "type" = .str (gatewayKind frame)

/-- The dictionaries as which the answers of the gateway arrive. -/
inductive AnswersAs : Server.WsProvider.OutboundFrame → Dict → Prop
  | result {queryId : Str} {messages : List Value} {fields : Dict}
      (named : Dict.get fields "queryId" = .str (Json.rereadStr queryId))
      (accepted : Dict.get fields "error" = .null)
      (carried : Dict.get fields "result" = Json.reread (.list messages)) :
      AnswersAs (.queryResult queryId (.result messages)) fields
  | error {queryId text : Str} {message : Message} {fields : Dict}
      (named : Dict.get fields "queryId" = .str (Json.rereadStr queryId))
      (refused : Dict.get fields "error" = .str text) :
      AnswersAs (.queryResult queryId (.error message)) fields

theorem received_answer (encoder : Json.Encoder) {queryId : Str} {field : String}
    {content : Object} (other : field = "result" ∨ field = "error") :
    (answerObject queryId field content).received encoder =
      (content.received encoder).map fun value =>
        .dict [("type", .str "queryResult"), ("queryId", .str (Json.rereadStr queryId)),
          (str field, value)] := by
  have shape : (answerObject queryId field content).received encoder =
      ([("type", .str (str "queryResult")), ("queryId", .str queryId), (field, content)].mapM
        fun field : String × Object => (field.2.received encoder).map fun value =>
          (str field.1, value)).map .dict := by
    rcases other with rfl | rfl
    · exact Object.received_record encoder ["type", "queryId", "result"] rfl (by decide)
        (by decide)
    · exact Object.received_record encoder ["type", "queryId", "error"] rfl (by decide)
        (by decide)
  rw [shape]
  simp only [List.mapM_cons, List.mapM_nil, Object.received_str]
  cases content.received encoder <;> rfl

/-- The provider reads an answer for what it is, and nothing else for one. -/
theorem queryResult?_of_reaches {encoder : Json.Encoder} {limits : Json.Limits}
    {frame : Server.WsProvider.OutboundFrame} {raw : Str} {fields : Dict}
    (reaches : ReachesProvider encoder limits frame raw)
    (answer : AgentSdk.queryResult? limits raw = some fields) : AnswersAs frame fields := by
  obtain ⟨loaded, typed⟩ : Json.loads limits raw = .ok (.dict fields) ∧
      (Dict.get fields "type").asStr? = some (str "queryResult") := by
    unfold AgentSdk.queryResult? at answer
    split at answer
    · rename_i read loaded
      split at answer
      · rename_i typed
        obtain rfl := Option.some.inj answer
        exact ⟨loaded, typed⟩
      · cases answer
    · cases answer
  have other : ∀ name, name ≠ "queryResult" → (∃ read, Json.loads limits raw = .ok (.dict read) ∧
      Dict.get read "type" = .str name) → False := by
    rintro name different ⟨read, again, named⟩
    obtain rfl := Value.dict.inj (Except.ok.inj (again.symm.trans loaded))
    rw [named] at typed
    exact different (str_inj.mp (Option.some.inj typed))
  cases frame with
  | queryResult queryId content =>
      cases content with
      | result messages =>
          obtain ⟨value, received, read⟩ := reaches
          obtain rfl := Except.ok.inj (read.symm.trans loaded)
          rw [received_answer encoder (.inl rfl), Object.received, Object.written_ofValue]
            at received
          obtain rfl := Value.dict.inj (Option.some.inj received)
          exact .result rfl rfl rfl
      | error message =>
          obtain ⟨text, value, received, read⟩ := reaches
          obtain rfl := Except.ok.inj (read.symm.trans loaded)
          rw [received_answer encoder (.inr rfl), Object.received_str] at received
          obtain rfl := Value.dict.inj (Option.some.inj received)
          exact .error rfl rfl
  | close => cases reaches
  | welcome | run | cancel | registered | deleted | error =>
      exact (other _ (by simp [gatewayKind]) reaches).elim

end Souk.ProviderSession
