import Souk.KyokRelay.Delivery

/-!
# What a consumer of a completion has seen

The items queued for a stream are those of its handler's frames.  A stream has therefore yielded the
chunks of its own handler, in order and from the first; it returns only behind the last of them, and
it fails with a refusal only where the handler refused.
-/

namespace Souk.KyokRelay

open Souk.Python
open Souk.Server.WsKyok (Answer AnswerStream Connection StreamError StreamPhase queuedUnder)
open Souk.ClientSdk (BridgeConnection BridgeFrame Ends HandlerEvent ServeTask Streams framesFor
  toChunkDict)

variable {Chunk : Type} {encoder : Json.Encoder}

/-! ## Chunks and the one item behind them -/

section Items

variable {early late : List Dict} {rest last : List Answer} {item : Answer}

/-- Chunks at the beginning of an answer are chunks of it. -/
theorem prefix_of_chunks (ends : ∀ item ∈ last, item.Terminal)
    (before : early.map Answer.chunk <+: late.map Answer.chunk ++ last) : early <+: late := by
  induction early generalizing late with
  | nil => exact List.nil_prefix
  | cons data early induction =>
      cases late with
      | nil =>
          have among : Answer.chunk data ∈ last := before.subset List.mem_cons_self
          exact absurd (ends _ among) id
      | cons other late =>
          obtain ⟨same, later⟩ := List.cons_prefix_cons.mp before
          obtain rfl := Answer.chunk.inj same
          exact List.cons_prefix_cons.mpr ⟨rfl, induction later⟩

/-- Behind the item which ends an answer there is no further chunk, and before it none is
missing. -/
theorem whole_of_terminal (terminal : item.Terminal) (ends : ∀ item ∈ last, item.Terminal)
    (before : early.map Answer.chunk ++ [item] <+: late.map Answer.chunk ++ last) :
    early = late ∧ item ∈ last := by
  induction early generalizing late with
  | nil =>
      cases late with
      | nil => exact ⟨rfl, before.subset List.mem_cons_self⟩
      | cons other late =>
          obtain ⟨rfl, -⟩ := List.cons_prefix_cons.mp before
          exact absurd terminal id
  | cons data early induction =>
      cases late with
      | nil =>
          have among : Answer.chunk data ∈ last := before.subset List.mem_cons_self
          exact absurd (ends _ among) id
      | cons other late =>
          obtain ⟨same, later⟩ := List.cons_prefix_cons.mp before
          obtain rfl := Answer.chunk.inj same
          obtain ⟨rfl, among⟩ := induction later
          exact ⟨rfl, among⟩

/-- A beginning of what has been queued which the teardown did not queue was heard. -/
theorem prefix_of_untorn {read torn items : List Answer}
    (before : items <+: read ++ torn) (untorn : .failure .disconnected ∉ items)
    (tail : torn = [] ∨ torn = [.failure .disconnected]) : items <+: read := by
  rcases tail with rfl | rfl
  · rwa [List.append_nil] at before
  · rcases List.prefix_concat_iff.mp before with rfl | earlier
    · exact absurd (List.mem_append_right _ List.mem_cons_self) untorn
    · exact earlier

end Items

/-! ## From the frames of a task to its handler -/

/-- What a handler has yielded, as the objects which the gateway takes. -/
def payloads (encoder : Json.Encoder) (events : List HandlerEvent) : List Dict :=
  events.filterMap fun
    | .yields chunk => (toChunkDict chunk).toOption.bind (payload? encoder)
    | .returns | .refuses _ | .raises _ => none

/-- The items which the frames for a request carry are the items for it. -/
theorem answersTo_eq {frames : List BridgeFrame} {requestId : Str}
    (known : ∀ frame ∈ frames, ∀ owner, frame.requestId? = some owner →
      ∃ id, owner = .str id ∧ Json.rereadStr id = id) :
    answersTo encoder frames requestId =
      ((framesFor frames (.str requestId)).filterMap (answer? encoder)).map Prod.snd := by
  induction frames with
  | nil => rfl
  | cons frame frames induction =>
      have rest := induction fun later among => known later (List.mem_cons_of_mem frame among)
      have split : answersTo encoder (frame :: frames) requestId =
          queuedUnder (answer? encoder frame).toList requestId ++
            answersTo encoder frames requestId := by
        rw [answersTo, ← List.singleton_append, List.filterMap_append,
          Server.WsKyok.queuedUnder_append]
        cases carries : answer? encoder frame <;> simp [answersTo, carries]
      rw [split, rest, ← List.singleton_append, ClientSdk.framesFor_append, List.filterMap_append,
        List.map_append]
      refine congrArg (· ++ _) ?_
      by_cases mine : frame.requestId? = some (.str requestId)
      · obtain ⟨id, same, kept⟩ := known frame List.mem_cons_self _ mine
        obtain rfl := Value.str.inj same
        rw [ClientSdk.framesFor_eq_self (by simpa using mine)]
        cases carries : answer? encoder frame with
        | none => simp [queuedUnder, carries]
        | some answer =>
            obtain ⟨owner, item⟩ := answer
            obtain rfl := owner_of_answer? carries mine kept
            simp [carries]
      · rw [ClientSdk.framesFor_eq_nil (by simpa using mine)]
        refine Server.WsKyok.queuedUnder_fresh fun entry entry_mem same => mine ?_
        have carries : answer? encoder frame = some entry := Option.mem_toList.mp entry_mem
        cases named : frame.requestId? with
        | none =>
            cases frame with
            | deleteModel name => rw [answer?_deleteModel] at carries; cases carries
            | chunk | done | error => cases named
        | some owner =>
            obtain ⟨id, rfl, kept⟩ := known frame List.mem_cons_self owner named
            rw [← same, owner_of_answer? carries named kept]

/-- How a handler ended its stream, if it did, and with which item. -/
theorem item_of_last {requestId : Str} (same_id : Json.rereadStr requestId = requestId)
    {event : HandlerEvent} {frame : BridgeFrame} {owner : Str} {item : Answer}
    (ends : Ends (.str requestId) event frame)
    (carries : answer? encoder frame = some (owner, item)) :
    item.Terminal ∧ (item = .done → event = .returns) ∧
      (event = .returns → item = .done) ∧
      ∀ refusal, item = .failure (.refused refusal) →
        ∃ object, event = .refuses object ∧ object.received encoder = some (.dict refusal) := by
  have failed {message : Str} (frame_eq : BridgeFrame.error (.str requestId) message none = frame) :
      item = .failure (reported message) := by
    rw [← frame_eq, answer?_error same_id] at carries
    exact (congrArg Prod.snd (Option.some.inj carries)).symm
  cases ends with
  | undumped | raised =>
      rw [failed rfl]
      exact ⟨trivial, by simp, by simp, by simp [reported]⟩
  | returned =>
      rw [answer?_done same_id] at carries
      obtain rfl := congrArg Prod.snd (Option.some.inj carries)
      exact ⟨trivial, fun _ => rfl, fun _ => rfl, by simp⟩
  | refused object =>
      rw [answer?_refused same_id] at carries
      obtain ⟨value, received, same⟩ := Option.map_eq_some_iff.mp carries
      obtain rfl := congrArg Prod.snd same
      refine ⟨trivial, by simp, by simp, fun refusal refused => ⟨object, rfl, ?_⟩⟩
      cases value with
      | dict fields =>
          obtain rfl := StreamError.refused.inj (Answer.failure.inj refused)
          exact received
      | null | bool | int | float | str | list => cases refused

theorem payloads_append (early late : List HandlerEvent) :
    payloads encoder (early ++ late) = payloads encoder early ++ payloads encoder late := by
  rw [payloads, payloads, payloads, List.filterMap_append]

/-- The chunks of a handler which could be converted. -/
theorem payloads_yields {chunks : List ClientSdk.Chunk} {datas : List Object}
    (converted : List.Forall₂ (fun chunk data => chunk.Dumps (.ok data)) chunks datas) :
    payloads encoder (chunks.map .yields) = datas.filterMap (payload? encoder) := by
  induction converted with
  | nil => rfl
  | @cons chunk data chunks datas dumps rest induction =>
      have yielded : payloads encoder [.yields chunk] = (payload? encoder data).toList := by
        have own := ClientSdk.Chunk.dumps_iff.mp dumps
        cases carries : payload? encoder data <;> simp [payloads, own, carries, Except.toOption]
      rw [List.map_cons, ← List.singleton_append, payloads_append, yielded, induction,
        List.filterMap_cons]
      cases payload? encoder data <;> rfl

/-- The act which ends a handler's stream yields nothing. -/
theorem payloads_ends {requestId : Value} {event : HandlerEvent} {frame : BridgeFrame}
    (ends : Ends requestId event frame) : payloads encoder [event] = [] := by
  cases ends with
  | undumped dumps => simp [payloads, ClientSdk.Chunk.dumps_iff.mp dumps, Except.toOption]
  | returned | refused | raised => rfl

theorem answers_chunks {requestId : Str} (same_id : Json.rereadStr requestId = requestId)
    (datas : List Object) :
    ((datas.map (BridgeFrame.chunk (.str requestId))).filterMap (answer? encoder)).map Prod.snd =
      (datas.filterMap (payload? encoder)).map .chunk := by
  induction datas with
  | nil => rfl
  | cons data datas induction =>
      rw [List.map_cons, List.filterMap_cons, answer?_chunk same_id, List.filterMap_cons]
      cases payload? encoder data with
      | none => exact induction
      | some fields => exact congrArg (Answer.chunk fields :: ·) induction

/-- The answer to one request: the objects its handler yielded and, where the handler ended its
stream, one item behind them. -/
theorem answer_of_streams {task : ServeTask} {frames : List BridgeFrame} {requestId : Str}
    (same_id : Json.rereadStr requestId = requestId) (named : task.requestId = .str requestId)
    (streams : Streams task frames) :
    ∃ last : List Answer,
      (frames.filterMap (answer? encoder)).map Prod.snd =
        (payloads encoder task.events).map .chunk ++ last ∧
      ∀ item ∈ last, item.Terminal ∧
        (item = .done → .returns ∈ task.events) ∧
        (item ≠ .done → .returns ∉ task.events) ∧
        ∀ refusal, item = .failure (.refused refusal) →
          ∃ object, .refuses object ∈ task.events ∧
            object.received encoder = some (.dict refusal) := by
  obtain ⟨chunks, datas, last, acts, converted, closes, rfl⟩ := streams
  rw [named] at closes ⊢
  cases last with
  | none =>
      refine ⟨[], ?_, List.forall_mem_nil _⟩
      simp only [Option.map_none, Option.toList_none, List.append_nil] at acts ⊢
      rw [acts, payloads_yields converted, answers_chunks same_id]
  | some pair =>
      obtain ⟨event, frame⟩ := pair
      obtain ⟨ended, -⟩ := closes (event, frame) rfl
      have yielded : payloads encoder task.events = datas.filterMap (payload? encoder) := by
        rw [acts, payloads_append, payloads_yields converted]
        exact (congrArg _ (payloads_ends ended)).trans (List.append_nil _)
      refine ⟨((answer? encoder frame).map Prod.snd).toList, ?_, ?_⟩
      · rw [yielded, List.filterMap_append, List.map_append, answers_chunks same_id]
        refine congrArg _ ?_
        cases carries : answer? encoder frame <;> simp [carries]
      · intro item among
        obtain ⟨answer, carries, rfl⟩ := Option.map_eq_some_iff.mp (Option.mem_toList.mp among)
        obtain ⟨ends, done, returns, refused⟩ := item_of_last same_id ended carries
        have last_event : event ∈ task.events := by simp [acts]
        refine ⟨ends, fun is => done is ▸ last_event, fun isNot returned => ?_, ?_⟩
        · rw [acts] at returned
          rcases List.mem_append.mp returned with chunk | is_last
          · simp at chunk
          · obtain rfl : HandlerEvent.returns = event := by simpa using is_last
            exact isNot (returns rfl)
        · intro refusal is
          obtain ⟨object, rfl, received⟩ := refused refusal is
          exact ⟨object, last_event, received⟩

/-! ## What has reached the consumer -/

/-- What the handler of a request has done, which is nothing where the bridge never had a task for
it. -/
def Handled (connection : BridgeConnection) (requestId : Str) (events : List HandlerEvent) : Prop :=
  (∃ task ∈ connection.tasks, task.requestId = .str requestId ∧ task.events = events) ∨
    .str requestId ∉ connection.requestIds ∧ events = []

/-- What a consumer has seen of a completion, against what its handler has done. -/
structure Relayed (encoder : Json.Encoder) (validate : Dict → Option Chunk)
    (events : List HandlerEvent) (stream : AnswerStream Chunk) : Prop where
  inOrder : stream.yielded.map some <+: (payloads encoder events).map validate
  returned : stream.phase = .returned → .returns ∈ events ∧
    stream.yielded.map some = (payloads encoder events).map validate
  refused : ∀ refusal, stream.phase = .raised (.refused refusal) →
    (∃ object, .refuses object ∈ events ∧ object.received encoder = some (.dict refusal)) ∧
      stream.yielded.map some = (payloads encoder events).map validate
  reported : ∀ message, stream.phase = .raised (.reported message) → .returns ∉ events ∧
    stream.yielded.map some = (payloads encoder events).map validate

section Consumer

variable {validate : Dict → Option Chunk} {limits : Json.Limits} {validates : Dict → Bool}
  {offering : Str} {relay : Relay Chunk} {events : List HandlerEvent}
  {stream : AnswerStream Chunk} {last : List Answer}

/-- A stream has seen its answer as far as it was queued. -/
theorem relayed_of_answer (invariant : Invariant encoder validate relay)
    (issued : stream ∈ relay.left.streams)
    (answer : answersTo encoder relay.right.enqueued stream.requestId =
      (payloads encoder events).map .chunk ++ last)
    (ending : ∀ item ∈ last, item.Terminal ∧ (item = .done → .returns ∈ events) ∧
      (item ≠ .done → .returns ∉ events) ∧
      ∀ refusal, item = .failure (.refused refusal) →
        ∃ object, .refuses object ∈ events ∧ object.received encoder = some (.dict refusal)) :
    Relayed encoder validate events stream := by
  have ends : ∀ item ∈ last, item.Terminal := fun item among => (ending item among).1
  obtain ⟨read, torn, queued, heard, tail⟩ := (invariant.queued stream.requestId).initial
  have sent : read <+: (payloads encoder events).map .chunk ++ last := by
    rw [← answer]
    exact heard.trans ((invariant.toLeft.filterMap (answer? encoder)).filterMap _)
  -- what was taken up to and with the item which ended the stream
  have upTo {early : List Dict} {item : Answer} (terminal : item.Terminal)
      (untorn : item ≠ .failure .disconnected)
      (before : early.map .chunk ++ [item] <+: queuedUnder relay.left.queued stream.requestId) :
      early = payloads encoder events ∧ item ∈ last := by
    rw [queued] at before
    refine whole_of_terminal terminal ends ((prefix_of_untorn before ?_ tail).trans sent)
    simp [untorn.symm]
  have failed {error : StreamError} (raised : stream.phase = .raised error)
      (queuedError : ¬Unqueued error) (own : error ≠ .disconnected) :
      .failure error ∈ last ∧
        stream.yielded.map some = (payloads encoder events).map validate := by
    obtain ⟨early, history, validated⟩ :=
      (invariant.gateway.raised stream issued error raised).resolve_left queuedError
    obtain ⟨rfl, among⟩ := @upTo early (.failure error) trivial (by simpa using own)
      (by rw [history]; exact ⟨stream.queue, by simp⟩)
    exact ⟨among, validated.symm⟩
  obtain ⟨early, taken, history, validated, now⟩ :=
    invariant.gateway.invariant.accounted stream issued
  constructor
  · rw [← validated]
    refine List.IsPrefix.map validate (prefix_of_chunks ends (.trans ?_ sent))
    refine prefix_of_untorn ?_ (by simp) tail
    exact ⟨taken ++ stream.queue, by rw [← queued, history, List.append_assoc]⟩
  · intro returned
    obtain rfl : taken = [.done] := by simpa [returned, Server.WsKyok.TakenIn] using now
    obtain ⟨rfl, among⟩ := @upTo early .done trivial (by simp)
      (by rw [history]; exact ⟨stream.queue, by simp⟩)
    exact ⟨(ending _ among).2.1 rfl, validated.symm⟩
  · intro refusal raised
    obtain ⟨among, whole⟩ := failed raised id (by simp)
    exact ⟨(ending _ among).2.2.2 refusal rfl, whole⟩
  · intro message raised
    obtain ⟨among, whole⟩ := failed raised id (by simp)
    exact ⟨(ending _ among).2.2.1 (by simp), whole⟩

/-- Every stream of the gateway has been relayed what its handler has done. -/
theorem Invariant.relayed (invariant : Invariant encoder validate relay)
    (issued : stream ∈ relay.left.streams) :
    ∃ events, Handled relay.right stream.requestId events ∧
      Relayed encoder validate events stream := by
  have known : ∀ frame ∈ relay.right.enqueued, ∀ owner, frame.requestId? = some owner →
      ∃ id, owner = .str id ∧ Json.rereadStr id = id := by
    intro frame sent owner named
    obtain ⟨id, same, kept, -⟩ := invariant.served (invariant.bridge.issued frame sent owner named)
    exact ⟨id, same, kept⟩
  have answers := @answersTo_eq encoder relay.right.enqueued stream.requestId known
  by_cases served : Value.str stream.requestId ∈ relay.right.requestIds
  · obtain ⟨task, among, named⟩ := List.mem_map.mp served
    obtain ⟨id, same, kept, -⟩ := invariant.served served
    obtain rfl := Value.str.inj same
    have answered := (invariant.bridge.tasks task among).answered
    rw [named] at answered
    refine ⟨task.events, .inl ⟨task, among, named, rfl⟩, ?_⟩
    cases valid : task.completion.valid with
    | true =>
        obtain ⟨last, shape, ending⟩ :=
          @answer_of_streams encoder task _ _ kept named (answered.valid valid)
        exact relayed_of_answer invariant issued (answers.trans shape) ending
    | false =>
        have nothing : task.events = [] := invariant.idle task among valid
        rcases answered.invalid valid with none_sent | refused
        · rw [none_sent] at answers
          rw [nothing]
          exact relayed_of_answer invariant issued answers (List.forall_mem_nil _)
        · have carries := @answer?_error encoder _ kept (str "malformed completionRequest")
          rw [refused, named, ClientSdk.malformed, List.filterMap_cons, carries] at answers
          rw [nothing]
          refine relayed_of_answer invariant issued answers fun item ends => ?_
          obtain rfl := List.mem_singleton.mp ends
          exact ⟨trivial, by simp, fun _ => List.not_mem_nil, by simp [reported]⟩
  · refine ⟨[], .inr ⟨served, rfl⟩, ?_⟩
    have nothing : framesFor relay.right.enqueued (.str stream.requestId) = [] :=
      ClientSdk.framesFor_eq_nil fun frame sent named =>
        served (invariant.bridge.issued frame sent _ named)
    rw [nothing] at answers
    exact relayed_of_answer invariant issued answers (List.forall_mem_nil _)

/-- The bridge has just been attached to a connection of the gateway, and has answered nothing. -/
structure Attached (validate : Dict → Option Chunk) (limits : Json.Limits) (relay : Relay Chunk) :
    Prop where
  gateway : ∃ funduqPublicKey answer actions,
    (Server.WsKyok.machine validate limits).run (.opened funduqPublicKey answer) actions =
      some relay.left ∧ ∀ action ∈ actions, Delivers action
  unanswered : relay.left.queued = []
  bridge : relay.right = .opened
  toLeft : relay.toLeft = []
  toRight : relay.toRight <+: relay.left.outbound

theorem GatewayInvariant.opened (funduqPublicKey answer : Str) :
    GatewayInvariant validate (.opened funduqPublicKey answer) where
  invariant := .opened funduqPublicKey answer
  raised := by simp [AllRaised, Connection.opened]
  issued := rfl
  deliverable := by simp [requests, Connection.opened, requested?]

theorem Attached.invariant (attached : Attached validate limits relay) :
    Invariant encoder validate relay := by
  obtain ⟨funduqPublicKey, answer, actions, execution, delivers⟩ := attached.gateway
  have gateway : GatewayInvariant validate relay.left :=
    Machine.run_invariant_along (fun kept delivered taken => kept.step delivered taken)
      (.opened funduqPublicKey answer) (Machine.along_of_forall _ delivers) execution
  refine ⟨gateway, ?_, ?_, attached.toRight, ?_, ?_, fun requestId => ?_⟩
  · rw [attached.bridge]
    exact BridgeConnection.invariant_opened
  · rw [attached.toLeft]
    exact List.nil_prefix
  · rw [attached.bridge]
    exact List.nil_sublist _
  · rw [attached.bridge]
    exact List.forall_mem_nil _
  · refine .of_whole ?_
    rw [attached.unanswered, attached.toLeft]
    rfl

/-- Whatever the interleaving of the two ends and wherever their lines are cut, every stream of the
gateway has been relayed what its own handler has done. -/
theorem relayed_of_run {actions : List (Server.WsKyok.Action ⊕ BridgeConnection.Action)}
    {final : Relay Chunk} (attached : Attached validate limits relay)
    (delivers : ∀ action, .inl action ∈ actions → Delivers action)
    (execution : (machine encoder validate limits validates offering).run relay actions =
      some final) :
    ∀ stream ∈ final.left.streams, ∃ events, Handled final.right stream.requestId events ∧
      Relayed encoder validate events stream := by
  have delivered : (machine encoder validate limits validates offering).Along
      (fun _ action => ∀ left, action = .inl left → Delivers left) relay actions := by
    refine Machine.along_of_forall _ fun action among left same => ?_
    exact delivers left (same ▸ among)
  have invariant : Invariant encoder validate final :=
    Machine.run_invariant_along (fun kept good taken => kept.step good taken) attached.invariant
      delivered execution
  exact fun stream issued => invariant.relayed issued

end Consumer

/-- A connection over which the welcome has been heard. -/
def attached : Relay Dict := ⟨.opened "k" "a", .opened, [], [.welcome "k" "a"]⟩

/-- The frame `{"type": "chunk", "requestId": "r", "data": {}}`. -/
def chunkFrame : Str := "\x7b\"type\": \"chunk\", \"requestId\": \"r\", \"data\": \x7b\x7d\x7d"

/-- A completion whose handler yields one chunk, up to where its consumer has it. -/
def chunkRun : List (Server.WsKyok.Action ⊕ BridgeConnection.Action) :=
  [.inl (.complete "r" []), .inr (.receive BridgeConnection.completionRequest), .inr (.start 0),
    .inr (.serve 0 (.yields ⟨none, none, .ok (.dict [])⟩)),
    .inl (.receive (.text chunkFrame) ⟨fun _ _ => .ok [], fun _ => .ok ()⟩), .inl (.resume 0),
    .inl (.take 0)]

theorem chunkRun_relayed :
    ∃ final, (machine Json.floatless some Json.defaultLimits (fun _ => true) "m").run attached
        chunkRun = some final ∧
      final.left.streams.map AnswerStream.yielded = [[[]]] ∧
      ∀ stream ∈ final.left.streams, ∃ events, Handled final.right stream.requestId events ∧
        Relayed Json.floatless some events stream := by
  have asked : ReachesBridge Json.floatless Json.defaultLimits (.completionRequest "r" [])
      BridgeConnection.completionRequest := ⟨_, rfl, rfl⟩
  have answered : ReachesGateway Json.floatless Json.defaultLimits (.chunk (.str "r") (.dict []))
      (.text chunkFrame) := ⟨_, rfl, rfl⟩
  obtain ⟨final, execution, yielded⟩ : ∃ final,
      (machine Json.floatless some Json.defaultLimits (fun _ => true) "m").run attached chunkRun =
        some final ∧ final.left.streams.map AnswerStream.yielded = [[[]]] := by
    exact ⟨_, Duplex.run_cons_of_moves (.left (.acts rfl rfl)) <|
      Duplex.run_cons_of_moves (.right (.hears rfl rfl asked rfl)) <|
      Duplex.run_cons_of_moves (.right (.acts rfl rfl)) <|
      Duplex.run_cons_of_moves (.right (.acts rfl rfl)) <|
      Duplex.run_cons_of_moves (.left (.hears rfl rfl answered rfl)) <|
      Duplex.run_cons_of_moves (.left (.acts rfl rfl)) <|
      Duplex.run_cons_of_moves (.left (.acts rfl rfl)) rfl, rfl⟩
  have start : Attached some Json.defaultLimits attached :=
    ⟨⟨"k", "a", [], rfl, List.forall_mem_nil _⟩, rfl, rfl, rfl, List.prefix_rfl⟩
  refine ⟨final, execution, yielded, relayed_of_run start ?_ execution⟩
  intro action among
  obtain rfl | later : action = .complete "r" [] ∨ Delivers action := by
    simp only [chunkRun, List.mem_cons, Sum.inl.injEq, reduceCtorEq, false_or, List.not_mem_nil,
      or_false] at among
    rcases among with rfl | rfl | rfl | rfl
    · exact .inl rfl
    all_goals exact .inr trivial
  · exact ⟨rfl, List.forall_mem_nil _⟩
  · exact later

end Souk.KyokRelay
