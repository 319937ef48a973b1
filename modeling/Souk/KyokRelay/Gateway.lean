import Souk.KyokRelay.Frames
import Souk.Library.Records

/-!
# The gateway on its own

What holds of a `/ws/kyok` connection on its own, beside its claims: why a stream raised, and that
what the gateway has asked for are its streams.
-/

namespace Souk.KyokRelay

open Souk.Python
open Souk.Server (RawMessage)
open Souk.Server.WsKyok (Answer AnswerStream Connection OutboundFrame StreamError StreamPhase
  queuedUnder)

variable {Chunk : Type}

/-! ## Why a stream raised -/

section Gateway

variable {validate : Dict → Option Chunk} {limits : Json.Limits}
  {connection next : Connection Chunk}

/-- The failures which are not queued: the consumer's side raises them. -/
def Unqueued : StreamError → Prop
  | .stoppedAnswering | .invalidChunk | .cancelled => True
  | .disconnected | .reported _ | .refused _ => False

/-- A stream which raised a failure queued for it has yielded everything queued before. -/
def RaisedBy (validate : Dict → Option Chunk) (queued : List (Str × Answer))
    (stream : AnswerStream Chunk) : Prop :=
  ∀ error, stream.phase = .raised error → Unqueued error ∨
    ∃ payloads : List Dict,
      queuedUnder queued stream.requestId =
        payloads.map .chunk ++ .failure error :: stream.queue ∧
      payloads.map validate = stream.yielded.map some

/-- Every stream of a connection which raised did so for a reason. -/
def AllRaised (validate : Dict → Option Chunk) (connection : Connection Chunk) : Prop :=
  ∀ stream ∈ connection.streams, RaisedBy validate connection.queued stream

theorem RaisedBy.of_phase {queued : List (Str × Answer)} {stream : AnswerStream Chunk}
    (apart : ∀ error, stream.phase ≠ .raised error) : RaisedBy validate queued stream :=
  fun error raised => absurd raised (apart error)

theorem AllRaised.setStream (raised : AllRaised validate connection) {index : Nat}
    {after : AnswerStream Chunk} (kept : RaisedBy validate connection.queued after) :
    AllRaised validate (connection.setStream index after) := by
  intro stream among
  rcases List.mem_or_eq_of_mem_set among with old | rfl
  · exact raised stream old
  · exact kept

/-- What is queued behind the failure of a stream stays behind it. -/
theorem AllRaised.put (raised : AllRaised validate connection)
    (invariant : Server.WsKyok.Invariant validate connection) {requestId : Str} {index : Nat}
    (own : (connection.streams.map AnswerStream.requestId)[index]? = some requestId)
    (item : Answer) : AllRaised validate (connection.put requestId index item) := by
  intro stream among error failed
  obtain ⟨position, found⟩ := List.mem_iff_getElem?.mp among
  simp only [Connection.put, List.getElem?_modify] at found
  by_cases here : index = position
  · subst here
    simp only [if_true, Option.map_eq_map, Option.map_eq_some_iff] at found
    obtain ⟨before, before_at, rfl⟩ := found
    have before_id : before.requestId = requestId := by simpa [before_at] using own
    refine (raised before (List.mem_of_getElem? before_at) error failed).imp_right ?_
    rintro ⟨payloads, history, validated⟩
    refine ⟨payloads, ?_, validated⟩
    simp only [Connection.put, before_id, Server.WsKyok.queuedUnder_append,
      Server.WsKyok.queuedUnder_self]
    rw [← before_id, history]
    simp
  · have unchanged : connection.streams[position]? = some stream := by simpa [here] using found
    have different : requestId ≠ stream.requestId := by
      rintro rfl
      exact here (invariant.index_unique own (by simp [unchanged]))
    refine (raised stream (List.mem_of_getElem? unchanged) error failed).imp_right ?_
    rintro ⟨payloads, history, validated⟩
    refine ⟨payloads, ?_, validated⟩
    simpa [Connection.put, Server.WsKyok.queuedUnder_other different] using history

/-- The failures of the teardown are queued one by one. -/
theorem AllRaised.failPending (raised : AllRaised validate connection)
    (invariant : Server.WsKyok.Invariant validate connection) :
    AllRaised validate connection.failPending := by
  have folded : ∀ (entries : List (Sigma fun _ : Str => Nat)) (state : Connection Chunk),
      Server.WsKyok.Invariant validate state → AllRaised validate state →
      (∀ entry ∈ entries,
        (state.streams.map AnswerStream.requestId)[entry.2]? = some entry.1) →
      AllRaised validate (entries.foldl
        (fun state entry => state.put entry.1 entry.2 (.failure .disconnected)) state) := by
    intro entries
    induction entries with
    | nil => exact fun _ _ kept _ => kept
    | cons entry entries induction =>
        intro state kept before own
        have mine := own entry List.mem_cons_self
        refine induction _ (kept.put mine _) (before.put kept mine _) fun later later_mem => ?_
        rw [Connection.put_requestIds]
        exact own later (List.mem_cons_of_mem _ later_mem)
  refine folded connection.answers.entries connection invariant raised fun entry entry_mem => ?_
  exact invariant.table entry.1 entry.2 (AList.mem_lookup_iff.mpr entry_mem)

/-- What the teardown leaves, the streams apart. -/
theorem failPending_fields (connection : Connection Chunk) :
    connection.failPending.outbound = connection.outbound ∧
      connection.failPending.queued = connection.queued ++
        connection.answers.entries.map (fun entry => (entry.1, Answer.failure .disconnected)) ∧
      connection.failPending.streams.map AnswerStream.requestId =
        connection.streams.map AnswerStream.requestId := by
  have folded : ∀ (entries : List (Sigma fun _ : Str => Nat)) (state : Connection Chunk),
      let after := entries.foldl
        (fun state entry => state.put entry.1 entry.2 (.failure .disconnected)) state
      after.outbound = state.outbound ∧
        after.queued = state.queued ++
          entries.map (fun entry => (entry.1, Answer.failure .disconnected)) ∧
        after.streams.map AnswerStream.requestId = state.streams.map AnswerStream.requestId := by
    intro entries
    induction entries with
    | nil => simp
    | cons entry entries induction =>
        intro state
        obtain ⟨sent, queued, ids⟩ :=
          induction (state.put entry.1 entry.2 (.failure .disconnected))
        refine ⟨sent, ?_, ids.trans (Connection.put_requestIds state entry.1 entry.2 _)⟩
        rw [List.foldl_cons, queued]
        simp [Connection.put]
  exact folded connection.answers.entries connection

/-- What taking an item leaves, the stream which takes it and the table apart. -/
theorem takeItem_fields (connection : Connection Chunk) (index : Nat)
    (stream : AnswerStream Chunk) (item : Answer) :
    (connection.takeItem validate index stream item).outbound = connection.outbound ∧
      (connection.takeItem validate index stream item).queued = connection.queued := by
  cases item with
  | done | failure => exact ⟨rfl, rfl⟩
  | chunk data =>
      simp only [Connection.takeItem]
      split <;> exact ⟨rfl, rfl⟩

/-- A stream which takes an item raises a failure only where that is the item, or where a chunk does
not validate. -/
theorem AllRaised.takeItem (raised : AllRaised validate connection)
    (invariant : Server.WsKyok.Invariant validate connection) {index : Nat}
    {stream : AnswerStream Chunk} {item : Answer} {rest : List Answer}
    (found : connection.streams[index]? = some stream) (waiting : stream.phase = .waiting)
    (queue_eq : stream.queue = item :: rest) :
    AllRaised validate
      (connection.takeItem validate index { stream with queue := rest } item) := by
  obtain ⟨payloads, taken, history, validated, now⟩ :=
    invariant.accounted stream (List.mem_of_getElem? found)
  obtain rfl : taken = [] := by simpa [waiting, Server.WsKyok.TakenIn] using now
  cases item with
  | done => exact raised.setStream (.of_phase (by simp))
  | failure error =>
      refine raised.setStream fun other failed => .inr ⟨payloads, ?_, validated⟩
      obtain rfl : error = other := by simpa using failed
      simpa [queue_eq] using history
  | chunk data =>
      simp only [Connection.takeItem]
      split
      · exact raised.setStream (.of_phase (by simp))
      · refine raised.setStream fun other failed => .inl ?_
        obtain rfl : StreamError.invalidChunk = other := by simpa using failed
        trivial

/-- Every step of the gateway keeps the reasons. -/
theorem AllRaised.step (raised : AllRaised validate connection)
    (invariant : Server.WsKyok.Invariant validate connection) {action : Server.WsKyok.Action}
    (taken : (Server.WsKyok.machine validate limits).step connection action = some next) :
    AllRaised validate next := by
  cases action with
  | complete requestId request =>
      simp only [Server.WsKyok.machine, Server.WsKyok.step] at taken
      split at taken
      · cases taken
      · obtain rfl := Option.some.inj taken
        intro stream among
        rcases List.mem_append.mp among with old | new
        · exact raised stream old
        · obtain rfl := List.mem_singleton.mp new
          exact .of_phase (by simp)
  | receive message core =>
      simp only [Server.WsKyok.machine, Server.WsKyok.step] at taken
      split at taken
      · split at taken
        · obtain rfl := Option.some.inj taken
          exact raised.failPending invariant
        · split at taken
          · rename_i outcome
            obtain rfl := Option.some.inj taken
            rcases Connection.iteration_cases outcome with
              rfl | ⟨frame, rfl⟩ | ⟨_, _, requestId, index, item, -, -, -, -, -, found, rfl⟩
            · exact raised
            · exact raised
            · exact raised.put invariant (invariant.table requestId index found) item
          · obtain rfl := Option.some.inj taken
            exact raised.failPending invariant
      · cases taken
  | cancelHandler =>
      simp only [Server.WsKyok.machine, Server.WsKyok.step] at taken
      split at taken
      · obtain rfl := Option.some.inj taken
        exact raised.failPending invariant
      · cases taken
  | resume index =>
      obtain ⟨stream, found, taken⟩ := Option.bind_eq_some_iff.mp taken
      split at taken
      · obtain rfl := Option.some.inj taken
        exact raised.setStream (.of_phase (by simp))
      · obtain rfl := Option.some.inj taken
        exact raised.setStream (.of_phase (by simp))
      · cases taken
  | take index =>
      obtain ⟨stream, found, taken⟩ := Option.bind_eq_some_iff.mp taken
      split at taken
      · rename_i waiting queue_eq
        obtain rfl := Option.some.inj taken
        exact raised.takeItem invariant found waiting queue_eq
      · cases taken
  | gapTimeout index | cancelConsumer index =>
      obtain ⟨stream, found, taken⟩ := Option.bind_eq_some_iff.mp taken
      split at taken
      · obtain rfl := Option.some.inj taken
        refine raised.setStream fun error failed => .inl ?_
        obtain rfl := StreamPhase.raised.inj failed
        trivial
      · cases taken
  | close index =>
      obtain ⟨stream, found, taken⟩ := Option.bind_eq_some_iff.mp taken
      split at taken
      · obtain rfl := Option.some.inj taken
        exact raised.setStream (.of_phase (by simp))
      · obtain rfl := Option.some.inj taken
        exact raised.setStream (.of_phase (by simp))
      · cases taken

/-! ## What the gateway has asked for -/

/-- The requests handed over, in order. -/
def requests (connection : Connection Chunk) : List (Str × Dict) :=
  connection.outbound.filterMap requested?

theorem requests_send {frame : OutboundFrame} (reply : requested? frame = none) :
    requests (connection.send frame) = requests connection := by
  simp [requests, Connection.send, reply]

theorem requests_onRegister (core : Server.WsKyok.CoreReplies) (frame : Dict) :
    requests (connection.onRegister core frame) = requests connection := by
  unfold Connection.onRegister
  split <;> (try split) <;> exact requests_send rfl

theorem requests_onDeleteModel {core : Server.WsKyok.CoreReplies} {frame : Dict}
    (outcome : connection.onDeleteModel core frame = .ok next) :
    requests next = requests connection := by
  unfold Connection.onDeleteModel at outcome
  split at outcome
  · obtain rfl := Except.ok.inj outcome
    exact requests_send rfl
  · split at outcome
    · obtain rfl := Except.ok.inj outcome
      exact requests_send rfl
    · obtain rfl := Except.ok.inj outcome
      exact requests_send rfl
    · cases outcome

theorem requests_onAnswer (kind : Str) (frame : Dict) :
    requests (connection.onAnswer kind frame) = requests connection := by
  unfold Connection.onAnswer
  split
  · rename_i requestId named
    split
    · exact requests_send rfl
    · rename_i item carries
      cases found : connection.answers.lookup requestId with
      | some index =>
          rw [Connection.feed_of_lookup found]
          rfl
      | none =>
          rw [Connection.feed, found]
          exact requests_send rfl
  · exact requests_send rfl

/-- Nothing which arrives has the gateway ask for anything. -/
theorem requests_iteration {core : Server.WsKyok.CoreReplies} {message : RawMessage}
    (outcome : connection.iteration limits core message = .ok next) :
    requests next = requests connection := by
  unfold Connection.iteration at outcome
  obtain ⟨read, -, outcome⟩ := bind_eq_ok.mp outcome
  cases read with
  | none =>
      obtain rfl := Except.ok.inj outcome
      exact requests_send rfl
  | some frame =>
      obtain ⟨unknown, -, outcome⟩ := bind_eq_ok.mp outcome
      cases unknown with
      | true =>
          obtain rfl := Except.ok.inj outcome
          exact requests_send rfl
      | false =>
          simp only [Bool.false_eq_true, if_false] at outcome
          split at outcome
          · split at outcome
            · obtain rfl := Except.ok.inj outcome
              exact requests_onRegister core frame
            · split at outcome
              · exact requests_onDeleteModel outcome
              · obtain rfl := Except.ok.inj outcome
                exact requests_onAnswer _ frame
          · obtain rfl := Except.ok.inj outcome
            rfl

/-- Core hands over nothing but deliverable requests. -/
def Delivers : Server.WsKyok.Action → Prop
  | .complete requestId request => Deliverable requestId request
  | _ => True

/-- What holds of the gateway's end, whatever the other does. -/
structure GatewayInvariant (validate : Dict → Option Chunk) (connection : Connection Chunk) :
    Prop where
  invariant : Server.WsKyok.Invariant validate connection
  raised : AllRaised validate connection
  issued : (requests connection).map Prod.fst = connection.streams.map AnswerStream.requestId
  deliverable : ∀ pair ∈ requests connection, Deliverable pair.1 pair.2

/-- A stream which is replaced by a later state of itself keeps its id. -/
theorem setStream_requestIds {index : Nat} {before after : AnswerStream Chunk}
    (found : connection.streams[index]? = some before)
    (same_id : after.requestId = before.requestId) :
    (connection.setStream index after).streams.map AnswerStream.requestId =
      connection.streams.map AnswerStream.requestId := by
  have kept := @filterMap_set_of_same _ _ _ _ (fun stream => some stream.requestId) _ _ found
    (congrArg some same_id)
  simpa only [Connection.setStream, List.filterMap_eq_map'] using kept

theorem takeItem_requestIds {index : Nat} {stream : AnswerStream Chunk} {rest : List Answer}
    (found : connection.streams[index]? = some stream) (item : Answer) :
    (connection.takeItem validate index { stream with queue := rest } item).streams.map
        AnswerStream.requestId = connection.streams.map AnswerStream.requestId := by
  cases item with
  | done | failure => exact setStream_requestIds found rfl
  | chunk data =>
      simp only [Connection.takeItem]
      split <;> exact setStream_requestIds found rfl

/-- A step which neither asks for a completion nor makes a stream keeps what was asked for. -/
theorem GatewayInvariant.of_same (kept : GatewayInvariant validate connection)
    (invariant : Server.WsKyok.Invariant validate next) (raised : AllRaised validate next)
    (same : requests next = requests connection)
    (ids : next.streams.map AnswerStream.requestId =
      connection.streams.map AnswerStream.requestId) : GatewayInvariant validate next :=
  ⟨invariant, raised, by rw [same, ids, kept.issued], same ▸ kept.deliverable⟩

/-- Nothing which arrives, and no teardown, has the gateway ask for anything. -/
theorem requests_receive {message : RawMessage} {core : Server.WsKyok.CoreReplies}
    (taken : (Server.WsKyok.machine validate limits).step connection (.receive message core) =
      some next) : requests next = requests connection := by
  have torn : requests connection.teardown = requests connection :=
    congrArg (List.filterMap requested?) (failPending_fields connection).1
  simp only [Server.WsKyok.machine, Server.WsKyok.step] at taken
  split at taken
  · split at taken
    · obtain rfl := Option.some.inj taken
      exact torn
    · split at taken
      · rename_i outcome
        obtain rfl := Option.some.inj taken
        exact requests_iteration outcome
      · obtain rfl := Option.some.inj taken
        exact torn
  · cases taken

theorem GatewayInvariant.step (kept : GatewayInvariant validate connection)
    {action : Server.WsKyok.Action} (delivers : Delivers action)
    (taken : (Server.WsKyok.machine validate limits).step connection action = some next) :
    GatewayInvariant validate next := by
  have invariant := kept.invariant.step taken
  have raised := kept.raised.step kept.invariant taken
  cases Server.WsKyok.moves_of_step taken with
  | @completed requestId fresh request =>
      have asked : requests (connection.complete requestId request) =
          requests connection ++ [(requestId, request)] := by
        simp [requests, Connection.complete, requested?]
      refine ⟨invariant, raised, ?_, ?_⟩
      · rw [asked, List.map_append, kept.issued]
        simp [Connection.complete]
      · rw [asked]
        intro pair among
        rcases List.mem_append.mp among with old | new
        · exact kept.deliverable pair old
        · obtain rfl := List.mem_singleton.mp new
          exact delivers
  | torn =>
      obtain ⟨sent, -, ids⟩ := failPending_fields connection
      exact kept.of_same invariant raised (congrArg (List.filterMap requested?) sent) ids
  | ignored => exact kept
  | replied frame => exact kept.of_same invariant raised (requests_receive taken) rfl
  | fed =>
      refine kept.of_same invariant raised (requests_receive taken) ?_
      exact Connection.put_requestIds connection _ _ _
  | resumed found | raised found | closed found | dropped found =>
      exact kept.of_same invariant raised rfl (setStream_requestIds found rfl)
  | took found waiting queue_eq =>
      refine kept.of_same invariant raised ?_ (takeItem_requestIds found _)
      exact congrArg (List.filterMap requested?) (takeItem_fields connection _ _ _).1

end Gateway

end Souk.KyokRelay
