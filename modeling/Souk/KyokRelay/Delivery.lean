import Souk.KyokRelay.Gateway
import Souk.Library.Duplex

/-!
# A completion from the handler to its consumer

One `/ws/kyok` connection with both its ends: the gateway, which hands out a stream for every
completion core asks for, and the bridge, whose tasks run the handlers.  The two ends take their
steps in any order, either line may be cut at any moment, and a consumer may time out, be cancelled
or go away.  Whatever happens, a stream has yielded what its own handler yielded, in order and from
the beginning, and where it returned it has yielded all of it.
-/

namespace Souk.KyokRelay

open Souk.Python
open Souk.Server (RawMessage)
open Souk.Server.WsKyok (Answer AnswerStream Connection OutboundFrame StreamError StreamPhase
  queuedUnder)
open Souk.ClientSdk (BridgeConnection BridgeFrame HandlerEvent ServeTask framesFor)

variable {Chunk : Type}

/-! ## The two parties -/

/-- What a step of the gateway has sent stays sent. -/
theorem outbound_grows {validate : Dict → Option Chunk} {limits : Json.Limits}
    {connection next : Connection Chunk} {action : Server.WsKyok.Action}
    (taken : (Server.WsKyok.machine validate limits).step connection action = some next) :
    connection.outbound <+: next.outbound := by
  cases Server.WsKyok.moves_of_step taken with
  | completed fresh request => exact List.prefix_append _ _
  | torn =>
      have same : connection.teardown.outbound = connection.outbound :=
        (failPending_fields connection).1
      rw [same]
  | ignored | resumed | raised | closed | dropped | fed => exact List.prefix_rfl
  | replied frame => exact List.prefix_append _ _
  | took found waiting queue_eq => rw [(takeItem_fields connection _ _ _).1]

/-- The gateway's end of the connection. -/
def gatewayParty (validate : Dict → Option Chunk) (limits : Json.Limits) :
    Party (Connection Chunk) Server.WsKyok.Action OutboundFrame RawMessage where
  machine := Server.WsKyok.machine validate limits
  sent := Connection.outbound
  hears
    | .receive .disconnect _ => none
    | .receive message _ => some message
    | _ => none
  grows := outbound_grows

/-- The gateway hears in its read loop. -/
theorem gateway_hears {validate : Dict → Option Chunk} {limits : Json.Limits}
    {action : Server.WsKyok.Action} {message : RawMessage}
    (hearing : (gatewayParty validate limits).hears action = some message) :
    ∃ core, action = .receive message core := by
  cases action with
  | receive heard core =>
      cases heard with
      | disconnect => cases hearing
      | text raw | bytes => exact ⟨core, by rw [Option.some.inj hearing]⟩
  | complete | cancelHandler | resume | take | gapTimeout | cancelConsumer | close => cases hearing

theorem enqueued_grows {limits : Json.Limits} {validates : Dict → Bool} {offering : Str}
    {connection next : BridgeConnection} {action : BridgeConnection.Action}
    (taken : (BridgeConnection.machine limits validates offering).step connection action =
      some next) : connection.enqueued <+: next.enqueued := by
  cases BridgeConnection.moves_of_step taken with
  | served | deregistered => exact List.prefix_append _ _
  | asked | ignored | left | cancels | started | ended => exact List.prefix_rfl

/-- The bridge's end. -/
def bridgeParty (limits : Json.Limits) (validates : Dict → Bool) (offering : Str) :
    Party BridgeConnection BridgeConnection.Action BridgeFrame Str where
  machine := BridgeConnection.machine limits validates offering
  sent := BridgeConnection.enqueued
  hears
    | .receive raw => some raw
    | _ => none
  grows := enqueued_grows

/-- Both ends and what each has heard. -/
abbrev Relay (Chunk : Type) : Type :=
  Duplex (Connection Chunk) BridgeConnection OutboundFrame BridgeFrame

/-! ## What the gateway has queued -/

/-- The items which a list of frames carries for one request. -/
def answersTo (encoder : Json.Encoder) (frames : List BridgeFrame) (requestId : Str) :
    List Answer :=
  queuedUnder (frames.filterMap (answer? encoder)) requestId

theorem answersTo_concat {encoder : Json.Encoder} {frames : List BridgeFrame} {frame : BridgeFrame}
    {requestId : Str} : answersTo encoder (frames ++ [frame]) requestId =
      answersTo encoder frames requestId ++
        queuedUnder (answer? encoder frame).toList requestId := by
  rw [answersTo, List.filterMap_append, Server.WsKyok.queuedUnder_append]
  cases carries : answer? encoder frame <;> simp [answersTo, carries]

/-- What has been queued under a request is the beginning of what has been heard for it, and all of
that as long as its completion is in the table; a teardown adds one failure. -/
structure Queued (connection : Connection Chunk) (heard : List Answer) (requestId : Str) :
    Prop where
  initial : ∃ read torn, queuedUnder connection.queued requestId = read ++ torn ∧ read <+: heard ∧
    (torn = [] ∨ torn = [.failure .disconnected])
  whole : requestId ∈ connection.answers → queuedUnder connection.queued requestId = heard

section Queued

variable {connection next : Connection Chunk} {heard : List Answer} {requestId : Str}

/-- While its completion is in the table everything heard is queued. -/
theorem Queued.of_whole (whole : queuedUnder connection.queued requestId = heard) :
    Queued connection heard requestId :=
  ⟨⟨heard, [], by rw [whole, List.append_nil], List.prefix_rfl, .inl rfl⟩, fun _ => whole⟩

/-- A step which queues nothing and opens no entry. -/
theorem Queued.of_same (queued : Queued connection heard requestId)
    (same : next.queued = connection.queued)
    (entries : requestId ∈ next.answers → requestId ∈ connection.answers) :
    Queued next heard requestId := by
  refine ⟨same ▸ queued.initial, fun entry => ?_⟩
  rw [same]
  exact queued.whole (entries entry)

/-- More is heard for a completion which has left the table. -/
theorem Queued.of_absent (queued : Queued connection heard requestId)
    (absent : requestId ∉ connection.answers) (later : List Answer) :
    Queued connection (heard ++ later) requestId := by
  obtain ⟨read, torn, history, before, tail⟩ := queued.initial
  exact ⟨⟨read, torn, history, before.trans (List.prefix_append _ _), tail⟩,
    fun entry => absurd entry absent⟩

/-- A table has one entry under each name. -/
theorem queuedUnder_entries {entries : List (Sigma fun _ : Str => Nat)}
    (distinct : entries.NodupKeys) (item : Answer) :
    queuedUnder (entries.map fun entry => (entry.1, item)) requestId =
      if requestId ∈ entries.keys then [item] else [] := by
  induction entries with
  | nil => rfl
  | cons entry entries induction =>
      obtain ⟨new, rest⟩ := List.nodupKeys_cons.mp distinct
      rw [List.map_cons, ← List.singleton_append, Server.WsKyok.queuedUnder_append,
        induction rest, List.keys_cons]
      by_cases same : entry.1 = requestId
      · subst same
        simp [new]
      · simp [Server.WsKyok.queuedUnder_other same, Ne.symm same]

/-- The teardown fails what is in the table and empties it. -/
theorem queuedUnder_failPending (connection : Connection Chunk) (requestId : Str) :
    queuedUnder connection.failPending.queued requestId =
      queuedUnder connection.queued requestId ++
        if requestId ∈ connection.answers then [.failure .disconnected] else [] := by
  rw [(failPending_fields connection).2.1, Server.WsKyok.queuedUnder_append,
    queuedUnder_entries connection.answers.nodupKeys]
  exact congrArg _ (if_congr Iff.rfl rfl rfl)

theorem Queued.teardown (queued : Queued connection heard requestId) :
    Queued connection.teardown heard requestId := by
  have emptied : requestId ∉ connection.teardown.answers := by
    simp [Connection.teardown, Connection.failPending, AList.mem_keys]
  refine ⟨?_, fun entry => absurd entry emptied⟩
  have history := queuedUnder_failPending connection requestId
  by_cases entry : requestId ∈ connection.answers
  · rw [if_pos entry] at history
    exact ⟨heard, _, by rw [← queued.whole entry]; exact history, List.prefix_rfl, .inr rfl⟩
  · rw [if_neg entry, List.append_nil] at history
    obtain ⟨read, torn, before, rest⟩ := queued.initial
    exact ⟨read, torn, history.trans before, rest⟩

theorem Queued.put (queued : Queued connection heard requestId) {owner : Str} {index : Nat}
    (found : connection.answers.lookup owner = some index) (item : Answer) :
    Queued (connection.put owner index item) (heard ++ queuedUnder [(owner, item)] requestId)
      requestId := by
  by_cases same : owner = requestId
  · subst same
    have entry : owner ∈ connection.answers := AList.lookup_isSome.mp (by rw [found]; rfl)
    refine .of_whole ?_
    rw [Connection.put, Server.WsKyok.queuedUnder_append, queued.whole entry]
  · rw [Server.WsKyok.queuedUnder_other same, List.append_nil]
    have unchanged : queuedUnder (connection.put owner index item).queued requestId =
        queuedUnder connection.queued requestId := by
      simp [Connection.put, Server.WsKyok.queuedUnder_other same]
    exact ⟨unchanged ▸ queued.initial, fun entry => unchanged.trans (queued.whole entry)⟩

/-- Taking an item opens no entry. -/
theorem takeItem_answers {validate : Dict → Option Chunk} {index : Nat}
    {stream : AnswerStream Chunk} {item : Answer}
    (entry : requestId ∈ (connection.takeItem validate index stream item).answers) :
    requestId ∈ connection.answers := by
  cases item with
  | done | failure => exact (AList.mem_erase.mp entry).2
  | chunk data =>
      simp only [Connection.takeItem] at entry
      split at entry
      · exact entry
      · exact (AList.mem_erase.mp entry).2

/-- A step which hears nothing of the bridge. -/
theorem Queued.acts {validate : Dict → Option Chunk} {limits : Json.Limits}
    (queued : Queued connection heard requestId)
    (invariant : Server.WsKyok.Invariant validate connection) {action : Server.WsKyok.Action}
    (quiet : (gatewayParty validate limits).hears action = none)
    (unheard : requestId ∉ connection.streams.map AnswerStream.requestId → heard = [])
    (taken : (Server.WsKyok.machine validate limits).step connection action = some next) :
    Queued next heard requestId := by
  cases Server.WsKyok.moves_of_step taken with
  | @completed issued fresh request =>
      by_cases same : requestId = issued
      · subst same
        have nothing : queuedUnder connection.queued requestId = [] :=
          Server.WsKyok.queuedUnder_fresh fun entry entry_mem same =>
            fresh (same ▸ invariant.issued entry entry_mem)
        exact .of_whole (nothing.trans (unheard fresh).symm)
      · refine queued.of_same rfl fun entry => ?_
        exact (AList.mem_insert _).mp entry |>.resolve_left same
  | torn => exact queued.teardown
  | ignored => exact queued
  | replied frame => exact queued.of_same rfl id
  | @fed message core frame kind owner index item reading parsed =>
      cases message with
      | disconnect => cases parsed
      | text | bytes => cases quiet
  | resumed | dropped => exact queued.of_same rfl id
  | raised | closed => exact queued.of_same rfl fun entry => (AList.mem_erase.mp entry).2
  | took found waiting queue_eq =>
      refine queued.of_same (takeItem_fields connection _ _ _).2 fun entry => ?_
      exact takeItem_answers entry

/-- A step which hears a frame of the bridge. -/
theorem Queued.hears {validate : Dict → Option Chunk} {limits : Json.Limits}
    {encoder : Json.Encoder} (queued : Queued connection heard requestId)
    {message : RawMessage} {core : Server.WsKyok.CoreReplies} {frame : BridgeFrame}
    (reaches : ReachesGateway encoder limits frame message)
    (taken : (Server.WsKyok.machine validate limits).step connection (.receive message core) =
      some next) :
    Queued next (heard ++ queuedUnder (answer? encoder frame).toList requestId) requestId := by
  have emptied : requestId ∉ connection.teardown.answers := by
    simp [Connection.teardown, Connection.failPending]
  simp only [Server.WsKyok.machine, Server.WsKyok.step] at taken
  split at taken
  · split at taken
    · cases reaches
    · split at taken
      · rename_i after outcome
        obtain rfl := Option.some.inj taken
        rcases iteration_of_reaches reaches outcome with
          ⟨owner, index, item, carries, found, rfl⟩ | ⟨rest, absent⟩
        · rw [carries]
          exact queued.put found item
        · obtain ⟨kept, entries⟩ : Queued after heard requestId ∧
              (requestId ∈ after.answers → requestId ∈ connection.answers) := by
            rcases rest with rfl | ⟨sent, rfl⟩
            · exact ⟨queued, id⟩
            · exact ⟨queued.of_same rfl id, id⟩
          by_cases mine : ∃ item, answer? encoder frame = some (requestId, item)
          · obtain ⟨item, carries⟩ := mine
            exact kept.of_absent (fun entry => absent requestId item carries (entries entry)) _
          · have others : queuedUnder (answer? encoder frame).toList requestId = [] := by
              refine Server.WsKyok.queuedUnder_fresh fun entry entry_mem same => mine ?_
              exact ⟨entry.2, same ▸ Option.mem_toList.mp entry_mem⟩
            rw [others, List.append_nil]
            exact kept
      · obtain rfl := Option.some.inj taken
        exact queued.teardown.of_absent emptied _
  · cases taken

end Queued

/-! ## Both ends -/

section Relay

variable {encoder : Json.Encoder} {validate : Dict → Option Chunk} {limits : Json.Limits}
  {validates : Dict → Bool} {offering : Str} {relay next : Relay Chunk}

/-- The two ends as one machine. -/
noncomputable def machine (encoder : Json.Encoder) (validate : Dict → Option Chunk)
    (limits : Json.Limits) (validates : Dict → Bool) (offering : Str) :
    Machine (Relay Chunk) (Server.WsKyok.Action ⊕ BridgeConnection.Action) :=
  Duplex.machine (gatewayParty validate limits) (bridgeParty limits validates offering)
    (ReachesGateway encoder limits) (ReachesBridge encoder limits)

/-- What holds of the two ends together. -/
structure Invariant (encoder : Json.Encoder) (validate : Dict → Option Chunk)
    (relay : Relay Chunk) : Prop where
  gateway : GatewayInvariant validate relay.left
  bridge : BridgeConnection.Invariant relay.right
  toLeft : relay.toLeft <+: relay.right.enqueued
  toRight : relay.toRight <+: relay.left.outbound
  /-- The bridge serves requests it has heard of, each once. -/
  asked : relay.right.requestIds.Sublist
    ((relay.toRight.filterMap requested?).map fun pair => Value.str pair.1)
  /-- A handler is called only for an envelope which validates. -/
  idle : ∀ task ∈ relay.right.tasks, task.completion.valid = false → task.events = []
  queued : ∀ requestId, Queued relay.left (answersTo encoder relay.toLeft requestId) requestId

/-- A request the bridge serves is one of the gateway's, under an id which is read back as it is. -/
theorem Invariant.served (invariant : Invariant encoder validate relay) {requestId : Value}
    (served : requestId ∈ relay.right.requestIds) :
    ∃ id, requestId = .str id ∧ Json.rereadStr id = id ∧
      id ∈ relay.left.streams.map AnswerStream.requestId := by
  obtain ⟨pair, heard, rfl⟩ := List.mem_map.mp (invariant.asked.subset served)
  have requested : pair ∈ requests relay.left :=
    (invariant.toRight.filterMap requested?).subset heard
  refine ⟨pair.1, rfl, (invariant.gateway.deliverable pair requested).1, ?_⟩
  rw [← invariant.gateway.issued]
  exact List.mem_map_of_mem requested

/-- Nothing has been heard under an id which was not issued. -/
theorem Invariant.unheard (invariant : Invariant encoder validate relay) {requestId : Str}
    (fresh : requestId ∉ relay.left.streams.map AnswerStream.requestId) :
    answersTo encoder relay.toLeft requestId = [] := by
  refine Server.WsKyok.queuedUnder_fresh fun entry entry_mem same => fresh ?_
  obtain ⟨frame, heard, carries⟩ := List.mem_filterMap.mp entry_mem
  have sent : frame ∈ relay.right.enqueued := invariant.toLeft.subset heard
  cases named : frame.requestId? with
  | none =>
      cases frame with
      | deleteModel name => rw [answer?_deleteModel] at carries; cases carries
      | chunk | done | error => cases named
  | some owner =>
      obtain ⟨id, rfl, kept, issued⟩ :=
        invariant.served (invariant.bridge.issued frame sent owner named)
      rw [← same, owner_of_answer? carries named kept]
      exact issued

/-- The gateway takes a step. -/
theorem Invariant.left (invariant : Invariant encoder validate relay)
    {action : Server.WsKyok.Action} {after : Connection Chunk} {heard : List BridgeFrame}
    (delivers : Delivers action)
    (moves : (gatewayParty validate limits).Moves (ReachesGateway encoder limits)
      relay.right.enqueued relay.toLeft relay.left action after heard) :
    Invariant encoder validate { relay with left := after, toLeft := heard } where
  gateway := invariant.gateway.step delivers moves.taken
  bridge := invariant.bridge
  toLeft := moves.heard_isPrefix invariant.toLeft
  toRight := invariant.toRight.trans (outbound_grows moves.taken)
  asked := invariant.asked
  idle := invariant.idle
  queued := by
    intro requestId
    cases moves with
    | acts quiet taken =>
        exact (invariant.queued requestId).acts invariant.gateway.invariant quiet
          invariant.unheard taken
    | hears hearing awaited carried taken =>
        obtain ⟨core, rfl⟩ := gateway_hears hearing
        rw [answersTo_concat]
        exact (invariant.queued requestId).hears carried taken

/-- A task which is replaced by a later state of itself keeps its request. -/
theorem set_requestIds {connection : BridgeConnection} {index : Nat} {task after : ServeTask}
    (found : connection.tasks[index]? = some task) (same_id : after.requestId = task.requestId) :
    (connection.tasks.set index after).map ServeTask.requestId = connection.requestIds := by
  have kept := @filterMap_set_of_same _ _ _ _ (fun task => some task.requestId) _ _ found
    (congrArg some same_id)
  simpa only [BridgeConnection.requestIds, List.filterMap_eq_map'] using kept

/-- Without a message no request begins. -/
theorem requestIds_of_acts {connection after : BridgeConnection}
    {action : BridgeConnection.Action}
    (quiet : (bridgeParty limits validates offering).hears action = none)
    (taken : (BridgeConnection.machine limits validates offering).step connection action =
      some after) : after.requestIds = connection.requestIds := by
  cases BridgeConnection.moves_of_step taken with
  | asked | ignored => cases quiet
  | left | deregistered => rfl
  | cancels _ found | started found | ended found => exact set_requestIds found rfl
  | served found => exact set_requestIds found rfl

/-- A frame of the gateway begins the request it hands over, if any. -/
theorem requestIds_of_hears {connection after : BridgeConnection} {frame : OutboundFrame}
    {raw : Str} (reaches : ReachesBridge encoder limits frame raw)
    (deliverable : ∀ pair ∈ requested? frame, Deliverable pair.1 pair.2)
    (taken : (BridgeConnection.machine limits validates offering).step connection (.receive raw) =
      some after) :
    after.requestIds = connection.requestIds ++
      (requested? frame).toList.map fun pair => Value.str pair.1 := by
  obtain ⟨started, read, same⟩ :=
    @readBridgeFrame_of_reaches encoder limits validates frame raw reaches deliverable
  simp only [BridgeConnection.machine, BridgeConnection.step, read] at taken
  split at taken
  · cases started with
    | none =>
        obtain rfl := Option.some.inj taken
        have nothing : requested? frame = none := by
          cases asks : requested? frame with
          | none => rfl
          | some pair => rw [asks] at same; cases same
        rw [nothing]
        exact (List.append_nil _).symm
    | some completion =>
        obtain rfl := Option.some.inj taken
        obtain ⟨pair, asks, id⟩ := Option.map_eq_some_iff.mp same.symm
        rw [asks]
        simp [BridgeConnection.requestIds, ServeTask.requestId, id]
  · cases taken

/-- No handler is called for an envelope which does not validate. -/
theorem idle_of_step {connection after : BridgeConnection} {action : BridgeConnection.Action}
    (idle : ∀ task ∈ connection.tasks, task.completion.valid = false → task.events = [])
    (taken : (BridgeConnection.machine limits validates offering).step connection action =
      some after) :
    ∀ task ∈ after.tasks, task.completion.valid = false → task.events = [] := by
  have replaced {index : Nat} {later : ServeTask}
      (kept : later.completion.valid = false → later.events = []) :
      ∀ task ∈ connection.tasks.set index later, task.completion.valid = false →
        task.events = [] := by
    intro task among
    rcases List.mem_or_eq_of_mem_set among with old | rfl
    · exact idle task old
    · exact kept
  cases BridgeConnection.moves_of_step taken with
  | ignored | left | deregistered => exact idle
  | asked =>
      intro task among
      rcases List.mem_append.mp among with old | new
      · exact idle task old
      · obtain rfl := List.mem_singleton.mp new
        exact fun _ => rfl
  | @cancels index task _ found | @started index task found | @ended index task found =>
      exact replaced fun invalid => idle task (List.mem_of_getElem? found) invalid
  | @served index event task found =>
      refine replaced fun invalid => ?_
      have unheard := idle task (List.mem_of_getElem? found) invalid
      have refused : task.completion.valid = false := invalid
      simp [ServeTask.act, refused, unheard]

/-- Requests which have been heard have different ids. -/
theorem Invariant.nodup (invariant : Invariant encoder validate relay)
    {heard : List OutboundFrame} (before : heard <+: relay.left.outbound) :
    ((heard.filterMap requested?).map fun pair => Value.str pair.1).Nodup := by
  have issued : ((requests relay.left).map Prod.fst).Nodup :=
    invariant.gateway.issued ▸ invariant.gateway.invariant.distinct
  have among := ((before.filterMap requested?).sublist.map Prod.fst).nodup issued
  have injective : Function.Injective Value.str := fun _ _ same => Value.str.inj same
  simpa [List.map_map, Function.comp_def] using among.map injective

/-- The bridge takes a step. -/
theorem Invariant.right (invariant : Invariant encoder validate relay)
    {action : BridgeConnection.Action} {after : BridgeConnection} {heard : List OutboundFrame}
    (moves : (bridgeParty limits validates offering).Moves (ReachesBridge encoder limits)
      relay.left.outbound relay.toRight relay.right action after heard) :
    Invariant encoder validate { relay with right := after, toRight := heard } := by
  have before : heard <+: relay.left.outbound := moves.heard_isPrefix invariant.toRight
  have sent := invariant.toLeft.trans (enqueued_grows moves.taken)
  cases moves with
  | acts quiet taken =>
      have ids := requestIds_of_acts quiet taken
      have fresh : relay.right.Fresh limits validates action := by
        cases action with
        | receive raw => cases quiet
        | close | cancel | start | serve | cancelled | deregister => trivial
      exact ⟨invariant.gateway, invariant.bridge.step fresh taken, sent, before,
        ids ▸ invariant.asked, idle_of_step invariant.idle taken, invariant.queued⟩
  | @hears raw frame hearing awaited carried taken =>
      obtain rfl : action = .receive raw := by
        cases action with
        | receive heard => rw [Option.some.inj hearing]
        | close | cancel | start | serve | cancelled | deregister => cases hearing
      have deliverable : ∀ pair ∈ requested? frame, Deliverable pair.1 pair.2 := by
        intro pair asks
        exact invariant.gateway.deliverable pair
          (List.mem_filterMap.mpr ⟨frame, List.mem_of_getElem? awaited, asks⟩)
      have ids := requestIds_of_hears carried deliverable taken
      have asked : after.requestIds.Sublist
          (((relay.toRight ++ [frame]).filterMap requested?).map fun pair => Value.str pair.1) := by
        rw [ids, List.filterMap_append, List.map_append]
        refine invariant.asked.append ?_
        cases asks : requested? frame <;> simp [asks]
      have distinct : after.requestIds.Nodup := asked.nodup (invariant.nodup before)
      have fresh : relay.right.Fresh limits validates (.receive raw) := by
        intro completion read again
        simp only [bridgeParty, BridgeConnection.machine, BridgeConnection.step, read] at taken
        split at taken
        · obtain rfl := Option.some.inj taken
          rw [BridgeConnection.requestIds, List.map_append, List.nodup_append] at distinct
          exact distinct.2.2 _ again _ List.mem_cons_self rfl
        · cases taken
      exact ⟨invariant.gateway, invariant.bridge.step fresh taken, sent, before, asked,
        idle_of_step invariant.idle taken, invariant.queued⟩

theorem Invariant.step (invariant : Invariant encoder validate relay)
    {action : Server.WsKyok.Action ⊕ BridgeConnection.Action}
    (delivers : ∀ left, action = .inl left → Delivers left)
    (taken : (machine encoder validate limits validates offering).step relay action = some next) :
    Invariant encoder validate next := by
  cases Duplex.moves_of_step taken with
  | left moves => exact invariant.left (delivers _ rfl) moves
  | right moves => exact invariant.right moves

end Relay

end Souk.KyokRelay
