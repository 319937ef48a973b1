import Souk.Python.JsonEncoder
import Souk.Sdk.WriteLoop

/-!
# `SoukProvider` between its handshakes

The outbound queue belongs to the provider and not to a connection: agents put their events and
finishes on it whether or not a socket is open, and every connection which completes its handshake
starts a writer on the same queue.
-/

namespace Souk.AgentSdk

open Souk.Python
open Souk.Sdk

/-- An event as an agent yields it: a pydantic model, which is dumped, or any other object. -/
inductive Event where
  | model (dumped : Except Raised Object)
  | plain (object : Object)

/-- `dump_event` -/
def dumpEvent : Event → Except Raised Object
  | .model dumped => dumped
  | .plain object => .ok object

/-- A frame on `_outbound`. -/
inductive OutboundFrame where
  | event (runId : Str) (event : Object)
  | finish (runId : Str)
  | ack (runId : Value) (accepted : Bool) (reason : Option Str)
  | query (queryId threadId : Str) (limit : Option Int)

namespace OutboundFrame

/-- The dictionary put on the queue. -/
def toObject : OutboundFrame → Object
  | event runId payload =>
      .record [("type", .str (str "event")), ("runId", .str runId), ("event", payload)]
  | finish runId => .record [("type", .str (str "finish")), ("runId", .str runId)]
  | ack runId accepted none =>
      .record [("type", .str (str "ack")), ("runId", .ofValue runId), ("accepted", .bool accepted)]
  | ack runId accepted (some reason) =>
      .record [("type", .str (str "ack")), ("runId", .ofValue runId), ("accepted", .bool accepted),
        ("reason", .str reason)]
  | query queryId threadId limit =>
      .record [("type", .str (str "query")), ("queryId", .str queryId),
        ("method", .str (str "thread_messages")),
        ("params", .record [("threadId", .str threadId),
          ("limit", limit.elim .none .int)])]

/-- Whether `json.dumps` takes the frame. -/
def serializes (limits : Json.Limits) (frame : OutboundFrame) : Bool :=
  Json.serializes limits frame.toObject

/-- A question dies with the connection it was asked on; every other frame outlives it. -/
def outlivesConnection : OutboundFrame → Bool
  | query .. => false
  | _ => true

end OutboundFrame

/-- What the runtime makes of a `run` frame. -/
inductive RuntimeAnswer where
  /-- `DeliveredRun.model_validate` raised a `ValidationError` with this text. -/
  | invalid (text : Str)
  /-- `runtime.deliver` returned a truth value. -/
  | verdict (accepted : Bool)
  /-- `runtime.deliver` returned a `Refusal`. -/
  | refusal (reason : Str)
  | raised (error : Raised)

/-- `_offer`: the ack for a `run` frame. -/
def offer (agents : List Str) (frame : Dict) (answer : RuntimeAnswer) :
    Except Raised OutboundFrame :=
  let runId := (frame.lookup (str "runId")).getD (.str [])
  match (frame.lookup (str "agentName")).getD (.str []) with
  | .list _ | .dict _ => .error .typeError
  | agentName =>
      if agentName.asStr?.all (· ∉ agents) then .ok (.ack runId false none)
      else
        match answer with
        | .invalid text =>
            .ok (.ack runId false
              (some (str "frame does not validate as a DeliveredRun: " ++ text)))
        | .verdict accepted => .ok (.ack runId accepted none)
        | .refusal reason => .ok (.ack runId false (some reason))
        | .raised error => .error error

/-- One round of the read loop of `_run_connection`: the frame it puts on the queue, if any.
Outside `run` frames the answer only says whether the runtime raised. -/
def readFrame (limits : Json.Limits) (agents : List Str) (raw : Str) (answer : RuntimeAnswer) :
    Except Raised (Option OutboundFrame) := do
  let frame ← Json.loads limits raw
  let kind ← frame.getAttr (str "type")
  let fields := frame.asDict?.getD []
  if kind.asStr? = some (str "run") then
    let ack ← offer agents fields answer
    return some ack
  else if kind.asStr? = some (str "queryResult") then
    if (Dict.get fields (str "queryId")).hashable then return none
    else throw .typeError
  else if kind.asStr? = some (str "cancel") then
    match answer with
    | .raised error => throw error
    | _ => return none
  else return none

/-- An offer which is answered is answered by one ack, under the `runId` of its frame. -/
theorem offer_eq_ok {agents : List Str} {fields : Dict} {answer : RuntimeAnswer}
    {frame : OutboundFrame} (offered : offer agents fields answer = .ok frame) :
    ∃ accepted reason,
      frame = .ack ((fields.lookup (str "runId")).getD (.str [])) accepted reason := by
  simp only [offer] at offered
  split at offered
  · cases offered
  · cases offered
  · split at offered
    · exact ⟨false, none, (Except.ok.inj offered).symm⟩
    · cases answer with
      | raised => cases offered
      | invalid | verdict | refusal => exact ⟨_, _, (Except.ok.inj offered).symm⟩

/-- The read loop puts nothing on the queue but acks, and those for `run` frames. -/
theorem readFrame_eq_ok_some {limits : Json.Limits} {agents : List Str} {raw : Str}
    {answer : RuntimeAnswer} {frame : OutboundFrame}
    (read : readFrame limits agents raw answer = .ok (some frame)) :
    ∃ fields, Json.loads limits raw = .ok (.dict fields) ∧
      (Dict.get fields (str "type")).asStr? = some (str "run") ∧
      ∃ runId accepted reason, frame = .ack runId accepted reason := by
  obtain ⟨loaded, loads, read⟩ := bind_eq_ok.mp read
  obtain ⟨kind, kinds, read⟩ := bind_eq_ok.mp read
  obtain ⟨fields, rfl, rfl⟩ := Value.getAttr_eq_ok.mp kinds
  split at read
  · rename_i run
    obtain ⟨ack, offered, read⟩ := bind_eq_ok.mp read
    obtain rfl := Option.some.inj (Except.ok.inj read)
    exact ⟨fields, loads, run, _, offer_eq_ok offered⟩
  · split at read
    · dsimp only at read
      split at read <;> cases read
    · split at read
      · split at read <;> cases read
      · cases read

/-- The provider, with the history of its frames. -/
structure SoukProvider where
  link : Link OutboundFrame
  /-- History: what each finished connection carried. -/
  earlier : List (List OutboundFrame)
  /-- History: every frame ever put on the queue. -/
  enqueued : List OutboundFrame

namespace SoukProvider

/-- A provider which has not yet been connected. -/
def fresh : SoukProvider := ⟨.closed, [], []⟩

/-- `self._outbound.put_nowait(frame)` -/
def put (provider : SoukProvider) (frame : OutboundFrame) : SoukProvider :=
  { provider with link := provider.link.put frame, enqueued := provider.enqueued ++ [frame] }

/-- The `finally` of `_run_connection`. -/
def leave (provider : SoukProvider) : SoukProvider :=
  { provider with
    link := provider.link.stop
    earlier := provider.earlier ++ [provider.link.sent] }

/-- The frames whose `ws.send` returned, over the connections in order. -/
def delivered (provider : SoukProvider) : List OutboundFrame :=
  provider.earlier.flatten ++ provider.link.sent

/-- What can happen to a provider. -/
inductive Action where
  /-- An agent's run reports an event. -/
  | reportEvent (runId : Str) (yielded : Event)
  | finishRun (runId : Str)
  /-- An agent asks for the messages of a thread. -/
  | threadMessages (queryId threadId : Str) (limit : Option Int)
  /-- A connection has been opened, has proved its peer and has registered. -/
  | connect
  /-- The read loop receives a message. -/
  | receive (raw : Str) (answer : RuntimeAnswer)
  | writer (step : WriterStep)
  /-- The read loop is left: the socket closed, or the task was cancelled. -/
  | disconnect

/-- One step of the provider whose agents carry the given names. -/
def step (limits : Json.Limits) (agents : List Str) (provider : SoukProvider) :
    Action → Option SoukProvider
  | .reportEvent runId yielded =>
      match dumpEvent yielded with
      | .ok dumped => some (provider.put (.event runId dumped))
      | .error _ => some provider
  | .finishRun runId => some (provider.put (.finish runId))
  | .threadMessages queryId threadId limit =>
      some (provider.put (.query queryId threadId limit))
  | .connect =>
      match provider.link.writer with
      | .absent => some { provider with link := provider.link.start }
      | _ => none
  | .receive raw answer =>
      match provider.link.writer with
      | .absent => none
      | _ =>
          match readFrame limits agents raw answer with
          | .ok (some ack) => some (provider.put ack)
          | .ok none => some provider
          | .error _ => some provider.leave
  | .writer step =>
      (provider.link.advance (OutboundFrame.serializes limits) step).map fun link =>
        { provider with link }
  | .disconnect =>
      match provider.link.writer with
      | .absent => none
      | _ => some provider.leave

/-- The provider as a machine. -/
def machine (limits : Json.Limits) (agents : List Str) : Machine SoukProvider Action where
  step := step limits agents

/-- The frame an action puts on the queue. -/
def puts (limits : Json.Limits) (agents : List Str) : Action → Option OutboundFrame
  | .reportEvent runId yielded =>
      match dumpEvent yielded with
      | .ok dumped => some (.event runId dumped)
      | .error _ => none
  | .finishRun runId => some (.finish runId)
  | .threadMessages queryId threadId limit => some (.query queryId threadId limit)
  | .receive raw answer =>
      match readFrame limits agents raw answer with
      | .ok ack => ack
      | .error _ => none
  | _ => none

/-- The link on which an action starts a writer. -/
def opens (provider : SoukProvider) : Action → Option (Link OutboundFrame)
  | .connect =>
      match provider.link.writer with
      | .absent => some provider.link
      | _ => none
  | _ => none

/-- Whether an action leaves the read loop. -/
def leaves (limits : Json.Limits) (agents : List Str) : Action → Bool
  | .disconnect => true
  | .receive raw answer => !(readFrame limits agents raw answer).isOk
  | _ => false

/-- The frame which an action loses. -/
def loses (limits : Json.Limits) (agents : List Str) (provider : SoukProvider) :
    Action → Option OutboundFrame
  | .writer step => provider.link.loses (OutboundFrame.serializes limits) step
  | action => if leaves limits agents action then provider.link.writer.hand else none

/-- The ways in which an action moves the provider. -/
inductive Moves (limits : Json.Limits) (agents : List Str) (provider : SoukProvider)
    (action : Action) : SoukProvider → Prop
  | enqueues {frame : OutboundFrame} (unopened : opens provider action = none)
      (enqueued : puts limits agents action = some frame)
      (kept : loses limits agents provider action = none) :
      Moves limits agents provider action (provider.put frame)
  | rests (unopened : opens provider action = none) (silent : puts limits agents action = none)
      (kept : loses limits agents provider action = none) :
      Moves limits agents provider action provider
  | connects (absent : provider.link.writer = .absent)
      (opened : opens provider action = some provider.link)
      (silent : puts limits agents action = none)
      (kept : loses limits agents provider action = none) :
      Moves limits agents provider action { provider with link := provider.link.start }
  | leaves (unopened : opens provider action = none) (silent : puts limits agents action = none)
      (lost : loses limits agents provider action = provider.link.writer.hand) :
      Moves limits agents provider action provider.leave
  | writes {writerStep : WriterStep} {link : Link OutboundFrame}
      (advanced : provider.link.advance (OutboundFrame.serializes limits) writerStep = some link)
      (unopened : opens provider action = none) (silent : puts limits agents action = none)
      (lost : loses limits agents provider action =
        provider.link.loses (OutboundFrame.serializes limits) writerStep) :
      Moves limits agents provider action { provider with link }

/-- The read loop receives only while a connection is being served. -/
theorem step_receive {limits : Json.Limits} {agents : List Str} {provider : SoukProvider}
    {raw : Str} {answer : RuntimeAnswer} (serving : provider.link.Serving) :
    step limits agents provider (.receive raw answer) =
      match readFrame limits agents raw answer with
      | .ok (some ack) => some (provider.put ack)
      | .ok none => some provider
      | .error _ => some provider.leave := by
  cases writer : provider.link.writer with
  | absent => exact absurd writer serving
  | getting | sending | failed => simp only [step, writer]

/-- Both ends of a read loop need one. -/
theorem serving_of_step {limits : Json.Limits} {agents : List Str}
    {provider next : SoukProvider} {action : Action}
    (reads : action = .disconnect ∨ ∃ raw answer, action = .receive raw answer)
    (taken : step limits agents provider action = some next) : provider.link.Serving := by
  intro absent
  obtain rfl | ⟨raw, answer, rfl⟩ := reads <;> simp only [step, absent] at taken <;> cases taken

theorem step_moves {limits : Json.Limits} {agents : List Str} {provider next : SoukProvider}
    {action : Action} (taken : step limits agents provider action = some next) :
    Moves limits agents provider action next := by
  cases action with
  | reportEvent runId yielded =>
      cases dumped : dumpEvent yielded with
      | ok object =>
          simp only [step, dumped, Option.some.injEq] at taken
          subst taken
          exact .enqueues rfl (by simp only [puts, dumped]) rfl
      | error error =>
          simp only [step, dumped, Option.some.injEq] at taken
          subst taken
          exact .rests rfl (by simp only [puts, dumped]) rfl
  | finishRun runId =>
      obtain rfl := Option.some.inj taken
      exact .enqueues rfl rfl rfl
  | threadMessages queryId threadId limit =>
      obtain rfl := Option.some.inj taken
      exact .enqueues rfl rfl rfl
  | connect =>
      cases writer : provider.link.writer with
      | absent =>
          simp only [step, writer, Option.some.injEq] at taken
          subst taken
          exact .connects writer (by simp only [opens, writer]) rfl rfl
      | getting | sending | failed => simp only [step, writer] at taken; cases taken
  | receive raw answer =>
      have serving := serving_of_step (Or.inr ⟨raw, answer, rfl⟩) taken
      rw [step_receive serving] at taken
      cases read : readFrame limits agents raw answer with
      | ok ack =>
          have kept : loses limits agents provider (.receive raw answer) = none := by
            simp [loses, leaves, read, Except.isOk, Except.toBool]
          rw [read] at taken
          cases ack with
          | none =>
              obtain rfl := Option.some.inj taken
              exact .rests rfl (by simp only [puts, read]) kept
          | some ack =>
              obtain rfl := Option.some.inj taken
              exact .enqueues rfl (by simp only [puts, read]) kept
      | error error =>
          have lost : loses limits agents provider (.receive raw answer) =
              provider.link.writer.hand := by
            simp [loses, leaves, read, Except.isOk, Except.toBool]
          rw [read] at taken
          obtain rfl := Option.some.inj taken
          exact .leaves rfl (by simp only [puts, read]) lost
  | writer writerStep =>
      obtain ⟨link, advanced, rfl⟩ := Option.map_eq_some_iff.mp taken
      exact .writes advanced rfl rfl rfl
  | disconnect =>
      have serving := serving_of_step (Or.inl rfl) taken
      have left : next = provider.leave := by
        cases writer : provider.link.writer with
        | absent => exact absurd writer serving
        | getting | sending | failed =>
            simp only [step, writer, Option.some.injEq] at taken
            exact taken.symm
      subst left
      exact .leaves rfl rfl rfl

theorem step_of_leaves {limits : Json.Limits} {agents : List Str} {provider next : SoukProvider}
    {action : Action} (leaves : SoukProvider.leaves limits agents action = true)
    (taken : step limits agents provider action = some next) : next = provider.leave := by
  cases action with
  | receive raw answer =>
      have serving := serving_of_step (Or.inr ⟨raw, answer, rfl⟩) taken
      rw [step_receive serving] at taken
      cases read : readFrame limits agents raw answer with
      | ok ack => simp [SoukProvider.leaves, read, Except.isOk, Except.toBool] at leaves
      | error error =>
          rw [read] at taken
          exact (Option.some.inj taken).symm
  | disconnect =>
      have serving := serving_of_step (Or.inl rfl) taken
      cases writer : provider.link.writer with
      | absent => exact absurd writer serving
      | getting | sending | failed =>
          simp only [step, writer, Option.some.injEq] at taken
          exact taken.symm
  | reportEvent | finishRun | threadMessages | connect | writer => cases leaves

/-- A connection is on record once its read loop has been left. -/
theorem step_earlier {limits : Json.Limits} {agents : List Str} {provider next : SoukProvider}
    {action : Action} (taken : step limits agents provider action = some next) :
    next.earlier =
      if leaves limits agents action then provider.earlier ++ [provider.link.sent]
      else provider.earlier := by
  split
  · rename_i leaves
    rw [step_of_leaves leaves taken, leave]
  · rename_i stays
    cases action with
    | reportEvent runId yielded =>
        cases dumped : dumpEvent yielded <;>
          simp only [step, dumped, Option.some.injEq] at taken <;> subst taken <;> rfl
    | finishRun | threadMessages =>
        obtain rfl := Option.some.inj taken
        rfl
    | connect =>
        simp only [step] at taken
        split at taken
        · obtain rfl := Option.some.inj taken
          rfl
        · cases taken
    | receive raw answer =>
        have serving := serving_of_step (Or.inr ⟨raw, answer, rfl⟩) taken
        rw [step_receive serving] at taken
        cases read : readFrame limits agents raw answer with
        | ok ack =>
            rw [read] at taken
            cases ack <;> obtain rfl := Option.some.inj taken <;> rfl
        | error error => simp [leaves, read, Except.isOk, Except.toBool] at stays
    | writer writerStep =>
        obtain ⟨link, _, rfl⟩ := Option.map_eq_some_iff.mp taken
        rfl
    | disconnect => exact absurd rfl stays

/-- A step puts on the queue what its action says. -/
theorem step_enqueued {limits : Json.Limits} {agents : List Str} {provider next : SoukProvider}
    {action : Action} (taken : step limits agents provider action = some next) :
    next.enqueued = provider.enqueued ++ (puts limits agents action).toList := by
  cases step_moves taken with
  | enqueues _ enqueued _ =>
      rw [enqueued]
      rfl
  | rests _ silent _ | connects _ _ silent _ | leaves _ silent _ | writes _ _ silent _ =>
      rw [silent]
      exact (List.append_nil _).symm

/-- Whatever does not leave the read loop keeps the connection served. -/
theorem serving_of_stays {limits : Json.Limits} {agents : List Str}
    {provider next : SoukProvider} {action : Action}
    (stays : SoukProvider.leaves limits agents action = false)
    (taken : step limits agents provider action = some next) (serving : provider.link.Serving) :
    next.link.Serving := by
  have earlier := step_earlier taken
  cases step_moves taken with
  | enqueues | rests => exact serving
  | connects => simp [Link.Serving, Link.start]
  | leaves => simp [stays, leave] at earlier
  | writes advanced => exact Link.advance_serving advanced

theorem step_touches {limits : Json.Limits} {agents : List Str} {provider next : SoukProvider}
    {action : Action} (taken : step limits agents provider action = some next) :
    provider.link.Touches (OutboundFrame.serializes limits) (puts limits agents action)
      (opens provider action) next.link := by
  cases step_moves taken with
  | @enqueues frame unopened enqueued _ =>
      rw [unopened, enqueued]
      exact .put frame
  | rests unopened silent _ =>
      rw [unopened, silent]
      exact .rest (by simp)
  | connects absent opened silent _ =>
      rw [opened, silent]
      exact .start provider.link
  | leaves unopened silent _ =>
      rw [unopened, silent]
      exact .stop rfl
  | writes advanced unopened silent _ =>
      rw [unopened, silent]
      exact .advance advanced

/-- An action which is refused enqueues nothing on a connection being served and opens none. -/
theorem refused_idle {limits : Json.Limits} {agents : List Str} {provider : SoukProvider}
    {action : Action} (refused : step limits agents provider action = none) :
    (∀ frame ∈ puts limits agents action, ¬provider.link.Serving) ∧
      opens provider action = none := by
  cases action with
  | reportEvent runId yielded =>
      cases dumped : dumpEvent yielded <;> simp only [step, dumped] at refused <;> cases refused
  | finishRun | threadMessages => cases refused
  | connect =>
      refine ⟨nofun, ?_⟩
      cases writer : provider.link.writer with
      | absent => simp only [step, writer] at refused; cases refused
      | getting | sending | failed => simp only [opens, writer]
  | receive raw answer =>
      refine ⟨fun frame _ serving => ?_, rfl⟩
      cases read : readFrame limits agents raw answer with
      | ok ack =>
          cases ack <;> cases writer : provider.link.writer <;>
            simp only [step, writer, read] at refused <;>
            first | exact serving writer | cases refused
      | error error =>
          cases writer : provider.link.writer <;>
            simp only [step, writer, read] at refused <;>
            first | exact serving writer | cases refused
  | writer | disconnect => exact ⟨nofun, rfl⟩

end SoukProvider
end Souk.AgentSdk
