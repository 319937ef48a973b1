import Souk.Library.Machine
import Souk.Python.JsonDecoder

/-!
# `SoukClient.run`

What a client remembers between its runs, and what a run does with each event of its stream.
-/

namespace Souk.ClientSdk

open Souk.Python

/-- The attributes a client keeps; `None` is the null value. -/
structure SoukClient where
  lastThreadId : Value
  lastRunId : Value
  lastTaskId : Value
  lastOutstandingAsks : List Value

/-- The locals of `run` while its stream is open. -/
structure RunStream where
  threadId : Value
  continuesLineage : Bool
  announced : List Value
  answered : List Value

/-- `event.get("type") == name`. -/
def isEvent (name : String) (event : Dict) : Bool :=
  (Dict.get event "type").asStr? = some (str name)

/-- The interrupts which a `RUN_FINISHED` names. -/
def interruptsOf (event : Dict) : Except Raised (List Value) :=
  match Dict.get event "outcome" with
  | .dict outcome =>
      if (Dict.get outcome "type").asStr? = some (str "interrupt") then
        ((Dict.get outcome "interrupts").orElse (.list [])).iterate
      else .ok []
  | _ => .ok []

/-- `interrupt.get("toolCallId") or interrupt.get("id")`. -/
def askOf (interrupt : Value) : Except Raised Value := do
  let toolCallId ← interrupt.getAttr "toolCallId"
  let id ← interrupt.getAttr "id"
  return toolCallId.orElse id

/-- One round of the loop over the interrupts. -/
def addInterrupt (outstanding : List Value) (interrupt : Value) : Except Raised (List Value) := do
  let ask ← askOf interrupt
  if ask.truthy ∧ !ask.memberOf outstanding then return outstanding ++ [ask]
  else return outstanding

/-- `[ask for ask in announced if ask not in answered]`, which hashes every ask. -/
def unanswered (answered : List Value) : List Value → Except Raised (List Value)
  | [] => .ok []
  | ask :: asks => do
      if !ask.hashable then throw .typeError
      let rest ← unanswered answered asks
      return if ask.memberOf answered then rest else ask :: rest

/-- What a `RUN_FINISHED` leaves outstanding. -/
def outstandingAsks (announced answered : List Value) (event : Dict) :
    Except Raised (List Value) := do
  let interrupts ← interruptsOf event
  let outstanding ← unanswered answered announced
  interrupts.foldlM addInterrupt outstanding

/-! ## The asks a finish leaves -/

theorem unanswered_eq_ok {answered announced left : List Value}
    (found : unanswered answered announced = .ok left) :
    left = announced.filter fun ask => !ask.memberOf answered := by
  induction announced generalizing left with
  | nil => exact (Except.ok.inj found).symm
  | cons ask asks induction =>
      rw [unanswered] at found
      split at found
      · cases found
      · obtain ⟨rest, foundRest, same⟩ := bind_eq_ok.mp found
        obtain rfl := Except.ok.inj same
        rw [induction foundRest, List.filter_cons]
        cases ask.memberOf answered <;> simp

/-- An interrupt with an id keeps the asks from being empty. -/
theorem addInterrupt_isEmpty {outstanding next : List Value} {interrupt : Value}
    (added : addInterrupt outstanding interrupt = .ok next) :
    ∃ ask, askOf interrupt = .ok ask ∧
      next.isEmpty = (outstanding.isEmpty && !ask.truthy) := by
  obtain ⟨ask, found, branch⟩ := bind_eq_ok.mp added
  refine ⟨ask, found, ?_⟩
  split at branch
  · rename_i fresh
    obtain rfl := Except.ok.inj branch
    simp [fresh.1]
  · rename_i known
    obtain rfl := Except.ok.inj branch
    cases truthy : ask.truthy with
    | false => simp
    | true =>
        cases outstanding with
        | nil => simp [truthy, Value.memberOf] at known
        | cons first rest => simp

theorem addInterrupts_isEmpty {interrupts outstanding left : List Value}
    (added : interrupts.foldlM addInterrupt outstanding = .ok left) :
    left.isEmpty = (outstanding.isEmpty &&
      !(interrupts.filterMap fun interrupt => (askOf interrupt).toOption).any Value.truthy) := by
  induction interrupts generalizing outstanding with
  | nil =>
      obtain rfl := Except.ok.inj added
      simp
  | cons interrupt interrupts induction =>
      rw [List.foldlM_cons] at added
      obtain ⟨next, first, rest⟩ := bind_eq_ok.mp added
      obtain ⟨ask, found, empty⟩ := addInterrupt_isEmpty first
      rw [induction rest, empty]
      simp [found, Except.toOption, Bool.and_assoc]

namespace SoukClient

/-- `SoukClient.__init__`. -/
def fresh : SoukClient := ⟨.null, .null, .null, []⟩

/-- `run` up to its event loop, once the stream has been opened. -/
def openStream (client : SoukClient) (threadId : Value) : SoukClient × RunStream :=
  let continuesLineage := !client.lastOutstandingAsks.isEmpty && threadId.eq client.lastThreadId
  ({ client with lastThreadId := threadId, lastOutstandingAsks := [] },
    { threadId, continuesLineage, announced := [], answered := [] })

/-- The client and the stream after one event. -/
def onEvent (client : SoukClient) (stream : RunStream) (event : Dict) :
    Except Raised (SoukClient × RunStream) := do
  if isEvent "RUN_STARTED" event then
    let runId := Dict.get event "runId"
    return ({ client with
        lastThreadId := (event.lookup (str "threadId")).getD stream.threadId
        lastRunId := runId
        lastTaskId := if stream.continuesLineage then client.lastTaskId else runId }, stream)
  else if isEvent "TOOL_CALL_START" event then
    let ask ← (Value.dict event).item "toolCallId"
    return (client, { stream with announced := stream.announced ++ [ask] })
  else if isEvent "TOOL_CALL_RESULT" event then
    let ask ← (Value.dict event).item "toolCallId"
    if ask.hashable then
      return (client, { stream with answered := stream.answered ++ [ask] })
    else throw .typeError
  else if isEvent "RUN_FINISHED" event then
    let outstanding ← outstandingAsks stream.announced stream.answered event
    return ({ client with lastOutstandingAsks := outstanding }, stream)
  else return (client, stream)

theorem onEvent_started (client : SoukClient) (stream : RunStream) {event : Dict}
    (started : isEvent "RUN_STARTED" event = true) :
    client.onEvent stream event = .ok
      ({ client with
        lastThreadId := (event.lookup (str "threadId")).getD stream.threadId
        lastRunId := Dict.get event "runId"
        lastTaskId := if stream.continuesLineage then client.lastTaskId
          else Dict.get event "runId" }, stream) := by
  rw [onEvent, if_pos started]
  rfl

/-- Everything the event loop can do with an event. -/
theorem onEvent_cases {client next : SoukClient} {stream after : RunStream} {event : Dict}
    (taken : client.onEvent stream event = .ok (next, after)) :
    (isEvent "RUN_STARTED" event = true ∧ after = stream ∧ next =
      { client with
        lastThreadId := (event.lookup (str "threadId")).getD stream.threadId
        lastRunId := Dict.get event "runId"
        lastTaskId := if stream.continuesLineage then client.lastTaskId
          else Dict.get event "runId" }) ∨
    (isEvent "TOOL_CALL_START" event = true ∧ next = client ∧
      after = { stream with announced := stream.announced ++ [Dict.get event "toolCallId"] }) ∨
    (isEvent "TOOL_CALL_RESULT" event = true ∧ next = client ∧
      after = { stream with answered := stream.answered ++ [Dict.get event "toolCallId"] }) ∨
    (isEvent "RUN_FINISHED" event = true ∧ after = stream ∧
      ∃ left, outstandingAsks stream.announced stream.answered event = .ok left ∧
        next = { client with lastOutstandingAsks := left }) ∨
    ((∀ kind ∈ ["RUN_STARTED", "TOOL_CALL_START", "TOOL_CALL_RESULT", "RUN_FINISHED"],
        isEvent kind event = false) ∧ next = client ∧ after = stream) := by
  unfold onEvent at taken
  split at taken
  · rename_i started
    cases taken
    exact .inl ⟨started, rfl, rfl⟩
  · split at taken
    · rename_i announces
      obtain ⟨ask, found, same⟩ := bind_eq_ok.mp taken
      cases same
      rw [Value.get_of_item found]
      exact .inr (.inl ⟨announces, rfl, rfl⟩)
    · split at taken
      · rename_i answers
        obtain ⟨ask, found, branch⟩ := bind_eq_ok.mp taken
        split at branch
        · cases branch
          rw [Value.get_of_item found]
          exact .inr (.inr (.inl ⟨answers, rfl, rfl⟩))
        · cases branch
      · split at taken
        · rename_i finishes
          obtain ⟨left, found, same⟩ := bind_eq_ok.mp taken
          cases same
          exact .inr (.inr (.inr (.inl ⟨finishes, rfl, left, found, rfl⟩)))
        · cases taken
          refine .inr (.inr (.inr (.inr ⟨?_, rfl, rfl⟩)))
          simp_all

/-- One round of the event loop: the event it yields, with the client and the stream. -/
def receive (limits : Json.Limits) (client : SoukClient) (stream : RunStream) (data : Str) :
    Except Raised (Dict × SoukClient × RunStream) := do
  match ← Json.loads limits data with
  | .dict event =>
      let (client, stream) ← client.onEvent stream event
      return (event, client, stream)
  | _ => throw .attributeError

theorem receive_eq_ok {limits : Json.Limits} {client next : SoukClient} {stream after : RunStream}
    {data : Str} {event : Dict} :
    client.receive limits stream data = .ok (event, next, after) ↔
      Json.loads limits data = .ok (.dict event) ∧
        client.onEvent stream event = .ok (next, after) := by
  rw [receive, bind_eq_ok]
  constructor
  · rintro ⟨value, loaded, taken⟩
    split at taken
    · obtain ⟨result, processed, same⟩ := bind_eq_ok.mp taken
      cases same
      exact ⟨loaded, processed⟩
    · cases taken
  · rintro ⟨loaded, processed⟩
    exact ⟨.dict event, loaded, bind_eq_ok.mpr ⟨(next, after), processed, rfl⟩⟩

end SoukClient
end Souk.ClientSdk
