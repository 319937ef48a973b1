import Souk.Library.Records
import Souk.PydanticAiAgent.FinalState

/-!
# The merged stream of a run

The adapter of a run and the sub-agents it calls put their events on one queue, from which the
generator of the run yields up to the end marker of the adapter.  Any number of runs, calls and
consumers interleave in one process.
-/

namespace Souk.PydanticAiAgent

open Souk.Python

/-- Where an event on the queue comes from. -/
inductive Source where
  | adapter
  | call (index : Nat)
  deriving DecidableEq

/-- How far the generator of a run has come. -/
inductive Consumer where
  /-- At `await combined.get()`. -/
  | getting
  /-- At `yield item`. -/
  | yielding
  /-- Past its loop. -/
  | finished
  /-- Closed or cancelled within its loop. -/
  | closed
  deriving DecidableEq

/-- One call of `run_stream`.  On the queue `none` is `_DONE`; `put` is a history variable: whatever
has been put on the queue, with where it comes from. -/
structure RunStream where
  combined : List (Option Value)
  adapterRuns : Bool
  consumer : Consumer
  yielded : List Value
  put : List (Option (Source × Value))

namespace RunStream

/-- `run_stream` up to its first `get`. -/
def started : RunStream := ⟨[], true, .getting, [], []⟩

/-- `await combined.put(item)`, on a queue without a bound. -/
def putItem (stream : RunStream) (item : Option (Source × Value)) : RunStream :=
  { stream with
    combined := stream.combined ++ [item.map Prod.snd]
    put := stream.put ++ [item] }

/-- An event of the adapter. -/
def dump (stream : RunStream) (event : Value) : Option RunStream :=
  if stream.adapterRuns then some (stream.putItem (some (.adapter, event))) else none

/-- The `finally` of `drain_adapter`, whether the adapter has returned, raised or been cancelled. -/
def drained (stream : RunStream) : Option RunStream :=
  if stream.adapterRuns then some { stream.putItem none with adapterRuns := false } else none

/-- `combined.get()` returns, and the loop goes on to its `yield` or ends. -/
def get (stream : RunStream) : Option RunStream :=
  match stream.consumer, stream.combined with
  | .getting, some event :: combined =>
      some { stream with combined, consumer := .yielding, yielded := stream.yielded ++ [event] }
  | .getting, none :: combined => some { stream with combined, consumer := .finished }
  | _, _ => none

/-- The consumer asks for the next event. -/
def pull (stream : RunStream) : Option RunStream :=
  if stream.consumer = .yielding then some { stream with consumer := .getting } else none

/-- The consumer leaves. -/
def close (stream : RunStream) : Option RunStream :=
  if stream.consumer = .yielding ∨ stream.consumer = .getting then
    some { stream with consumer := .closed }
  else none

end RunStream

/-- A call of the tool of a sub-agent, with the run whose queue it was given and the address it has
resolved. -/
structure Caller where
  run : Nat
  name : Str
  address : Address

/-- The process of one agent with the streams of its runs. -/
structure AgentStreams where
  process : AgentProcess
  streams : List RunStream
  callers : List Caller

namespace AgentStreams

/-- A process which has served no run. -/
def initial : AgentStreams := ⟨.initial, [], []⟩

/-- What can happen in the process. -/
inductive Action where
  | startRun (threadId : Str)
  | dump (run : Nat) (event : Value)
  | drained (run : Nat)
  /-- The agent of a run calls a sub-agent, whose address is resolved. -/
  | startCall (run : Nat) (name : Str) (address : Address)
  | update (call : Nat) (update : Value)
  /-- The stream of updates of a call ends, or raises. -/
  | endStream (call : Nat) (raises : Bool)
  | get (run : Nat)
  | pull (run : Nat)
  | close (run : Nat)

/-- The stream of a run takes a step, if it can. -/
def onStream (state : AgentStreams) (run : Nat) (turn : RunStream → Option RunStream) :
    Option AgentStreams := do
  let stream ← state.streams[run]?
  let after ← turn stream
  return { state with streams := state.streams.set run after }

/-- One step of the process. -/
def step (state : AgentStreams) : Action → Option AgentStreams
  | .startRun threadId =>
      some { state with
        process := state.process.startRun threadId
        streams := state.streams ++ [.started] }
  | .dump run event => state.onStream run (·.dump event)
  | .drained run => state.onStream run RunStream.drained
  | .startCall run name address => do
      let stream ← state.streams[run]?
      let process ← state.process.step (.startCall run name)
      if stream.adapterRuns then
        some { state with process, callers := state.callers ++ [⟨run, name, address⟩] }
      else none
  | .update index update => do
      let caller ← state.callers[index]?
      let process ← state.process.step (.update index update)
      -- What is no object cannot be spread into the event, and nothing is put on the queue.
      match update with
      | .dict update =>
          let event := progressEvent caller.name caller.address update
          let put ← state.onStream caller.run fun stream =>
            some (stream.putItem (some (.call index, event)))
          return { put with process }
      | _ => return { state with process }
  | .endStream index raises => do
      let process ← state.process.step (.endStream index raises)
      return { state with process }
  | .get run => state.onStream run RunStream.get
  | .pull run => state.onStream run RunStream.pull
  | .close run => state.onStream run RunStream.close

/-- The process as a machine. -/
def machine : Machine AgentStreams Action where
  step := step

end AgentStreams

/-! ## One stream -/

namespace RunStream

variable {stream after : RunStream} {source : Source}

/-- The events on the queue which came from a source, in their order. -/
def told (stream : RunStream) (source : Source) : List Value :=
  stream.put.filterMap fun item => item.bind fun entry =>
    if entry.1 = source then some entry.2 else none

/-- The end marker, which the generator has taken once it is past its loop. -/
def taken (stream : RunStream) : List (Option Value) :=
  if stream.consumer = .finished then [none] else []

/-- Whatever has been put on the queue has been yielded or is still on it, in the order it was put;
the generator ends its loop at the first end marker. -/
def Carried (stream : RunStream) : Prop :=
  stream.put.map (Option.map Prod.snd) =
    stream.yielded.map some ++ stream.taken ++ stream.combined

theorem carried_started : started.Carried := rfl

theorem Carried.putItem (carried : stream.Carried) (item : Option (Source × Value)) :
    (stream.putItem item).Carried := by
  have before : stream.put.map (Option.map Prod.snd) =
      stream.yielded.map some ++ stream.taken ++ stream.combined := carried
  change (stream.put ++ [item]).map (Option.map Prod.snd) =
    stream.yielded.map some ++ stream.taken ++ (stream.combined ++ [item.map Prod.snd])
  rw [List.map_append, before, List.append_assoc _ stream.combined]
  rfl

theorem Carried.get (carried : stream.Carried) (got : stream.get = some after) :
    after.Carried := by
  have before : stream.put.map (Option.map Prod.snd) =
      stream.yielded.map some ++ stream.taken ++ stream.combined := carried
  unfold RunStream.get at got
  split at got
  · rename_i event combined getting queued
    obtain rfl := Option.some.inj got
    rw [taken, getting, queued] at before
    simpa [Carried, taken] using before
  · rename_i combined getting queued
    obtain rfl := Option.some.inj got
    rw [taken, getting, queued] at before
    simpa [Carried, taken] using before
  · cases got

theorem Carried.pull (carried : stream.Carried) (pulled : stream.pull = some after) :
    after.Carried := by
  have before : stream.put.map (Option.map Prod.snd) =
      stream.yielded.map some ++ stream.taken ++ stream.combined := carried
  unfold RunStream.pull at pulled
  split at pulled
  · rename_i yielding
    obtain rfl := Option.some.inj pulled
    rw [taken, yielding] at before
    simpa [Carried, taken] using before
  · cases pulled

theorem Carried.close (carried : stream.Carried) (closed : stream.close = some after) :
    after.Carried := by
  have before : stream.put.map (Option.map Prod.snd) =
      stream.yielded.map some ++ stream.taken ++ stream.combined := carried
  unfold RunStream.close at closed
  split at closed
  · rename_i within
    obtain rfl := Option.some.inj closed
    have unfinished : stream.consumer ≠ .finished := by
      rcases within with yielding | getting
      · simp [yielding]
      · simp [getting]
    rw [taken, if_neg unfinished] at before
    simpa [Carried, taken] using before
  · cases closed

theorem told_putItem (item : Option (Source × Value)) :
    (stream.putItem item).told source = stream.told source ++
      (item.bind fun entry => if entry.1 = source then some entry.2 else none).toList := by
  rw [told, putItem, List.filterMap_append]
  rfl

/-- The generator and its consumer put nothing on the queue. -/
theorem told_get (got : stream.get = some after) : after.told source = stream.told source := by
  unfold RunStream.get at got
  split at got
  · exact Option.some.inj got ▸ rfl
  · exact Option.some.inj got ▸ rfl
  · cases got

theorem told_pull (pulled : stream.pull = some after) :
    after.told source = stream.told source := by
  unfold RunStream.pull at pulled
  split at pulled
  · exact Option.some.inj pulled ▸ rfl
  · cases pulled

theorem told_close (closed : stream.close = some after) :
    after.told source = stream.told source := by
  unfold RunStream.close at closed
  split at closed
  · exact Option.some.inj closed ▸ rfl
  · cases closed

end RunStream

/-! ## One call -/

section Call

variable {name : Str} {address : Address} {updates : List Dict} {gathered later : Gathered}
variable {contextIds : ContextIds} {update : Dict}

/-- The loop over the updates of a call gets past some of them, having gathered what it has. -/
def Reaches (name : Str) (address : Address) (updates : List Dict) (gathered : Gathered) : Prop :=
  ∀ (progress : List Value) (contextIds : ContextIds) (rest : List Dict), ∃ later,
    streamUpdates name address progress contextIds ⟨[], false, false⟩ (updates ++ rest) =
      streamUpdates name address (progress ++ updates.map (progressEvent name address)) later
        gathered rest

theorem reaches_nil : Reaches name address [] ⟨[], false, false⟩ := by
  intro progress contextIds rest
  exact ⟨contextIds, by rw [List.nil_append, List.map_nil, List.append_nil]⟩

/-- What a round gathers does not depend on the context ids. -/
theorem onUpdate_other (read : (onUpdate contextIds name gathered (.dict update)).2 = .ok later)
    (others : ContextIds) :
    onUpdate others name gathered (.dict update) =
      ((onUpdate others name gathered (.dict update)).1, .ok later) := by
  refine Prod.ext rfl ?_
  rw [onUpdate_eq] at read ⊢
  exact read

theorem Reaches.concat (reaches : Reaches name address updates gathered)
    (read : (onUpdate contextIds name gathered (.dict update)).2 = .ok later) :
    Reaches name address (updates ++ [update]) later := by
  intro progress others rest
  obtain ⟨middle, run⟩ := reaches progress others (update :: rest)
  refine ⟨(onUpdate middle name gathered (.dict update)).1, ?_⟩
  rw [List.append_assoc, List.singleton_append, run, streamUpdates, onUpdate_other read middle,
    List.map_append, List.append_assoc]
  rfl

/-- What a call has come to, once the given updates have arrived. -/
def Answers (name : Str) (address : Address) (updates : List Dict) : Phase → Prop
  | .streaming gathered => Reaches name address updates gathered
  | .returned text => ∃ gathered, Reaches name address updates gathered ∧
      text = gathered.answer name
  | .raised => ∀ contextIds,
      (callSubAgent name (.ok address) [] contextIds updates).progress =
        updates.map (progressEvent name address)

theorem Reaches.called (reaches : Reaches name address updates gathered)
    (contextIds : ContextIds) : ∃ later,
      callSubAgent name (.ok address) [] contextIds updates =
        ⟨updates.map (progressEvent name address), later, .ok (gathered.answer name)⟩ := by
  obtain ⟨later, run⟩ := reaches [] contextIds []
  rw [List.append_nil, List.nil_append] at run
  exact ⟨later, run⟩

/-- The events of a call which goes on or has ended are those it puts on the queue by itself. -/
theorem Answers.progress {phase : Phase} (answers : Answers name address updates phase)
    (contextIds : ContextIds) :
    (callSubAgent name (.ok address) [] contextIds updates).progress =
      updates.map (progressEvent name address) := by
  cases phase with
  | streaming gathered =>
      obtain ⟨later, called⟩ := Reaches.called answers contextIds
      rw [called]
  | returned text =>
      obtain ⟨gathered, reaches, _⟩ := answers
      obtain ⟨later, called⟩ := reaches.called contextIds
      rw [called]
  | raised => exact answers contextIds

theorem Answers.text {text : Str} (answers : Answers name address updates (.returned text))
    (contextIds : ContextIds) :
    (callSubAgent name (.ok address) [] contextIds updates).text = .ok text := by
  obtain ⟨gathered, reaches, rfl⟩ := answers
  obtain ⟨later, called⟩ := reaches.called contextIds
  rw [called]

/-- The last update of a call which it cannot read is on the queue, too. -/
theorem Reaches.raised {raised : Raised} (reaches : Reaches name address updates gathered)
    (read : (onUpdate contextIds name gathered (.dict update)).2 = .error raised) :
    Answers name address (updates ++ [update]) .raised := by
  intro others
  obtain ⟨middle, run⟩ := reaches [] others [update]
  have round : onUpdate middle name gathered (.dict update) =
      ((onUpdate middle name gathered (.dict update)).1, .error raised) := by
    refine Prod.ext rfl ?_
    rw [onUpdate_eq] at read ⊢
    exact read
  have called : callSubAgent name (.ok address) [] others (updates ++ [update]) =
      streamUpdates name address [] others ⟨[], false, false⟩ (updates ++ [update]) := rfl
  rw [called, run, streamUpdates, round, List.nil_append, List.map_append]
  rfl

/-- A call which is at its stream and raises has put its events on the queue. -/
theorem Reaches.stopped (reaches : Reaches name address updates gathered) :
    Answers name address updates .raised :=
  fun contextIds => @Answers.progress _ _ _ (.streaming gathered) reaches contextIds

end Call

namespace AgentStreams

/-! ## What a run of the process comes to -/

/-- The event of the adapter of a run. -/
def Action.dumped? (run : Nat) : Action → Option Value
  | .dump other event => if other = run then some event else none
  | _ => none

/-- The update of the stream of a call, if it is an object. -/
def Action.update? (index : Nat) : Action → Option Dict
  | .update other (.dict received) => if other = index then some received else none
  | _ => none

/-- The call which starts. -/
def Action.caller? : Action → Option Caller
  | .startCall run name address => some ⟨run, name, address⟩
  | _ => none

/-- What the action is to the process alone. -/
def Action.ofProcess? : Action → Option AgentProcess.Action
  | .startRun threadId => some (.startRun threadId)
  | .startCall run name _ => some (.startCall run name)
  | .update index received => some (.update index received)
  | .endStream index raises => some (.endStream index raises)
  | _ => none

/-- The events of the adapter of a run, in their order. -/
def dumpedBy (run : Nat) (actions : List Action) : List Value :=
  actions.filterMap (Action.dumped? run)

/-- The updates of the stream of a call, in their order. -/
def updatesTo (index : Nat) (actions : List Action) : List Dict :=
  actions.filterMap (Action.update? index)

/-- A call is as it would be alone in the process: its events on the queue of its run, and on no
other, are those it would put there, and what it has returned it would return. -/
structure AsAlone (final : AgentStreams) (index : Nat) (caller : Caller) (called : Called) :
    Prop where
  progress : ∀ run stream, final.streams[run]? = some stream →
    stream.told (.call index) = if run = caller.run then called.progress else []
  text : ∀ call text, final.process.calls[index]? = some call → call.phase = .returned text →
    called.text = .ok text

/-- What the streams of a process come to. -/
structure Merges (actions : List Action) (final : AgentStreams) : Prop where
  carried : ∀ stream ∈ final.streams, stream.Carried
  dumps : ∀ run stream, final.streams[run]? = some stream →
    stream.told .adapter = dumpedBy run actions
  callers : final.callers = actions.filterMap Action.caller?
  calls : ∀ index caller, final.callers[index]? = some caller → ∀ contextIds,
    AsAlone final index caller
      (callSubAgent caller.name (.ok caller.address) [] contextIds (updatesTo index actions))
  process : AgentProcess.machine.run .initial (actions.filterMap Action.ofProcess?) =
    some final.process

variable {state next : AgentStreams} {action : Action} {run : Nat}

theorem onStream_eq_some {turn : RunStream → Option RunStream} :
    state.onStream run turn = some next ↔ ∃ stream after, state.streams[run]? = some stream ∧
      turn stream = some after ∧ { state with streams := state.streams.set run after } = next := by
  simp [onStream, Option.bind_eq_some_iff]

/-! ### The invariant -/

/-- The events which a call is to have on the queue of a run. -/
def relayed (callers : List Caller) (updates : List Dict) (index run : Nat) : List Value :=
  match callers[index]? with
  | some caller =>
      if run = caller.run then updates.map (progressEvent caller.name caller.address) else []
  | none => []

/-- What is recorded of a stream. -/
structure StreamRecords (callers : List Caller) (past : List Action) (run : Nat)
    (stream : RunStream) : Prop where
  carried : stream.Carried
  dumps : stream.told .adapter = dumpedBy run past
  relays : ∀ index, stream.told (.call index) = relayed callers (updatesTo index past) index run

/-- What is recorded of the streams after some actions. -/
structure StreamsRecorded (past : List Action) (state : AgentStreams) : Prop where
  streams : ∀ run stream, state.streams[run]? = some stream →
    StreamRecords state.callers past run stream
  callers : state.callers = past.filterMap Action.caller?
  within : ∀ caller ∈ state.callers, caller.run < state.streams.length
  unrun : ∀ run, state.streams.length ≤ run → dumpedBy run past = []

/-- What is recorded of the calls. -/
structure CallsRecorded (past : List Action) (state : AgentStreams) : Prop where
  named : state.process.calls.map SubAgentCall.name = state.callers.map Caller.name
  answers : ∀ index caller call, state.callers[index]? = some caller →
    state.process.calls[index]? = some call →
      Answers caller.name caller.address (updatesTo index past) call.phase
  uncalled : ∀ index, state.callers.length ≤ index → updatesTo index past = []

theorem streamsRecorded_initial : StreamsRecorded [] initial where
  streams run stream found := by simp [initial] at found
  callers := rfl
  within caller among := absurd among List.not_mem_nil
  unrun _ _ := rfl

theorem callsRecorded_initial : CallsRecorded [] initial where
  named := rfl
  answers index caller call found := by simp [initial] at found
  uncalled _ _ := rfl

theorem filterMap_concat {Seen : Type*} (seen : Action → Option Seen) (past : List Action)
    (action : Action) :
    (past ++ [action]).filterMap seen = past.filterMap seen ++ (seen action).toList := by
  rw [List.filterMap_append]
  rfl

variable {past : List Action}

theorem dumpedBy_concat (unseen : action.dumped? run = none) :
    dumpedBy run (past ++ [action]) = dumpedBy run past := by
  rw [dumpedBy, filterMap_concat, unseen]
  exact List.append_nil _

theorem updatesTo_concat {index : Nat} (unseen : action.update? index = none) :
    updatesTo index (past ++ [action]) = updatesTo index past := by
  rw [updatesTo, filterMap_concat, unseen]
  exact List.append_nil _

theorem updatesTo_update (index : Nat) (update : Dict) :
    updatesTo index (past ++ [.update index (.dict update)]) =
      updatesTo index past ++ [update] := by
  rw [updatesTo, filterMap_concat]
  simp [Action.update?, updatesTo]

theorem callers_concat {callers : List Caller} (called : callers = past.filterMap Action.caller?)
    (uncalling : action.caller? = none) :
    callers = (past ++ [action]).filterMap Action.caller? := by
  rw [filterMap_concat, uncalling, called]
  exact (List.append_nil _).symm

/-- An action which is neither an event of an adapter nor an update which could be one. -/
structure Action.Quiet (action : Action) : Prop where
  dumps : ∀ run, action.dumped? run = none
  updates : ∀ index, action.update? index = none

theorem Action.Quiet.streamRecords (quiet : action.Quiet) {callers : List Caller}
    {stream after : RunStream} (records : StreamRecords callers past run stream)
    (carried : after.Carried) (told : ∀ source, after.told source = stream.told source) :
    StreamRecords callers (past ++ [action]) run after where
  carried := carried
  dumps := by rw [told, records.dumps, dumpedBy_concat (quiet.dumps run)]
  relays index := by rw [told, records.relays, updatesTo_concat (quiet.updates index)]

theorem CallsRecorded.length_calls (recorded : CallsRecorded past state) :
    state.process.calls.length = state.callers.length := by
  simpa using congrArg List.length recorded.named

/-- The calls take no notice of what is not for them. -/
theorem CallsRecorded.elsewhere (recorded : CallsRecorded past state)
    (unread : ∀ index, action.update? index = none) (callers : next.callers = state.callers)
    (calls : next.process.calls = state.process.calls) :
    CallsRecorded (past ++ [action]) next := by
  refine ⟨?_, ?_, ?_⟩
  · rw [calls, callers]
    exact recorded.named
  · intro index caller call found_caller found_call
    rw [updatesTo_concat (unread index)]
    exact recorded.answers index caller call (callers ▸ found_caller) (calls ▸ found_call)
  · intro index beyond
    rw [updatesTo_concat (unread index)]
    exact recorded.uncalled index (callers ▸ beyond)

/-- One stream takes a step. -/
theorem StreamsRecorded.onStream {turn : RunStream → Option RunStream}
    (recorded : StreamsRecorded past state) (moved : state.onStream run turn = some next)
    (uncalling : action.caller? = none)
    (elsewhere : ∀ other, other ≠ run → action.dumped? other = none ∧
      ∀ stream, StreamRecords state.callers past other stream →
        StreamRecords state.callers (past ++ [action]) other stream)
    (turned : ∀ stream after, turn stream = some after →
      StreamRecords state.callers past run stream →
        StreamRecords state.callers (past ++ [action]) run after) :
    StreamsRecorded (past ++ [action]) next := by
  obtain ⟨stream, after, found, taken, rfl⟩ := onStream_eq_some.mp moved
  refine ⟨?_, callers_concat recorded.callers uncalling, ?_, ?_⟩
  · intro other there placed
    obtain ⟨rfl, rfl⟩ | ⟨different, old⟩ := (getElem?_set_eq_some found).mp placed
    · exact turned stream _ taken (recorded.streams other stream found)
    · exact (elsewhere other different).2 there (recorded.streams other there old)
  · intro caller among
    rw [List.length_set]
    exact recorded.within caller among
  · intro other beyond
    rw [List.length_set] at beyond
    have inside : run < state.streams.length := (List.getElem?_eq_some_iff.mp found).1
    have different : other ≠ run := by omega
    rw [dumpedBy_concat (elsewhere other different).1]
    exact recorded.unrun other beyond

/-- A stream takes a step which puts no event on its queue. -/
theorem StreamsRecorded.quietly {turn : RunStream → Option RunStream}
    (recorded : StreamsRecorded past state) (moved : state.onStream run turn = some next)
    (quiet : action.Quiet) (uncalling : action.caller? = none)
    (turned : ∀ stream after, turn stream = some after → stream.Carried →
      after.Carried ∧ ∀ source, after.told source = stream.told source) :
    StreamsRecorded (past ++ [action]) next := by
  refine recorded.onStream moved uncalling ?_ ?_
  · intro other _
    refine ⟨quiet.dumps other, fun stream records => ?_⟩
    exact quiet.streamRecords records records.carried fun _ => rfl
  · intro stream after taken before
    obtain ⟨carried, told⟩ := turned stream after taken before.carried
    exact quiet.streamRecords before carried told

theorem StreamsRecorded.dump {event : Value} (recorded : StreamsRecorded past state)
    (moved : state.onStream run (·.dump event) = some next) :
    StreamsRecorded (past ++ [.dump run event]) next := by
  have unread : ∀ index, (Action.dump run event).update? index = none := fun _ => rfl
  refine recorded.onStream moved rfl ?_ ?_
  · intro other different
    have unseen : (Action.dump run event).dumped? other = none := if_neg different.symm
    refine ⟨unseen, fun stream records => ⟨records.carried, ?_, fun index => ?_⟩⟩
    · rw [dumpedBy_concat unseen, records.dumps]
    · rw [updatesTo_concat (unread index), records.relays]
  · intro stream after dumped before
    rw [RunStream.dump] at dumped
    split at dumped
    · obtain rfl := Option.some.inj dumped
      refine ⟨before.carried.putItem _, ?_, fun index => ?_⟩
      · rw [RunStream.told_putItem, before.dumps, dumpedBy, dumpedBy, filterMap_concat]
        simp [Action.dumped?]
      · rw [RunStream.told_putItem, before.relays, updatesTo_concat (unread index)]
        simp
    · cases dumped

theorem StreamsRecorded.drained (recorded : StreamsRecorded past state)
    (moved : state.onStream run RunStream.drained = some next) :
    StreamsRecorded (past ++ [.drained run]) next := by
  refine recorded.quietly moved ⟨fun _ => rfl, fun _ => rfl⟩ rfl ?_
  intro stream after drained carried
  rw [RunStream.drained] at drained
  split at drained
  · obtain rfl := Option.some.inj drained
    refine ⟨carried.putItem none, fun source => ?_⟩
    exact (RunStream.told_putItem none).trans (List.append_nil _)
  · cases drained

theorem StreamsRecorded.startRun (recorded : StreamsRecorded past state) (threadId : Str) :
    StreamsRecorded (past ++ [.startRun threadId])
      { state with
        process := state.process.startRun threadId
        streams := state.streams ++ [RunStream.started] } := by
  have quiet : (Action.startRun threadId).Quiet := ⟨fun _ => rfl, fun _ => rfl⟩
  have longer : (state.streams ++ [RunStream.started]).length = state.streams.length + 1 :=
    List.length_append
  refine ⟨?_, callers_concat recorded.callers rfl, ?_, ?_⟩
  · intro run stream found
    obtain old | ⟨rfl, rfl⟩ := getElem?_concat_eq_some.mp found
    · have before := recorded.streams run stream old
      exact quiet.streamRecords before before.carried fun _ => rfl
    · refine ⟨RunStream.carried_started, ?_, fun index => ?_⟩
      · rw [dumpedBy_concat (quiet.dumps _), recorded.unrun _ le_rfl]
        rfl
      · -- No call was given the queue of a run which had not started.
        rw [relayed]
        split
        · rename_i caller called
          have elsewhere := recorded.within caller (List.mem_of_getElem? called)
          rw [if_neg (by omega)]
          rfl
        · rfl
  · intro caller among
    have before := recorded.within caller among
    rw [longer]
    omega
  · intro run beyond
    rw [longer] at beyond
    rw [dumpedBy_concat (quiet.dumps run)]
    exact recorded.unrun run (by omega)

section Starting

variable {process : AgentProcess} {name : Str} {address : Address}

/-- A call which starts has put nothing on the queue of its run. -/
theorem StreamsRecorded.startCall (recorded : StreamsRecorded past state)
    (calls : CallsRecorded past state) (running : run < state.streams.length) :
    StreamsRecorded (past ++ [.startCall run name address])
      { state with process, callers := state.callers ++ [⟨run, name, address⟩] } := by
  have quiet : (Action.startCall run name address).Quiet := ⟨fun _ => rfl, fun _ => rfl⟩
  refine ⟨?_, ?_, ?_, ?_⟩
  · intro other stream found
    have before := recorded.streams other stream found
    refine ⟨before.carried, ?_, fun index => ?_⟩
    · rw [dumpedBy_concat (quiet.dumps other), before.dumps]
    · rw [updatesTo_concat (quiet.updates index), before.relays, relayed, relayed]
      rcases lt_trichotomy index state.callers.length with inside | rfl | outside
      · rw [List.getElem?_append_left inside]
      · rw [List.getElem?_eq_none le_rfl, List.getElem?_concat_length,
          calls.uncalled _ le_rfl]
        simp
      · rw [List.getElem?_eq_none (by omega), List.getElem?_eq_none (by simp; omega)]
  · rw [filterMap_concat, recorded.callers]
    rfl
  · intro caller among
    rcases List.mem_append.mp among with old | new
    · exact recorded.within caller old
    · obtain rfl := List.mem_singleton.mp new
      exact running
  · intro other beyond
    rw [dumpedBy_concat (quiet.dumps other)]
    exact recorded.unrun other beyond

theorem CallsRecorded.startCall (recorded : CallsRecorded past state)
    (started : state.process.step (.startCall run name) = some process) :
    CallsRecorded (past ++ [.startCall run name address])
      { state with process, callers := state.callers ++ [⟨run, name, address⟩] } := by
  have unread : ∀ index, (Action.startCall run name address).update? index = none := fun _ => rfl
  obtain ⟨threadId, _, rfl⟩ := Option.map_eq_some_iff.mp started
  have arity := recorded.length_calls
  refine ⟨?_, ?_, ?_⟩
  · change (state.process.calls ++ _).map _ = (state.callers ++ _).map _
    rw [List.map_append, List.map_append, recorded.named]
    rfl
  · intro index caller call found_caller found_call
    rw [updatesTo_concat (unread index)]
    obtain old | ⟨rfl, rfl⟩ := getElem?_concat_eq_some.mp found_caller
    · obtain before | ⟨new, _⟩ := getElem?_concat_eq_some.mp found_call
      · exact recorded.answers index caller call old before
      · have inside := (List.getElem?_eq_some_iff.mp old).1
        omega
    · obtain before | ⟨_, rfl⟩ := getElem?_concat_eq_some.mp found_call
      · have inside := (List.getElem?_eq_some_iff.mp before).1
        omega
      · rw [recorded.uncalled _ le_rfl]
        exact reaches_nil
  · intro index beyond
    rw [updatesTo_concat (unread index)]
    rw [List.length_append] at beyond
    exact recorded.uncalled index (by omega)

end Starting

/-- A call goes on to its next phase. -/
theorem CallsRecorded.replaced {index : Nat} {call : SubAgentCall} {phase : Phase}
    (recorded : CallsRecorded past state) (found : state.process.calls[index]? = some call)
    (callers : next.callers = state.callers)
    (calls : next.process.calls = state.process.calls.set index { call with phase })
    (elsewhere : ∀ other, other ≠ index → action.update? other = none)
    (answers : ∀ caller : Caller, call.name = caller.name →
      Answers caller.name caller.address (updatesTo index past) call.phase →
        Answers caller.name caller.address (updatesTo index (past ++ [action])) phase) :
    CallsRecorded (past ++ [action]) next := by
  have arity := recorded.length_calls
  have inside : index < state.process.calls.length := (List.getElem?_eq_some_iff.mp found).1
  refine ⟨?_, ?_, ?_⟩
  · rw [calls, callers, ← recorded.named, List.map_set]
    have own : (state.process.calls.map SubAgentCall.name)[index]? = some call.name := by
      rw [List.getElem?_map, found, Option.map_some]
    obtain ⟨within, name⟩ := List.getElem?_eq_some_iff.mp own
    change List.set _ index call.name = _
    rw [← name, List.set_getElem_self]
  · intro other caller there found_caller found_call
    rw [callers] at found_caller
    rw [calls] at found_call
    obtain ⟨rfl, rfl⟩ | ⟨different, old⟩ := (getElem?_set_eq_some found).mp found_call
    · have named : call.name = caller.name := by
        have names := congrArg (·[other]?) recorded.named
        simpa [found, found_caller] using names
      exact answers caller named (recorded.answers other caller call found_caller found)
    · rw [updatesTo_concat (elsewhere other different)]
      exact recorded.answers other caller there found_caller old
  · intro other beyond
    rw [callers] at beyond
    rw [updatesTo_concat (elsewhere other (by omega))]
    exact recorded.uncalled other beyond

/-- The phase of a call after a round of its loop. -/
def phaseAfter : Except Raised Gathered → Phase
  | .ok gathered => .streaming gathered
  | .error _ => .raised

theorem receiveUpdate_calls (process : AgentProcess) (index : Nat) (call : SubAgentCall)
    (gathered : Gathered) (received : Value) :
    (process.receiveUpdate index call gathered received).calls =
      process.calls.set index { call with
        phase := phaseAfter
          (onUpdate (process.contextIds call.threadId) call.name gathered received).2 } := by
  rw [AgentProcess.receiveUpdate]
  cases outcome : onUpdate (process.contextIds call.threadId) call.name gathered received with
  | mk contextIds read => cases read <;> rfl

/-- A round of the loop of a call. -/
theorem CallsRecorded.update {index : Nat} {received : Value} {process : AgentProcess}
    (recorded : CallsRecorded past state)
    (updated : state.process.step (.update index received) = some process)
    (callers : next.callers = state.callers) (calls : next.process = process) :
    CallsRecorded (past ++ [.update index received]) next := by
  obtain ⟨call, found, updated⟩ := Option.bind_eq_some_iff.mp updated
  split at updated
  · rename_i gathered streaming
    obtain rfl := Option.some.inj updated
    have elsewhere : ∀ other, other ≠ index →
        (Action.update index received).update? other = none := by
      intro other different
      cases received with
      | dict update => exact if_neg different.symm
      | null | bool | int | float | str | list => rfl
    have after := receiveUpdate_calls state.process index call gathered received
    rw [← calls] at after
    refine recorded.replaced found callers after elsewhere ?_
    intro caller named answers
    rw [streaming] at answers
    have reaches : Reaches caller.name caller.address (updatesTo index past) gathered := answers
    cases received with
    | dict update =>
        rw [updatesTo_update]
        cases read : (onUpdate (state.process.contextIds call.threadId) call.name gathered
          (.dict update)).2 with
        | ok later =>
            rw [named] at read
            exact reaches.concat read
        | error raised =>
            rw [named] at read
            exact reaches.raised read
    | null | bool | int | float | str | list =>
        rw [updatesTo_concat rfl]
        exact reaches.stopped
  · cases updated

theorem CallsRecorded.endStream {index : Nat} {raises : Bool} {process : AgentProcess}
    (recorded : CallsRecorded past state)
    (ended : state.process.step (.endStream index raises) = some process) :
    CallsRecorded (past ++ [.endStream index raises]) { state with process } := by
  obtain ⟨call, found, ended⟩ := Option.bind_eq_some_iff.mp ended
  split at ended
  · rename_i gathered streaming
    obtain rfl := Option.some.inj ended
    refine recorded.replaced found rfl rfl (fun _ _ => rfl) ?_
    intro caller named answers
    rw [streaming] at answers
    have reaches : Reaches caller.name caller.address (updatesTo index past) gathered := answers
    rw [updatesTo_concat rfl]
    cases raises with
    | true => exact reaches.stopped
    | false => exact ⟨gathered, reaches, congrArg _ named⟩
  · cases ended

/-! ### Steps and runs -/

theorem onStream_calls {turn : RunStream → Option RunStream}
    (moved : state.onStream run turn = some next) :
    next.callers = state.callers ∧ next.process = state.process := by
  obtain ⟨_, _, _, _, rfl⟩ := onStream_eq_some.mp moved
  exact ⟨rfl, rfl⟩

/-- The event of an update is put on the queue of the run whose call it is for. -/
theorem StreamsRecorded.update {index : Nat} {caller : Caller} {update : Dict}
    (recorded : StreamsRecorded past state) (called : state.callers[index]? = some caller)
    (put : state.onStream caller.run (fun stream => some (stream.putItem
      (some (.call index, progressEvent caller.name caller.address update)))) = some next) :
    StreamsRecorded (past ++ [.update index (.dict update)]) next := by
  have unseen : ∀ run, (Action.update index (.dict update)).dumped? run = none := fun _ => rfl
  have elsewhere : ∀ other, other ≠ index →
      updatesTo other (past ++ [.update index (.dict update)]) = updatesTo other past :=
    fun other different => updatesTo_concat (if_neg different.symm)
  refine recorded.onStream put rfl ?_ ?_
  · intro other different
    refine ⟨rfl, fun stream records => ⟨records.carried, ?_, fun listed => ?_⟩⟩
    · rw [dumpedBy_concat (unseen other), records.dumps]
    · rw [records.relays]
      by_cases same : listed = index
      · subst same
        simp only [relayed, called, if_neg different]
      · rw [elsewhere listed same]
  · intro stream after taken before
    obtain rfl := Option.some.inj taken
    refine ⟨before.carried.putItem _, ?_, fun listed => ?_⟩
    · rw [RunStream.told_putItem, before.dumps, dumpedBy_concat (unseen _)]
      simp
    · rw [RunStream.told_putItem, before.relays]
      by_cases same : listed = index
      · subst same
        simp [relayed, called, updatesTo_update]
      · rw [elsewhere listed same]
        simp [Ne.symm same]

/-- The streams take no notice of what is not for them. -/
theorem StreamsRecorded.elsewhere (recorded : StreamsRecorded past state) (quiet : action.Quiet)
    (uncalling : action.caller? = none) (callers : next.callers = state.callers)
    (streams : next.streams = state.streams) : StreamsRecorded (past ++ [action]) next := by
  refine ⟨?_, ?_, ?_, ?_⟩
  · intro run stream found
    rw [streams] at found
    rw [callers]
    have before := recorded.streams run stream found
    exact quiet.streamRecords before before.carried fun _ => rfl
  · rw [callers]
    exact callers_concat recorded.callers uncalling
  · intro caller among
    rw [streams]
    exact recorded.within caller (callers ▸ among)
  · intro run beyond
    rw [dumpedBy_concat (quiet.dumps run)]
    exact recorded.unrun run (streams ▸ beyond)

/-- What is recorded of the process. -/
structure Recorded (past : List Action) (state : AgentStreams) : Prop where
  streams : StreamsRecorded past state
  calls : CallsRecorded past state

/-- A step of one stream leaves the calls as they were. -/
theorem Recorded.onStream {turn : RunStream → Option RunStream} (recorded : Recorded past state)
    (moved : state.onStream run turn = some next)
    (unread : ∀ index, action.update? index = none)
    (streams : StreamsRecorded (past ++ [action]) next) : Recorded (past ++ [action]) next := by
  obtain ⟨callers, process⟩ := onStream_calls moved
  exact ⟨streams, recorded.calls.elsewhere unread callers (congrArg AgentProcess.calls process)⟩

/-- Every step is recorded. -/
theorem Recorded.step (recorded : Recorded past state)
    (taken : machine.step state action = some next) : Recorded (past ++ [action]) next := by
  cases action with
  | startRun threadId =>
      obtain rfl := Option.some.inj taken
      exact ⟨recorded.streams.startRun threadId,
        recorded.calls.elsewhere (fun _ => rfl) rfl rfl⟩
  | dump run event => exact recorded.onStream taken (fun _ => rfl) (recorded.streams.dump taken)
  | drained run => exact recorded.onStream taken (fun _ => rfl) (recorded.streams.drained taken)
  | startCall run name address =>
      obtain ⟨stream, found, taken⟩ := Option.bind_eq_some_iff.mp taken
      obtain ⟨process, started, taken⟩ := Option.bind_eq_some_iff.mp taken
      split at taken
      · obtain rfl := Option.some.inj taken
        have running : run < state.streams.length := (List.getElem?_eq_some_iff.mp found).1
        exact ⟨recorded.streams.startCall recorded.calls running,
          recorded.calls.startCall started⟩
      · cases taken
  | update index received =>
      obtain ⟨caller, called, taken⟩ := Option.bind_eq_some_iff.mp taken
      obtain ⟨process, updated, taken⟩ := Option.bind_eq_some_iff.mp taken
      cases received with
      | dict update =>
          obtain ⟨put, moved, taken⟩ := Option.bind_eq_some_iff.mp taken
          obtain rfl := Option.some.inj taken
          have streams := recorded.streams.update called moved
          refine ⟨⟨streams.streams, streams.callers, streams.within, streams.unrun⟩, ?_⟩
          exact recorded.calls.update updated (onStream_calls moved).1 rfl
      | null | bool | int | float | str | list =>
          obtain rfl := Option.some.inj taken
          refine ⟨?_, recorded.calls.update updated rfl rfl⟩
          exact recorded.streams.elsewhere ⟨fun _ => rfl, fun _ => rfl⟩ rfl rfl rfl
  | endStream index raises =>
      obtain ⟨process, ended, taken⟩ := Option.bind_eq_some_iff.mp taken
      obtain rfl := Option.some.inj taken
      refine ⟨?_, recorded.calls.endStream ended⟩
      exact recorded.streams.elsewhere ⟨fun _ => rfl, fun _ => rfl⟩ rfl rfl rfl
  | get run =>
      refine recorded.onStream taken (fun _ => rfl) ?_
      refine recorded.streams.quietly taken ⟨fun _ => rfl, fun _ => rfl⟩ rfl ?_
      exact fun stream after got carried => ⟨carried.get got, fun _ => RunStream.told_get got⟩
  | pull run =>
      refine recorded.onStream taken (fun _ => rfl) ?_
      refine recorded.streams.quietly taken ⟨fun _ => rfl, fun _ => rfl⟩ rfl ?_
      exact fun stream after pulled carried =>
        ⟨carried.pull pulled, fun _ => RunStream.told_pull pulled⟩
  | close run =>
      refine recorded.onStream taken (fun _ => rfl) ?_
      refine recorded.streams.quietly taken ⟨fun _ => rfl, fun _ => rfl⟩ rfl ?_
      exact fun stream after closed carried =>
        ⟨carried.close closed, fun _ => RunStream.told_close closed⟩

/-- What a step of the streams is to the process alone. -/
theorem step_process (taken : machine.step state action = some next) :
    AgentProcess.machine.run state.process action.ofProcess?.toList = some next.process := by
  have once : ∀ {acted : AgentProcess.Action} {process : AgentProcess},
      state.process.step acted = some process →
        AgentProcess.machine.run state.process [acted] = some process := by
    intro acted process stepped
    exact (AgentProcess.machine.run_cons_eq_some).mpr ⟨process, stepped, rfl⟩
  cases action with
  | startRun threadId =>
      obtain rfl := Option.some.inj taken
      exact once rfl
  | dump run event => exact congrArg some (onStream_calls taken).2.symm
  | drained run => exact congrArg some (onStream_calls taken).2.symm
  | startCall run name address =>
      obtain ⟨stream, found, taken⟩ := Option.bind_eq_some_iff.mp taken
      obtain ⟨process, started, taken⟩ := Option.bind_eq_some_iff.mp taken
      split at taken
      · obtain rfl := Option.some.inj taken
        exact once started
      · cases taken
  | update index received =>
      obtain ⟨caller, called, taken⟩ := Option.bind_eq_some_iff.mp taken
      obtain ⟨process, updated, taken⟩ := Option.bind_eq_some_iff.mp taken
      cases received with
      | dict update =>
          obtain ⟨put, moved, taken⟩ := Option.bind_eq_some_iff.mp taken
          obtain rfl := Option.some.inj taken
          exact once updated
      | null | bool | int | float | str | list =>
          obtain rfl := Option.some.inj taken
          exact once updated
  | endStream index raises =>
      obtain ⟨process, ended, taken⟩ := Option.bind_eq_some_iff.mp taken
      obtain rfl := Option.some.inj taken
      exact once ended
  | get run => exact congrArg some (onStream_calls taken).2.symm
  | pull run => exact congrArg some (onStream_calls taken).2.symm
  | close run => exact congrArg some (onStream_calls taken).2.symm

theorem run_process {actions : List Action} {final : AgentStreams}
    (execution : machine.run state actions = some final) :
    AgentProcess.machine.run state.process (actions.filterMap Action.ofProcess?) =
      some final.process := by
  induction actions generalizing state with
  | nil =>
      obtain rfl : state = final := by simpa using execution
      rfl
  | cons action actions induction =>
      obtain ⟨next, taken, rest⟩ := machine.run_cons_eq_some.mp execution
      have split : (action :: actions).filterMap Action.ofProcess? =
          action.ofProcess?.toList ++ actions.filterMap Action.ofProcess? := by
        cases acted : action.ofProcess? with
        | none => rw [List.filterMap_cons_none acted, Option.toList_none, List.nil_append]
        | some other => rw [List.filterMap_cons_some acted]; rfl
      rw [split, AgentProcess.machine.run_append (step_process taken)]
      exact induction rest

/-- In every interleaving of runs, adapters, calls and consumers, the generator of a run yields
what has been put on its queue, once and in order, up to the end of its adapter, and what comes
there from each call is what the call would put there by itself. -/
theorem merges_of_run {actions : List Action} {final : AgentStreams}
    (execution : machine.run initial actions = some final) : Merges actions final := by
  have start : Recorded [] initial := ⟨streamsRecorded_initial, callsRecorded_initial⟩
  have recorded : Recorded actions final := Machine.run_recorded Recorded.step start execution
  refine ⟨?_, ?_, recorded.streams.callers, ?_, run_process execution⟩
  · intro stream among
    obtain ⟨run, found⟩ := List.getElem?_of_mem among
    exact (recorded.streams.streams run stream found).carried
  · exact fun run stream found => (recorded.streams.streams run stream found).dumps
  · intro index caller called contextIds
    have inside : index < final.process.calls.length := by
      rw [recorded.calls.length_calls]
      exact (List.getElem?_eq_some_iff.mp called).1
    have answers := recorded.calls.answers index caller _ called (List.getElem?_eq_getElem inside)
    constructor
    · intro run stream found
      rw [(recorded.streams.streams run stream found).relays, relayed, called,
        answers.progress contextIds]
    · intro call text found returned
      rw [List.getElem?_eq_getElem inside] at found
      obtain rfl := Option.some.inj found
      rw [returned] at answers
      exact answers.text contextIds

/-- An update which says something. -/
def speaking (text : Str) : Dict :=
  [("artifactUpdate", .dict [("artifact", .dict [("parts",
    .list [.dict [("text", .str text)]])])])]

/-- Two runs, of which the first calls a sub-agent while the second goes on; the consumer of the
first stays to the end. -/
def delegation : List Action :=
  [.startRun "t", .startRun "u", .dump 0 (.int 1), .get 0, .startCall 0 "s" ⟨"a", none, none, none⟩,
    .dump 1 (.int 2), .update 0 (.dict (speaking "hi")), .pull 0, .endStream 0 false, .get 0,
    .dump 0 (.int 3), .drained 0, .pull 0, .get 0, .pull 0, .get 0, .get 1, .close 1]

/-- The streams after these steps. -/
def delegated : AgentStreams := (machine.run initial delegation).getD initial

theorem delegation_merges : Merges delegation delegated := by
  have execution : machine.run initial delegation = some delegated := rfl
  exact merges_of_run execution

/-- The consumer has had both events of the adapter, and that of the sub-agent between them. -/
example : delegated.streams.map RunStream.yielded =
    [[.int 1, progressEvent "s" ⟨"a", none, none, none⟩ (speaking "hi"), .int 3], [.int 2]] := rfl

end AgentStreams
end Souk.PydanticAiAgent
