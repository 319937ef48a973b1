import Souk.ClientSdk.KyokBridge
import Souk.Library.Records

/-!
# Every completion is answered once

One connection of a bridge with the tasks it starts.  Any number of them write into one queue; they
are cancelled once the read loop has been left, and a handler may go on after that, or turn the
cancellation into an exception of its own.
-/

namespace Souk.ClientSdk

open Souk.Python

/-- Where the task of a completion stands. -/
inductive TaskPhase where
  /-- `create_task` has returned, and the task has not run. -/
  | created
  | running
  | ended
  deriving DecidableEq

/-- A task `_serve_one`. -/
structure ServeTask where
  completion : Completion
  phase : TaskPhase
  /-- `task.cancel()` has been called. -/
  cancelRequested : Bool
  /-- History: what its handler has done. -/
  events : List HandlerEvent

namespace ServeTask

/-- The request the task serves. -/
def requestId (task : ServeTask) : Value := task.completion.requestId

/-- The completion of the task, until it ends. -/
def served? (task : ServeTask) : Option Completion :=
  if task.phase = .ended then none else some task.completion

/-- The task after its handler has acted: it keeps no handler where the envelope is refused. -/
def act (task : ServeTask) (event : HandlerEvent) : ServeTask :=
  { task with
    phase := if (task.completion.serveOne event).2 then .running else .ended
    events := if task.completion.valid then task.events ++ [event] else task.events }

end ServeTask

/-- One connection of a bridge. -/
structure BridgeConnection where
  /-- The read loop is running: the connection has not dropped and the bridge was not stopped. -/
  reading : Bool
  tasks : List ServeTask
  /-- History: everything put on `outbound`. -/
  enqueued : List BridgeFrame

namespace BridgeConnection

/-- A connection which has registered. -/
def opened : BridgeConnection := ⟨true, [], []⟩

/-- What can happen on a connection. -/
inductive Action where
  /-- The read loop receives a message. -/
  | receive (raw : Str)
  /-- The socket closes, or the task of the read loop is cancelled. -/
  | close
  /-- The teardown cancels a task. -/
  | cancel (task : Nat)
  /-- A task runs up to its first await; one which was cancelled before never does. -/
  | start (task : Nat)
  /-- The handler of a task acts. -/
  | serve (task : Nat) (event : HandlerEvent)
  /-- The cancellation ends a task. -/
  | cancelled (task : Nat)
  | deregister

/-- One step of the connection of a bridge which serves the given offering. -/
def step (limits : Json.Limits) (validates : Dict → Bool) (offering : Str)
    (connection : BridgeConnection) : Action → Option BridgeConnection
  | .receive raw =>
      if connection.reading then
        match readBridgeFrame limits validates raw with
        | .ok (some completion) =>
            some { connection with
              tasks := connection.tasks ++ [⟨completion, .created, false, []⟩] }
        | .ok none => some connection
        | .error _ => some { connection with reading := false }
      else none
  | .close => if connection.reading then some { connection with reading := false } else none
  | .cancel index =>
      if connection.reading then none
      else connection.tasks[index]?.map fun task =>
        { connection with
          tasks := connection.tasks.set index { task with cancelRequested := true } }
  | .start index => do
      let task ← connection.tasks[index]?
      if task.phase = .created ∧ !task.cancelRequested then
        some { connection with tasks := connection.tasks.set index { task with phase := .running } }
      else none
  | .serve index event => do
      let task ← connection.tasks[index]?
      if task.phase = .running then
        some { connection with
          tasks := connection.tasks.set index (task.act event)
          enqueued := connection.enqueued ++ [(task.completion.serveOne event).1] }
      else none
  | .cancelled index => do
      let task ← connection.tasks[index]?
      if task.phase ≠ .ended ∧ task.cancelRequested then
        some { connection with tasks := connection.tasks.set index { task with phase := .ended } }
      else none
  | .deregister =>
      if connection.reading then
        some { connection with enqueued := connection.enqueued ++ [.deleteModel offering] }
      else none

/-- A connection as a machine. -/
def machine (limits : Json.Limits) (validates : Dict → Bool) (offering : Str) :
    Machine BridgeConnection Action where
  step := step limits validates offering

/-- The requests served on the connection. -/
def requestIds (connection : BridgeConnection) : List Value :=
  connection.tasks.map ServeTask.requestId

/-- souk draws a new id for every request. -/
def Fresh (limits : Json.Limits) (validates : Dict → Bool) (connection : BridgeConnection) :
    Action → Prop
  | .receive raw => ∀ completion, readBridgeFrame limits validates raw = .ok (some completion) →
      completion.requestId ∉ connection.requestIds
  | _ => True

/-! ## What a step can do -/

/-- Everything a step can do. -/
inductive Moves (limits : Json.Limits) (validates : Dict → Bool) (offering : Str)
    (connection : BridgeConnection) : Action → BridgeConnection → Prop
  | asked {raw : Str} {completion : Completion} (reading : connection.reading = true)
      (read : readBridgeFrame limits validates raw = .ok (some completion)) :
      Moves limits validates offering connection (.receive raw)
        { connection with tasks := connection.tasks ++ [⟨completion, .created, false, []⟩] }
  | ignored {raw : Str} : Moves limits validates offering connection (.receive raw) connection
  | left {action : Action} :
      Moves limits validates offering connection action { connection with reading := false }
  | cancels {index : Nat} {task : ServeTask} (left : connection.reading = false)
      (found : connection.tasks[index]? = some task) :
      Moves limits validates offering connection (.cancel index) { connection with
        tasks := connection.tasks.set index { task with cancelRequested := true } }
  | started {index : Nat} {task : ServeTask} (found : connection.tasks[index]? = some task)
      (created : task.phase = .created) :
      Moves limits validates offering connection (.start index) { connection with
        tasks := connection.tasks.set index { task with phase := .running } }
  | served {index : Nat} {event : HandlerEvent} {task : ServeTask}
      (found : connection.tasks[index]? = some task) (running : task.phase = .running) :
      Moves limits validates offering connection (.serve index event) { connection with
        tasks := connection.tasks.set index (task.act event)
        enqueued := connection.enqueued ++ [(task.completion.serveOne event).1] }
  | ended {index : Nat} {task : ServeTask} (found : connection.tasks[index]? = some task)
      (requested : task.cancelRequested = true) :
      Moves limits validates offering connection (.cancelled index) { connection with
        tasks := connection.tasks.set index { task with phase := .ended } }
  | deregistered (reading : connection.reading = true) :
      Moves limits validates offering connection .deregister
        { connection with enqueued := connection.enqueued ++ [.deleteModel offering] }

/-- The one case analysis of a step. -/
theorem moves_of_step {limits : Json.Limits} {validates : Dict → Bool} {offering : Str}
    {connection next : BridgeConnection} {action : Action}
    (taken : (machine limits validates offering).step connection action = some next) :
    Moves limits validates offering connection action next := by
  cases action with
  | receive raw =>
      simp only [machine, BridgeConnection.step] at taken
      split at taken
      · rename_i reading
        split at taken
        · rename_i read
          obtain rfl := Option.some.inj taken
          exact .asked reading read
        · obtain rfl := Option.some.inj taken
          exact .ignored
        · obtain rfl := Option.some.inj taken
          exact .left
      · cases taken
  | close =>
      simp only [machine, BridgeConnection.step] at taken
      split at taken
      · obtain rfl := Option.some.inj taken
        exact .left
      · cases taken
  | cancel index =>
      simp only [machine, BridgeConnection.step] at taken
      split at taken
      · cases taken
      · rename_i left
        obtain ⟨task, found, rfl⟩ := Option.map_eq_some_iff.mp taken
        exact .cancels (Bool.not_eq_true _ ▸ left) found
  | start index =>
      obtain ⟨task, found, taken⟩ := Option.bind_eq_some_iff.mp taken
      split at taken
      · rename_i created
        obtain rfl := Option.some.inj taken
        exact .started found created.1
      · cases taken
  | serve index event =>
      obtain ⟨task, found, taken⟩ := Option.bind_eq_some_iff.mp taken
      split at taken
      · rename_i running
        obtain rfl := Option.some.inj taken
        exact .served found running
      · cases taken
  | cancelled index =>
      obtain ⟨task, found, taken⟩ := Option.bind_eq_some_iff.mp taken
      split at taken
      · rename_i cancelled
        obtain rfl := Option.some.inj taken
        exact .ended found cancelled.2
      · cases taken
  | deregister =>
      simp only [machine, BridgeConnection.step] at taken
      split at taken
      · rename_i reading
        obtain rfl := Option.some.inj taken
        exact .deregistered reading
      · cases taken

/-! ## The connection and its bridge -/

section Bridge

variable {limits : Json.Limits} {validates : Dict → Bool} {offering : Str}
  {connection next : BridgeConnection} {action : Action} {bridge : KyokBridge}

/-- The completions of the tasks which have not ended. -/
def inFlight (connection : BridgeConnection) : List Completion :=
  connection.tasks.filterMap ServeTask.served?

/-- The bridge has put what the connection has enqueued, and serves what it serves. -/
structure Mirrors (connection : BridgeConnection) (bridge : KyokBridge) : Prop where
  serving : bridge.link.Serving
  entered : bridge.link.entered = connection.enqueued
  inFlight : bridge.inFlight = connection.inFlight
  uncancelled : ∀ task ∈ connection.tasks, task.cancelRequested = false

theorem Mirrors.receive (mirrors : connection.Mirrors bridge) (completion : Completion) :
    Mirrors { connection with
        tasks := connection.tasks ++ [⟨completion, .created, false, []⟩] }
      { bridge with inFlight := bridge.inFlight ++ [completion] } where
  serving := mirrors.serving
  entered := mirrors.entered
  inFlight := by
    rw [mirrors.inFlight, BridgeConnection.inFlight, BridgeConnection.inFlight,
      List.filterMap_append]
    rfl
  uncancelled := by
    intro task among
    rcases List.mem_append.mp among with old | new
    · exact mirrors.uncancelled task old
    · obtain rfl := List.mem_singleton.mp new
      rfl

theorem uncancelled_set (uncancelled : ∀ task ∈ connection.tasks, task.cancelRequested = false)
    {index : Nat} {after : ServeTask} (kept : after.cancelRequested = false) :
    ∀ task ∈ connection.tasks.set index after, task.cancelRequested = false := by
  intro task among
  rcases List.mem_or_eq_of_mem_set among with old | rfl
  · exact uncancelled task old
  · exact kept

theorem Mirrors.start (mirrors : connection.Mirrors bridge) {index : Nat} {task : ServeTask}
    (found : connection.tasks[index]? = some task) (created : task.phase = .created) :
    Mirrors { connection with tasks := connection.tasks.set index { task with phase := .running } }
      bridge where
  serving := mirrors.serving
  entered := mirrors.entered
  inFlight := by
    have same : ServeTask.served? { task with phase := .running } = task.served? := by
      simp [ServeTask.served?, created]
    rw [mirrors.inFlight, BridgeConnection.inFlight, BridgeConnection.inFlight,
      filterMap_set_of_same found same]
  uncancelled := uncancelled_set mirrors.uncancelled
    (mirrors.uncancelled task (List.mem_of_getElem? found))

/-- The act of a handler is an act of the same completion, wherever the bridge has it. -/
theorem Mirrors.serve (mirrors : connection.Mirrors bridge) {index : Nat} {task : ServeTask}
    (found : connection.tasks[index]? = some task) (running : task.phase = .running)
    (event : HandlerEvent) :
    ∃ place after, KyokBridge.step limits validates offering bridge (.serve place event) =
        some after ∧
      Mirrors { connection with
        tasks := connection.tasks.set index (task.act event)
        enqueued := connection.enqueued ++ [(task.completion.serveOne event).1] } after := by
  have serves : task.served? = some task.completion := by
    simp [ServeTask.served?, running]
  obtain ⟨place, at_place, erased⟩ := exists_position_filterMap found serves
  have in_bridge : bridge.inFlight[place]? = some task.completion := by
    rw [mirrors.inFlight]
    exact at_place
  have stepped : KyokBridge.step limits validates offering bridge (.serve place event) =
      some ⟨bridge.link.put (task.completion.serveOne event).1,
        if (task.completion.serveOne event).2 then bridge.inFlight
        else bridge.inFlight.eraseIdx place⟩ := by
    simp only [KyokBridge.step, in_bridge]
  refine ⟨place, _, stepped, mirrors.serving, ?_, ?_, ?_⟩
  · simp only [Sdk.Link.put, mirrors.entered]
  · simp only [mirrors.inFlight, BridgeConnection.inFlight]
    cases goes_on : (task.completion.serveOne event).2 with
    | true =>
        have same : (task.act event).served? = task.served? := by
          simp [ServeTask.served?, ServeTask.act, goes_on, running]
        rw [filterMap_set_of_same found same, if_pos rfl]
    | false =>
        have gone : (task.act event).served? = none := by
          simp [ServeTask.served?, ServeTask.act, goes_on]
        rw [erased _ gone, if_neg (by simp)]
  · exact uncancelled_set mirrors.uncancelled
      (mirrors.uncancelled task (List.mem_of_getElem? found))

/-- As long as the connection is read, each of its steps is one of the bridge, or none. -/
theorem Mirrors.step (mirrors : connection.reading = true → connection.Mirrors bridge)
    (taken : (machine limits validates offering).step connection action = some next) :
    ∃ actions after, (KyokBridge.machine limits validates offering).run bridge actions =
        some after ∧ (next.reading = true → next.Mirrors after) := by
  cases moves_of_step taken with
  | @asked raw completion reading read =>
      have kept := mirrors reading
      refine ⟨[.receive raw], _, ?_, fun _ => kept.receive completion⟩
      simp [Machine.run, KyokBridge.machine, KyokBridge.step_receive kept.serving, read]
  | ignored => exact ⟨[], bridge, rfl, mirrors⟩
  | left => exact ⟨[], bridge, rfl, nofun⟩
  | cancels left found =>
      exact ⟨[], bridge, rfl, fun reading => absurd (left.symm.trans reading) (by decide)⟩
  | started found created =>
      exact ⟨[], bridge, rfl, fun reading => (mirrors reading).start found created⟩
  | @served index event task found running =>
      by_cases reading : connection.reading = true
      · obtain ⟨place, after, stepped, kept⟩ :=
          @Mirrors.serve limits validates offering _ _ (mirrors reading) _ _ found running event
        refine ⟨[.serve place event], after, ?_, fun _ => kept⟩
        exact (KyokBridge.machine limits validates offering).run_cons_eq_some.mpr
          ⟨after, stepped, rfl⟩
      · exact ⟨[], bridge, rfl, fun still => absurd still reading⟩
  | @ended index task found requested =>
      refine ⟨[], bridge, rfl, fun reading => ?_⟩
      have uncancelled := (mirrors reading).uncancelled task (List.mem_of_getElem? found)
      exact absurd (requested.symm.trans uncancelled) (by decide)
  | deregistered reading =>
      have kept := mirrors reading
      refine ⟨[.deregister], bridge.put (.deleteModel offering), ?_, fun _ => ?_⟩
      · cases writer : bridge.link.writer with
        | absent => exact absurd writer kept.serving
        | getting | sending | failed =>
            simp [Machine.run, KyokBridge.machine, KyokBridge.step, writer]
      · refine ⟨kept.serving, ?_, kept.inFlight, kept.uncancelled⟩
        simp only [KyokBridge.put, Sdk.Link.put, kept.entered]

/-- A connection which is still read has enqueued what a bridge, from its connection on, has put,
and serves what that bridge serves. -/
theorem mirrors_of_run {actions : List Action}
    (execution : (machine limits validates offering).run opened actions = some next)
    (reading : next.reading = true) :
    ∃ matching bridge, (KyokBridge.machine limits validates offering).run .fresh
        (.connect :: matching) = some bridge ∧ next.Mirrors bridge := by
  have start : opened.reading = true → opened.Mirrors ⟨Sdk.Link.closed.start, []⟩ :=
    fun _ => ⟨nofun, rfl, rfl, by simp [opened]⟩
  obtain ⟨matching, bridge, run, mirrors⟩ :=
    Machine.run_simulates (fun mirrors taken => Mirrors.step mirrors taken) start execution
  have connected : (KyokBridge.machine limits validates offering).step .fresh .connect =
      some ⟨Sdk.Link.closed.start, []⟩ := rfl
  refine ⟨matching, bridge, ?_, mirrors reading⟩
  exact (KyokBridge.machine limits validates offering).run_cons_eq_some.mpr ⟨_, connected, run⟩

end Bridge

end BridgeConnection

/-! ## What is enqueued for one request -/

namespace BridgeFrame

/-- The request a frame answers. -/
def requestId? : BridgeFrame → Option Value
  | .chunk requestId _ | .done requestId | .error requestId _ _ => some requestId
  | .deleteModel _ => none

/-- The frames after which a request is over. -/
def Terminal : BridgeFrame → Prop
  | .done _ | .error _ _ _ => True
  | .chunk _ _ | .deleteModel _ => False

end BridgeFrame

open Classical in
/-- The frames for one request, in order. -/
noncomputable def framesFor (frames : List BridgeFrame) (requestId : Value) : List BridgeFrame :=
  frames.filter fun frame => frame.requestId? = some requestId

/-- What becomes of a chunk: the first of `model_dump`, `dict` and `dict()` which it has decides,
and either says what the chunk is as a dictionary or raises. -/
inductive Chunk.Dumps (chunk : Chunk) : Except Str Object → Prop
  | modelDump {outcome : Except Str Object} (own : chunk.modelDump = some outcome) :
      Dumps chunk outcome
  | dict {outcome : Except Str Object} (missing : chunk.modelDump = none)
      (own : chunk.dict = some outcome) : Dumps chunk outcome
  | items (missing : chunk.modelDump = none) (neither : chunk.dict = none) :
      Dumps chunk chunk.items

/-- The act with which a handler's stream ends, and the frame for it. -/
inductive Ends (requestId : Value) : HandlerEvent → BridgeFrame → Prop
  | returned : Ends requestId .returns (.done requestId)
  | refused (refusal : Object) :
      Ends requestId (.refuses refusal)
        (.error requestId (str "refused by the LLM provider") (some refusal))
  | raised (text : Str) : Ends requestId (.raises text) (.error requestId text none)
  /-- The chunk could not be made a dictionary. -/
  | undumped {chunk : Chunk} {text : Str} (dumps : chunk.Dumps (.error text)) :
      Ends requestId (.yields chunk) (.error requestId text none)

/-- What the frames of a valid request are: its handler's chunks in order, and then the terminal
frame of the act which ended the stream, if one has. -/
def Streams (task : ServeTask) (frames : List BridgeFrame) : Prop :=
  ∃ (chunks : List Chunk) (datas : List Object) (last : Option (HandlerEvent × BridgeFrame)),
    task.events = chunks.map .yields ++ (last.map Prod.fst).toList ∧
      List.Forall₂ (fun chunk data => chunk.Dumps (.ok data)) chunks datas ∧
      (∀ pair ∈ last, Ends task.requestId pair.1 pair.2 ∧ task.phase = .ended) ∧
      frames = datas.map (.chunk task.requestId) ++ (last.map Prod.snd).toList

/-- The error frame for a request whose envelope does not validate. -/
def malformed (requestId : Value) : BridgeFrame :=
  .error requestId (str "malformed completionRequest") none

/-- A request is answered once: as its handler's stream goes, or by one error frame where the
envelope does not validate.  A task ends without a terminal frame only when the read loop has been
left. -/
structure AnsweredOnce (reading : Bool) (task : ServeTask) (frames : List BridgeFrame) : Prop where
  valid : task.completion.valid = true → Streams task frames
  invalid : task.completion.valid = false → frames = [] ∨ frames = [malformed task.requestId]
  ended : task.phase = .ended → (∃ frame ∈ frames, frame.Terminal) ∨ reading = false

section Frames

variable {requestId : Value} {frames : List BridgeFrame}

theorem framesFor_append (early late : List BridgeFrame) :
    framesFor (early ++ late) requestId =
      framesFor early requestId ++ framesFor late requestId := by
  simp [framesFor]

theorem framesFor_eq_self (own : ∀ frame ∈ frames, frame.requestId? = some requestId) :
    framesFor frames requestId = frames := by
  rw [framesFor, List.filter_eq_self]
  intro frame among
  simpa using own frame among

theorem framesFor_eq_nil (unanswered : ∀ frame ∈ frames, frame.requestId? ≠ some requestId) :
    framesFor frames requestId = [] := by
  rw [framesFor, List.filter_eq_nil_iff]
  intro frame among
  simpa using unanswered frame among

theorem Ends.terminal {event : HandlerEvent} {frame : BridgeFrame}
    (ends : Ends requestId event frame) : frame.Terminal := by
  cases ends <;> trivial

end Frames

/-- `_to_chunk_dict` takes the three ways in that order. -/
theorem Chunk.dumps_iff {chunk : Chunk} {outcome : Except Str Object} :
    chunk.Dumps outcome ↔ toChunkDict chunk = outcome := by
  constructor
  · intro dumps
    cases dumps with
    | modelDump own => simp only [toChunkDict, own]
    | dict missing own => simp only [toChunkDict, missing, own]
    | items missing neither => simp only [toChunkDict, missing, neither]
  · rintro rfl
    cases dump : chunk.modelDump with
    | some outcome =>
        have own : toChunkDict chunk = outcome := by simp only [toChunkDict, dump]
        exact own ▸ .modelDump dump
    | none =>
        cases older : chunk.dict with
        | some outcome =>
            have own : toChunkDict chunk = outcome := by simp only [toChunkDict, dump, older]
            exact own ▸ .dict dump older
        | none =>
            have own : toChunkDict chunk = chunk.items := by simp only [toChunkDict, dump, older]
            exact own ▸ .items dump older

namespace Completion

variable {completion : Completion}

theorem serveOne_requestId (completion : Completion) (event : HandlerEvent) :
    (completion.serveOne event).1.requestId? = some completion.requestId := by
  unfold serveOne
  split
  · cases event with
    | yields chunk =>
        dsimp only
        split <;> rfl
    | returns | refuses refusal | raises text => rfl
  · rfl

/-- A handler's act adds a chunk to the answer, or closes it. -/
theorem serveOne_valid (valid : completion.valid = true) (event : HandlerEvent) :
    (∃ chunk data, event = .yields chunk ∧ chunk.Dumps (.ok data) ∧
        completion.serveOne event = (.chunk completion.requestId data, true)) ∨
      ∃ frame, Ends completion.requestId event frame ∧
        completion.serveOne event = (frame, false) := by
  cases event with
  | yields chunk =>
      cases converted : toChunkDict chunk with
      | ok data =>
          have dumps := Chunk.dumps_iff.mpr converted
          exact .inl ⟨chunk, data, rfl, dumps, by simp [serveOne, valid, converted]⟩
      | error text =>
          have dumps := Chunk.dumps_iff.mpr converted
          exact .inr ⟨_, .undumped dumps, by simp [serveOne, valid, converted]⟩
  | returns => exact .inr ⟨_, .returned, by simp [serveOne, valid]⟩
  | refuses refusal => exact .inr ⟨_, .refused refusal, by simp [serveOne, valid]⟩
  | raises text => exact .inr ⟨_, .raised text, by simp [serveOne, valid]⟩

theorem serveOne_invalid (invalid : completion.valid = false) (event : HandlerEvent) :
    completion.serveOne event = (malformed completion.requestId, false) := by
  simp [serveOne, invalid, malformed]

end Completion

/-- What holds of a task while others run beside it. -/
structure TaskInvariant (reading : Bool) (task : ServeTask) (frames : List BridgeFrame) : Prop where
  answered : AnsweredOnce reading task frames
  unopened : task.completion.valid = false → task.phase ≠ .ended → frames = []
  cancelled : task.cancelRequested = true → reading = false

namespace TaskInvariant

variable {reading : Bool} {task : ServeTask} {frames : List BridgeFrame}

theorem created (completion : Completion) :
    TaskInvariant reading ⟨completion, .created, false, []⟩ [] where
  answered := ⟨fun _ => ⟨[], [], none, rfl, .nil, by simp, rfl⟩, fun _ => .inl rfl, nofun⟩
  unopened _ _ := rfl
  cancelled := nofun

/-- The read loop is left. -/
theorem close (invariant : TaskInvariant reading task frames) :
    TaskInvariant false task frames where
  answered := ⟨invariant.answered.valid, invariant.answered.invalid, fun _ => .inr rfl⟩
  unopened := invariant.unopened
  cancelled _ := rfl

theorem cancel (invariant : TaskInvariant reading task frames) (left : reading = false) :
    TaskInvariant reading { task with cancelRequested := true } frames where
  answered := ⟨invariant.answered.valid, invariant.answered.invalid, fun _ => .inr left⟩
  unopened := invariant.unopened
  cancelled _ := left

/-- The task runs. -/
theorem start (invariant : TaskInvariant reading task frames) (created : task.phase = .created) :
    TaskInvariant reading { task with phase := .running } frames where
  answered := by
    refine ⟨fun valid => ?_, invariant.answered.invalid, nofun⟩
    obtain ⟨chunks, datas, last, acts, converted, closes, same⟩ := invariant.answered.valid valid
    refine ⟨chunks, datas, last, acts, converted, fun pair among => ?_, same⟩
    have ended := (closes pair among).2
    rw [created] at ended
    cases ended
  unopened invalid _ := invariant.unopened invalid (by rw [created]; decide)
  cancelled := invariant.cancelled

/-- A cancellation which was asked for ends the task. -/
theorem endCancelled (invariant : TaskInvariant reading task frames)
    (requested : task.cancelRequested = true) :
    TaskInvariant reading { task with phase := .ended } frames where
  answered := by
    refine ⟨fun valid => ?_, invariant.answered.invalid, fun _ => ?_⟩
    · obtain ⟨chunks, datas, last, acts, converted, closes, same⟩ := invariant.answered.valid valid
      refine ⟨chunks, datas, last, acts, converted, fun pair among => ?_, same⟩
      exact ⟨(closes pair among).1, rfl⟩
    · exact .inr (invariant.cancelled requested)
  unopened _ running := absurd rfl running
  cancelled := invariant.cancelled

/-- The handler acts, and its frame is enqueued. -/
theorem act (invariant : TaskInvariant reading task frames) (running : task.phase = .running)
    (event : HandlerEvent) :
    TaskInvariant reading (task.act event) (frames ++ [(task.completion.serveOne event).1]) := by
  cases valid : task.completion.valid with
  | false =>
      have refused := Completion.serveOne_invalid valid event
      have nothing := invariant.unopened valid (by rw [running]; decide)
      refine ⟨⟨fun impossible => ?_, fun _ => ?_, fun _ => ?_⟩, fun _ open_phase => ?_,
        invariant.cancelled⟩
      · exact absurd (valid.symm.trans impossible) (by decide)
      · rw [nothing, refused]
        exact .inr rfl
      · exact .inl ⟨_, List.mem_append_right _ List.mem_cons_self, by rw [refused]; trivial⟩
      · simp [ServeTask.act, refused] at open_phase
  | true =>
      obtain ⟨chunks, datas, last, acts, converted, closes, same⟩ := invariant.answered.valid valid
      obtain rfl : last = none := by
        by_contra some_last
        obtain ⟨pair, found⟩ := Option.ne_none_iff_exists'.mp some_last
        exact absurd (running.symm.trans (closes pair found).2) (by decide)
      simp only [Option.map_none, Option.toList_none, List.append_nil] at acts same
      have never_invalid : (task.act event).completion.valid ≠ false := by
        simp [ServeTask.act, valid]
      rcases Completion.serveOne_valid valid event with
        ⟨chunk, data, rfl, dumped, served⟩ | ⟨frame, ends, served⟩
      · refine ⟨⟨fun _ => ?_, fun invalid => absurd invalid never_invalid, fun ended => ?_⟩,
          fun invalid => absurd invalid never_invalid, invariant.cancelled⟩
        · refine ⟨chunks ++ [chunk], datas ++ [data], none, ?_, ?_, by simp, ?_⟩
          · simp [ServeTask.act, valid, acts]
          · exact List.rel_append converted (.cons dumped .nil)
          · simp [served, same, ServeTask.requestId, ServeTask.act]
        · simp [ServeTask.act, served] at ended
      · refine ⟨⟨fun _ => ?_, fun invalid => absurd invalid never_invalid, fun _ => .inl ?_⟩,
          fun invalid => absurd invalid never_invalid, invariant.cancelled⟩
        · refine ⟨chunks, datas, some (event, frame), ?_, converted, ?_, ?_⟩
          · simp [ServeTask.act, valid, acts]
          · intro pair among
            obtain rfl := Option.some.inj among
            exact ⟨ends, by simp [ServeTask.act, served]⟩
          · simp [served, same, ServeTask.requestId, ServeTask.act]
        · refine ⟨frame, ?_, ends.terminal⟩
          simp [served]

end TaskInvariant

namespace BridgeConnection

variable {limits : Json.Limits} {validates : Dict → Bool} {offering : Str}
  {connection next : BridgeConnection} {action : Action}

/-- The invariant of a connection whose requests have different ids. -/
structure Invariant (connection : BridgeConnection) : Prop where
  distinct : connection.requestIds.Nodup
  issued : ∀ frame ∈ connection.enqueued, ∀ requestId, frame.requestId? = some requestId →
    requestId ∈ connection.requestIds
  tasks : ∀ task ∈ connection.tasks,
    TaskInvariant connection.reading task (framesFor connection.enqueued task.requestId)

theorem invariant_opened : Invariant opened :=
  ⟨List.nodup_nil, by simp [opened], by simp [opened]⟩

/-- A step which changes one task, but for its request, and enqueues frames for it. -/
theorem Invariant.setTask (invariant : Invariant connection) {index : Nat} {task after : ServeTask}
    (found : connection.tasks[index]? = some task) (same_id : after.requestId = task.requestId)
    {frames : List BridgeFrame}
    (owned : ∀ frame ∈ frames, frame.requestId? = some task.requestId)
    (kept : TaskInvariant connection.reading after
      (framesFor connection.enqueued task.requestId ++ frames)) :
    Invariant { connection with
      tasks := connection.tasks.set index after, enqueued := connection.enqueued ++ frames } := by
  obtain ⟨inside, at_index⟩ := List.getElem?_eq_some_iff.mp found
  have same_ids : (connection.tasks.set index after).map ServeTask.requestId =
      connection.requestIds := by
    have bound : index < connection.requestIds.length := by simpa [requestIds] using inside
    have own : connection.requestIds[index] = task.requestId := by
      simp only [requestIds, List.getElem_map, at_index]
    rw [List.map_set, same_id, ← own]
    exact List.set_getElem_self bound
  refine ⟨?_, ?_, ?_⟩
  · rw [requestIds, same_ids]
    exact invariant.distinct
  · intro frame among requestId answers
    rw [requestIds, same_ids]
    rcases List.mem_append.mp among with old | new
    · exact invariant.issued frame old requestId answers
    · obtain rfl := Option.some.inj ((owned frame new).symm.trans answers)
      exact List.mem_map_of_mem (List.mem_of_getElem? found)
  · intro other other_mem
    obtain ⟨position, other_found⟩ := List.mem_iff_getElem?.mp other_mem
    obtain ⟨rfl, rfl⟩ | ⟨apart, unchanged⟩ := (getElem?_set_eq_some found).mp other_found
    · rw [same_id, framesFor_append, framesFor_eq_self owned]
      exact kept
    · have different : task.requestId ≠ other.requestId := by
        intro same
        have first : connection.requestIds[index]? = some task.requestId := by
          simp [requestIds, found]
        have second : connection.requestIds[position]? = some task.requestId := by
          simp [requestIds, unchanged, same]
        obtain ⟨first_lt, _⟩ := List.getElem?_eq_some_iff.mp first
        exact apart
          ((List.getElem?_inj first_lt invariant.distinct).mp (first.trans second.symm)).symm
      have elsewhere : framesFor frames other.requestId = [] := by
        refine framesFor_eq_nil fun frame among impossible => different ?_
        exact Option.some.inj ((owned frame among).symm.trans impossible)
      rw [framesFor_append, elsewhere, List.append_nil]
      exact invariant.tasks other (List.mem_of_getElem? unchanged)

/-- A step which changes one task, but for its request, and enqueues nothing. -/
theorem Invariant.setIdle (invariant : Invariant connection) {index : Nat} {task after : ServeTask}
    (found : connection.tasks[index]? = some task) (same_id : after.requestId = task.requestId)
    (kept : TaskInvariant connection.reading after
      (framesFor connection.enqueued task.requestId)) :
    Invariant { connection with tasks := connection.tasks.set index after } := by
  have changed := invariant.setTask found same_id (List.forall_mem_nil _)
    (by rwa [List.append_nil])
  rwa [List.append_nil] at changed

/-- The read loop is left. -/
theorem Invariant.close (invariant : Invariant connection) :
    Invariant { connection with reading := false } :=
  ⟨invariant.distinct, invariant.issued, fun task among => (invariant.tasks task among).close⟩

/-- The task of a fresh request is created. -/
theorem Invariant.createTask (invariant : Invariant connection) {completion : Completion}
    (fresh : completion.requestId ∉ connection.requestIds) :
    Invariant { connection with
      tasks := connection.tasks ++ [⟨completion, .created, false, []⟩] } := by
  refine ⟨?_, ?_, ?_⟩
  · rw [requestIds, List.map_append, List.nodup_append]
    refine ⟨invariant.distinct, by simp, ?_⟩
    rintro requestId among other new rfl
    obtain rfl : requestId = completion.requestId := by simpa [ServeTask.requestId] using new
    exact fresh among
  · intro frame among requestId answers
    rw [requestIds, List.map_append]
    exact List.mem_append_left _ (invariant.issued frame among requestId answers)
  · intro task among
    rcases List.mem_append.mp among with old | new
    · exact invariant.tasks task old
    · obtain rfl := List.mem_singleton.mp new
      have unanswered : framesFor connection.enqueued completion.requestId = [] :=
        framesFor_eq_nil fun frame frame_mem answers =>
          fresh (invariant.issued frame frame_mem _ answers)
      rw [ServeTask.requestId, unanswered]
      exact .created completion

/-- A frame which answers no request is enqueued. -/
theorem Invariant.deregister (invariant : Invariant connection) (name : Str) :
    Invariant { connection with enqueued := connection.enqueued ++ [.deleteModel name] } := by
  refine ⟨invariant.distinct, ?_, ?_⟩
  · intro frame among requestId answers
    rcases List.mem_append.mp among with old | new
    · exact invariant.issued frame old requestId answers
    · obtain rfl := List.mem_singleton.mp new
      cases answers
  · intro task among
    have unasked : framesFor [.deleteModel name] task.requestId = [] :=
      framesFor_eq_nil (by simp [BridgeFrame.requestId?])
    rw [framesFor_append, unasked, List.append_nil]
    exact invariant.tasks task among

/-- Every step on fresh requests keeps the invariant. -/
theorem Invariant.step (invariant : Invariant connection)
    (fresh : connection.Fresh limits validates action)
    (taken : (machine limits validates offering).step connection action = some next) :
    Invariant next := by
  cases moves_of_step taken with
  | asked _ read => exact invariant.createTask (fresh _ read)
  | ignored => exact invariant
  | left => exact invariant.close
  | @cancels index task left found =>
      have kept := invariant.tasks task (List.mem_of_getElem? found)
      have same_id : { task with cancelRequested := true }.requestId = task.requestId := rfl
      exact invariant.setIdle found same_id (kept.cancel left)
  | @started index task found created =>
      have kept := (invariant.tasks task (List.mem_of_getElem? found)).start created
      have same_id : { task with phase := .running }.requestId = task.requestId := rfl
      exact invariant.setIdle found same_id kept
  | @served index event task found running =>
      have kept := (invariant.tasks task (List.mem_of_getElem? found)).act running event
      have same_id : (task.act event).requestId = task.requestId := rfl
      refine invariant.setTask found same_id ?_ kept
      intro frame among
      obtain rfl := List.mem_singleton.mp among
      exact task.completion.serveOne_requestId event
  | @ended index task found requested =>
      have kept := (invariant.tasks task (List.mem_of_getElem? found)).endCancelled requested
      have same_id : { task with phase := .ended }.requestId = task.requestId := rfl
      exact invariant.setIdle found same_id kept
  | deregistered => exact invariant.deregister offering

/-- On a connection whose requests have different ids, however its tasks interleave, and whenever it
drops or is stopped, every request is answered once. -/
theorem answeredOnce_of_run {actions : List Action} {final : BridgeConnection}
    (fresh : (machine limits validates offering).Along (Fresh limits validates) opened actions)
    (execution : (machine limits validates offering).run opened actions = some final) :
    ∀ task ∈ final.tasks,
      AnsweredOnce final.reading task (framesFor final.enqueued task.requestId) := by
  have invariant : Invariant final :=
    Machine.run_invariant_along Invariant.step invariant_opened fresh execution
  exact fun task among => (invariant.tasks task among).answered

/-- A request with the id `r`. -/
def completionRequest : Str :=
  "\x7b\"type\": \"completionRequest\", \"requestId\": \"r\"\x7d"

/-- A request with the id `s`. -/
def secondRequest : Str :=
  "\x7b\"type\": \"completionRequest\", \"requestId\": \"s\"\x7d"

/-- A chunk which says the given content. -/
def contentChunk (content : Str) : Chunk :=
  ⟨some (.ok (.record [("content", .str content)])), none, .error "not iterable"⟩

/-- Both are served, a step of one between the steps of the other: the first streams two chunks to
its end, the second is refused behind its first. -/
def interleavedRun : List Action :=
  [.receive completionRequest, .receive secondRequest, .start 1, .start 0,
    .serve 0 (.yields (contentChunk "a")), .serve 1 (.yields (contentChunk "b")),
    .serve 0 (.yields (contentChunk "c")), .serve 1 (.refuses (.str "quota")), .serve 0 .returns]

/-- The connection after that. -/
def interleavedConnection : BridgeConnection :=
  ((machine Json.defaultLimits (fun _ => true) "m").run opened interleavedRun).getD opened

theorem interleavedConnection_answered :
    (∃ first second, interleavedConnection.tasks = [first, second] ∧
      AnsweredOnce interleavedConnection.reading first
        (framesFor interleavedConnection.enqueued first.requestId) ∧
      AnsweredOnce interleavedConnection.reading second
        (framesFor interleavedConnection.enqueued second.requestId)) ∧
    interleavedConnection.enqueued =
      [.chunk (.str "r") (.record [("content", .str "a")]),
        .chunk (.str "s") (.record [("content", .str "b")]),
        .chunk (.str "r") (.record [("content", .str "c")]),
        .error (.str "s") "refused by the LLM provider" (some (.str "quota")),
        .done (.str "r")] := by
  have execution : (machine Json.defaultLimits (fun _ => true) "m").run opened interleavedRun =
      some interleavedConnection := rfl
  have first_step : (machine Json.defaultLimits (fun _ => true) "m").step opened
      (.receive completionRequest) =
        some ⟨true, [⟨⟨.str "r", true⟩, .created, false, []⟩], []⟩ := rfl
  have second_read : readBridgeFrame Json.defaultLimits (fun _ => true) secondRequest =
      .ok (some ⟨.str "s", true⟩) := rfl
  have fresh : (machine Json.defaultLimits (fun _ => true) "m").Along
      (Fresh Json.defaultLimits fun _ => true) opened interleavedRun := by
    refine ⟨by simp [Fresh, requestIds, opened], fun next taken => ⟨?_, fun last _ => ?_⟩⟩
    · obtain rfl := Option.some.inj (first_step.symm.trans taken)
      intro completion read
      obtain rfl := Option.some.inj (Except.ok.inj (second_read.symm.trans read))
      simp [requestIds, ServeTask.requestId]
    · simp [Machine.Along, Fresh]
  have answered := answeredOnce_of_run fresh execution
  obtain ⟨first, second, both⟩ :=
    List.length_eq_two.mp (rfl : interleavedConnection.tasks.length = 2)
  refine ⟨⟨first, second, both, answered first ?_, answered second ?_⟩, rfl⟩
  · simp [both]
  · simp [both]

end BridgeConnection

end Souk.ClientSdk
