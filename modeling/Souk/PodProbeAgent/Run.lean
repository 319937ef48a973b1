import Souk.Go.Unmarshal
import Souk.Library.Machine

/-!
# The runs of a pod probe

The read loop of an attached probe and the goroutines it starts, one for each run it accepts.  They
share the socket, on which a frame is written whole, and the table of cancel functions, which has
one entry for each run id.  What the brain answers, and when, is left open.
-/

namespace Souk.PodProbeAgent

open Souk.Python
open Souk.Go (unmarshal)

/-- `runFrame`, without the input from which the brain takes its question. -/
structure RunFrame where
  runId : Str
  threadId : Str
  agentName : Str

/-- What the read loop makes of a message. -/
inductive Inbound where
  | unparseable
  | run (run : RunFrame)
  /-- A run frame with a field of the wrong type. -/
  | badRun (runId : Str)
  | cancel (runId : Str)
  /-- `queryResult`, `error`, or a type it does not know. -/
  | ignored

/-- The events of a run. -/
inductive RunEvent where
  | runStarted (threadId runId : Str)
  | textMessageStart (messageId : Str)
  | textMessageContent (messageId delta : Str)
  | textMessageEnd (messageId : Str)
  | runFinished (threadId runId : Str)

/-- The frames a probe writes once it is attached. -/
inductive ProbeFrame where
  | ack (runId : Str)
  /-- An `ack` with `accepted` false and a reason. -/
  | refusal (runId : Str)
  | event (runId : Str) (event : RunEvent)
  | finish (runId : Str)
  /-- `unparseable frame` -/
  | error

/-- The `runId` of a frame. -/
def ProbeFrame.runId? : ProbeFrame → Option Str
  | ack runId | refusal runId | event runId _ | finish runId => some runId
  | error => none

/-- The type and the run id of a message. -/
def head (value : Value) : Option (Str × Str) := do
  let type ← unmarshal [str "type"] value
  let runId ← unmarshal [str "runId"] value
  return (type, runId)

/-- A run frame; its input is kept raw, whatever it is. -/
def runFrame (value : Value) : Option RunFrame := do
  let runId ← unmarshal [str "runId"] value
  let threadId ← unmarshal [str "threadId"] value
  let agentName ← unmarshal [str "agentName"] value
  return { runId, threadId, agentName }

/-- The two `json.Unmarshal` of an iteration; `none` is a text which is not JSON. -/
def inbound (message : Option Value) : Inbound :=
  match message with
  | none => .unparseable
  | some value =>
      match head value with
      | none => .unparseable
      | some (type, runId) =>
          if type = str "run" then
            match runFrame value with
            | none => .badRun runId
            | some run => .run run
          else if type = str "cancel" then .cancel runId
          else .ignored

/-- Where the goroutine of a run stands. -/
inductive RunPoint where
  | starting
  /-- In `answer`. -/
  | answering
  /-- With these frames left to write. -/
  | writing (left : List ProbeFrame)
  /-- Its context cancelled, in front of the deferred `cancels.remove`. -/
  | removing
  | ended

/-- The goroutine of a run, with its context. -/
structure Goroutine where
  run : RunFrame
  point : RunPoint
  cancelled : Bool

/-- The goroutine has not ended. -/
def Goroutine.live (goroutine : Goroutine) : Bool :=
  match goroutine.point with
  | .ended => false
  | _ => true

/-- `cancelSet`: the goroutine whose context the entry of a run id cancels. -/
abbrev CancelSet := List (Str × Nat)

namespace CancelSet

/-- `add`, in place of the entry there is. -/
def add (cancels : CancelSet) (runId : Str) (goroutine : Nat) : CancelSet :=
  (runId, goroutine) :: cancels

/-- `remove` -/
def remove (cancels : CancelSet) (runId : Str) : CancelSet :=
  cancels.filter fun entry => entry.1 ≠ runId

@[simp]
theorem lookup_add_self (cancels : CancelSet) (runId : Str) (goroutine : Nat) :
    (cancels.add runId goroutine).lookup runId = some goroutine := by
  simp [add]

theorem lookup_add_of_ne (cancels : CancelSet) {runId other : Str} (goroutine : Nat)
    (apart : other ≠ runId) :
    (cancels.add runId goroutine).lookup other = cancels.lookup other := by
  have unequal : (other == runId) = false := beq_eq_false_iff_ne.mpr apart
  rw [add, List.lookup_cons, unequal]

theorem lookup_remove_of_ne (cancels : CancelSet) {runId other : Str} (apart : other ≠ runId) :
    (cancels.remove runId).lookup other = cancels.lookup other := by
  induction cancels with
  | nil => rfl
  | cons entry cancels induction =>
      obtain ⟨key, goroutine⟩ := entry
      rw [remove] at induction
      by_cases removed : key = runId
      · have unequal : (other == key) = false :=
          beq_eq_false_iff_ne.mpr fun same => apart (same.trans removed)
        rw [remove, List.filter_cons_of_neg (by simpa using removed), List.lookup_cons, unequal]
        exact induction
      · rw [remove, List.filter_cons_of_pos (by simpa using removed), List.lookup_cons,
          List.lookup_cons, induction]

end CancelSet

/-- Where the read loop stands. -/
inductive ProbeLoop where
  | reading
  /-- The `ack` of the run is written, its goroutine not started. -/
  | acked (run : RunFrame)
  /-- `serve` has returned this error. -/
  | returned (error : Str)

/-- An attached probe. -/
structure Probe where
  loop : ProbeLoop
  goroutines : List Goroutine
  cancels : CancelSet
  /-- The frames written, in order. -/
  wire : List ProbeFrame

/-- What can happen to a probe. -/
inductive ProbeAction where
  /-- The read loop reads a message, and writes its answer to it if there is one. -/
  | receive (message : Option Value)
  /-- The read loop reads a run frame and cannot write its `ack`. -/
  | ackFails (message : Option Value)
  /-- The rest of `startRun`: the context, its entry in the table, the goroutine. -/
  | start
  | readFails (error : Str)
  /-- A goroutine writes its next frame, or runs one of its deferred calls. -/
  | advance (goroutine : Nat)
  /-- The brain answers a goroutine, or fails. -/
  | answer (goroutine : Nat) (outcome : Except Str Str)

/-- The id of the message in which a run is answered. -/
def messageId (run : RunFrame) : Str := run.runId ++ str "-msg"

/-- The text of a run's message. -/
def answerText : Except Str Str → Str
  | .ok text => text
  | .error error => str "probe could not complete: " ++ error

/-- `emit({"type": "RUN_STARTED", …})` -/
def startedFrame (run : RunFrame) : ProbeFrame :=
  .event run.runId (.runStarted run.threadId run.runId)

/-- What a goroutine writes once the brain has answered. -/
def answerFrames (run : RunFrame) (text : Str) : List ProbeFrame :=
  [.event run.runId (.textMessageStart (messageId run)),
    .event run.runId (.textMessageContent (messageId run) text),
    .event run.runId (.textMessageEnd (messageId run)),
    .event run.runId (.runFinished run.threadId run.runId),
    .finish run.runId]

namespace Probe

/-- An attached probe in front of its first read. -/
def attached : Probe := ⟨.reading, [], [], []⟩

/-- Write a frame. -/
def write (probe : Probe) (frame : ProbeFrame) : Probe :=
  { probe with wire := probe.wire ++ [frame] }

/-- Replace a goroutine. -/
def setGoroutine (probe : Probe) (index : Nat) (goroutine : Goroutine) : Probe :=
  { probe with goroutines := probe.goroutines.set index goroutine }

/-- `cancels.cancel(runId)` -/
def cancel (probe : Probe) (runId : Str) : Probe :=
  match probe.cancels.lookup runId with
  | none => probe
  | some index =>
      match probe.goroutines[index]? with
      | none => probe
      | some goroutine => probe.setGoroutine index { goroutine with cancelled := true }

/-- One step of a goroutine which is not in `answer`. -/
def advance (probe : Probe) (index : Nat) (goroutine : Goroutine) : Option Probe :=
  match goroutine.point with
  | .starting =>
      some ((probe.write (startedFrame goroutine.run)).setGoroutine index
        { goroutine with point := .answering })
  | .writing (frame :: left) =>
      some ((probe.write frame).setGoroutine index { goroutine with point := .writing left })
  | .writing [] =>
      -- `cancel` was deferred last, so it runs first.
      some (probe.setGoroutine index { goroutine with point := .removing, cancelled := true })
  | .removing =>
      some { probe.setGoroutine index { goroutine with point := .ended } with
        cancels := probe.cancels.remove goroutine.run.runId }
  | .answering | .ended => none

/-- One iteration of the read loop, up to the goroutine it may start. -/
def receive (probe : Probe) : Inbound → Probe
  | .unparseable => probe.write .error
  | .run run => { probe.write (.ack run.runId) with loop := .acked run }
  | .badRun runId => probe.write (.refusal runId)
  | .cancel runId => probe.cancel runId
  | .ignored => probe

/-- One step of a probe. -/
def step (probe : Probe) : ProbeAction → Option Probe
  | .receive message =>
      match probe.loop with
      | .reading => some (probe.receive (inbound message))
      | _ => none
  | .ackFails message =>
      match probe.loop, inbound message with
      | .reading, .run _ => some probe
      | _, _ => none
  | .start =>
      match probe.loop with
      | .acked run => some { probe with
          loop := .reading
          cancels := probe.cancels.add run.runId probe.goroutines.length
          goroutines := probe.goroutines ++ [⟨run, .starting, false⟩] }
      | _ => none
  | .readFails error =>
      match probe.loop with
      | .reading => some { probe with loop := .returned error }
      | _ => none
  | .advance index => probe.goroutines[index]?.bind (probe.advance index)
  | .answer index outcome =>
      probe.goroutines[index]?.bind fun goroutine =>
        match goroutine.point with
        | .answering => some (probe.setGoroutine index
            { goroutine with
              point := .writing (answerFrames goroutine.run (answerText outcome)) })
        | _ => none

/-- A probe as a machine. -/
def machine : Machine Probe ProbeAction where
  step := step

/-! ## Everything a step can do -/

/-- The next frame of a goroutine, and where it stands behind it. -/
inductive Writes (goroutine : Goroutine) : ProbeFrame → RunPoint → Prop
  | starts (starting : goroutine.point = .starting) :
      Writes goroutine (startedFrame goroutine.run) .answering
  | next {frame : ProbeFrame} {left : List ProbeFrame}
      (writing : goroutine.point = .writing (frame :: left)) :
      Writes goroutine frame (.writing left)

/-- The steps of a goroutine. -/
inductive Advances (probe : Probe) (index : Nat) (goroutine : Goroutine) : Probe → Prop
  | writes {frame : ProbeFrame} {point : RunPoint} (writes : Writes goroutine frame point) :
      Advances probe index goroutine
        ((probe.write frame).setGoroutine index { goroutine with point })
  | answered (text : Str) (answering : goroutine.point = .answering) :
      Advances probe index goroutine (probe.setGoroutine index
        { goroutine with point := .writing (answerFrames goroutine.run text) })
  | finished (finished : goroutine.point = .writing []) :
      Advances probe index goroutine (probe.setGoroutine index
        { goroutine with point := .removing, cancelled := true })
  | removed (removing : goroutine.point = .removing) :
      Advances probe index goroutine
        { probe.setGoroutine index { goroutine with point := .ended } with
          cancels := probe.cancels.remove goroutine.run.runId }

/-- What the read loop answers without starting a run. -/
inductive Replies : Inbound → ProbeFrame → Prop
  | unparseable : Replies .unparseable .error
  | badRun (runId : Str) : Replies (.badRun runId) (.refusal runId)

/-- The steps of a probe. -/
inductive Moves (probe : Probe) : ProbeAction → Probe → Prop
  | replied {message : Option Value} {frame : ProbeFrame}
      (replies : Replies (inbound message) frame) :
      Moves probe (.receive message) (probe.write frame)
  | acked {message : Option Value} {run : RunFrame} (reading : probe.loop = .reading)
      (offered : inbound message = .run run) :
      Moves probe (.receive message) { probe.write (.ack run.runId) with loop := .acked run }
  | cancelled {message : Option Value} {runId : Str} (cancelled : inbound message = .cancel runId) :
      Moves probe (.receive message) (probe.cancel runId)
  | idle {action : ProbeAction} : Moves probe action probe
  | started {run : RunFrame} (acked : probe.loop = .acked run) :
      Moves probe .start { probe with
        loop := .reading
        cancels := probe.cancels.add run.runId probe.goroutines.length
        goroutines := probe.goroutines ++ [⟨run, .starting, false⟩] }
  | returned (error : Str) (reading : probe.loop = .reading) :
      Moves probe (.readFails error) { probe with loop := .returned error }
  | advanced {action : ProbeAction} {next : Probe} (starts : action ≠ .start) {index : Nat}
      {goroutine : Goroutine} (found : probe.goroutines[index]? = some goroutine)
      (advances : Advances probe index goroutine next) : Moves probe action next

section Moves

variable {probe next : Probe} {action : ProbeAction}

theorem advances_of_advance {index : Nat} {goroutine : Goroutine}
    (taken : probe.advance index goroutine = some next) : Advances probe index goroutine next := by
  unfold advance at taken
  split at taken
  · rename_i starting
    obtain rfl := Option.some.inj taken
    exact .writes (.starts starting)
  · rename_i writing
    obtain rfl := Option.some.inj taken
    exact .writes (.next writing)
  · rename_i finished
    obtain rfl := Option.some.inj taken
    exact .finished finished
  · rename_i removing
    obtain rfl := Option.some.inj taken
    exact .removed removing
  · cases taken
  · cases taken

theorem moves_receive {message : Option Value} (reading : probe.loop = .reading) :
    Moves probe (.receive message) (probe.receive (inbound message)) := by
  cases parsed : inbound message with
  | unparseable => exact .replied (parsed ▸ .unparseable)
  | run run => exact .acked reading parsed
  | badRun runId => exact .replied (parsed ▸ .badRun runId)
  | cancel runId => exact .cancelled parsed
  | ignored => exact .idle

/-- The one case analysis of a step, which every fact about the probe uses. -/
theorem moves_of_step (taken : step probe action = some next) : Moves probe action next := by
  cases action with
  | receive message =>
      simp only [step] at taken
      split at taken
      · rename_i reading
        obtain rfl := Option.some.inj taken
        exact moves_receive reading
      · cases taken
  | ackFails message =>
      simp only [step] at taken
      split at taken
      · obtain rfl := Option.some.inj taken
        exact .idle
      · cases taken
  | start =>
      simp only [step] at taken
      split at taken
      · rename_i acked
        obtain rfl := Option.some.inj taken
        exact .started acked
      · cases taken
  | readFails error =>
      simp only [step] at taken
      split at taken
      · rename_i reading
        obtain rfl := Option.some.inj taken
        exact .returned error reading
      · cases taken
  | advance index =>
      obtain ⟨goroutine, found, advanced⟩ := Option.bind_eq_some_iff.mp taken
      exact .advanced nofun found (advances_of_advance advanced)
  | answer index outcome =>
      obtain ⟨goroutine, found, answered⟩ := Option.bind_eq_some_iff.mp taken
      split at answered
      · rename_i answering
        obtain rfl := Option.some.inj answered
        exact .advanced nofun found (.answered _ answering)
      · cases answered

end Moves

end Probe
end Souk.PodProbeAgent
