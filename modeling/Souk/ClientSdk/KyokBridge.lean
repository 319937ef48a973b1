import Souk.Python.JsonEncoder
import Souk.Sdk.WriteLoop

/-!
# `KyokBridge` between its handshakes

Every connection of the bridge has a queue of its own.  One task per completion streams the
handler's chunks onto it; the queue and the tasks end with the connection.
-/

namespace Souk.ClientSdk

open Souk.Python
open Souk.Sdk

/-- A frame on a connection's `outbound`. -/
inductive BridgeFrame where
  | chunk (requestId : Value) (data : Object)
  | done (requestId : Value)
  | error (requestId : Value) (message : Str) (refusal : Option Object)
  | deleteModel (name : Str)

namespace BridgeFrame

/-- The dictionary put on the queue. -/
def toObject : BridgeFrame → Object
  | chunk requestId data =>
      .record [("type", .str (str "chunk")), ("requestId", .ofValue requestId), ("data", data)]
  | done requestId => .record [("type", .str (str "done")), ("requestId", .ofValue requestId)]
  | error requestId message none =>
      .record [("type", .str (str "error")), ("requestId", .ofValue requestId),
        ("message", .str message)]
  | error requestId message (some refusal) =>
      .record [("type", .str (str "error")), ("requestId", .ofValue requestId),
        ("message", .str message), ("refusal", refusal)]
  | deleteModel name => .record [("type", .str (str "deleteModel")), ("name", .str name)]

/-- Whether `json.dumps` takes the frame. -/
def serializes (limits : Json.Limits) (frame : BridgeFrame) : Bool :=
  Json.serializes limits frame.toObject

end BridgeFrame

/-- A chunk as a handler yields it: what each way to serialize it returns, or the text of what it
raises. -/
structure Chunk where
  /-- `chunk.model_dump(mode="json")`, where the attribute exists. -/
  modelDump : Option (Except Str Object)
  /-- `chunk.dict()`, where the attribute exists. -/
  dict : Option (Except Str Object)
  /-- `dict(chunk)` -/
  items : Except Str Object

/-- `_to_chunk_dict` -/
def toChunkDict (chunk : Chunk) : Except Str Object :=
  match chunk.modelDump, chunk.dict with
  | some dumped, _ => dumped
  | none, some dumped => dumped
  | none, none => chunk.items

/-- What the handler of a completion does next. -/
inductive HandlerEvent where
  | yields (chunk : Chunk)
  | returns
  /-- It raises `CompletionRefused`. -/
  | refuses (refusal : Object)
  /-- It raises another exception, of this text. -/
  | raises (text : Str)

/-- A running `_serve_one`. -/
structure Completion where
  requestId : Value
  /-- `DeliveredCompletion.model_validate` accepts the frame. -/
  valid : Bool

/-- One step of `_serve_one`: the frame it puts on the queue, and whether the task goes on. -/
def Completion.serveOne (completion : Completion) (event : HandlerEvent) : BridgeFrame × Bool :=
  if completion.valid then
    match event with
    | .yields chunk =>
        match toChunkDict chunk with
        | .ok data => (.chunk completion.requestId data, true)
        | .error text => (.error completion.requestId text none, false)
    | .returns => (.done completion.requestId, false)
    | .refuses refusal =>
        (.error completion.requestId (str "refused by the LLM provider") (some refusal), false)
    | .raises text => (.error completion.requestId text none, false)
  else (.error completion.requestId (str "malformed completionRequest") none, false)

/-- One round of the read loop of `_serve_connection`: the completion it starts, if any. -/
def readBridgeFrame (limits : Json.Limits) (validates : Dict → Bool) (raw : Str) :
    Except Raised (Option Completion) := do
  let frame ← Json.loads limits raw
  let kind ← frame.getAttr (str "type")
  if kind.asStr? = some (str "completionRequest") then
    let requestId ← frame.item (str "requestId")
    let payload := (frame.asDict?.getD []).without [str "type", str "requestId"]
    return some ⟨requestId, validates payload⟩
  else return none

/-- The bridge while it is connected, and between connections. -/
structure KyokBridge where
  link : Link BridgeFrame
  inFlight : List Completion

namespace KyokBridge

/-- A bridge without a connection. -/
def fresh : KyokBridge := ⟨.closed, []⟩

/-- `outbound.put_nowait(frame)` -/
def put (bridge : KyokBridge) (frame : BridgeFrame) : KyokBridge :=
  { bridge with link := bridge.link.put frame }

/-- What can happen to a bridge. -/
inductive Action where
  /-- A connection has been opened, has proved its peer and has registered. -/
  | connect
  /-- The read loop receives a message. -/
  | receive (raw : Str)
  /-- A running completion takes a step. -/
  | serve (task : Nat) (event : HandlerEvent)
  | deregister
  | writer (step : WriterStep)
  /-- The read loop is left: the socket closed, or the task was cancelled. -/
  | disconnect

/-- The frame an action puts on the queue. -/
def puts (offering : Str) (bridge : KyokBridge) : Action → Option BridgeFrame
  | .serve task event => bridge.inFlight[task]?.map fun completion => (completion.serveOne event).1
  | .deregister => some (.deleteModel offering)
  | _ => none

/-- The link on which an action starts a writer. -/
def opens (bridge : KyokBridge) : Action → Option (Link BridgeFrame)
  | .connect =>
      match bridge.link.writer with
      | .absent => some .closed
      | _ => none
  | _ => none

/-- One step of the bridge which serves the given offering. -/
def step (limits : Json.Limits) (validates : Dict → Bool) (offering : Str) (bridge : KyokBridge) :
    Action → Option KyokBridge
  | .connect =>
      match bridge.link.writer with
      | .absent => some ⟨Link.closed.start, []⟩
      | _ => none
  | .receive raw =>
      match bridge.link.writer with
      | .absent => none
      | _ =>
          match readBridgeFrame limits validates raw with
          | .ok (some completion) =>
              some { bridge with inFlight := bridge.inFlight ++ [completion] }
          | .ok none => some bridge
          | .error _ => some fresh
  | .serve task event =>
      match bridge.inFlight[task]? with
      | none => none
      | some completion =>
          let (frame, goesOn) := completion.serveOne event
          some ⟨bridge.link.put frame,
            if goesOn then bridge.inFlight else bridge.inFlight.eraseIdx task⟩
  | .deregister =>
      match bridge.link.writer with
      | .absent => some bridge
      | _ => some (bridge.put (.deleteModel offering))
  | .writer step =>
      (bridge.link.advance (BridgeFrame.serializes limits) step).map fun link =>
        { bridge with link }
  | .disconnect =>
      match bridge.link.writer with
      | .absent => none
      | _ => some fresh

/-- The bridge as a machine. -/
def machine (limits : Json.Limits) (validates : Dict → Bool) (offering : Str) :
    Machine KyokBridge Action where
  step := step limits validates offering

/-- The read loop receives only while a connection is being served. -/
theorem step_receive {limits : Json.Limits} {validates : Dict → Bool} {offering : Str}
    {bridge : KyokBridge} {raw : Str} (serving : bridge.link.Serving) :
    step limits validates offering bridge (.receive raw) =
      match readBridgeFrame limits validates raw with
      | .ok (some completion) => some { bridge with inFlight := bridge.inFlight ++ [completion] }
      | .ok none => some bridge
      | .error _ => some fresh := by
  cases writer : bridge.link.writer with
  | absent => exact absurd writer serving
  | getting | sending | failed => simp only [step, writer]

/-- Both ends of a read loop need one. -/
theorem serving_of_step {limits : Json.Limits} {validates : Dict → Bool} {offering : Str}
    {bridge next : KyokBridge} {action : Action}
    (reads : action = .disconnect ∨ ∃ raw, action = .receive raw)
    (taken : step limits validates offering bridge action = some next) : bridge.link.Serving := by
  intro absent
  obtain rfl | ⟨raw, rfl⟩ := reads <;> simp only [step, absent] at taken <;> cases taken

/-- Everything a step can do to the link. -/
theorem step_touches {limits : Json.Limits} {validates : Dict → Bool} {offering : Str}
    {bridge next : KyokBridge} {action : Action}
    (taken : step limits validates offering bridge action = some next) :
    bridge.link.Touches (BridgeFrame.serializes limits) (puts offering bridge action)
      (opens bridge action) next.link := by
  cases action with
  | connect =>
      cases writer : bridge.link.writer with
      | absent =>
          simp only [step, writer, Option.some.injEq] at taken
          subst taken
          simp only [opens, writer]
          exact .start .closed
      | getting | sending | failed => simp only [step, writer] at taken; cases taken
  | receive raw =>
      rw [step_receive (serving_of_step (Or.inr ⟨raw, rfl⟩) taken)] at taken
      cases read : readBridgeFrame limits validates raw with
      | ok started =>
          rw [read] at taken
          cases started with
          | none =>
              obtain rfl := Option.some.inj taken
              exact .rest (by simp [puts])
          | some completion =>
              obtain rfl := Option.some.inj taken
              exact .rest (by simp [puts])
      | error error =>
          rw [read] at taken
          obtain rfl := Option.some.inj taken
          exact .stop rfl
  | serve task event =>
      cases found : bridge.inFlight[task]? with
      | none => simp only [step, found] at taken; cases taken
      | some completion =>
          simp only [step, found, Option.some.injEq] at taken
          subst taken
          simp only [puts, found, Option.map_some]
          exact .put _
  | deregister =>
      cases writer : bridge.link.writer with
      | absent =>
          simp only [step, writer, Option.some.injEq] at taken
          subst taken
          exact .rest fun frame _ serving => serving writer
      | getting | sending | failed =>
          simp only [step, writer, Option.some.injEq] at taken
          subst taken
          exact .put _
  | writer writerStep =>
      obtain ⟨link, advanced, rfl⟩ := Option.map_eq_some_iff.mp taken
      exact .advance advanced
  | disconnect =>
      have serving := serving_of_step (Or.inl rfl) taken
      have left : next = fresh := by
        cases writer : bridge.link.writer with
        | absent => exact absurd writer serving
        | getting | sending | failed =>
            simp only [step, writer, Option.some.injEq] at taken
            exact taken.symm
      subst left
      exact .stop rfl

/-- An action which is refused enqueues nothing on a connection being served and opens none. -/
theorem refused_idle {limits : Json.Limits} {validates : Dict → Bool} {offering : Str}
    {bridge : KyokBridge} {action : Action}
    (refused : step limits validates offering bridge action = none) :
    puts offering bridge action = none ∧ opens bridge action = none := by
  cases action with
  | connect =>
      refine ⟨rfl, ?_⟩
      cases writer : bridge.link.writer with
      | absent => simp only [step, writer] at refused; cases refused
      | getting | sending | failed => simp only [opens, writer]
  | serve task event =>
      cases found : bridge.inFlight[task]? with
      | none => exact ⟨by simp only [puts, found, Option.map_none], rfl⟩
      | some completion => simp only [step, found] at refused; cases refused
  | deregister =>
      cases writer : bridge.link.writer <;> simp only [step, writer] at refused <;> cases refused
  | receive | writer | disconnect => exact ⟨rfl, rfl⟩

end KyokBridge
end Souk.ClientSdk
