import Souk.Library.Conveyor
import Souk.Library.Machine

/-!
# The write loop of the two clients

Both clients keep the frames which wait to leave in a queue and give the socket to one writer task,
whose body is `ws.send(json.dumps(await outbound.get()))` in an endless loop.  The task has two
awaits.  Between them it holds a frame which is on neither side: the frame has left the queue when
`json.dumps` runs, and nothing puts it back.
-/

namespace Souk.Sdk

variable {Frame : Type*}

/-- Where the writer task stands. -/
inductive Writer (Frame : Type*) where
  /-- No writer: there is no connection, or its writer has been cancelled. -/
  | absent
  /-- In `outbound.get()`. -/
  | getting
  /-- In `ws.send`, with the frame in hand. -/
  | sending (frame : Frame)
  /-- Ended by an exception. -/
  | failed

namespace Writer

/-- The frame in the writer's hand. -/
def hand : Writer Frame → Option Frame
  | sending frame => some frame
  | _ => none

/-- The task exists and has not ended. -/
def Alive : Writer Frame → Prop
  | getting | sending _ => True
  | absent | failed => False

end Writer

/-- A connection as its writer sees it. -/
structure Link (Frame : Type*) where
  outbound : List Frame
  writer : Writer Frame
  /-- The socket has not closed: `ws.send` returns rather than raises. -/
  accepts : Bool
  /-- History: the frames whose `ws.send` returned on this connection. -/
  sent : List Frame
  /-- History: the frames which waited when the writer started, and those put since. -/
  entered : List Frame

/-- What can happen to the writer and its socket. -/
inductive WriterStep where
  | get
  | sendReturns
  | sendRaises
  | socketCloses
  deriving DecidableEq

namespace Link

/-- An empty queue without a connection. -/
def closed : Link Frame := ⟨[], .absent, false, [], []⟩

/-- `outbound.put_nowait(frame)` -/
def put (link : Link Frame) (frame : Frame) : Link Frame :=
  { link with outbound := link.outbound ++ [frame], entered := link.entered ++ [frame] }

/-- `asyncio.create_task(self._write_loop(ws))` on a socket just opened. -/
def start (link : Link Frame) : Link Frame where
  outbound := link.outbound
  writer := .getting
  accepts := true
  sent := []
  entered := link.outbound

/-- `writer.cancel()`, awaited: cancellation reaches the writer at whichever await it is in. -/
def stop (link : Link Frame) : Link Frame := { link with writer := .absent, sent := [] }

/-- One step of the writer task or of its socket. -/
def advance (serializes : Frame → Bool) (link : Link Frame) : WriterStep → Option (Link Frame)
  | .get =>
      match link.writer, link.outbound with
      | .getting, frame :: rest =>
          some { link with
            outbound := rest
            writer := if serializes frame then .sending frame else .failed }
      | _, _ => none
  | .sendReturns =>
      match link.writer, link.accepts with
      | .sending frame, true =>
          some { link with writer := .getting, sent := link.sent ++ [frame] }
      | _, _ => none
  | .sendRaises =>
      match link.writer with
      | .sending _ => some { link with writer := .failed, accepts := false }
      | _ => none
  | .socketCloses =>
      match link.writer with
      | .absent => none
      | _ => some { link with accepts := false }

/-- The frame which a step of the writer loses. -/
def loses (serializes : Frame → Bool) (link : Link Frame) : WriterStep → Option Frame
  | .get =>
      match link.writer, link.outbound with
      | .getting, frame :: _ => if serializes frame then none else some frame
      | _, _ => none
  | .sendRaises => link.writer.hand
  | _ => none

/-- The reader serves this connection: it runs from the start of the writer to its cancellation. -/
def Serving (link : Link Frame) : Prop := link.writer ≠ .absent

/-- The steps of the writer and its socket one by one, each with the frame it loses. -/
inductive Advances (serializes : Frame → Bool) (link : Link Frame) :
    WriterStep → Option Frame → Link Frame → Prop
  | takes {frame : Frame} {rest : List Frame} (getting : link.writer = .getting)
      (waiting : link.outbound = frame :: rest) (encodes : serializes frame = true) :
      Advances serializes link .get none { link with outbound := rest, writer := .sending frame }
  | refuses {frame : Frame} {rest : List Frame} (getting : link.writer = .getting)
      (waiting : link.outbound = frame :: rest) (refused : serializes frame = false) :
      Advances serializes link .get (some frame) { link with outbound := rest, writer := .failed }
  | returns {frame : Frame} (sending : link.writer = .sending frame)
      (accepts : link.accepts = true) :
      Advances serializes link .sendReturns none
        { link with writer := .getting, sent := link.sent ++ [frame] }
  | raises {frame : Frame} (sending : link.writer = .sending frame) :
      Advances serializes link .sendRaises (some frame)
        { link with writer := .failed, accepts := false }
  | closes (serving : link.Serving) :
      Advances serializes link .socketCloses none { link with accepts := false }

theorem advance_cases {serializes : Frame → Bool} {link next : Link Frame} {step : WriterStep}
    (taken : link.advance serializes step = some next) :
    ∃ lost, link.Advances serializes step lost next ∧ link.loses serializes step = lost := by
  cases step with
  | get =>
      simp only [advance] at taken
      split at taken
      · rename_i frame rest getting waiting
        obtain rfl := Option.some.inj taken
        have lost : link.loses serializes .get = if serializes frame then none else some frame := by
          simp only [loses, getting, waiting]
        cases encodes : serializes frame with
        | true => exact ⟨none, .takes getting waiting encodes, by rw [lost, if_pos encodes]⟩
        | false => exact ⟨some frame, .refuses getting waiting encodes, by rw [lost, encodes]; rfl⟩
      · cases taken
  | sendReturns =>
      simp only [advance] at taken
      split at taken
      · rename_i frame sending accepts
        obtain rfl := Option.some.inj taken
        exact ⟨none, .returns sending accepts, rfl⟩
      · cases taken
  | sendRaises =>
      simp only [advance] at taken
      split at taken
      · rename_i frame sending
        obtain rfl := Option.some.inj taken
        exact ⟨some frame, .raises sending, by rw [loses, sending, Writer.hand]⟩
      · cases taken
  | socketCloses =>
      simp only [advance] at taken
      split at taken
      · cases taken
      · rename_i serving
        obtain rfl := Option.some.inj taken
        exact ⟨none, .closes serving, rfl⟩

/-- A step of the writer does not end the connection. -/
theorem advance_serving {serializes : Frame → Bool} {link next : Link Frame} {step : WriterStep}
    (taken : link.advance serializes step = some next) : next.Serving := by
  obtain ⟨lost, advances, -⟩ := advance_cases taken
  cases advances with
  | takes | refuses | returns | raises => simp [Serving]
  | closes serving => exact serving

/-- What one step of a client does to its link: `puts` is the frame it enqueues, and `opens` the
link on which it starts a writer. -/
inductive Touches (serializes : Frame → Bool) (link : Link Frame) :
    Option Frame → Option (Link Frame) → Link Frame → Prop
  | put (frame : Frame) : Touches serializes link (some frame) none (link.put frame)
  | rest {puts : Option Frame} (idle : ∀ frame ∈ puts, ¬link.Serving) :
      Touches serializes link puts none link
  | start (waiting : Link Frame) : Touches serializes link none (some waiting) waiting.start
  | stop {stopped : Link Frame} (absent : stopped.writer = .absent) :
      Touches serializes link none none stopped
  | advance {step : WriterStep} {next : Link Frame}
      (taken : link.advance serializes step = some next) : Touches serializes link none none next

/-! ## The queue as a conveyor -/

/-- A link and its queue's conveyor, where `earlier` was carried on connections now closed. -/
structure Follows (earlier : List Frame) (conveyor : Conveyor Frame) (link : Link Frame) :
    Prop where
  waiting : conveyor.waiting = link.outbound
  hand : conveyor.hand = link.writer.hand
  carried : conveyor.carried = earlier ++ link.sent

variable {earlier : List Frame} {conveyor : Conveyor Frame} {link next : Link Frame}

theorem Follows.put (follows : Follows earlier conveyor link) (frame : Frame) :
    Follows earlier (conveyor.put frame) (link.put frame) where
  waiting := congrArg (· ++ [frame]) follows.waiting
  hand := follows.hand
  carried := follows.carried

theorem Follows.start (follows : Follows earlier conveyor link) (absent : link.writer = .absent) :
    Follows (earlier ++ link.sent) conveyor link.start where
  waiting := follows.waiting
  hand := by rw [follows.hand, absent]; rfl
  carried := by rw [follows.carried]; simp [Link.start]

/-- The end of a connection drops what its writer holds. -/
theorem Follows.stop (follows : Follows earlier conveyor link) :
    ∃ after, Follows (earlier ++ link.sent) after link.stop ∧ after.offered = conveyor.offered ∧
      after.dropped = conveyor.dropped ++ link.writer.hand.toList := by
  have held := follows.hand
  cases inHand : link.writer.hand with
  | none =>
      rw [inHand] at held
      refine ⟨conveyor, ⟨follows.waiting, held, ?_⟩, rfl, by simp⟩
      rw [follows.carried]
      simp [Link.stop]
  | some frame =>
      rw [inHand] at held
      refine ⟨conveyor.release held false, ⟨follows.waiting, rfl, ?_⟩, rfl, by simp⟩
      rw [Conveyor.carried_release_false, follows.carried]
      simp [Link.stop]

/-- A step of the writer is a step of the conveyor, which drops what the step loses. -/
theorem Follows.advance {serializes : Frame → Bool} {step : WriterStep}
    (follows : Follows earlier conveyor link) (taken : link.advance serializes step = some next) :
    ∃ after, Follows earlier after next ∧ after.offered = conveyor.offered ∧
      after.dropped = conveyor.dropped ++ (link.loses serializes step).toList := by
  obtain ⟨lost, advances, loses⟩ := advance_cases taken
  rw [loses]
  cases advances with
  | takes getting waiting encodes =>
      have free : conveyor.hand = none := by rw [follows.hand, getting]; rfl
      have first := follows.waiting.trans waiting
      refine ⟨conveyor.take free first, ⟨rfl, rfl, follows.carried⟩, rfl, ?_⟩
      simp [Conveyor.take, Conveyor.dropped]
  | @refuses frame rest getting waiting refused =>
      have free : conveyor.hand = none := by rw [follows.hand, getting]; rfl
      have first := follows.waiting.trans waiting
      have inHand : (conveyor.take free first).hand = some frame := rfl
      refine ⟨(conveyor.take free first).release inHand false, ⟨rfl, rfl, ?_⟩, rfl, ?_⟩
      · rw [Conveyor.carried_release_false]
        exact follows.carried
      · rw [Conveyor.dropped_release_false]
        rfl
  | @returns frame sending accepts =>
      have inHand : conveyor.hand = some frame := by rw [follows.hand, sending]; rfl
      refine ⟨conveyor.release inHand true, ⟨follows.waiting, rfl, ?_⟩, rfl, ?_⟩
      · rw [Conveyor.carried_release_true, follows.carried, List.append_assoc]
      · simp
  | @raises frame sending =>
      have inHand : conveyor.hand = some frame := by rw [follows.hand, sending]; rfl
      refine ⟨conveyor.release inHand false, ⟨follows.waiting, rfl, ?_⟩, rfl, ?_⟩
      · rw [Conveyor.carried_release_false, follows.carried]
      · simp
  | closes serving =>
      exact ⟨conveyor, ⟨follows.waiting, follows.hand, follows.carried⟩, rfl, by simp⟩

end Link
end Souk.Sdk
