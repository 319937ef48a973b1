import Souk.AgentSdk.Client
import Souk.ClientSdk.KyokBridge

/-!
# Frames which cannot be serialized

Only the writer task sees that `json.dumps` refuses a frame, and the exception ends it.  The reader
goes on serving the connection.  The first half of the file settles this for one connection; the
second carries it to the runs of both clients.
-/

namespace Souk.Sdk

variable {Frame : Type*} {serializes : Frame → Bool} {link next final : Link Frame}

/-- The writer task and its socket, alone. -/
def writeLoop (serializes : Frame → Bool) : Machine (Link Frame) WriterStep where
  step := Link.advance serializes

namespace Link

/-- The steps a writer takes by itself on a socket which stays open. -/
def OwnSteps (steps : List WriterStep) : Prop :=
  ∀ step ∈ steps, step = .get ∨ step = .sendReturns

/-- Left to itself the writer empties the queue and lives, having written, in order, exactly the
frames of this connection which can be serialized. -/
def WritesOn (serializes : Frame → Bool) (link : Link Frame) : Prop :=
  ∃ steps final, OwnSteps steps ∧ (writeLoop serializes).run link steps = some final ∧
    final.writer = .getting ∧ final.outbound = [] ∧
    final.sent = link.entered.filter serializes

/-- While the reader serves and the socket accepts sends, the writer lives and writes on. -/
def Speaks (serializes : Frame → Bool) (link : Link Frame) : Prop :=
  link.Serving → link.accepts = true → link.writer.Alive ∧ link.WritesOn serializes

/-- While the reader serves and the socket accepts sends, every frame which entered can be
serialized and is accounted for. -/
def Clean (serializes : Frame → Bool) (link : Link Frame) : Prop :=
  link.Serving → link.accepts = true → link.writer.Alive ∧
    link.sent ++ (link.writer.hand.toList ++ link.outbound) = link.entered ∧
    ∀ frame ∈ link.entered, serializes frame = true

/-! ## The writer by itself -/

theorem run_drain (link : Link Frame) (idle : link.writer = .getting)
    (accepts : link.accepts = true) (waiting : ∀ frame ∈ link.outbound, serializes frame = true) :
    ∃ steps, OwnSteps steps ∧ (writeLoop serializes).run link steps =
      some { link with outbound := [], sent := link.sent ++ link.outbound } := by
  obtain ⟨outbound, writer, accepting, sent, entered⟩ := link
  dsimp only at idle accepts waiting
  subst idle accepts
  induction outbound generalizing sent with
  | nil => exact ⟨[], by simp [OwnSteps], by simp⟩
  | cons frame rest induction =>
      obtain ⟨steps, own, drained⟩ := induction (sent ++ [frame])
        fun other member => waiting other (List.mem_cons_of_mem frame member)
      refine ⟨.get :: .sendReturns :: steps, ?_, ?_⟩
      · intro step member
        rcases List.mem_cons.mp member with rfl | member
        · exact Or.inl rfl
        rcases List.mem_cons.mp member with rfl | member
        · exact Or.inr rfl
        · exact own step member
      · have encodes := waiting frame List.mem_cons_self
        have taken : (writeLoop serializes).step ⟨frame :: rest, .getting, true, sent, entered⟩
            .get = some ⟨rest, .sending frame, true, sent, entered⟩ := by
          simp [writeLoop, advance, encodes]
        have returned : (writeLoop serializes).step ⟨rest, .sending frame, true, sent, entered⟩
            .sendReturns = some ⟨rest, .getting, true, sent ++ [frame], entered⟩ := rfl
        rw [Machine.run_cons, taken, Option.bind_some, Machine.run_cons, returned,
          Option.bind_some, drained, List.append_assoc]
        rfl

theorem Clean.speaks (clean : link.Clean serializes) : link.Speaks serializes := by
  intro serving accepts
  obtain ⟨alive, ledger, encodes⟩ := clean serving accepts
  refine ⟨alive, ?_⟩
  have whole : link.entered.filter serializes = link.entered := List.filter_eq_self.mpr encodes
  have waiting : ∀ frame ∈ link.outbound, serializes frame = true := by
    intro frame member
    refine encodes frame ?_
    rw [← ledger]
    simp [member]
  obtain ⟨outbound, writer, accepting, sent, entered⟩ := link
  dsimp only at *
  subst accepts
  cases writer with
  | absent => exact absurd rfl serving
  | failed => exact alive.elim
  | getting =>
      obtain ⟨steps, own, drained⟩ := run_drain
        (⟨outbound, .getting, true, sent, entered⟩ : Link Frame) rfl rfl waiting
      exact ⟨steps, _, own, drained, rfl, rfl, by rw [whole, ← ledger]; rfl⟩
  | sending frame =>
      obtain ⟨steps, own, drained⟩ := run_drain
        (⟨outbound, .getting, true, sent ++ [frame], entered⟩ : Link Frame) rfl rfl waiting
      refine ⟨.sendReturns :: steps, _, ?_, drained, rfl, rfl, ?_⟩
      · intro step member
        rcases List.mem_cons.mp member with rfl | member
        · exact Or.inr rfl
        · exact own step member
      · rw [whole, ← ledger]
        simp [Writer.hand]

/-- A frame which cannot be serialized still waits, or has ended the writer. -/
def Blocked (serializes : Frame → Bool) (link : Link Frame) : Prop :=
  link.writer = .failed ∨ ∃ frame ∈ link.outbound, serializes frame = false

theorem Blocked.advance {step : WriterStep} (blocked : link.Blocked serializes)
    (taken : link.advance serializes step = some next) : next.Blocked serializes := by
  obtain ⟨lost, advances, -⟩ := advance_cases taken
  cases advances with
  | takes getting waiting encodes =>
      obtain failed | ⟨bad, member, refused⟩ := blocked
      · rw [getting] at failed
        cases failed
      rw [waiting] at member
      obtain rfl | later := List.mem_cons.mp member
      · rw [encodes] at refused
        cases refused
      · exact Or.inr ⟨bad, later, refused⟩
  | refuses => exact Or.inl rfl
  | returns sending accepts =>
      obtain failed | waits := blocked
      · rw [sending] at failed
        cases failed
      · exact Or.inr waits
  | raises => exact Or.inl rfl
  | closes serving => exact blocked

theorem Blocked.not_writesOn (blocked : link.Blocked serializes) : ¬link.WritesOn serializes := by
  rintro ⟨steps, final, -, execution, idle, empty, -⟩
  have stays : final.Blocked serializes :=
    (writeLoop serializes).run_invariant Blocked.advance blocked execution
  rcases stays with failed | ⟨frame, member, _⟩
  · rw [idle] at failed
    cases failed
  · rw [empty] at member
    cases member

/-! ## What each operation keeps -/

theorem clean_closed : (closed : Link Frame).Clean serializes := fun serving =>
  absurd rfl serving

theorem Clean.put {frame : Frame} (clean : link.Clean serializes)
    (encodes : link.Serving → link.accepts = true → serializes frame = true) :
    (link.put frame).Clean serializes := by
  intro serving accepts
  obtain ⟨alive, ledger, before⟩ := clean serving accepts
  refine ⟨alive, ?_, ?_⟩
  · simp only [Link.put, ← ledger, List.append_assoc]
  · intro other member
    rcases List.mem_append.mp member with earlier | added
    · exact before other earlier
    · rw [List.mem_singleton.mp added]
      exact encodes serving accepts

theorem not_speaks_put {frame : Frame} (serving : link.Serving) (accepts : link.accepts = true)
    (refused : serializes frame = false) : ¬(link.put frame).Speaks serializes := by
  intro speaks
  have blocked : (link.put frame).Blocked serializes :=
    Or.inr ⟨frame, List.mem_append_right _ (List.mem_singleton_self frame), refused⟩
  exact blocked.not_writesOn (speaks serving accepts).2

theorem clean_start (waiting : ∀ frame ∈ link.outbound, serializes frame = true) :
    link.start.Clean serializes := fun _ _ => ⟨trivial, rfl, waiting⟩

theorem not_speaks_start {frame : Frame} (waits : frame ∈ link.outbound)
    (refused : serializes frame = false) : ¬link.start.Speaks serializes := by
  intro speaks
  have blocked : link.start.Blocked serializes := Or.inr ⟨frame, waits, refused⟩
  have serving : link.start.Serving := by simp [Serving, start]
  exact blocked.not_writesOn (speaks serving rfl).2

theorem Clean.advance {step : WriterStep} (clean : link.Clean serializes)
    (taken : link.advance serializes step = some next) : next.Clean serializes := by
  obtain ⟨lost, advances, -⟩ := advance_cases taken
  cases advances with
  | takes getting waiting _ =>
      intro _ accepted
      obtain ⟨_, ledger, encodes⟩ := clean (by simp [Serving, getting]) accepted
      rw [getting, waiting] at ledger
      exact ⟨trivial, ledger, encodes⟩
  | @refuses frame _ getting waiting refused =>
      intro _ accepted
      obtain ⟨_, ledger, encodes⟩ := clean (by simp [Serving, getting]) accepted
      have entered : frame ∈ link.entered := by simp [← ledger, waiting]
      exact absurd (encodes frame entered) (by simp [refused])
  | returns sending accepts =>
      intro _ accepted
      obtain ⟨_, ledger, encodes⟩ := clean (by simp [Serving, sending]) accepted
      refine ⟨trivial, ?_, encodes⟩
      rw [← ledger, sending]
      simp [Writer.hand]
  | raises | closes =>
      intro _ accepted
      cases accepted

/-- Neither a frame enqueued on a connection in service nor one which waits for a new connection
is one `json.dumps` refuses. -/
def Admits (serializes : Frame → Bool) (link : Link Frame) (puts : Option Frame)
    (opens : Option (Link Frame)) : Prop :=
  (∀ frame ∈ puts, link.Serving → link.accepts = true → serializes frame = true) ∧
    ∀ opened ∈ opens, ∀ frame ∈ opened.outbound, serializes frame = true

theorem admits_of_idle {puts : Option Frame} {opens : Option (Link Frame)}
    (idle : (∀ frame ∈ puts, ¬link.Serving) ∧ opens = none) :
    Admits serializes link puts opens := by
  obtain ⟨idle, rfl⟩ := idle
  exact ⟨fun frame member serving => absurd serving (idle frame member), nofun⟩

theorem Clean.touches {puts : Option Frame} {opens : Option (Link Frame)}
    (clean : link.Clean serializes) (admits : Admits serializes link puts opens)
    (touches : link.Touches serializes puts opens next) : next.Clean serializes := by
  cases touches with
  | put frame => exact clean.put (admits.1 frame rfl)
  | rest idle => exact clean
  | start waiting => exact clean_start (admits.2 waiting rfl)
  | stop absent => exact fun serving => absurd absent serving
  | advance taken => exact clean.advance taken

theorem Touches.not_speaks {puts : Option Frame} {opens : Option (Link Frame)}
    (touches : link.Touches serializes puts opens next)
    (intrudes : ¬Admits serializes link puts opens) : ¬next.Speaks serializes := by
  cases touches with
  | put frame =>
      simp only [Admits, Option.mem_def, Option.some.injEq, forall_eq', reduceCtorEq,
        IsEmpty.forall_iff, implies_true, and_true, not_forall, Bool.not_eq_true] at intrudes
      obtain ⟨serving, accepts, refused⟩ := intrudes
      exact not_speaks_put serving accepts refused
  | rest idle => exact absurd (admits_of_idle ⟨idle, rfl⟩) intrudes
  | start waiting =>
      simp only [Admits, Option.mem_def, Option.some.injEq, forall_eq', reduceCtorEq,
        IsEmpty.forall_iff, implies_true, true_and, not_forall, Bool.not_eq_true] at intrudes
      obtain ⟨frame, waits, refused⟩ := intrudes
      exact not_speaks_start waits refused
  | stop absent => exact absurd ⟨nofun, nofun⟩ intrudes
  | advance taken => exact absurd ⟨nofun, nofun⟩ intrudes

end Link

/-! ## The clients -/

open Link in
/-- A client whose every step treats its link in one of the ways above keeps its writer speaking
through a run exactly when every step of the run admits only frames which can be serialized. -/
theorem throughout_speaks_iff {State Action : Type*} {machine : Machine State Action}
    {linkOf : State → Link Frame} {puts : State → Action → Option Frame}
    {opens : State → Action → Option (Link Frame)}
    (touches : ∀ {state next : State} {action : Action}, machine.step state action = some next →
      (linkOf state).Touches serializes (puts state action) (opens state action) (linkOf next))
    (idle : ∀ {state : State} {action : Action}, machine.step state action = none →
      (∀ frame ∈ puts state action, ¬(linkOf state).Serving) ∧ opens state action = none)
    {state : State} (clean : (linkOf state).Clean serializes) (actions : List Action) :
    machine.Throughout (fun state => (linkOf state).Speaks serializes) state actions ↔
      machine.Along (fun state action =>
        Admits serializes (linkOf state) (puts state action) (opens state action)) state actions := by
  have kept : ∀ {state next : State} {action : Action}, (linkOf state).Clean serializes →
      Admits serializes (linkOf state) (puts state action) (opens state action) →
        machine.step state action = some next → (linkOf next).Clean serializes :=
    fun clean admits taken => clean.touches admits (touches taken)
  have violates : ∀ {state next : State} {action : Action}, (linkOf state).Clean serializes →
      ¬Admits serializes (linkOf state) (puts state action) (opens state action) →
        machine.step state action = some next → ¬(linkOf next).Speaks serializes :=
    fun _ intrudes taken => (touches taken).not_speaks intrudes
  exact Machine.throughout_iff_along kept violates (fun _ refused => admits_of_idle (idle refused))
    (fun clean => clean.speaks) clean

open AgentSdk ClientSdk Souk.Python in
/-- Throughout a run of either client the writer of a connection in service lives and goes on to
write every frame which can be serialized, exactly when no frame which `json.dumps` refuses is
enqueued on a connection in service or waits for a new one. -/
theorem connection_speaks_iff_frames_serialize (limits : Json.Limits) (agents : List Str)
    (validates : Dict → Bool) (offering : Str) :
    (∀ actions, (SoukProvider.machine limits agents).Throughout
        (fun provider => provider.link.Speaks (OutboundFrame.serializes limits))
        SoukProvider.fresh actions ↔
      (SoukProvider.machine limits agents).Along
        (fun provider action => Link.Admits (OutboundFrame.serializes limits) provider.link
          (SoukProvider.puts limits agents action) (provider.opens action))
        SoukProvider.fresh actions) ∧
    ∀ actions, (KyokBridge.machine limits validates offering).Throughout
        (fun bridge => bridge.link.Speaks (BridgeFrame.serializes limits))
        KyokBridge.fresh actions ↔
      (KyokBridge.machine limits validates offering).Along
        (fun bridge action => Link.Admits (BridgeFrame.serializes limits) bridge.link
          (KyokBridge.puts offering bridge action) (bridge.opens action))
        KyokBridge.fresh actions := by
  constructor
  · intro actions
    have touches : ∀ {provider next : SoukProvider} {action : SoukProvider.Action},
        (SoukProvider.machine limits agents).step provider action = some next →
          provider.link.Touches (OutboundFrame.serializes limits)
            (SoukProvider.puts limits agents action) (provider.opens action) next.link :=
      SoukProvider.step_touches
    exact throughout_speaks_iff touches SoukProvider.refused_idle Link.clean_closed actions
  · intro actions
    have touches : ∀ {bridge next : KyokBridge} {action : KyokBridge.Action},
        (KyokBridge.machine limits validates offering).step bridge action = some next →
          bridge.link.Touches (BridgeFrame.serializes limits)
            (KyokBridge.puts offering bridge action) (bridge.opens action) next.link :=
      KyokBridge.step_touches
    have idle : ∀ {bridge : KyokBridge} {action : KyokBridge.Action},
        (KyokBridge.machine limits validates offering).step bridge action = none →
          (∀ frame ∈ KyokBridge.puts offering bridge action, ¬bridge.link.Serving) ∧
            bridge.opens action = none := by
      intro bridge action refused
      obtain ⟨silent, unopened⟩ := KyokBridge.refused_idle refused
      refine ⟨fun frame member => ?_, unopened⟩
      rw [silent] at member
      cases member
    exact throughout_speaks_iff touches idle Link.clean_closed actions

/-! A plain event which holds an object the encoder does not know. -/

section PlainEvent

open AgentSdk Souk.Python

/-- An agent yields a plain event with a timestamp object in it, and its run finishes. -/
def plainEvent : List SoukProvider.Action :=
  [.connect, .reportEvent (str "r1") (.plain (.record [("timestamp", .other)])),
    .finishRun (str "r1"), .writer .get]

def plainEventFrame : OutboundFrame := .event (str "r1") (.record [("timestamp", .other)])

def afterPlainEvent : SoukProvider where
  link := ⟨[.finish (str "r1")], .failed, true, [], [plainEventFrame, .finish (str "r1")]⟩
  earlier := []
  enqueued := [plainEventFrame, .finish (str "r1")]

theorem run_plainEvent :
    (SoukProvider.machine Json.defaultLimits []).run .fresh plainEvent = some afterPlainEvent := rfl

/-- The reader serves, the socket accepts, the writer has ended and the finish waits behind it. -/
theorem plain_event_ends_writer :
    ∃ actions final, (SoukProvider.machine Json.defaultLimits []).run .fresh actions = some final ∧
      final.link.Serving ∧ final.link.accepts = true ∧ ¬final.link.writer.Alive ∧
      final.link.outbound = [.finish (str "r1")] ∧
      ¬final.link.Speaks (OutboundFrame.serializes Json.defaultLimits) := by
  refine ⟨plainEvent, afterPlainEvent, run_plainEvent, nofun, rfl, id, rfl, fun speaks => ?_⟩
  exact (speaks nofun rfl).1

end PlainEvent

end Souk.Sdk
