import Souk.Server.ProviderLink

/-!
# The opening frames of a provider link

A provider reads the welcome, sends its roster and reads one more frame, which it expects to be the
answer.  Whether a run can stand there depends on which of two tasks enqueues first: core, which may
deliver as soon as a name is live, or the read loop, which enqueues `registered` once the awaited
call has returned.
-/

namespace Souk.Server.WsProvider

open Souk.Python

/-- A run comes before the first `registered`. -/
def earlyRun : List OutboundFrame → Bool
  | [] => false
  | .run _ :: _ => true
  | .registered _ :: _ => false
  | _ :: frames => earlyRun frames

/-- A `registered` is among the frames. -/
def registeredYet : List OutboundFrame → Bool
  | [] => false
  | .registered _ :: _ => true
  | _ :: frames => registeredYet frames

theorem earlyRun_append (early late : List OutboundFrame) :
    earlyRun (early ++ late) = (earlyRun early || (!registeredYet early && earlyRun late)) := by
  induction early with
  | nil => simp [earlyRun, registeredYet]
  | cons frame early induction =>
      cases frame <;> simp [earlyRun, registeredYet, induction]

theorem earlyRun_of_isPrefix {early frames : List OutboundFrame} (isPrefix : early <+: frames)
    (ordered : earlyRun frames = false) : earlyRun early = false := by
  obtain ⟨late, rfl⟩ := isPrefix
  rw [earlyRun_append, Bool.or_eq_false_iff] at ordered
  exact ordered.1

theorem earlyRun_of_no_run {frames : List OutboundFrame} (runless : ∀ run, .run run ∉ frames) :
    earlyRun frames = false := by
  induction frames with
  | nil => rfl
  | cons frame frames induction =>
      have rest := induction fun run member => runless run (List.mem_cons_of_mem frame member)
      cases frame with
      | run run => exact absurd List.mem_cons_self (runless run)
      | registered names => rfl
      | welcome | cancel | queryResult | deleted | error | close => exact rest

/-- What the peer reads starts with the welcome, holds no run in front of the first `registered`,
and so gives `_register` no run to read. -/
structure InOrder (frames : List OutboundFrame) : Prop where
  welcome : ∀ frame ∈ frames.head?, ∃ key answer, frame = .welcome key answer
  registered : earlyRun frames = false
  answer : ∀ run, frames[1]? ≠ some (.run run)

theorem inOrder_of {frames : List OutboundFrame}
    (welcome : ∀ frame ∈ frames.head?, ∃ key answer, frame = .welcome key answer)
    (registered : earlyRun frames = false) : InOrder frames where
  welcome := welcome
  registered := registered
  answer := by
    intro run second
    match frames, second with
    | first :: second :: rest, found =>
        obtain ⟨key, answer, rfl⟩ := welcome first rfl
        obtain rfl : second = .run run := by simpa using found
        cases registered

theorem InOrder.of_isPrefix {early frames : List OutboundFrame} (ordered : InOrder frames)
    (isPrefix : early <+: frames) : InOrder early := by
  refine inOrder_of (fun frame first => ?_) (earlyRun_of_isPrefix isPrefix ordered.registered)
  obtain ⟨late, rfl⟩ := isPrefix
  exact ordered.welcome frame (by rw [List.head?_append, Option.mem_def.mp first]; rfl)

theorem InOrder.append {early late : List OutboundFrame} (ordered : InOrder early)
    (opened : early ≠ []) (inFront : registeredYet early = true ∨ earlyRun late = false) :
    InOrder (early ++ late) := by
  refine inOrder_of (fun frame first => ?_) ?_
  · rw [List.head?_append_of_ne_nil early opened] at first
    exact ordered.welcome frame first
  · rw [earlyRun_append, ordered.registered]
    rcases inFront with registered | runless
    · simp [registered]
    · simp [runless]

namespace ProviderLink

variable {contract : Contract} {limits : Json.Limits} {link next : ProviderLink} {action : Action}

/-- Core hands a run over only when a `registered` has been queued. -/
def DeliversRegistered (link : ProviderLink) (action : Action) : Prop :=
  ∀ run, action = .deliver run → run.agentName ∈ link.live → link.writing = true →
    registeredYet link.frames = true

/-- What the peer reads is in order, and the welcome is there while the writer lives. -/
structure Ordered (link : ProviderLink) : Prop where
  inOrder : InOrder link.frames
  opened : link.writing = true → link.frames ≠ []

theorem ordered_opened (publicKey funduqPublicKey answer : Str) (record : Record) :
    Ordered (opened publicKey funduqPublicKey answer record) where
  inOrder := by
    refine inOrder_of (fun frame first => ?_) rfl
    obtain rfl := Option.mem_some_iff.mp first
    exact ⟨funduqPublicKey, answer, rfl⟩
  opened := nofun

theorem Ordered.extends {added : List OutboundFrame} (ordered : Ordered link)
    (extends_ : Extends link next added)
    (inFront : link.writing = true → registeredYet link.frames = true ∨ earlyRun added = false) :
    Ordered next := by
  cases writing : next.writing with
  | false => exact ⟨ordered.inOrder.of_isPrefix (extends_.cut writing), by simp [writing]⟩
  | true =>
      obtain ⟨wrote, frames⟩ := extends_.kept writing
      have opened := ordered.opened wrote
      refine ⟨?_, fun _ => ?_⟩
      · rw [frames]
        exact ordered.inOrder.append opened (inFront wrote)
      · rw [frames]
        exact List.append_ne_nil_of_left_ne_nil opened added

theorem Ordered.step (ordered : Ordered link) (registered : DeliversRegistered link action)
    (taken : step contract limits link action = some next) : Ordered next := by
  obtain ⟨added, extended, adds⟩ := (step_effect taken).frames
  refine ordered.extends extended fun wrote => ?_
  by_cases delivers : ∃ run, action = .deliver run
  · obtain ⟨run, rfl⟩ := delivers
    have live : run.agentName ∈ link.live := by
      by_contra offline
      rw [ProviderLink.step, if_neg offline] at taken
      cases taken
    exact Or.inl (registered run rfl live wrote)
  · refine Or.inr (earlyRun_of_no_run fun run member => ?_)
    cases adds _ member with
    | run => exact delivers ⟨run, rfl⟩
    | reply reply => cases reply
    | refusal refusal => cases refusal

theorem not_inOrder_of_early_delivery (early : ¬DeliversRegistered link action)
    (taken : step contract limits link action = some next) : ¬InOrder next.frames := by
  simp only [DeliversRegistered, not_forall, Bool.not_eq_true] at early
  obtain ⟨run, rfl, live, writing, unregistered⟩ := early
  rw [ProviderLink.step, if_pos live] at taken
  obtain rfl := Option.some.inj taken
  have extended : Extends link { link with socket := link.socket.deliver run } [.run run] :=
    extends_of_outbound rfl rfl rfl
  intro ordered
  have queued := ordered.registered
  rw [(extended.kept writing).2, earlyRun_append, unregistered] at queued
  simp [earlyRun] at queued

/-- Throughout a run of a link the peer reads the welcome first and no run in front of the first
`registered`, exactly when core hands over no run before that `registered` has been queued. -/
theorem opening_in_order_iff (contract : Contract) (limits : Json.Limits)
    (publicKey funduqPublicKey answer : Str) (record : Record) (actions : List Action) :
    (machine contract limits).Throughout (fun link => InOrder link.frames)
        (opened publicKey funduqPublicKey answer record) actions ↔
      (machine contract limits).Along DeliversRegistered
        (opened publicKey funduqPublicKey answer record) actions := by
  have idle : ∀ {link : ProviderLink} {action : Action}, Ordered link →
      (machine contract limits).step link action = none → DeliversRegistered link action := by
    rintro link action _ refused run rfl live
    have delivered : step contract limits link (.deliver run) ≠ none := by
      rw [step, if_pos live]
      simp
    exact absurd refused delivered
  exact Machine.throughout_iff_along Ordered.step
    (fun _ early taken => not_inOrder_of_early_delivery early taken) idle Ordered.inOrder
    (ordered_opened publicKey funduqPublicKey answer record)

/-! A queued run is delivered while the first roster is still being registered. -/

def queuedRun : DeliveredRun := ⟨str "r1", str "t1", str "a", []⟩

def linkOpened : ProviderLink := opened (str "k") (str "f") (str "s") emptyRecord

def earlyDelivery : List Action :=
  [.receive (.text registerFrame) plainCore, .goLive (str "a"), .deliver queuedRun,
    .answer plainCore, .write, .write, .write]

def afterEarlyDelivery : ProviderLink :=
  ((machine plainContract Json.defaultLimits).run linkOpened earlyDelivery).getD linkOpened

theorem run_earlyDelivery :
    (machine plainContract Json.defaultLimits).run linkOpened earlyDelivery =
      some afterEarlyDelivery := rfl

/-- The provider reads the run where it expects the answer to its roster. -/
theorem run_precedes_registered :
    ∃ actions link, (machine plainContract Json.defaultLimits).run linkOpened actions = some link ∧
      link.wire = [.welcome (str "f") (str "s"), .run queuedRun, .registered [str "a"]] ∧
      ¬InOrder link.frames := by
  refine ⟨earlyDelivery, afterEarlyDelivery, run_earlyDelivery, rfl, fun ordered => ?_⟩
  exact ordered.answer queuedRun rfl

end ProviderLink
end Souk.Server.WsProvider
