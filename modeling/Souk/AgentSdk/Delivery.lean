import Souk.AgentSdk.Client

/-!
# Delivery over reconnections

A provider follows one conveyor through all its connections.  The frames its sockets carried, the
frame in its writer's hand and the frames which wait are therefore, at every moment, the frames put
on its queue in order, less those its writers lost.
-/

namespace Souk.AgentSdk.SoukProvider

open Souk.Python
open Souk.Sdk

variable {limits : Json.Limits} {agents : List Str} {provider next final : SoukProvider}
  {conveyor : Conveyor OutboundFrame} {action : Action}

/-- A provider and the conveyor of its queue. -/
structure Follows (conveyor : Conveyor OutboundFrame) (provider : SoukProvider) : Prop where
  link : Link.Follows provider.earlier.flatten conveyor provider.link
  offered : conveyor.offered = provider.enqueued
  between : provider.link.writer = .absent → provider.link.sent = []

theorem follows_fresh : Follows .empty fresh where
  link := ⟨rfl, rfl, rfl⟩
  offered := rfl
  between := fun _ => rfl

theorem Follows.put (follows : Follows conveyor provider) (frame : OutboundFrame) :
    Follows (conveyor.put frame) (provider.put frame) where
  link := follows.link.put frame
  offered := congrArg (· ++ [frame]) follows.offered
  between := follows.between

theorem Follows.start (follows : Follows conveyor provider)
    (absent : provider.link.writer = .absent) :
    Follows conveyor { provider with link := provider.link.start } where
  link := by
    have started := follows.link.start absent
    rwa [follows.between absent, List.append_nil] at started
  offered := follows.offered
  between := fun _ => rfl

theorem Follows.leave (follows : Follows conveyor provider) :
    ∃ after, Follows after provider.leave ∧
      after.dropped = conveyor.dropped ++ provider.link.writer.hand.toList := by
  obtain ⟨after, stopped, offered, dropped⟩ := follows.link.stop
  refine ⟨after, ⟨?_, offered.trans follows.offered, fun _ => rfl⟩, dropped⟩
  rwa [SoukProvider.leave, List.flatten_append, List.flatten_singleton]

/-- A step of the provider keeps it on its conveyor, which drops what the step loses. -/
theorem Follows.step (follows : Follows conveyor provider)
    (taken : step limits agents provider action = some next) :
    ∃ after, Follows after next ∧
      after.dropped = conveyor.dropped ++ (loses limits agents provider action).toList := by
  cases step_moves taken with
  | @enqueues frame _ _ kept =>
      exact ⟨conveyor.put frame, follows.put frame, by simp [kept, Conveyor.put, Conveyor.dropped]⟩
  | rests _ _ kept => exact ⟨conveyor, follows, by simp [kept]⟩
  | connects absent _ _ kept => exact ⟨conveyor, follows.start absent, by simp [kept]⟩
  | leaves _ _ lost =>
      rw [lost]
      exact follows.leave
  | writes advanced _ _ lost =>
      rw [lost]
      obtain ⟨after, advances, offered, dropped⟩ := follows.link.advance advanced
      refine ⟨after, ⟨advances, offered.trans follows.offered, ?_⟩, dropped⟩
      intro absent
      exact absurd absent (Link.advance_serving advanced)

/-! ## What reaches the peer -/

/-- Every frame of the provider which has not been lost, in the order in which the peer sees
them: those carried by each connection in turn, the one being sent, and those which wait. -/
def accounted (provider : SoukProvider) : List OutboundFrame :=
  provider.delivered ++ provider.link.writer.hand.toList ++ provider.link.outbound

/-- Queries apart, what was delivered and what is left are what was enqueued. -/
def NothingLost (provider : SoukProvider) : Prop :=
  provider.accounted.filter OutboundFrame.outlivesConnection =
    provider.enqueued.filter OutboundFrame.outlivesConnection

/-- An action takes no frame out of the writer's hand unsent, queries apart. -/
def KeepsHeldFrame (limits : Json.Limits) (agents : List Str) (provider : SoukProvider)
    (action : Action) : Prop :=
  ∀ frame ∈ loses limits agents provider action, frame.outlivesConnection = false

theorem Follows.accounted_eq (follows : Follows conveyor provider) :
    conveyor.accounted = provider.accounted := by
  rw [Conveyor.accounted, follows.link.carried, follows.link.hand, follows.link.waiting,
    accounted, delivered, List.append_assoc (_ ++ _)]

theorem Follows.nothingLost_iff (follows : Follows conveyor provider) :
    provider.NothingLost ↔ ∀ frame ∈ conveyor.dropped, frame.outlivesConnection = false := by
  rw [NothingLost, ← follows.accounted_eq, ← follows.offered]
  exact conveyor.accounted_eq_iff OutboundFrame.outlivesConnection

theorem Follows.run {actions : List Action} (follows : Follows conveyor provider)
    (execution : (machine limits agents).run provider actions = some final) :
    ∃ after, Follows after final := by
  have preserved : ∀ {state next : SoukProvider} {action : Action},
      (∃ after, Follows after state) → (machine limits agents).step state action = some next →
        ∃ after, Follows after next := by
    rintro state next action ⟨after, follows⟩ taken
    obtain ⟨later, follows, _⟩ := follows.step taken
    exact ⟨later, follows⟩
  exact Machine.run_invariant preserved ⟨conveyor, follows⟩ execution

/-- Nothing is ever duplicated or reordered, queries included. -/
theorem accounted_sublist {actions : List Action}
    (execution : (machine limits agents).run fresh actions = some final) :
    final.accounted.Sublist final.enqueued := by
  obtain ⟨conveyor, follows⟩ := follows_fresh.run execution
  rw [← follows.accounted_eq, ← follows.offered]
  exact conveyor.accounted_sublist

/-- The provider's conveyor has dropped queries only. -/
def DroppedQueriesOnly (provider : SoukProvider) : Prop :=
  ∃ conveyor, Follows conveyor provider ∧
    ∀ frame ∈ conveyor.dropped, frame.outlivesConnection = false

/-- The provider's conveyor has dropped a frame which should have outlived its connection. -/
def DroppedMore (provider : SoukProvider) : Prop :=
  ∃ conveyor, Follows conveyor provider ∧
    ∃ frame ∈ conveyor.dropped, frame.outlivesConnection = true

theorem DroppedQueriesOnly.kept_step (kept : DroppedQueriesOnly provider)
    (keeps : KeepsHeldFrame limits agents provider action)
    (taken : step limits agents provider action = some next) : DroppedQueriesOnly next := by
  obtain ⟨conveyor, follows, dropped⟩ := kept
  obtain ⟨after, follows, grown⟩ := follows.step taken
  refine ⟨after, follows, fun frame member => ?_⟩
  rw [grown, List.mem_append, Option.mem_toList] at member
  exact member.elim (dropped frame) (keeps frame)

theorem DroppedQueriesOnly.losing_step (kept : DroppedQueriesOnly provider)
    (loses : ¬KeepsHeldFrame limits agents provider action)
    (taken : step limits agents provider action = some next) : DroppedMore next := by
  obtain ⟨conveyor, follows, _⟩ := kept
  obtain ⟨after, follows, grown⟩ := follows.step taken
  simp only [KeepsHeldFrame, not_forall, Bool.not_eq_false] at loses
  obtain ⟨frame, lost, outlives⟩ := loses
  refine ⟨after, follows, frame, ?_, outlives⟩
  rw [grown, List.mem_append, Option.mem_toList]
  exact Or.inr lost

theorem DroppedMore.kept_step (lost : DroppedMore provider)
    (taken : step limits agents provider action = some next) : DroppedMore next := by
  obtain ⟨conveyor, follows, frame, lost, outlives⟩ := lost
  obtain ⟨after, follows, grown⟩ := follows.step taken
  exact ⟨after, follows, frame, grown ▸ List.mem_append_left _ lost, outlives⟩

theorem DroppedMore.not_nothingLost (lost : DroppedMore provider) : ¬provider.NothingLost := by
  obtain ⟨conveyor, follows, frame, lost, outlives⟩ := lost
  intro kept
  have query := follows.nothingLost_iff.mp kept frame lost
  rw [outlives] at query
  cases query

theorem DroppedQueriesOnly.nothingLost (kept : DroppedQueriesOnly provider) :
    provider.NothingLost := by
  obtain ⟨conveyor, follows, dropped⟩ := kept
  exact follows.nothingLost_iff.mpr dropped

/-- In every run the frames which sockets carried, the one being sent and those which wait are,
queries apart, the frames enqueued, precisely when no step takes such a frame out of the writer's
hand unsent. -/
theorem nothing_lost_iff_held_frames_kept {limits : Json.Limits} {agents : List Str}
    {final : SoukProvider} {actions : List Action}
    (execution : (machine limits agents).run fresh actions = some final) :
    final.NothingLost ↔
      (machine limits agents).Along (KeepsHeldFrame limits agents) fresh actions := by
  have recorded : final.NothingLost ↔ DroppedQueriesOnly final := by
    obtain ⟨conveyor, follows⟩ := follows_fresh.run execution
    exact ⟨fun kept => ⟨conveyor, follows, follows.nothingLost_iff.mp kept⟩,
      DroppedQueriesOnly.nothingLost⟩
  have start : DroppedQueriesOnly fresh :=
    ⟨.empty, follows_fresh, by simp [Conveyor.dropped, Conveyor.empty]⟩
  rw [recorded]
  exact Machine.run_iff_along DroppedQueriesOnly.kept_step DroppedQueriesOnly.losing_step
    DroppedMore.kept_step (fun kept lost => lost.not_nothingLost kept.nothingLost) start execution

/-! A socket which closes under the frame that finishes a run. -/

/-- One connection fails while it carries a finish; the next one carries the ack behind it. -/
def closingUnderFinish : List Action :=
  [.connect, .finishRun (str "r1"), .writer .get, .writer .sendRaises, .disconnect,
    .finishRun (str "r2"), .connect, .writer .get, .writer .sendReturns]

def afterClosingUnderFinish : SoukProvider where
  link := ⟨[], .getting, true, [.finish (str "r2")], [.finish (str "r2")]⟩
  earlier := [[]]
  enqueued := [.finish (str "r1"), .finish (str "r2")]

theorem run_closingUnderFinish :
    (machine Json.defaultLimits []).run fresh closingUnderFinish =
      some afterClosingUnderFinish := rfl

/-- The finish of `r1` is never delivered. -/
theorem finish_lost_under_closing_socket :
    ∃ actions final, (machine Json.defaultLimits []).run fresh actions = some final ∧
      final.link.writer.hand = none ∧ final.link.outbound = [] ∧
      final.delivered = [.finish (str "r2")] ∧
      final.enqueued = [.finish (str "r1"), .finish (str "r2")] ∧ ¬final.NothingLost := by
  refine ⟨closingUnderFinish, afterClosingUnderFinish, run_closingUnderFinish, rfl, rfl, rfl, rfl,
    fun kept => ?_⟩
  have lengths := congrArg List.length kept
  exact absurd lengths (by decide)

theorem nothing_lost_on_open_socket :
    (SoukProvider.mk ⟨[], .getting, true, [.finish (str "r1")], [.finish (str "r1")]⟩ []
        [.finish (str "r1")]).NothingLost ↔
      (machine Json.defaultLimits []).Along (KeepsHeldFrame Json.defaultLimits []) fresh
        [.connect, .finishRun (str "r1"), .writer .get, .writer .sendReturns] :=
  nothing_lost_iff_held_frames_kept rfl

end Souk.AgentSdk.SoukProvider
