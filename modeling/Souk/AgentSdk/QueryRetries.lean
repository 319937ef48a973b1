import Souk.AgentSdk.Queries

/-!
# Queries on later connections

`_fail_pending_queries` empties `_pending` and leaves `_outbound` alone.  The query of a call it
fails may still wait there, and the queue outlives the connection: the writer of the next one then
asks a question whose caller has long been told that nothing will answer it.
-/

namespace Souk.AgentSdk

open Souk.Python
open Souk.Sdk

namespace SoukProvider

variable {limits : Json.Limits} {agents : List Str} {provider next : SoukProvider}
  {action : Action} {connection : Nat} {frame : OutboundFrame} {queryId : Str}

/-- The frames written on the connections after the given one, the frame being written included. -/
def writtenAfter (provider : SoukProvider) (connection : Nat) : List OutboundFrame :=
  (provider.earlier.drop (connection + 1)).flatten ++ provider.link.sent ++
    provider.link.writer.hand.toList

/-- The frames written on later connections, and those which still wait. -/
def onward (provider : SoukProvider) (connection : Nat) : List OutboundFrame :=
  provider.writtenAfter connection ++ provider.link.outbound

theorem mem_onward : frame ∈ provider.onward connection ↔
    frame ∈ (provider.earlier.drop (connection + 1)).flatten ∨ frame ∈ provider.link.sent ∨
      frame ∈ provider.link.writer.hand ∨ frame ∈ provider.link.outbound := by
  simp [onward, writtenAfter]

theorem onward_advance {step : WriterStep} {link : Link OutboundFrame}
    (advanced : provider.link.advance (OutboundFrame.serializes limits) step = some link)
    (member : frame ∈ SoukProvider.onward { provider with link } connection) :
    frame ∈ provider.onward connection := by
  rw [mem_onward] at member ⊢
  obtain ⟨lost, advances, -⟩ := Link.advance_cases advanced
  rcases member with carried | member
  · exact Or.inl carried
  right
  cases advances with
  | takes getting waits encodes =>
      rcases member with sent | held | waiting
      · exact Or.inl sent
      · obtain rfl := Option.some.inj held
        exact Or.inr (Or.inr (waits ▸ List.mem_cons_self))
      · exact Or.inr (Or.inr (waits ▸ List.mem_cons_of_mem _ waiting))
  | refuses getting waits refused =>
      rcases member with sent | held | waiting
      · exact Or.inl sent
      · cases held
      · exact Or.inr (Or.inr (waits ▸ List.mem_cons_of_mem _ waiting))
  | returns sending accepts =>
      rcases member with sent | held | waiting
      · rcases List.mem_append.mp sent with old | new
        · exact Or.inl old
        · obtain rfl := List.mem_singleton.mp new
          exact Or.inr (Or.inl (by rw [sending]; rfl))
      · cases held
      · exact Or.inr (Or.inr waiting)
  | raises sending =>
      rcases member with sent | held | waiting
      · exact Or.inl sent
      · cases held
      · exact Or.inr (Or.inr waiting)
  | closes serving => exact member

/-- Nothing comes onto later connections but what waits and what is put on the queue. -/
theorem onward_of_step (taken : step limits agents provider action = some next)
    (before : connection < provider.earlier.length) (member : frame ∈ next.onward connection) :
    frame ∈ provider.onward connection ∨ puts limits agents action = some frame := by
  cases step_moves taken with
  | @enqueues enqueued _ puts _ =>
      rw [mem_onward] at member ⊢
      rcases member with carried | sent | held | waiting
      · exact Or.inl (Or.inl carried)
      · exact Or.inl (Or.inr (Or.inl sent))
      · exact Or.inl (Or.inr (Or.inr (Or.inl held)))
      · rcases List.mem_append.mp waiting with old | new
        · exact Or.inl (Or.inr (Or.inr (Or.inr old)))
        · obtain rfl := List.mem_singleton.mp new
          exact Or.inr puts
  | rests => exact Or.inl member
  | connects =>
      rw [mem_onward] at member ⊢
      rcases member with carried | sent | held | waiting
      · exact Or.inl (Or.inl carried)
      · cases sent
      · cases held
      · exact Or.inl (Or.inr (Or.inr (Or.inr waiting)))
  | leaves =>
      rw [mem_onward] at member ⊢
      rcases member with carried | sent | held | waiting
      · rw [leave, List.drop_append_of_le_length before, List.flatten_append] at carried
        rcases List.mem_append.mp carried with carried | sent
        · exact Or.inl (Or.inl carried)
        · exact Or.inl (Or.inr (Or.inl (by simpa using sent)))
      · cases sent
      · cases held
      · exact Or.inl (Or.inr (Or.inr (Or.inr waiting)))
  | writes advanced => exact Or.inl (onward_advance advanced member)

/-- After the end of a connection only what waited can come onto a later one. -/
theorem onward_leave (member : frame ∈ provider.leave.onward provider.earlier.length) :
    frame ∈ provider.link.outbound := by
  rw [mem_onward] at member
  rcases member with carried | sent | held | waiting
  · rw [leave, List.drop_of_length_le (by simp)] at carried
    cases carried
  · cases sent
  · cases held
  · exact waiting

/-- Only `thread_messages` puts a query on the queue. -/
theorem action_of_puts_query (puts : puts limits agents action = some frame)
    (asks : frame.queryId? = some queryId) :
    ∃ threadId limit, action = .threadMessages queryId threadId limit := by
  cases action with
  | threadMessages asked threadId limit =>
      obtain rfl := Option.some.inj puts
      obtain rfl := Option.some.inj asks
      exact ⟨threadId, limit, rfl⟩
  | reportEvent runId yielded =>
      cases dumped : dumpEvent yielded <;> simp only [SoukProvider.puts, dumped] at puts
      · cases puts
      · obtain rfl := Option.some.inj puts
        cases asks
  | finishRun runId =>
      obtain rfl := Option.some.inj puts
      cases asks
  | receive raw answer =>
      cases read : readFrame limits agents raw answer with
      | error => simp [SoukProvider.puts, read] at puts
      | ok ack =>
          simp only [SoukProvider.puts, read] at puts
          obtain ⟨_, _, _, _, _, _, rfl⟩ := readFrame_eq_ok_some (puts ▸ read)
          cases asks
  | connect | writer | disconnect => cases puts

end SoukProvider

namespace Queries

variable {limits : Json.Limits} {agents : List Str} {queries next : Queries}
  {action : Action} {connection : Nat} {call : Call}

/-- No query of a call which the end of a connection has failed is written on a later one. -/
def NotRetried (queries : Queries) : Prop :=
  ∀ call ∈ queries.calls, ∀ connection, call.closedBy = some connection →
    ∀ frame ∈ queries.provider.writtenAfter connection, frame.queryId? ≠ some call.queryId

/-- A connection does not end while the query of an unanswered call waits in `_outbound`. -/
def EndsClear (limits : Json.Limits) (agents : List Str) (queries : Queries)
    (action : Action) : Prop :=
  ∀ linkAction, action = .link linkAction →
    SoukProvider.leaves limits agents linkAction = true →
      ∀ call ∈ queries.calls, call.waiter = .pending →
        ∀ frame ∈ queries.provider.link.outbound, frame.queryId? ≠ some call.queryId

theorem endsClear_of_stays {linkAction : SoukProvider.Action}
    (stays : SoukProvider.leaves limits agents linkAction = false) :
    EndsClear limits agents queries (.link linkAction) := by
  intro same equal leaves
  obtain rfl := Action.link.inj equal
  rw [stays] at leaves
  cases leaves

/-- No query of a failed call is on its way to a later connection. -/
structure Unretried (queries : Queries) : Prop where
  consistent : Consistent queries.provider.earlier.length queries
  onward : ∀ call ∈ queries.calls, ∀ connection, call.closedBy = some connection →
    ∀ frame ∈ queries.provider.onward connection, frame.queryId? ≠ some call.queryId

/-- Replacing a call by one which was closed when it was, if at all, closes nothing. -/
theorem closed_of_set {index : Nat} {old later : Call}
    (member : call ∈ queries.calls.set index later) (found : queries.calls[index]? = some old)
    (own : later.queryId = old.queryId) (same : later.closedBy = old.closedBy)
    (closed : call.closedBy = some connection) :
    ∃ old ∈ queries.calls, old.queryId = call.queryId ∧ old.closedBy = some connection := by
  rcases List.mem_or_eq_of_mem_set member with was | rfl
  · exact ⟨call, was, rfl, closed⟩
  · exact ⟨old, List.mem_of_getElem? found, own.symm, same.symm.trans closed⟩

/-- Unless a connection ends, a call which is failed after a step was failed before it. -/
theorem closed_of_stays
    (stays : ∀ linkAction, action = .link linkAction →
      SoukProvider.leaves limits agents linkAction = false)
    (taken : step limits agents queries action = some next) (member : call ∈ next.calls)
    (closed : call.closedBy = some connection) :
    ∃ old ∈ queries.calls, old.queryId = call.queryId ∧ old.closedBy = some connection := by
  cases step_moves taken with
  | asks =>
      rcases List.mem_append.mp member with was | new
      · exact ⟨call, was, rfl, closed⟩
      · obtain rfl := List.mem_singleton.mp new
        cases closed
  | answers =>
      simp only [resolveQuery] at member
      split at member
      · exact ⟨call, member, rfl, closed⟩
      · rename_i waiting
        obtain ⟨_, _, _, found, _⟩ := waiting_eq_some waiting
        exact closed_of_set member found rfl rfl closed
  | closes leaves =>
      rw [stays _ rfl] at leaves
      cases leaves
  | passes => exact ⟨call, member, rfl, closed⟩
  | expires found | cancels found | returns found =>
      exact closed_of_set member (unreturned_eq_some.mp found).1 rfl rfl closed

/-- The end of a connection fails the calls whose futures are not done. -/
theorem closed_of_leaves {linkAction : SoukProvider.Action}
    (consistent : Consistent queries.provider.earlier.length queries)
    (leaves : SoukProvider.leaves limits agents linkAction = true)
    (taken : step limits agents queries (.link linkAction) = some next)
    (member : call ∈ next.calls) (closed : call.closedBy = some connection) :
    ∃ old ∈ queries.calls, old.queryId = call.queryId ∧
      (old.closedBy = some connection ∨
        old.waiter = .pending ∧ connection = queries.provider.earlier.length) := by
  obtain ⟨old, was, rfl⟩ := List.mem_map.mp (closes_of_leaves consistent leaves taken ▸ member)
  refine ⟨old, was, (queryId_close _ _ old).symm, ?_⟩
  simp only [Call.close] at closed
  split at closed
  · exact Or.inl closed
  · rename_i undone
    have pending : old.waiter = .pending := Waiter.done_eq_false.mp (by simpa using undone)
    exact Or.inr ⟨pending, (Option.some.inj closed).symm⟩

/-- What a step does to the provider: an action of the provider's own, under a fresh id if it asks
a question, or nothing. -/
theorem provider_of_step (taken : step limits agents queries action = some next) :
    (∀ linkAction, action ≠ .link linkAction) ∧ next.provider = queries.provider ∨
      ∃ linkAction, action = .link linkAction ∧ queries.freshId linkAction = true ∧
        SoukProvider.step limits agents queries.provider linkAction = some next.provider := by
  cases action with
  | link linkAction =>
      simp only [step] at taken
      split at taken
      · rename_i unused
        obtain ⟨provider, moved, rfl⟩ := Option.map_eq_some_iff.mp taken
        exact Or.inr ⟨linkAction, rfl, unused, moved⟩
      · cases taken
  | expire | cancelCall | wake =>
      refine Or.inl ⟨by simp, ?_⟩
      cases step_moves taken
      rfl

/-- No action puts a query under the id of an earlier call on the queue. -/
theorem onward_step {frame : OutboundFrame} (member : call ∈ queries.calls)
    (taken : step limits agents queries action = some next)
    (before : connection < queries.provider.earlier.length)
    (unasked : ∀ frame ∈ queries.provider.onward connection, frame.queryId? ≠ some call.queryId)
    (ahead : frame ∈ next.provider.onward connection) : frame.queryId? ≠ some call.queryId := by
  rcases provider_of_step taken with ⟨_, same⟩ | ⟨linkAction, rfl, unused, moved⟩
  · exact unasked frame (same ▸ ahead)
  · rcases SoukProvider.onward_of_step moved before ahead with stood | put
    · exact unasked frame stood
    · intro asks
      obtain ⟨threadId, limit, rfl⟩ := SoukProvider.action_of_puts_query put asks
      exact of_decide_eq_true unused (List.mem_map_of_mem member)

theorem Unretried.step (unretried : Unretried queries)
    (clear : EndsClear limits agents queries action)
    (taken : Queries.step limits agents queries action = some next) : Unretried next where
  consistent := unretried.consistent.step taken
  onward := by
    intro call member connection closed frame ahead
    have failed_before : ∀ old ∈ queries.calls, old.closedBy = some connection →
        frame.queryId? ≠ some old.queryId := by
      intro old was old_closed
      have before := ((unretried.consistent.sound old was).closed connection old_closed).2.2
      exact onward_step was taken before (unretried.onward old was connection old_closed) ahead
    by_cases stays : ∀ linkAction, action = .link linkAction →
        SoukProvider.leaves limits agents linkAction = false
    · obtain ⟨old, was, own, old_closed⟩ := closed_of_stays stays taken member closed
      exact own ▸ failed_before old was old_closed
    · simp only [not_forall, Bool.not_eq_false] at stays
      obtain ⟨linkAction, rfl, leaves⟩ := stays
      obtain ⟨old, was, own, old_closed | ⟨waits, rfl⟩⟩ :=
        closed_of_leaves unretried.consistent leaves taken member closed
      · exact own ▸ failed_before old was old_closed
      · rcases provider_of_step taken with ⟨foreign, _⟩ | ⟨_, same, _, moved⟩
        · exact absurd rfl (foreign linkAction)
        · obtain rfl := Action.link.inj same
          rw [SoukProvider.step_of_leaves leaves moved] at ahead
          exact own ▸ clear _ rfl leaves old was waits frame (SoukProvider.onward_leave ahead)

theorem unretried_fresh : Unretried fresh where
  consistent := consistent_fresh
  onward := by simp [fresh]

theorem Unretried.notRetried (unretried : Unretried queries) : NotRetried queries :=
  fun call member connection closed frame written =>
    unretried.onward call member connection closed frame (List.mem_append_left _ written)

/-- In every run whose connections end while no query of an unanswered call waits, no query of a
call failed by the end of a connection is written on a later one. -/
theorem not_retried_of_ends_clear {actions : List Action}
    (clear : (machine limits agents).Along (EndsClear limits agents) fresh actions) :
    (machine limits agents).Throughout NotRetried fresh actions :=
  Machine.throughout_of_along Unretried.step Unretried.notRetried unretried_fresh clear

/-! A socket which dies before the writer has come to the query. -/

/-- The query of `q1` waits while the first connection ends, and is written on the second. -/
def askedOnDyingSocket : List Action :=
  [.link .connect, .link (.threadMessages (str "q1") (str "t1") none), .link .disconnect,
    .wake 0, .link .connect, .link (.writer .get), .link (.writer .sendReturns)]

def afterDyingSocket : Queries where
  provider := ⟨⟨[], .getting, true, [.query (str "q1") (str "t1") none],
    [.query (str "q1") (str "t1") none]⟩, [[]], [.query (str "q1") (str "t1") none]⟩
  pending := []
  calls := [⟨str "q1", str "t1", none, .exception (.closed closedReason), false, false,
    some (.raised (.closed closedReason)), 0, some 0⟩]
  answers := []

theorem run_askedOnDyingSocket :
    (machine Json.defaultLimits []).run fresh askedOnDyingSocket = some afterDyingSocket := rfl

/-- A query is retried after its call has failed. -/
theorem query_retried :
    ∃ actions final, (machine Json.defaultLimits []).run fresh actions = some final ∧
      (∃ call ∈ final.calls, call.queryId = str "q1" ∧ call.closedBy = some 0 ∧
        call.outcome = some (.raised (.closed closedReason))) ∧
      final.provider.link.sent = [.query (str "q1") (str "t1") none] ∧ ¬NotRetried final := by
  refine ⟨askedOnDyingSocket, afterDyingSocket, run_askedOnDyingSocket,
    ⟨_, List.mem_cons_self, rfl, rfl, rfl⟩, rfl, fun kept => ?_⟩
  exact kept _ List.mem_cons_self 0 rfl (.query (str "q1") (str "t1") none)
    (by simp [SoukProvider.writtenAfter, afterDyingSocket]) rfl

/-- A question carried before its socket dies is not asked again. -/
theorem carried_query_not_retried :
    (machine Json.defaultLimits []).Throughout NotRetried fresh
      [.link .connect, .link (.threadMessages (str "q1") (str "t1") none), .link (.writer .get),
        .link (.writer .sendReturns), .link .disconnect, .link .connect] := by
  apply not_retried_of_ends_clear
  refine ⟨endsClear_of_stays rfl, fun _ step => ?_⟩
  obtain rfl := Option.some.inj step
  refine ⟨endsClear_of_stays rfl, fun _ step => ?_⟩
  obtain rfl := Option.some.inj step
  refine ⟨endsClear_of_stays rfl, fun _ step => ?_⟩
  obtain rfl := Option.some.inj step
  refine ⟨endsClear_of_stays rfl, fun _ step => ?_⟩
  obtain rfl := Option.some.inj step
  refine ⟨?_, fun _ step => ?_⟩
  · intro _ _ _ call _ _ frame waiting
    cases waiting
  · obtain rfl := Option.some.inj step
    exact ⟨endsClear_of_stays rfl, fun _ _ => trivial⟩

end Queries
end Souk.AgentSdk
