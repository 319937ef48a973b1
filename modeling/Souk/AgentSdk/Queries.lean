import Souk.AgentSdk.Client
import Souk.Library.Records

/-!
# The questions of a provider

`thread_messages` puts a query on the outbound queue and awaits a future.  Four parties race for
that future: the read loop with an answer, the end of the connection, the deadline of `wait_for`
and whoever cancels the caller.  The first one settles it; the caller's task then runs again, turns
what it finds into one outcome and takes its entry out of `_pending`.
-/

namespace Souk.AgentSdk

open Souk.Python
open Souk.Sdk

/-- The question a frame asks. -/
def OutboundFrame.queryId? : OutboundFrame → Option Str
  | .query queryId .. => some queryId
  | _ => none

/-- `SoukQueryFailed`, by the text it is raised with. -/
inductive SoukQueryFailed where
  /-- `str(frame["error"])` -/
  | refused (error : Value)
  /-- The reason given to `_fail_pending_queries`. -/
  | closed (reason : Str)
  /-- souk did not answer `thread_messages(threadId)` in `QUERY_TIMEOUT_SECONDS`. -/
  | timedOut (threadId : Str)

/-- The future a call awaits. -/
inductive Waiter where
  | pending
  | result (value : Value)
  | exception (failure : SoukQueryFailed)
  | cancelled

namespace Waiter

/-- `waiter.done()` -/
def done : Waiter → Bool
  | pending => false
  | _ => true

/-- `waiter.cancel()`, which leaves a future alone that is done. -/
def cancel : Waiter → Waiter
  | pending => cancelled
  | waiter => waiter

theorem done_eq_false {waiter : Waiter} : waiter.done = false ↔ waiter = .pending := by
  cases waiter <;> simp [done]

theorem cancel_ne_pending (waiter : Waiter) : waiter.cancel ≠ .pending := by
  cases waiter <;> simp [cancel]

end Waiter

/-- How a call of `thread_messages` ends. -/
inductive Outcome where
  | returned (value : Value)
  | raised (failure : SoukQueryFailed)
  /-- `CancelledError`, asked for by whoever cancelled the caller. -/
  | cancelled

/-- A call of `thread_messages`. -/
structure Call where
  queryId : Str
  threadId : Str
  limit : Option Int
  waiter : Waiter
  /-- The deadline of `wait_for` has passed. -/
  expired : Bool
  /-- The caller's task has been asked to cancel. -/
  cancelRequested : Bool
  /-- How the call ended, once its task has run again. -/
  outcome : Option Outcome
  /-- History: how many connections had ended when the call was made. -/
  askedAfter : Nat
  /-- History: the connection whose end failed the call, counted from zero. -/
  closedBy : Option Nat

namespace Call

/-- What the caller's task ends with when it runs again.  A cancellation which only the deadline
asked for becomes a timeout; either cancellation overtakes a future that is done. -/
def wakes (call : Call) : Option Outcome :=
  match call.waiter with
  | .pending => none
  | waiter =>
      if call.cancelRequested then some .cancelled
      else if call.expired then some (.raised (.timedOut call.threadId))
      else
        match waiter with
        | .result value => some (.returned value)
        | .exception failure => some (.raised failure)
        | .pending | .cancelled => some .cancelled

/-- The body of the loop in `_fail_pending_queries`, at the end of the given connection. -/
def close (reason : Str) (connection : Nat) (call : Call) : Call :=
  if call.waiter.done then call
  else { call with waiter := .exception (.closed reason), closedBy := some connection }

end Call

/-- What a `queryResult` frame settles a future with. -/
def settlement (frame : Dict) : Waiter :=
  match Dict.get frame (str "error") with
  | .null => .result ((Dict.get frame (str "result")).orElse (.list []))
  | error => .exception (.refused error)

/-- The `queryResult` frame a message holds. -/
def queryResult? (limits : Json.Limits) (raw : Str) : Option Dict :=
  match Json.loads limits raw with
  | .ok (.dict frame) =>
      if (Dict.get frame (str "type")).asStr? = some (str "queryResult") then some frame else none
  | _ => none

/-- A provider with the questions its agents have asked. -/
structure Queries where
  provider : SoukProvider
  /-- `_pending`, where a future is named by the call which awaits it. -/
  pending : List (Str × Nat)
  /-- Every call made so far. -/
  calls : List Call
  /-- History: the `queryResult` frames read so far. -/
  answers : List Dict

namespace Queries

/-- A provider which has not been asked anything. -/
def fresh : Queries := ⟨.fresh, [], [], []⟩

/-- The reason with which the end of a connection fails what is pending. -/
def closedReason : Str := str "souk connection closed"

/-- `thread_messages` until it awaits. -/
def ask (queries : Queries) (queryId threadId : Str) (limit : Option Int) : Queries :=
  { queries with
    pending := queries.pending ++ [(queryId, queries.calls.length)]
    calls := queries.calls ++ [{
      queryId, threadId, limit
      waiter := .pending
      expired := false
      cancelRequested := false
      outcome := none
      askedAfter := queries.provider.earlier.length
      closedBy := none }] }

/-- The call whose future `_pending` holds under the key, if that future is not done. -/
def waiting (queries : Queries) (key : Value) : Option (Nat × Call) :=
  match key with
  | .str queryId =>
      (queries.pending.lookup queryId).bind fun index =>
        (queries.calls[index]?).bind fun call =>
          if call.waiter.done then none else some (index, call)
  | _ => none

/-- `_resolve_query` -/
def resolveQuery (queries : Queries) (frame : Dict) : Queries :=
  match queries.waiting (Dict.get frame (str "queryId")) with
  | none => { queries with answers := queries.answers ++ [frame] }
  | some (index, call) =>
      { queries with
        calls := queries.calls.set index { call with waiter := settlement frame }
        answers := queries.answers ++ [frame] }

/-- `_fail_pending_queries` -/
def failPendingQueries (queries : Queries) (reason : Str) : Queries :=
  { queries with
    pending := []
    calls := queries.calls.mapIdx fun index call =>
      if index ∈ queries.pending.map Prod.snd then
        call.close reason queries.provider.earlier.length
      else call }

/-- What an action of the provider does to its questions. -/
def attend (limits : Json.Limits) (agents : List Str) (queries : Queries)
    (action : SoukProvider.Action) : Queries :=
  if SoukProvider.leaves limits agents action then queries.failPendingQueries closedReason
  else
    match action with
    | .threadMessages queryId threadId limit => queries.ask queryId threadId limit
    | .receive raw _ => (queryResult? limits raw).elim queries queries.resolveQuery
    | _ => queries

/-- What can happen to a provider and its questions. -/
inductive Action where
  | link (action : SoukProvider.Action)
  /-- The deadline of a call passes. -/
  | expire (index : Nat)
  /-- The task which made a call is cancelled. -/
  | cancelCall (index : Nat)
  /-- The task which made a call runs again. -/
  | wake (index : Nat)

/-- Whether a question is asked under an id of its own. -/
def freshId (queries : Queries) : SoukProvider.Action → Bool
  | .threadMessages queryId .. => queryId ∉ queries.calls.map Call.queryId
  | _ => true

/-- A call which has not returned. -/
def unreturned (queries : Queries) (index : Nat) : Option Call :=
  (queries.calls[index]?).filter fun call => call.outcome.isNone

/-- One step of a provider and its questions. -/
def step (limits : Json.Limits) (agents : List Str) (queries : Queries) :
    Action → Option Queries
  | .link action =>
      if queries.freshId action then
        (SoukProvider.step limits agents queries.provider action).map fun provider =>
          { queries.attend limits agents action with provider }
      else none
  | .expire index =>
      (queries.unreturned index).map fun call =>
        { queries with
          calls := queries.calls.set index
            { call with waiter := call.waiter.cancel, expired := true } }
  | .cancelCall index =>
      (queries.unreturned index).map fun call =>
        { queries with
          calls := queries.calls.set index
            { call with waiter := call.waiter.cancel, cancelRequested := true } }
  | .wake index =>
      (queries.unreturned index).bind fun call =>
        call.wakes.map fun outcome =>
          { queries with
            pending := queries.pending.filter fun entry => entry.1 ≠ call.queryId
            calls := queries.calls.set index { call with outcome := some outcome } }

/-- The provider and its questions as a machine. -/
def machine (limits : Json.Limits) (agents : List Str) : Machine Queries Action where
  step := step limits agents

variable {limits : Json.Limits} {agents : List Str} {queries next final : Queries}
  {action : Action} {provider : SoukProvider} {index ended : Nat} {call : Call}

/-- The ways in which an action moves a provider and its questions. -/
inductive Moves (limits : Json.Limits) (agents : List Str) (queries : Queries) :
    Action → Queries → Prop
  | asks {queryId threadId : Str} {limit : Option Int} {provider : SoukProvider}
      (unused : queryId ∉ queries.calls.map Call.queryId)
      (taken : SoukProvider.step limits agents queries.provider
        (.threadMessages queryId threadId limit) = some provider) :
      Moves limits agents queries (.link (.threadMessages queryId threadId limit))
        { queries.ask queryId threadId limit with provider }
  | answers {raw : Str} {answer : RuntimeAnswer} {frame : Dict} {provider : SoukProvider}
      (stays : SoukProvider.leaves limits agents (.receive raw answer) = false)
      (taken : SoukProvider.step limits agents queries.provider (.receive raw answer) =
        some provider) :
      Moves limits agents queries (.link (.receive raw answer))
        { queries.resolveQuery frame with provider }
  | closes {action : SoukProvider.Action} {provider : SoukProvider}
      (leaves : SoukProvider.leaves limits agents action = true)
      (taken : SoukProvider.step limits agents queries.provider action = some provider) :
      Moves limits agents queries (.link action)
        { queries.failPendingQueries closedReason with provider }
  | passes {action : SoukProvider.Action} {provider : SoukProvider}
      (stays : SoukProvider.leaves limits agents action = false)
      (taken : SoukProvider.step limits agents queries.provider action = some provider) :
      Moves limits agents queries (.link action) { queries with provider }
  | expires {index : Nat} {call : Call} (found : queries.unreturned index = some call) :
      Moves limits agents queries (.expire index)
        { queries with
          calls := queries.calls.set index
            { call with waiter := call.waiter.cancel, expired := true } }
  | cancels {index : Nat} {call : Call} (found : queries.unreturned index = some call) :
      Moves limits agents queries (.cancelCall index)
        { queries with
          calls := queries.calls.set index
            { call with waiter := call.waiter.cancel, cancelRequested := true } }
  | returns {index : Nat} {call : Call} {outcome : Outcome}
      (found : queries.unreturned index = some call) (wakes : call.wakes = some outcome) :
      Moves limits agents queries (.wake index)
        { queries with
          pending := queries.pending.filter fun entry => entry.1 ≠ call.queryId
          calls := queries.calls.set index { call with outcome := some outcome } }

theorem step_moves (taken : step limits agents queries action = some next) :
    Moves limits agents queries action next := by
  cases action with
  | link action =>
      simp only [step] at taken
      split at taken
      · rename_i unused
        obtain ⟨provider, moved, rfl⟩ := Option.map_eq_some_iff.mp taken
        cases leaves : SoukProvider.leaves limits agents action with
        | true =>
            simp only [attend, leaves, if_true]
            exact .closes leaves moved
        | false =>
            simp only [attend, leaves, Bool.false_eq_true, if_false]
            cases action with
            | threadMessages queryId threadId limit =>
                have unused : queryId ∉ queries.calls.map Call.queryId := of_decide_eq_true unused
                exact .asks unused moved
            | receive raw answer =>
                dsimp only
                cases queryResult? limits raw with
                | none => exact .passes leaves moved
                | some frame => exact .answers leaves moved
            | reportEvent | finishRun | connect | writer | disconnect =>
                exact .passes leaves moved
      · cases taken
  | expire index =>
      obtain ⟨call, found, rfl⟩ := Option.map_eq_some_iff.mp taken
      exact .expires found
  | cancelCall index =>
      obtain ⟨call, found, rfl⟩ := Option.map_eq_some_iff.mp taken
      exact .cancels found
  | wake index =>
      obtain ⟨call, found, woken⟩ := Option.bind_eq_some_iff.mp taken
      obtain ⟨outcome, wakes, rfl⟩ := Option.map_eq_some_iff.mp woken
      exact .returns found wakes

theorem unreturned_eq_some : queries.unreturned index = some call ↔
    queries.calls[index]? = some call ∧ call.outcome = none := by
  simp [unreturned]

/-- What a key of `_pending` stands for, where its future is not done. -/
theorem waiting_eq_some {key : Value} (found : queries.waiting key = some (index, call)) :
    ∃ queryId, key = .str queryId ∧ (queryId, index) ∈ queries.pending ∧
      queries.calls[index]? = some call ∧ call.waiter = .pending := by
  cases key with
  | str queryId =>
      obtain ⟨entry, held, found⟩ := Option.bind_eq_some_iff.mp found
      obtain ⟨other, called, found⟩ := Option.bind_eq_some_iff.mp found
      split at found
      · cases found
      · rename_i undone
        obtain ⟨rfl, rfl⟩ := Prod.mk.inj (Option.some.inj found)
        obtain ⟨before, after, split, _⟩ := List.lookup_eq_some_iff.mp held
        refine ⟨queryId, rfl, ?_, called, ?_⟩
        · rw [split]
          exact List.mem_append_right _ List.mem_cons_self
        · exact Waiter.done_eq_false.mp (by simpa using undone)
  | null | bool | int | float | list | dict => cases found

/-! ## What holds of every call -/

/-- What has settled the future of a call. -/
inductive Settles (answers : List Dict) (call : Call) : Waiter → Prop
  | pending : Settles answers call .pending
  | result {frame : Dict} (read : frame ∈ answers)
      (own : Dict.get frame (str "queryId") = .str call.queryId)
      (accepted : Dict.get frame (str "error") = .null) :
      Settles answers call (.result ((Dict.get frame (str "result")).orElse (.list [])))
  | refused {frame : Dict} (read : frame ∈ answers)
      (own : Dict.get frame (str "queryId") = .str call.queryId)
      (refused : Dict.get frame (str "error") ≠ .null) :
      Settles answers call (.exception (.refused (Dict.get frame (str "error"))))
  | closed {connection : Nat} (closed : call.closedBy = some connection) :
      Settles answers call (.exception (.closed closedReason))
  | cancelled (interrupted : call.expired = true ∨ call.cancelRequested = true) :
      Settles answers call .cancelled

theorem settles_settlement {answers : List Dict} {frame : Dict} (read : frame ∈ answers)
    (own : Dict.get frame (str "queryId") = .str call.queryId) :
    Settles answers call (settlement frame) := by
  cases error : Dict.get frame (str "error") with
  | null =>
      simp only [settlement, error]
      exact .result read own error
  | bool | int | float | str | list | dict =>
      have refused := @Settles.refused answers call frame read own (by simp [error])
      simpa only [settlement, error] using refused

/-- The invariant of a single call, where so many connections have ended. -/
structure CallSound (answers : List Dict) (ended : Nat) (call : Call) : Prop where
  settles : Settles answers call call.waiter
  wakes : ∀ outcome, call.outcome = some outcome → call.wakes = some outcome
  closed : ∀ connection, call.closedBy = some connection →
    call.waiter = .exception (.closed closedReason) ∧ call.askedAfter ≤ connection ∧
      connection < ended
  asked : call.askedAfter ≤ ended

/-- The invariant of the table and its calls, where so many connections have ended. -/
structure Consistent (ended : Nat) (queries : Queries) : Prop where
  sound : ∀ call ∈ queries.calls, CallSound queries.answers ended call
  distinct : (queries.calls.map Call.queryId).Nodup
  entries : ∀ queryId index, (queryId, index) ∈ queries.pending →
    ∃ call, queries.calls[index]? = some call ∧ call.queryId = queryId ∧ call.outcome = none
  waits : ∀ index call, queries.calls[index]? = some call → call.waiter = .pending →
    (call.queryId, index) ∈ queries.pending

/-! Each operation on its own. -/

theorem Settles.mono {answers read : List Dict} {later : Call} {waiter : Waiter}
    (settles : Settles answers call waiter) (heard : answers ⊆ read)
    (own : later.queryId = call.queryId) (closed : later.closedBy = call.closedBy)
    (expired : call.expired = true → later.expired = true)
    (requested : call.cancelRequested = true → later.cancelRequested = true) :
    Settles read later waiter := by
  cases settles with
  | pending => exact .pending
  | result member owns accepted => exact .result (heard member) (own ▸ owns) accepted
  | refused member owns refused => exact .refused (heard member) (own ▸ owns) refused
  | closed was => exact .closed (closed.trans was)
  | cancelled interrupted => exact .cancelled (interrupted.imp expired requested)

theorem CallSound.mono {answers read : List Dict} {after : Nat}
    (sound : CallSound answers ended call) (heard : answers ⊆ read) (ends : ended ≤ after) :
    CallSound read after call where
  settles := sound.settles.mono heard rfl rfl id id
  wakes := sound.wakes
  closed := by
    intro connection closed
    obtain ⟨failed, asked, before⟩ := sound.closed connection closed
    exact ⟨failed, asked, before.trans_le ends⟩
  asked := sound.asked.trans ends

/-- A call whose future is not done has not been failed, and has not returned. -/
theorem CallSound.open_of_pending {answers : List Dict} (sound : CallSound answers ended call)
    (undone : call.waiter = .pending) : call.closedBy = none ∧ call.outcome = none := by
  constructor
  · apply Option.eq_none_iff_forall_ne_some.mpr
    intro connection closed
    have failed := (sound.closed connection closed).1
    rw [undone] at failed
    cases failed
  · apply Option.eq_none_iff_forall_ne_some.mpr
    intro outcome returned
    have wakes := sound.wakes outcome returned
    simp only [Call.wakes, undone] at wakes
    cases wakes

theorem Consistent.mono {after : Nat} (consistent : Consistent ended queries)
    (ends : ended ≤ after) : Consistent after { queries with provider } where
  sound := fun call member => (consistent.sound call member).mono (List.Subset.refl _) ends
  distinct := consistent.distinct
  entries := consistent.entries
  waits := consistent.waits

theorem Consistent.ask {queryId threadId : Str} {limit : Option Int}
    (consistent : Consistent queries.provider.earlier.length queries)
    (unused : queryId ∉ queries.calls.map Call.queryId) :
    Consistent queries.provider.earlier.length (queries.ask queryId threadId limit) where
  sound := by
    intro call member
    rcases List.mem_append.mp member with old | new
    · exact consistent.sound call old
    · obtain rfl := List.mem_singleton.mp new
      exact ⟨.pending, by simp, by simp, le_refl _⟩
  distinct := by
    rw [Queries.ask, List.map_append, List.map_singleton]
    exact List.nodup_append.mpr ⟨consistent.distinct, List.nodup_singleton _, by
      rintro id member _ only rfl
      obtain rfl := List.mem_singleton.mp only
      exact unused member⟩
  entries := by
    intro other index member
    rcases List.mem_append.mp member with old | new
    · obtain ⟨call, found, own, unreturned⟩ := consistent.entries other index old
      exact ⟨call, getElem?_concat_eq_some.mpr (Or.inl found), own, unreturned⟩
    · obtain ⟨rfl, rfl⟩ := Prod.mk.inj (List.mem_singleton.mp new)
      exact ⟨_, getElem?_concat_eq_some.mpr (Or.inr ⟨rfl, rfl⟩), rfl, rfl⟩
  waits := by
    intro index call found undone
    rcases getElem?_concat_eq_some.mp found with old | ⟨rfl, rfl⟩
    · exact List.mem_append_left _ (consistent.waits index call old undone)
    · exact List.mem_append_right _ List.mem_cons_self

theorem ids_set {later : Call} (found : queries.calls[index]? = some call)
    (own : later.queryId = call.queryId) :
    (queries.calls.set index later).map Call.queryId = queries.calls.map Call.queryId := by
  rw [List.map_set, own]
  apply List.ext_getElem?
  intro i
  by_cases same : index = i
  · subst same
    rw [List.getElem?_map, found]
    simp [(List.getElem?_eq_some_iff.mp found).1]
  · simp [same]

/-- Settling a future, or asking the caller's task to cancel, leaves the table as it is. -/
theorem Consistent.settle {later : Call} {read : List Dict} (consistent : Consistent ended queries)
    (found : queries.calls[index]? = some call) (own : later.queryId = call.queryId)
    (outcome : later.outcome = call.outcome) (done : later.waiter ≠ .pending)
    (heard : queries.answers ⊆ read) (sound : CallSound read ended later) :
    Consistent ended
      { queries with calls := queries.calls.set index later, answers := read } where
  sound := by
    intro other member
    rcases List.mem_or_eq_of_mem_set member with old | rfl
    · exact (consistent.sound other old).mono heard le_rfl
    · exact sound
  distinct := (ids_set found own).symm ▸ consistent.distinct
  entries := by
    intro queryId i member
    obtain ⟨other, held, owns, unreturned⟩ := consistent.entries queryId i member
    by_cases same : i = index
    · subst same
      obtain rfl : call = other := Option.some.inj (found.symm.trans held)
      refine ⟨later, ?_, own.trans owns, outcome.trans unreturned⟩
      exact (getElem?_set_eq_some found).mpr (Or.inl ⟨rfl, rfl⟩)
    · refine ⟨other, ?_, owns, unreturned⟩
      exact (getElem?_set_eq_some found).mpr (Or.inr ⟨same, held⟩)
  waits := by
    intro i other held undone
    rcases (getElem?_set_eq_some found).mp held with ⟨rfl, rfl⟩ | ⟨_, old⟩
    · exact absurd undone done
    · exact consistent.waits i other old undone

theorem settlement_ne_pending (frame : Dict) : settlement frame ≠ .pending := by
  cases error : Dict.get frame (str "error") <;> simp [settlement, error]

theorem Consistent.resolveQuery (consistent : Consistent ended queries) (frame : Dict) :
    Consistent ended (queries.resolveQuery frame) := by
  have heard : queries.answers ⊆ queries.answers ++ [frame] := List.subset_append_left _ _
  cases waiting : queries.waiting (Dict.get frame (str "queryId")) with
  | none =>
      simp only [Queries.resolveQuery, waiting]
      exact {
        sound := fun call member => (consistent.sound call member).mono heard le_rfl
        distinct := consistent.distinct
        entries := consistent.entries
        waits := consistent.waits }
  | some pair =>
      obtain ⟨index, call⟩ := pair
      obtain ⟨queryId, key, entry, found, undone⟩ := waiting_eq_some waiting
      obtain ⟨other, held, rfl, _⟩ := consistent.entries queryId index entry
      obtain rfl : call = other := Option.some.inj (found.symm.trans held)
      have sound := consistent.sound call (List.mem_of_getElem? found)
      obtain ⟨unclosed, unreturned⟩ := sound.open_of_pending undone
      have settles : Settles (queries.answers ++ [frame]) call (settlement frame) :=
        settles_settlement (List.mem_append_right _ List.mem_cons_self) key
      simp only [Queries.resolveQuery, waiting]
      exact consistent.settle found rfl rfl (settlement_ne_pending frame) heard {
        settles := settles.mono (List.Subset.refl _) rfl rfl id id
        wakes := by simp [unreturned]
        closed := by simp [unclosed]
        asked := sound.asked }

/-- A task asked to cancel finds its future cancelled, or as it was. -/
theorem CallSound.interrupt {answers : List Dict} {expired requested : Bool}
    (sound : CallSound answers ended call) (unreturned : call.outcome = none)
    (interrupted : expired = true ∨ requested = true)
    (expires : call.expired = true → expired = true)
    (requests : call.cancelRequested = true → requested = true) :
    CallSound answers ended
      { call with waiter := call.waiter.cancel, expired, cancelRequested := requested } where
  settles := by
    cases waiter : call.waiter with
    | pending | cancelled => exact .cancelled interrupted
    | result | exception =>
        have settles := sound.settles
        rw [waiter] at settles
        exact settles.mono (List.Subset.refl _) rfl rfl expires requests
  wakes := by simp [unreturned]
  closed := by
    intro connection closed
    obtain ⟨failed, order⟩ := sound.closed connection closed
    exact ⟨by simp [failed, Waiter.cancel], order⟩
  asked := sound.asked

theorem Consistent.wake {outcome : Outcome} (consistent : Consistent ended queries)
    (found : queries.calls[index]? = some call) (wakes : call.wakes = some outcome) :
    Consistent ended { queries with
      pending := queries.pending.filter fun entry => entry.1 ≠ call.queryId
      calls := queries.calls.set index { call with outcome := some outcome } } where
  sound := by
    intro other member
    rcases List.mem_or_eq_of_mem_set member with old | rfl
    · exact consistent.sound other old
    · have sound := consistent.sound call (List.mem_of_getElem? found)
      exact {
        settles := sound.settles.mono (List.Subset.refl _) rfl rfl id id
        wakes := by
          intro other same
          obtain rfl := Option.some.inj same
          exact wakes
        closed := sound.closed
        asked := sound.asked }
  distinct := by
    have ids := @ids_set queries index call { call with outcome := some outcome } found rfl
    exact ids.symm ▸ consistent.distinct
  entries := by
    intro queryId i member
    obtain ⟨old, differs⟩ := List.mem_filter.mp member
    obtain ⟨other, held, rfl, unreturned⟩ := consistent.entries queryId i old
    refine ⟨other, ?_, rfl, unreturned⟩
    refine (getElem?_set_eq_some found).mpr (Or.inr ⟨?_, held⟩)
    rintro rfl
    obtain rfl : call = other := Option.some.inj (found.symm.trans held)
    simp at differs
  waits := by
    intro i other held undone
    have done : call.waiter ≠ .pending := by
      intro undone
      simp only [Call.wakes, undone] at wakes
      cases wakes
    rcases (getElem?_set_eq_some found).mp held with ⟨rfl, rfl⟩ | ⟨differs, old⟩
    · exact absurd undone done
    · have own : other.queryId ≠ call.queryId := by
        intro same
        have inside : i < (queries.calls.map Call.queryId).length := by
          rw [List.length_map]
          exact (List.getElem?_eq_some_iff.mp old).1
        refine differs ((List.getElem?_inj inside consistent.distinct).mp ?_)
        rw [List.getElem?_map, List.getElem?_map, old, found, Option.map_some, Option.map_some,
          same]
      exact List.mem_filter.mpr ⟨consistent.waits i other old undone, by simpa using own⟩

theorem CallSound.close {answers : List Dict} (sound : CallSound answers ended call) :
    CallSound answers (ended + 1) (call.close closedReason ended) := by
  have later := sound.mono (List.Subset.refl _) (Nat.le_succ ended)
  rw [Call.close]
  split
  · exact later
  · rename_i undone
    have pending : call.waiter = .pending := Waiter.done_eq_false.mp (by simpa using undone)
    obtain ⟨_, unreturned⟩ := sound.open_of_pending pending
    exact {
      settles := .closed rfl
      wakes := by simp [unreturned]
      closed := by
        intro connection same
        obtain rfl := Option.some.inj same
        exact ⟨rfl, sound.asked, Nat.lt_succ_self _⟩
      asked := later.asked }

/-- The end of a connection fails every call whose future is not done. -/
theorem failPendingQueries_calls (consistent : Consistent ended queries) (reason : Str) :
    (queries.failPendingQueries reason).calls =
      queries.calls.map (Call.close reason queries.provider.earlier.length) := by
  apply List.ext_getElem?
  intro index
  simp only [Queries.failPendingQueries, List.getElem?_mapIdx, List.getElem?_map]
  cases found : queries.calls[index]? with
  | none => rfl
  | some call =>
      refine congrArg some ?_
      split
      · rfl
      · rename_i absent
        rw [Call.close]
        split
        · rfl
        · rename_i undone
          have pending : call.waiter = .pending := Waiter.done_eq_false.mp (by simpa using undone)
          have entry := consistent.waits index call found pending
          exact absurd (List.mem_map_of_mem entry) absent

theorem closes_of_leaves {linkAction : SoukProvider.Action} (consistent : Consistent ended queries)
    (leaves : SoukProvider.leaves limits agents linkAction = true)
    (taken : step limits agents queries (.link linkAction) = some next) :
    next.calls = queries.calls.map (Call.close closedReason queries.provider.earlier.length) := by
  simp only [step] at taken
  split at taken
  · obtain ⟨provider, _, rfl⟩ := Option.map_eq_some_iff.mp taken
    simp only [attend, leaves, if_true]
    exact failPendingQueries_calls consistent closedReason
  · cases taken

@[simp]
theorem queryId_close (reason : Str) (connection : Nat) (call : Call) :
    (call.close reason connection).queryId = call.queryId := by
  rw [Call.close]
  split <;> rfl

theorem Consistent.failPendingQueries
    (consistent : Consistent queries.provider.earlier.length queries) :
    Consistent (queries.provider.earlier.length + 1)
      (queries.failPendingQueries closedReason) where
  sound := by
    rw [failPendingQueries_calls consistent]
    intro later member
    obtain ⟨call, was, rfl⟩ := List.mem_map.mp member
    exact (consistent.sound call was).close
  distinct := by
    rw [failPendingQueries_calls consistent, List.map_map]
    simpa [Function.comp_def] using consistent.distinct
  entries := by
    intro queryId index member
    cases member
  waits := by
    rw [failPendingQueries_calls consistent]
    intro index later found undone
    rw [List.getElem?_map] at found
    obtain ⟨call, _, rfl⟩ := Option.map_eq_some_iff.mp found
    exfalso
    rw [Call.close] at undone
    split at undone
    · rename_i done
      rw [undone] at done
      cases done
    · cases undone

theorem consistent_fresh : Consistent fresh.provider.earlier.length fresh where
  sound := by simp [fresh]
  distinct := List.nodup_nil
  entries := by simp [fresh]
  waits := by simp [fresh]

theorem Consistent.step (consistent : Consistent queries.provider.earlier.length queries)
    (taken : step limits agents queries action = some next) :
    Consistent next.provider.earlier.length next := by
  cases step_moves taken with
  | asks unused moved =>
      have earlier := SoukProvider.step_earlier moved
      exact (consistent.ask unused).mono (by rw [earlier]; rfl)
  | answers stays moved =>
      have earlier := SoukProvider.step_earlier moved
      exact (consistent.resolveQuery _).mono (by rw [earlier, stays]; rfl)
  | closes leaves moved =>
      have earlier := SoukProvider.step_earlier moved
      exact consistent.failPendingQueries.mono (by simp [earlier, leaves])
  | passes stays moved =>
      have earlier := SoukProvider.step_earlier moved
      exact consistent.mono (by rw [earlier, stays]; rfl)
  | expires found | cancels found =>
      obtain ⟨found, unreturned⟩ := unreturned_eq_some.mp found
      have sound := consistent.sound _ (List.mem_of_getElem? found)
      refine consistent.settle found rfl rfl (Waiter.cancel_ne_pending _) (List.Subset.refl _) ?_
      exact sound.interrupt unreturned (by simp) (by simp) (by simp)
  | returns found wakes => exact consistent.wake (unreturned_eq_some.mp found).1 wakes

/-- A call which has returned is left alone. -/
theorem Consistent.returned_step (consistent : Consistent queries.provider.earlier.length queries)
    (found : queries.calls[index]? = some call) (returned : call.outcome ≠ none)
    (taken : Queries.step limits agents queries action = some next) :
    next.calls[index]? = some call := by
  have done : call.waiter ≠ .pending := by
    intro pending
    have sound := consistent.sound call (List.mem_of_getElem? found)
    exact returned (sound.open_of_pending pending).2
  have other : ∀ {i : Nat} {old later : Call}, queries.calls[i]? = some old → old ≠ call →
      (queries.calls.set i later)[index]? = some call := by
    intro i old later held differs
    refine (getElem?_set_eq_some held).mpr (Or.inr ⟨?_, found⟩)
    rintro rfl
    exact differs (Option.some.inj (held.symm.trans found))
  have open_other : ∀ {i : Nat} {old later : Call}, queries.unreturned i = some old →
      (queries.calls.set i later)[index]? = some call := by
    intro i old later held
    obtain ⟨held, unreturned⟩ := unreturned_eq_some.mp held
    refine other held ?_
    rintro rfl
    exact returned unreturned
  cases step_moves taken with
  | asks => exact getElem?_concat_eq_some.mpr (Or.inl found)
  | @answers _ _ frame =>
      simp only [Queries.resolveQuery]
      split
      · exact found
      · rename_i waiting
        obtain ⟨_, _, _, held, undone⟩ := waiting_eq_some waiting
        refine other held ?_
        rintro rfl
        exact done undone
  | closes =>
      simp only [failPendingQueries_calls consistent, List.getElem?_map, found, Option.map_some]
      have kept : call.waiter.done = true := by
        rw [← Bool.not_eq_false, Waiter.done_eq_false]
        exact done
      rw [Call.close, if_pos kept]
  | passes => exact found
  | expires held | cancels held | returns held => exact open_other held

theorem consistent_run {actions : List Action}
    (execution : (machine limits agents).run fresh actions = some final) :
    Consistent final.provider.earlier.length final := by
  have preserved : ∀ {state next : Queries} {action : Action},
      Consistent state.provider.earlier.length state →
      (machine limits agents).step state action = some next →
        Consistent next.provider.earlier.length next :=
    fun consistent taken => consistent.step taken
  exact Machine.run_invariant preserved consistent_fresh execution

theorem Consistent.returned_run {actions : List Action}
    (consistent : Consistent queries.provider.earlier.length queries)
    (found : queries.calls[index]? = some call) (returned : call.outcome ≠ none)
    (execution : (machine limits agents).run queries actions = some final) :
    final.calls[index]? = some call := by
  have preserved : ∀ {state next : Queries} {action : Action},
      Consistent state.provider.earlier.length state ∧ state.calls[index]? = some call →
      (machine limits agents).step state action = some next →
        Consistent next.provider.earlier.length next ∧ next.calls[index]? = some call := by
    rintro state next action ⟨consistent, found⟩ taken
    exact ⟨consistent.step taken, consistent.returned_step found returned taken⟩
  exact (Machine.run_invariant preserved ⟨consistent, found⟩ execution).2

/-! ## What a call can end with -/

/-- How a call has ended, where these `queryResult` frames have been read. -/
inductive Ended (answers : List Dict) (call : Call) : Outcome → Prop
  | answered {frame : Dict} (read : frame ∈ answers)
      (own : Dict.get frame (str "queryId") = .str call.queryId)
      (accepted : Dict.get frame (str "error") = .null) :
      Ended answers call (.returned ((Dict.get frame (str "result")).orElse (.list [])))
  | refused {frame : Dict} (read : frame ∈ answers)
      (own : Dict.get frame (str "queryId") = .str call.queryId)
      (refused : Dict.get frame (str "error") ≠ .null) :
      Ended answers call (.raised (.refused (Dict.get frame (str "error"))))
  | closed {connection : Nat} (closed : call.closedBy = some connection) :
      Ended answers call (.raised (.closed closedReason))
  | timedOut (expired : call.expired = true) :
      Ended answers call (.raised (.timedOut call.threadId))
  | cancelled (requested : call.cancelRequested = true) : Ended answers call .cancelled

/-- What a task finds when it runs again: either cancellation first, then its future. -/
theorem Call.wakes_cases {outcome : Outcome} (wakes : call.wakes = some outcome) :
    call.cancelRequested = true ∧ outcome = .cancelled ∨
      call.expired = true ∧ outcome = .raised (.timedOut call.threadId) ∨
      (∃ value, call.waiter = .result value ∧ outcome = .returned value) ∨
      (∃ failure, call.waiter = .exception failure ∧ outcome = .raised failure) ∨
      call.waiter = .cancelled ∧ ¬(call.expired = true ∨ call.cancelRequested = true) := by
  simp only [Call.wakes] at wakes
  split at wakes
  · cases wakes
  · split at wakes
    · rename_i requested
      exact Or.inl ⟨requested, (Option.some.inj wakes).symm⟩
    · rename_i unrequested
      split at wakes
      · rename_i expired
        exact Or.inr (Or.inl ⟨expired, (Option.some.inj wakes).symm⟩)
      · rename_i unexpired
        cases waiter : call.waiter with
        | pending => contradiction
        | result value =>
            rw [waiter] at wakes
            exact Or.inr (Or.inr (Or.inl ⟨value, rfl, (Option.some.inj wakes).symm⟩))
        | exception failure =>
            rw [waiter] at wakes
            exact Or.inr (Or.inr (Or.inr (Or.inl ⟨failure, rfl, (Option.some.inj wakes).symm⟩)))
        | cancelled =>
            refine Or.inr (Or.inr (Or.inr (Or.inr ⟨rfl, ?_⟩)))
            exact not_or.mpr ⟨unexpired, unrequested⟩

theorem CallSound.ended_of_outcome {answers : List Dict} {outcome : Outcome}
    (sound : CallSound answers ended call) (returned : call.outcome = some outcome) :
    Ended answers call outcome := by
  have settles := sound.settles
  rcases Call.wakes_cases (sound.wakes outcome returned) with ⟨requested, rfl⟩ | ⟨expired, rfl⟩ |
    ⟨value, waiter, rfl⟩ | ⟨failure, waiter, rfl⟩ | ⟨waiter, uninterrupted⟩
  · exact .cancelled requested
  · exact .timedOut expired
  · rw [waiter] at settles
    cases settles with
    | result read own accepted => exact .answered read own accepted
  · rw [waiter] at settles
    cases settles with
    | refused read own refused => exact .refused read own refused
    | closed closed => exact .closed closed
  · rw [waiter] at settles
    cases settles with
    | cancelled interrupted => exact absurd interrupted uninterrupted

/-- A call which the end of a connection has failed does not return a value. -/
theorem CallSound.not_returned_of_closed {answers : List Dict} {connection : Nat}
    (sound : CallSound answers ended call) (closed : call.closedBy = some connection)
    (value : Value) : call.outcome ≠ some (.returned value) := by
  intro returned
  have failed := (sound.closed connection closed).1
  rcases Call.wakes_cases (sound.wakes _ returned) with ⟨_, impossible⟩ | ⟨_, impossible⟩ |
    ⟨_, waiter, _⟩ | ⟨_, _, impossible⟩ | ⟨waiter, _⟩
  · cases impossible
  · cases impossible
  · rw [failed] at waiter
    cases waiter
  · cases impossible
  · rw [failed] at waiter
    cases waiter

theorem Call.wakes_of_done (done : call.waiter ≠ .pending) :
    ∃ outcome, call.wakes = some outcome := by
  cases waiter : call.waiter with
  | pending => exact absurd waiter done
  | result | exception | cancelled =>
      simp only [Call.wakes, waiter]
      split
      · exact ⟨_, rfl⟩
      · split <;> exact ⟨_, rfl⟩

theorem step_wake (held : queries.unreturned index = some call) (done : call.waiter ≠ .pending) :
    ∃ next after outcome, step limits agents queries (.wake index) = some next ∧
      next.calls[index]? = some after ∧ after.outcome = some outcome := by
  obtain ⟨outcome, wakes⟩ := Call.wakes_of_done done
  have found := (unreturned_eq_some.mp held).1
  have woken : step limits agents queries (.wake index) = some { queries with
      pending := queries.pending.filter fun entry => entry.1 ≠ call.queryId
      calls := queries.calls.set index { call with outcome := some outcome } } := by
    simp only [step, held, Option.bind_some, wakes, Option.map_some]
  exact ⟨_, _, outcome, woken, (getElem?_set_eq_some found).mpr (Or.inl ⟨rfl, rfl⟩), rfl⟩

/-- The deadline ends every call: once it has passed, the caller's task returns when it runs. -/
theorem run_expire_wake (found : queries.calls[index]? = some call)
    (awaited : call.outcome = none) :
    ∃ later after outcome,
      (machine limits agents).run queries [.expire index, .wake index] = some later ∧
        later.calls[index]? = some after ∧ after.outcome = some outcome := by
  have first := unreturned_eq_some.mpr ⟨found, awaited⟩
  have expired : step limits agents queries (.expire index) = some { queries with
      calls := queries.calls.set index
        { call with waiter := call.waiter.cancel, expired := true } } := by
    rw [step, first, Option.map_some]
  have second : unreturned { queries with
      calls := queries.calls.set index
        { call with waiter := call.waiter.cancel, expired := true } } index =
      some { call with waiter := call.waiter.cancel, expired := true } :=
    unreturned_eq_some.mpr ⟨(getElem?_set_eq_some found).mpr (Or.inl ⟨rfl, rfl⟩), awaited⟩
  obtain ⟨next, after, outcome, woken, held, returned⟩ :=
    @step_wake limits agents _ _ _ second (Waiter.cancel_ne_pending call.waiter)
  refine ⟨next, after, outcome, ?_, held, returned⟩
  exact (Machine.run_cons_eq_some _).mpr ⟨_, expired,
    (Machine.run_cons_eq_some _).mpr ⟨_, woken, Machine.run_nil _ _⟩⟩

/-- A call before and after the end of a connection: an unanswered one fails. -/
structure MetEnd (connection : Nat) (before after : Call) : Prop where
  unanswered : before.waiter = .pending → after = { before with
    waiter := .exception (.closed (str "souk connection closed"))
    closedBy := some connection }
  answered : before.waiter ≠ .pending → after = before

theorem metEnd_close (connection : Nat) (call : Call) :
    MetEnd connection call (call.close closedReason connection) where
  unanswered pending := by
    rw [Call.close, pending]
    rfl
  answered settled := by
    rw [Call.close, if_pos (Bool.not_eq_false _ |>.mp (mt Waiter.done_eq_false.mp settled))]

/-- What the questions of a provider and the answers it has read come to. -/
structure Matched (limits : Json.Limits) (agents : List Str) (queries : Queries) : Prop where
  /-- A call ends with what a frame under its own id carries, or with the failure or the
  cancellation which befell it. -/
  ended : ∀ call ∈ queries.calls, ∀ outcome, call.outcome = some outcome →
    Ended queries.answers call outcome
  /-- It ends once. -/
  once : ∀ (index : Nat) (call : Call), queries.calls[index]? = some call → call.outcome ≠ none →
    ∀ actions later, (machine limits agents).run queries actions = some later →
      later.calls[index]? = some call
  /-- It does end: nothing can keep it beyond its deadline. -/
  ends : ∀ (index : Nat) (call : Call), queries.calls[index]? = some call → call.outcome = none →
    ∃ later after outcome,
      (machine limits agents).run queries [.expire index, .wake index] = some later ∧
        later.calls[index]? = some after ∧ after.outcome = some outcome
  /-- The end of a connection fails every call whose future is not done. -/
  closes : ∀ action next, SoukProvider.leaves limits agents action = true →
    step limits agents queries (.link action) = some next →
      List.Forall₂ (MetEnd queries.provider.earlier.length) queries.calls next.calls
  /-- It fails no call made afterwards, and a call it has failed returns nothing. -/
  closedOnly : ∀ call ∈ queries.calls, ∀ connection, call.closedBy = some connection →
    call.askedAfter ≤ connection ∧ connection < queries.provider.earlier.length ∧
      ∀ value, call.outcome ≠ some (.returned value)
  /-- `_pending` holds calls which have not returned, each under its own id. -/
  unreturned : ∀ queryId index, (queryId, index) ∈ queries.pending →
    ∃ call, queries.calls[index]? = some call ∧ call.queryId = queryId ∧ call.outcome = none

/-- In every run the questions of a provider and their answers are matched one to one. -/
theorem queries_matched {actions : List Action}
    (execution : (machine limits agents).run fresh actions = some final) :
    Matched limits agents final := by
  have consistent := consistent_run execution
  exact {
    ended := fun call member outcome returned =>
      (consistent.sound call member).ended_of_outcome returned
    once := fun index call found returned actions later execution =>
      consistent.returned_run found returned execution
    ends := fun index call found unreturned => run_expire_wake found unreturned
    closes := by
      intro action next leaves taken
      rw [closes_of_leaves consistent leaves taken, List.forall₂_map_right_iff, List.forall₂_same]
      exact fun call _ => metEnd_close _ call
    closedOnly := by
      intro call member connection closed
      have sound := consistent.sound call member
      obtain ⟨_, asked, before⟩ := sound.closed connection closed
      exact ⟨asked, before, sound.not_returned_of_closed closed⟩
    unreturned := consistent.entries }

/-! A souk whose answer is not a list. -/

/-- An answer whose result is a number. -/
def fiveAnswered : List Action :=
  [.link .connect, .link (.threadMessages (str "q1") (str "t1") none), .link (.writer .get),
    .link (.writer .sendReturns),
    .link (.receive (str "\x7b\"type\":\"queryResult\",\"queryId\":\"q1\",\"result\":5\x7d")
      (.verdict false)),
    .wake 0]

def afterFiveAnswered : Queries where
  provider := ⟨⟨[], .getting, true, [.query (str "q1") (str "t1") none],
    [.query (str "q1") (str "t1") none]⟩, [], [.query (str "q1") (str "t1") none]⟩
  pending := []
  calls := [⟨str "q1", str "t1", none, .result (.int 5), false, false, some (.returned (.int 5)),
    0, none⟩]
  answers := [[(str "type", .str (str "queryResult")), (str "queryId", .str (str "q1")),
    (str "result", .int 5)]]

theorem run_fiveAnswered :
    (machine Json.defaultLimits []).run fresh fiveAnswered = some afterFiveAnswered := rfl

theorem fiveAnswered_matched : Matched Json.defaultLimits [] afterFiveAnswered :=
  queries_matched run_fiveAnswered

/-- The call returns the number. -/
theorem five_returned :
    ∃ actions final, (machine Json.defaultLimits []).run fresh actions = some final ∧
      ¬∀ call ∈ final.calls, ∀ outcome, call.outcome = some outcome →
        (∃ items, outcome = .returned (.list items)) ∨ (∃ failure, outcome = .raised failure) ∨
          outcome = .cancelled := by
  refine ⟨fiveAnswered, afterFiveAnswered, run_fiveAnswered, fun matched => ?_⟩
  have ended := matched _ List.mem_cons_self _ rfl
  simp at ended

end Queries
end Souk.AgentSdk
