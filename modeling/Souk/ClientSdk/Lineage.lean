import Souk.ClientSdk.Client

/-!
# The lineage a client keeps

A run continues the lineage of the run before it when that one finished with open asks and both are
on one thread, as the server announced it.  The client decides before the announcement.
-/

namespace Souk.ClientSdk

open Souk.Python

/-! ## The asks a stream leaves open -/

/-- The last `RUN_FINISHED` among the events, with what came before it. -/
def lastFinish : List Dict → Option (List Dict × Dict)
  | [] => none
  | event :: events =>
      match lastFinish events with
      | some (before, finish) => some (event :: before, finish)
      | none => if isEvent "RUN_FINISHED" event then some ([], event) else none

/-- The tool calls of the events of one kind. -/
def toolCalls (kind : String) (events : List Dict) : List Value :=
  (events.filter (isEvent kind)).map fun event => Dict.get event "toolCallId"

/-- The ids under which a `RUN_FINISHED` interrupts: the tool call's where it has one. -/
def interruptAsks (finish : Dict) : List Value :=
  match interruptsOf finish with
  | .ok interrupts => interrupts.filterMap fun interrupt => (askOf interrupt).toOption
  | .error _ => []

/-- The events reach a `RUN_FINISHED` which leaves a tool call unanswered or names an interrupt. -/
def leavesAsks (events : List Dict) : Bool :=
  match lastFinish events with
  | none => false
  | some (before, finish) =>
      (toolCalls "TOOL_CALL_START" before).any
          (fun ask => !ask.memberOf (toolCalls "TOOL_CALL_RESULT" before)) ||
        (interruptAsks finish).any Value.truthy

section Asks

variable {events : List Dict} {event : Dict}

theorem isEmpty_filter {α : Type} (keep : α → Bool) (items : List α) :
    (items.filter keep).isEmpty = !items.any keep := by
  induction items with
  | nil => rfl
  | cons item items induction => cases kept : keep item <;> simp [kept, induction]

theorem lastFinish_append_finish (finishes : isEvent "RUN_FINISHED" event = true) :
    lastFinish (events ++ [event]) = some (events, event) := by
  induction events with
  | nil => simp [lastFinish, finishes]
  | cons first events induction => simp [lastFinish, induction]

theorem lastFinish_append_other (other : isEvent "RUN_FINISHED" event = false) :
    lastFinish (events ++ [event]) = lastFinish events := by
  induction events with
  | nil => simp [lastFinish, other]
  | cons first events induction => simp [lastFinish, induction]

theorem leavesAsks_append_other (other : isEvent "RUN_FINISHED" event = false) :
    leavesAsks (events ++ [event]) = leavesAsks events := by
  rw [leavesAsks, lastFinish_append_other other, leavesAsks]

/-- What the code computes at a `RUN_FINISHED` is empty precisely when no ask is left. -/
theorem leavesAsks_append_finish (finishes : isEvent "RUN_FINISHED" event = true)
    {left : List Value}
    (computed : outstandingAsks (toolCalls "TOOL_CALL_START" events)
      (toolCalls "TOOL_CALL_RESULT" events) event = .ok left) :
    leavesAsks (events ++ [event]) = !left.isEmpty := by
  obtain ⟨interrupts, named, taken⟩ := bind_eq_ok.mp computed
  obtain ⟨open_calls, kept, added⟩ := bind_eq_ok.mp taken
  have asks : interruptAsks event =
      interrupts.filterMap fun interrupt => (askOf interrupt).toOption := by
    rw [interruptAsks, named]
  rw [leavesAsks, lastFinish_append_finish finishes, addInterrupts_isEmpty added,
    unanswered_eq_ok kept, isEmpty_filter, ← asks, Bool.not_and, Bool.not_not, Bool.not_not]

theorem toolCalls_append (kind : String) :
    toolCalls kind (events ++ [event]) =
      toolCalls kind events ++
        if isEvent kind event then [Dict.get event "toolCallId"] else [] := by
  rw [toolCalls, List.filter_append, List.map_append, toolCalls]
  cases matching : isEvent kind event <;> simp [matching]

end Asks

/-! ## Calls of `run` one after another -/

/-- One call of `run` as its caller sees it. -/
structure RunSeen where
  requested : Value
  /-- The events it yielded. -/
  events : List Dict
  /-- The thread its last `RUN_STARTED` announced. -/
  thread : Option Value
  /-- The first run of its lineage. -/
  root : Option Value

namespace RunSeen

/-- Before the first call. -/
def none : RunSeen := ⟨.null, [], .none, .none⟩

/-- A run on the announced thread continues the lineage of the run before it. -/
def continuedOn (before : RunSeen) (announced : Value) : Bool :=
  leavesAsks before.events && before.thread.any announced.eq

/-- The call after it has yielded an event. -/
def yields (before seen : RunSeen) (event : Dict) : RunSeen :=
  if isEvent "RUN_STARTED" event then
    let announced := (event.lookup (str "threadId")).getD seen.requested
    { seen with
      events := seen.events ++ [event]
      thread := some announced
      root := if before.continuedOn announced then before.root
        else some (Dict.get event "runId") }
  else { seen with events := seen.events ++ [event] }

end RunSeen

/-- A client which runs one stream at a time, with its last two calls of `run`. -/
structure Session where
  client : SoukClient
  stream : Option RunStream
  before : RunSeen
  latest : RunSeen

namespace Session

/-- A client which has not run. -/
def fresh : Session := ⟨.fresh, none, .none, .none⟩

/-- What can happen to a client. -/
inductive Action where
  /-- `run` is called for this thread, given or created, and its stream opens. -/
  | run (threadId : Value)
  /-- `run` is called and raises before its stream opens. -/
  | refused
  | receive (data : Str)
  /-- The stream ends, is cut, or is no longer read. -/
  | close

/-- One step of a client. -/
def step (limits : Json.Limits) (session : Session) : Action → Option Session
  | .run threadId =>
      match session.stream with
      | some _ => none
      | none =>
          let (client, stream) := session.client.openStream threadId
          some
            { client, stream, before := session.latest
              latest := { requested := threadId, events := [], thread := none, root := none } }
  | .refused =>
      match session.stream with
      | some _ => none
      | none => some session
  | .receive data =>
      session.stream.map fun stream =>
        match session.client.receive limits stream data with
        | .ok (event, client, stream) =>
            { session with client, stream, latest := session.before.yields session.latest event }
        | .error _ => { session with stream := none }
  | .close => session.stream.map fun _ => { session with stream := none }

/-- A client as a machine. -/
def machine (limits : Json.Limits) : Machine Session Action where
  step := step limits

/-- The client names the first run of the lineage. -/
def NamesRoot (session : Session) : Prop :=
  ∀ root, session.latest.root = some root → session.client.lastTaskId = root

/-- A `RUN_STARTED` on which the early decision is right: after a stream which left asks open, the
thread asked for is the one announced before exactly when the thread announced now is, or the run
is the root of that lineage itself. -/
def Announces (session : Session) (event : Dict) : Prop :=
  leavesAsks session.before.events = true →
    match session.before.thread, session.before.root with
    | some thread, some root =>
        session.latest.requested.eq thread =
            ((event.lookup (str "threadId")).getD session.latest.requested).eq thread ∨
          Dict.get event "runId" = root
    | _, _ =>
        session.latest.requested.eq session.before.requested = false ∨
          Dict.get event "runId" = session.client.lastTaskId

/-- Every `RUN_STARTED` received is one on which the early decision is right. -/
def Kept (limits : Json.Limits) (session : Session) : Action → Prop
  | .receive data => ∀ event, session.stream.isSome = true →
      Json.loads limits data = .ok (.dict event) → isEvent "RUN_STARTED" event = true →
        session.Announces event
  | _ => True

/-! ## The decision taken early -/

/-- The open stream has seen the latest call, and decided at its start. -/
structure StreamTracks (session : Session) (stream : RunStream) : Prop where
  threadId : stream.threadId = session.latest.requested
  announced : stream.announced = toolCalls "TOOL_CALL_START" session.latest.events
  answered : stream.answered = toolCalls "TOOL_CALL_RESULT" session.latest.events
  decided : stream.continuesLineage =
    (leavesAsks session.before.events &&
      session.latest.requested.eq (session.before.thread.getD session.before.requested))
  /-- Where it decided to continue, the task is still the one of the run before. -/
  kept : stream.continuesLineage = true → ∀ root, session.before.root = some root →
    session.client.lastTaskId = root

/-- What the client remembers is what its caller has seen. -/
structure Tracks (session : Session) : Prop where
  thread : session.client.lastThreadId =
    session.latest.thread.getD session.latest.requested
  asks : session.client.lastOutstandingAsks.isEmpty = !leavesAsks session.latest.events
  latestRoot : session.latest.root.isSome = session.latest.thread.isSome
  beforeRoot : session.before.root.isSome = session.before.thread.isSome
  namesRoot : session.NamesRoot
  stream : ∀ stream, session.stream = some stream → session.StreamTracks stream

theorem tracks_fresh : Tracks fresh where
  thread := rfl
  asks := rfl
  latestRoot := rfl
  beforeRoot := rfl
  namesRoot := nofun
  stream := nofun

section Steps

variable {session : Session} {stream : RunStream} {client : SoukClient} {after : RunStream}
  {event : Dict}

theorem Tracks.close (tracks : session.Tracks) : Tracks { session with stream := none } where
  thread := tracks.thread
  asks := tracks.asks
  latestRoot := tracks.latestRoot
  beforeRoot := tracks.beforeRoot
  namesRoot := tracks.namesRoot
  stream := nofun

theorem Tracks.run (tracks : session.Tracks) (threadId : Value) :
    Tracks
      { client := (session.client.openStream threadId).1
        stream := some (session.client.openStream threadId).2
        before := session.latest
        latest := { requested := threadId, events := [], thread := none, root := none } } where
  thread := rfl
  asks := rfl
  latestRoot := rfl
  beforeRoot := tracks.latestRoot
  namesRoot := nofun
  stream := by
    intro stream opened
    obtain rfl := Option.some.inj opened
    refine ⟨rfl, rfl, rfl, ?_, fun _ => tracks.namesRoot⟩
    rw [SoukClient.openStream, tracks.thread, tracks.asks, Bool.not_not]

/-- The session after an event has been yielded. -/
def yielded (session : Session) (client : SoukClient) (stream : RunStream) (event : Dict) :
    Session :=
  { session with
    client, stream := some stream, latest := session.before.yields session.latest event }

/-- The early decision is right at a `RUN_STARTED` precisely when the client then names the root. -/
theorem namesRoot_started (tracks : session.Tracks) (open_stream : session.stream = some stream)
    (started : isEvent "RUN_STARTED" event = true)
    (task : client.lastTaskId =
      if stream.continuesLineage then session.client.lastTaskId else Dict.get event "runId") :
    (session.yielded client after event).NamesRoot ↔ session.Announces event := by
  have decided := (tracks.stream stream open_stream).decided
  have kept := (tracks.stream stream open_stream).kept
  have both := tracks.beforeRoot
  have unfolded : (session.yielded client after event).NamesRoot ↔ ∀ root,
      (if session.before.continuedOn
          ((event.lookup (str "threadId")).getD session.latest.requested) then session.before.root
        else some (Dict.get event "runId")) = some root →
      (if stream.continuesLineage then session.client.lastTaskId
        else Dict.get event "runId") = root := by
    simp only [NamesRoot, yielded, RunSeen.yields, started, if_true, task]
  rw [unfolded, Announces, RunSeen.continuedOn]
  cases left : leavesAsks session.before.events with
  | false =>
      have starts : stream.continuesLineage = false := by rw [decided, left, Bool.false_and]
      simp [starts]
  | true =>
      rw [left, Bool.true_and] at decided
      cases thread : session.before.thread with
      | none =>
          have rootless : session.before.root = none := by simpa [thread] using both
          rw [thread, Option.getD_none] at decided
          cases asked : session.latest.requested.eq session.before.requested <;>
            simp [decided, asked, eq_comm]
      | some previous =>
          obtain ⟨root, rooted⟩ : ∃ root, session.before.root = some root := by
            rw [thread, Option.isSome_some, Option.isSome_iff_exists] at both
            exact both
          rw [thread, Option.getD_some] at decided
          cases asked : session.latest.requested.eq previous with
          | false =>
              cases announced : ((event.lookup (str "threadId")).getD
                  session.latest.requested).eq previous <;>
                simp [decided, asked, announced, rooted]
          | true =>
              rw [kept (decided.trans asked) root rooted]
              cases announced : ((event.lookup (str "threadId")).getD
                  session.latest.requested).eq previous <;>
                simp [decided, asked, announced, rooted, eq_comm]

theorem isEvent_other {kind other : String} (matching : isEvent kind event = true)
    (different : other ≠ kind) : isEvent other event = false := by
  rw [isEvent, decide_eq_true_iff] at matching
  rw [isEvent, matching, decide_eq_false_iff_not, Option.some_inj, str_inj]
  exact different.symm

/-- A `RUN_STARTED` on which the early decision is right. -/
theorem Tracks.started (tracks : session.Tracks) (open_stream : session.stream = some stream)
    (started : isEvent "RUN_STARTED" event = true) (announces : session.Announces event) :
    Tracks (session.yielded
      { session.client with
        lastThreadId := (event.lookup (str "threadId")).getD stream.threadId
        lastRunId := Dict.get event "runId"
        lastTaskId := if stream.continuesLineage then session.client.lastTaskId
          else Dict.get event "runId" } stream event) := by
  have streamTracks := tracks.stream stream open_stream
  have yields : session.before.yields session.latest event =
      { session.latest with
        events := session.latest.events ++ [event]
        thread := some ((event.lookup (str "threadId")).getD session.latest.requested)
        root := if session.before.continuedOn
            ((event.lookup (str "threadId")).getD session.latest.requested)
          then session.before.root else some (Dict.get event "runId") } := if_pos started
  refine
    { thread := ?_, asks := ?_, latestRoot := ?_, beforeRoot := tracks.beforeRoot,
      namesRoot := (namesRoot_started tracks open_stream started rfl).mpr announces, stream := ?_ }
  · simp [yielded, yields, streamTracks.threadId]
  · have unfinished := isEvent_other started (by decide : "RUN_FINISHED" ≠ "RUN_STARTED")
    simp only [yielded, yields, leavesAsks_append_other unfinished, tracks.asks]
  · simp only [yielded, yields, Option.isSome_some]
    split
    · rename_i continued
      rw [tracks.beforeRoot]
      cases thread : session.before.thread with
      | none => simp [RunSeen.continuedOn, thread] at continued
      | some previous => rfl
    · rfl
  · intro same opened
    obtain rfl := Option.some.inj opened
    have noStart := isEvent_other started (by decide : "TOOL_CALL_START" ≠ "RUN_STARTED")
    have noResult := isEvent_other started (by decide : "TOOL_CALL_RESULT" ≠ "RUN_STARTED")
    refine ⟨?_, ?_, ?_, ?_, ?_⟩
    · simp [yielded, yields, streamTracks.threadId]
    · simp [yielded, yields, streamTracks.announced, toolCalls_append, noStart]
    · simp [yielded, yields, streamTracks.answered, toolCalls_append, noResult]
    · simp [yielded, yields, streamTracks.decided]
    · intro continues root rooted
      simp only [yielded, continues, if_true]
      exact streamTracks.kept continues root rooted

/-- Any other event leaves the thread and the task as they are. -/
theorem Tracks.unstarted (tracks : session.Tracks) (open_stream : session.stream = some stream)
    (unstarted : isEvent "RUN_STARTED" event = false)
    (thread : client.lastThreadId = session.client.lastThreadId)
    (task : client.lastTaskId = session.client.lastTaskId)
    (asks : client.lastOutstandingAsks.isEmpty =
      !leavesAsks (session.latest.events ++ [event]))
    (threadId : after.threadId = stream.threadId)
    (continues : after.continuesLineage = stream.continuesLineage)
    (announced : after.announced =
      toolCalls "TOOL_CALL_START" (session.latest.events ++ [event]))
    (answered : after.answered =
      toolCalls "TOOL_CALL_RESULT" (session.latest.events ++ [event])) :
    Tracks (session.yielded client after event) := by
  have streamTracks := tracks.stream stream open_stream
  have yields : session.before.yields session.latest event =
      { session.latest with events := session.latest.events ++ [event] } :=
    if_neg (by rw [unstarted]; exact Bool.false_ne_true)
  refine
    { thread := ?_, asks := ?_, latestRoot := ?_, beforeRoot := tracks.beforeRoot,
      namesRoot := ?_, stream := ?_ }
  · simp only [yielded, yields, thread, tracks.thread]
  · simp only [yielded, yields, asks]
  · simp only [yielded, yields, tracks.latestRoot]
  · intro root rooted
    simp only [yielded, yields] at rooted
    rw [yielded, task]
    exact tracks.namesRoot root rooted
  · intro same opened
    obtain rfl := Option.some.inj opened
    refine ⟨?_, ?_, ?_, ?_, ?_⟩
    · simp [yielded, yields, threadId, streamTracks.threadId]
    · simp [yielded, yields, announced]
    · simp [yielded, yields, answered]
    · simp [yielded, yields, continues, streamTracks.decided]
    · intro continued root rooted
      rw [yielded, task]
      exact streamTracks.kept (continues ▸ continued) root rooted

theorem Tracks.onEvent (tracks : session.Tracks) (open_stream : session.stream = some stream)
    (taken : session.client.onEvent stream event = .ok (client, after))
    (announces : isEvent "RUN_STARTED" event = true → session.Announces event) :
    Tracks (session.yielded client after event) := by
  have streamTracks := tracks.stream stream open_stream
  obtain ⟨started, rfl, rfl⟩ | ⟨kind, rfl, rfl⟩ | ⟨kind, rfl, rfl⟩ | ⟨kind, rfl, left, found, rfl⟩ |
    ⟨others, rfl, rfl⟩ := SoukClient.onEvent_cases taken
  · exact tracks.started open_stream started (announces started)
  · have noResult := isEvent_other kind (by decide : "TOOL_CALL_RESULT" ≠ "TOOL_CALL_START")
    have unfinished := isEvent_other kind (by decide : "RUN_FINISHED" ≠ "TOOL_CALL_START")
    refine tracks.unstarted open_stream (isEvent_other kind (by decide)) rfl rfl ?_ rfl rfl ?_ ?_
    · rw [leavesAsks_append_other unfinished, tracks.asks]
    · simp [toolCalls_append, kind, streamTracks.announced]
    · simp [toolCalls_append, noResult, streamTracks.answered]
  · have noStart := isEvent_other kind (by decide : "TOOL_CALL_START" ≠ "TOOL_CALL_RESULT")
    have unfinished := isEvent_other kind (by decide : "RUN_FINISHED" ≠ "TOOL_CALL_RESULT")
    refine tracks.unstarted open_stream (isEvent_other kind (by decide)) rfl rfl ?_ rfl rfl ?_ ?_
    · rw [leavesAsks_append_other unfinished, tracks.asks]
    · simp [toolCalls_append, noStart, streamTracks.announced]
    · simp [toolCalls_append, kind, streamTracks.answered]
  · have noStart := isEvent_other kind (by decide : "TOOL_CALL_START" ≠ "RUN_FINISHED")
    have noResult := isEvent_other kind (by decide : "TOOL_CALL_RESULT" ≠ "RUN_FINISHED")
    rw [streamTracks.announced, streamTracks.answered] at found
    refine tracks.unstarted open_stream (isEvent_other kind (by decide)) rfl rfl ?_ rfl rfl ?_ ?_
    · rw [leavesAsks_append_finish kind found, Bool.not_not]
    · simp [toolCalls_append, noStart, streamTracks.announced]
    · simp [toolCalls_append, noResult, streamTracks.answered]
  · have noStart := others "TOOL_CALL_START" (by simp)
    have noResult := others "TOOL_CALL_RESULT" (by simp)
    have unfinished := others "RUN_FINISHED" (by simp)
    refine tracks.unstarted open_stream (others "RUN_STARTED" (by simp)) rfl rfl ?_ rfl rfl ?_ ?_
    · rw [leavesAsks_append_other unfinished, tracks.asks]
    · simp [toolCalls_append, noStart, streamTracks.announced]
    · simp [toolCalls_append, noResult, streamTracks.answered]

end Steps

/-! ## Whole sequences of runs -/

section Runs

variable {limits : Json.Limits} {session next : Session} {action : Action}

theorem Tracks.stepped (tracks : session.Tracks) (kept : session.Kept limits action)
    (taken : step limits session action = some next) : next.Tracks := by
  cases action with
  | run threadId =>
      simp only [step] at taken
      split at taken
      · cases taken
      · obtain rfl := Option.some.inj taken
        exact tracks.run threadId
  | refused =>
      simp only [step] at taken
      split at taken
      · cases taken
      · obtain rfl := Option.some.inj taken
        exact tracks
  | close =>
      obtain ⟨_, _, rfl⟩ := Option.map_eq_some_iff.mp taken
      exact tracks.close
  | receive data =>
      obtain ⟨stream, open_stream, same⟩ := Option.map_eq_some_iff.mp taken
      split at same
      · rename_i event client after received
        obtain rfl := same
        obtain ⟨loaded, processed⟩ := SoukClient.receive_eq_ok.mp received
        refine tracks.onEvent open_stream processed fun started => ?_
        exact kept event (by rw [open_stream, Option.isSome_some]) loaded started
      · obtain rfl := same
        exact tracks.close

/-- Where the early decision is wrong, the client names another run. -/
theorem Tracks.violates (tracks : session.Tracks) (wrong : ¬session.Kept limits action)
    (taken : step limits session action = some next) : ¬next.NamesRoot := by
  cases action with
  | run | refused | close => exact absurd trivial wrong
  | receive data =>
      simp only [Kept, not_forall] at wrong
      obtain ⟨event, _, loaded, started, unannounced⟩ := wrong
      obtain ⟨stream, open_stream, same⟩ := Option.map_eq_some_iff.mp taken
      have processed := SoukClient.onEvent_started session.client stream started
      rw [SoukClient.receive_eq_ok.mpr ⟨loaded, processed⟩] at same
      obtain rfl := same
      exact fun names => unannounced ((namesRoot_started tracks open_stream started rfl).mp names)

theorem kept_of_not_enabled (refused : step limits session action = none) :
    session.Kept limits action := by
  cases action with
  | run | refused | close => trivial
  | receive data =>
      intro event opened
      rw [Option.map_eq_none_iff.mp refused] at opened
      cases opened

/-- After every `RUN_STARTED` of every sequence of runs the client names the first run of the
lineage, precisely when every `RUN_STARTED` which follows a stream that left asks open announces the
thread of that stream exactly if it was asked for. -/
theorem namesRoot_iff_kept (limits : Json.Limits) (actions : List Action) :
    (machine limits).Throughout NamesRoot fresh actions ↔
      (machine limits).Along (Kept limits) fresh actions := by
  refine Machine.throughout_iff_along ?_ ?_ ?_ ?_ tracks_fresh
  · exact fun tracks kept taken => Tracks.stepped tracks kept taken
  · exact fun tracks wrong taken => Tracks.violates tracks wrong taken
  · exact fun _ refused => kept_of_not_enabled refused
  · exact Tracks.namesRoot

theorem step_receive {stream after : RunStream} {client : SoukClient} {data : Str} {event : Dict}
    (open_stream : session.stream = some stream)
    (loaded : Json.loads limits data = .ok (.dict event))
    (processed : session.client.onEvent stream event = .ok (client, after)) :
    step limits session (.receive data) = some (session.yielded client after event) := by
  simp only [step, open_stream, Option.map_some,
    SoukClient.receive_eq_ok.mpr ⟨loaded, processed⟩, yielded]

theorem run_step {final : Session} {actions : List Action}
    (taken : step limits session action = some next)
    (rest : (machine limits).run next actions = some final) :
    (machine limits).run session (action :: actions) = some final :=
  (machine limits).run_cons_eq_some.mpr ⟨next, taken, rest⟩

/-- `RUN_STARTED` on the thread `t1`, of the run `r1`. -/
def firstStarted : Str :=
  "\x7b\"type\": \"RUN_STARTED\", \"threadId\": \"t1\", \"runId\": \"r1\"\x7d"

/-- A tool call which nobody answers. -/
def asked : Str := "\x7b\"type\": \"TOOL_CALL_START\", \"toolCallId\": \"a\"\x7d"

def finished : Str := "\x7b\"type\": \"RUN_FINISHED\"\x7d"

/-- `RUN_STARTED` on the thread `t2`, of the run `r2`. -/
def secondStarted : Str :=
  "\x7b\"type\": \"RUN_STARTED\", \"threadId\": \"t2\", \"runId\": \"r2\"\x7d"

set_option maxRecDepth 4000 in
theorem loads_firstStarted : Json.loads Json.defaultLimits firstStarted =
    .ok (.dict [("type", .str "RUN_STARTED"), ("threadId", .str "t1"), ("runId", .str "r1")]) :=
  (rfl)

set_option maxRecDepth 4000 in
theorem loads_asked : Json.loads Json.defaultLimits asked =
    .ok (.dict [("type", .str "TOOL_CALL_START"), ("toolCallId", .str "a")]) := (rfl)

theorem loads_finished : Json.loads Json.defaultLimits finished =
    .ok (.dict [("type", .str "RUN_FINISHED")]) := (rfl)

set_option maxRecDepth 4000 in
theorem loads_secondStarted : Json.loads Json.defaultLimits secondStarted =
    .ok (.dict [("type", .str "RUN_STARTED"), ("threadId", .str "t2"), ("runId", .str "r2")]) :=
  (rfl)

/-- A server which has lost the thread of a pause answers its resumption on a new one. -/
def lostThread : List Action :=
  [.run (.str "t1"), .receive firstStarted, .receive asked, .receive finished, .close,
    .run (.str "t1"), .receive secondStarted]

/-- The client after these runs: on the thread `t2`, with the task of the run `r1`. -/
def afterLostThread : Session where
  client := ⟨.str "t2", .str "r2", .str "r1", []⟩
  stream := some ⟨.str "t1", true, [], []⟩
  before :=
    { requested := .str "t1"
      events :=
        [[("type", .str "RUN_STARTED"), ("threadId", .str "t1"), ("runId", .str "r1")],
          [("type", .str "TOOL_CALL_START"), ("toolCallId", .str "a")],
          [("type", .str "RUN_FINISHED")]]
      thread := some (.str "t1")
      root := some (.str "r1") }
  latest :=
    { requested := .str "t1"
      events := [[("type", .str "RUN_STARTED"), ("threadId", .str "t2"), ("runId", .str "r2")]]
      thread := some (.str "t2")
      root := some (.str "r2") }

theorem run_lostThread :
    (machine Json.defaultLimits).run fresh lostThread = some afterLostThread := by
  apply run_step rfl
  apply run_step (step_receive rfl loads_firstStarted rfl)
  apply run_step (step_receive rfl loads_asked rfl)
  apply run_step (step_receive rfl loads_finished rfl)
  apply run_step rfl
  apply run_step rfl
  apply run_step (step_receive rfl loads_secondStarted rfl)
  rfl

theorem lost_thread_keeps_task :
    ¬(machine Json.defaultLimits).Throughout NamesRoot fresh lostThread := by
  intro throughout
  have same : Value.str (str "r1") = Value.str (str "r2") :=
    throughout.final run_lostThread _ rfl
  simp at same

end Runs

end Session
end Souk.ClientSdk
