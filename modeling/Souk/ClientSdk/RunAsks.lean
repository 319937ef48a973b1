import Souk.ClientSdk.Lineage

/-!
# The asks one call of `run` leaves

A resolution proof signs the asks a client remembers, as a list.  The first half of the file is
about a call which the server refuses, after which a caller still wants the asks of the pause it
tried to answer; the second is about what the events of a stream leave in that list.
-/

namespace Souk.ClientSdk

open Souk.Python

/-- A response which has been opened. -/
structure Response where
  /-- Whether its content type is an event stream; `aiter_sse` raises at once where it is not. -/
  eventStream : Bool
  /-- The `sse.data` it delivers until it ends or is cut. -/
  datas : List Str

/-- What `aiter_sse` yields. -/
def Response.delivered (response : Response) : List Str :=
  if response.eventStream then response.datas else []

namespace SoukClient

/-- The event loop of `run` until it ends or raises: the client after it, and the events yielded. -/
def follow (limits : Json.Limits) : SoukClient → RunStream → List Str → SoukClient × List Dict
  | client, _, [] => (client, [])
  | client, stream, data :: datas =>
      match client.receive limits stream data with
      | .ok (event, next, after) =>
          let (final, events) := follow limits next after datas
          (final, event :: events)
      | .error _ => (client, [])

/-- `run` for one thread: `created` is what `create_thread` answers where no thread is given, and
`response` is what the POST opens, if it opens anything. -/
def run (limits : Json.Limits) (client : SoukClient) (threadId : Option Value)
    (created : Except Raised Value) (response : Option Response) : SoukClient × List Dict :=
  match threadId.elim created .ok, response with
  | .ok threadId, some response =>
      let (client, stream) := client.openStream threadId
      client.follow limits stream response.delivered
  | _, _ => (client, [])

theorem run_of_asked {limits : Json.Limits} {client : SoukClient} {threadId : Option Value}
    {created : Except Raised Value} {thread : Value}
    (asked : threadId.elim created .ok = .ok thread) (response : Response) :
    client.run limits threadId created (some response) =
      (client.openStream thread).1.follow limits (client.openStream thread).2
        response.delivered := by
  unfold run
  rw [asked]

theorem follow_cons_ok {limits : Json.Limits} {client next : SoukClient}
    {stream after : RunStream} {data : Str} {event : Dict}
    (received : client.receive limits stream data = .ok (event, next, after)) (datas : List Str) :
    client.follow limits stream (data :: datas) =
      ((next.follow limits after datas).1, event :: (next.follow limits after datas).2) := by
  rw [follow, received]

theorem follow_cons_error {limits : Json.Limits} {client : SoukClient} {stream : RunStream}
    {data : Str} {raised : Raised} (failed : client.receive limits stream data = .error raised)
    (datas : List Str) : client.follow limits stream (data :: datas) = (client, []) := by
  rw [follow, failed]

/-- The event loop is a run of the session whose stream is open. -/
theorem session_of_follow {limits : Json.Limits} {session : Session} {stream : RunStream}
    (opened : session.stream = some stream) (datas : List Str) :
    ∃ actions final, (Session.machine limits).run session actions = some final ∧
      final.client = (session.client.follow limits stream datas).1 := by
  induction datas generalizing session stream with
  | nil => exact ⟨[], session, rfl, rfl⟩
  | cons data datas induction =>
      cases received : session.client.receive limits stream data with
      | error raised =>
          refine ⟨[.receive data], { session with stream := none }, ?_, ?_⟩
          · simp [Machine.run, Session.machine, Session.step, opened, received]
          · rw [follow_cons_error received]
      | ok result =>
          obtain ⟨event, next, after⟩ := result
          obtain ⟨loaded, processed⟩ := receive_eq_ok.mp received
          have taken := Session.step_receive opened loaded processed
          obtain ⟨actions, final, execution, same⟩ :=
            @induction (session.yielded next after event) after rfl
          refine ⟨.receive data :: actions, final, Session.run_step taken execution, ?_⟩
          rw [same, follow_cons_ok received]
          rfl

/-- A call of `run` is a run of the session, in which its stream opens or the call is refused. -/
theorem session_of_run (limits : Json.Limits) {session : Session} (closed : session.stream = none)
    (threadId : Option Value) (created : Except Raised Value) (response : Option Response) :
    ∃ actions final, (Session.machine limits).run session actions = some final ∧
      final.client = (session.client.run limits threadId created response).1 := by
  unfold run
  split
  · rename_i thread answer _
    let opened : Session :=
      { client := (session.client.openStream thread).1
        stream := some (session.client.openStream thread).2
        before := session.latest
        latest := { requested := thread, events := [], thread := none, root := none } }
    have taken : Session.step limits session (.run thread) = some opened := by
      rw [Session.step, closed]
    have stream_open : opened.stream = some (session.client.openStream thread).2 := rfl
    obtain ⟨actions, final, execution, same⟩ :=
      @session_of_follow limits opened _ stream_open answer.delivered
    exact ⟨.run thread :: actions, final, Session.run_step taken execution, same⟩
  · exact ⟨[], session, rfl, rfl⟩

/-! ## Calls the server refuses -/

/-- An event which starts or finishes a run. -/
def NamesRun (limits : Json.Limits) (data : Str) : Prop :=
  ∃ event, Json.loads limits data = .ok (.dict event) ∧
    (isEvent "RUN_STARTED" event = true ∨ isEvent "RUN_FINISHED" event = true)

/-- The server refuses the call: what it delivers, if anything, neither starts nor finishes a
run. -/
def Refused (limits : Json.Limits) (response : Option Response) : Prop :=
  ∀ answer, response = some answer → ∀ data ∈ answer.delivered, ¬NamesRun limits data

/-- The client stands on the thread it asks for with no asks, if a response is opened at all. -/
def HasNothingToLose (client : SoukClient) (threadId : Option Value)
    (created : Except Raised Value) (response : Option Response) : Prop :=
  ∀ thread answer, threadId.elim created .ok = .ok thread → response = some answer →
    client.lastThreadId = thread ∧ client.lastOutstandingAsks = []

/-- Events which name no run leave the client as it was. -/
theorem follow_refused {limits : Json.Limits} {client : SoukClient} {stream : RunStream}
    {datas : List Str} (unnamed : ∀ data ∈ datas, ¬NamesRun limits data) :
    (client.follow limits stream datas).1 = client := by
  induction datas generalizing client stream with
  | nil => rfl
  | cons data datas induction =>
      cases received : client.receive limits stream data with
      | error raised => rw [follow_cons_error received]
      | ok result =>
          obtain ⟨event, next, after⟩ := result
          obtain ⟨loaded, processed⟩ := receive_eq_ok.mp received
          have nameless := unnamed data List.mem_cons_self
          rw [follow_cons_ok received,
            induction fun later among => unnamed later (List.mem_cons_of_mem data among)]
          obtain ⟨started, _⟩ | ⟨_, same, _⟩ | ⟨_, same, _⟩ | ⟨finishes, _⟩ | ⟨_, same, _⟩ :=
            onEvent_cases processed
          · exact absurd ⟨event, loaded, .inl started⟩ nameless
          · exact same
          · exact same
          · exact absurd ⟨event, loaded, .inr finishes⟩ nameless
          · exact same

/-- A refused call leaves what the client remembers as it was precisely when the client has nothing
to lose by the opening of the response. -/
theorem run_refused_unchanged_iff {limits : Json.Limits} {response : Option Response}
    (refused : Refused limits response) (client : SoukClient) (threadId : Option Value)
    (created : Except Raised Value) :
    (client.run limits threadId created response).1 = client ↔
      client.HasNothingToLose threadId created response := by
  unfold run
  split
  · rename_i thread answer asked
    rw [follow_refused (refused answer rfl)]
    constructor
    · intro unchanged other response same opened
      obtain rfl := Except.ok.inj (asked.symm.trans same)
      exact ⟨(congrArg lastThreadId unchanged).symm, (congrArg lastOutstandingAsks unchanged).symm⟩
    · intro nothing
      obtain ⟨same, none_open⟩ := nothing thread answer asked rfl
      obtain ⟨lastThreadId, lastRunId, lastTaskId, lastOutstandingAsks⟩ := client
      simp only at same none_open
      rw [openStream, same, none_open]
  · rename_i unopened
    refine iff_of_true rfl fun thread answer asked opened => ?_
    exact absurd opened (unopened thread answer asked)

/-- A client whose run on the thread `t1` waits for the ask `a`. -/
def paused : SoukClient := ⟨.str "t1", .str "r1", .str "r1", [.str "a"]⟩

/-- An error status or a JSON snapshot. -/
def snapshot : Response := ⟨false, []⟩

theorem snapshot_refused : Refused Json.defaultLimits (some snapshot) := by
  intro answer same data delivered
  obtain rfl := Option.some.inj same
  cases delivered

theorem snapshot_unchanged_iff :
    (paused.run Json.defaultLimits (some (.str "t1")) (.error .runtimeError) (some snapshot)).1 =
        paused ↔
      paused.HasNothingToLose (some (.str "t1")) (.error .runtimeError) (some snapshot) :=
  run_refused_unchanged_iff snapshot_refused paused (some (.str "t1")) (.error .runtimeError)

theorem snapshot_loses_asks :
    Refused Json.defaultLimits (some snapshot) ∧
      (paused.run Json.defaultLimits (some (.str "t1")) (.error .runtimeError)
        (some snapshot)).1 ≠ paused := by
  refine ⟨snapshot_refused, fun same => ?_⟩
  have asks : paused.lastOutstandingAsks = [] := (congrArg lastOutstandingAsks same).symm
  cases asks

end SoukClient

/-! ## The asks the events of a stream leave -/

/-- The tool calls announced and not answered, in the order of their announcement. -/
def openCalls (events : List Dict) : List Value :=
  (toolCalls "TOOL_CALL_START" events).filter fun ask =>
    !ask.memberOf (toolCalls "TOOL_CALL_RESULT" events)

/-- The ids under which the interrupts are asked. -/
def namedAsks (interrupts : List Value) : List Value :=
  (interrupts.filterMap fun interrupt => (askOf interrupt).toOption).filter Value.truthy

/-- What the last `RUN_FINISHED` leaves open: the tool calls unanswered before it, and the ids of
the interrupts it names. -/
def asksLeft (events : List Dict) : List Value :=
  match lastFinish events with
  | none => []
  | some (before, finish) => openCalls before ++ (interruptAsks finish).filter Value.truthy

/-- No two of the values are equal. -/
def Distinct (values : List Value) : Prop :=
  values.Pairwise fun left right => left.same right = false

/-- A list of asks is, as a set, what the events leave open, and has nothing twice. -/
structure StatesAsks (events : List Dict) (asks : List Value) : Prop where
  once : Distinct asks
  left : ∀ ask ∈ asks, ask ∈ asksLeft events
  every : ∀ ask ∈ asksLeft events, ask ∈ asks ∨ ask.memberOf asks = true
  unfinished : lastFinish events = none → asks = []

/-- No tool call which the last `RUN_FINISHED` leaves open was announced twice. -/
def AnnouncedOnce (events : List Dict) : Prop :=
  match lastFinish events with
  | none => True
  | some (before, _) => Distinct (openCalls before)

section Interrupts

variable {outstanding asks : List Value}

theorem memberOf_eq_false {ask : Value} :
    ask.memberOf asks = false ↔ ∀ other ∈ asks, other.same ask = false := by
  simp [Value.memberOf]

/-- One round of the loop adds the ask of an interrupt, or finds nothing to add. -/
theorem addInterrupt_cases {interrupt : Value}
    (added : addInterrupt outstanding interrupt = .ok asks) :
    ∃ ask, askOf interrupt = .ok ask ∧
      ((ask.truthy = true ∧ ask.memberOf outstanding = false ∧ asks = outstanding ++ [ask]) ∨
        ((ask.truthy = true → ask.memberOf outstanding = true) ∧ asks = outstanding)) := by
  obtain ⟨ask, found, branch⟩ := bind_eq_ok.mp added
  refine ⟨ask, found, ?_⟩
  split at branch
  · rename_i fresh
    obtain rfl := Except.ok.inj branch
    exact .inl ⟨fresh.1, by simpa using fresh.2, rfl⟩
  · rename_i known
    obtain rfl := Except.ok.inj branch
    exact .inr ⟨fun truthy => by simpa [truthy] using known, rfl⟩

/-- The asks hold what was outstanding and then, once each, what is named. -/
structure Adds (named outstanding asks : List Value) : Prop where
  grown : outstanding <+: asks
  distinct : Distinct asks ↔ Distinct outstanding
  only : ∀ ask ∈ asks, ask ∈ outstanding ∨ ask ∈ named
  every : ∀ ask ∈ named, ask ∈ asks ∨ ask.memberOf asks = true

theorem Adds.nothing (outstanding : List Value) : Adds [] outstanding outstanding where
  grown := List.prefix_rfl
  distinct := Iff.rfl
  only _ among := .inl among
  every := by simp

theorem Adds.trans {early late outstanding middle asks : List Value}
    (first : Adds early outstanding middle) (second : Adds late middle asks) :
    Adds (early ++ late) outstanding asks where
  grown := first.grown.trans second.grown
  distinct := second.distinct.trans first.distinct
  only ask among := by
    rcases second.only ask among with old | new
    · exact (first.only ask old).imp_right (List.mem_append_left late)
    · exact .inr (List.mem_append_right early new)
  every ask named := by
    rcases List.mem_append.mp named with old | new
    · refine (first.every ask old).imp (second.grown.subset ·) fun known => ?_
      obtain ⟨other, among, same⟩ := List.any_eq_true.mp known
      exact List.any_eq_true.mpr ⟨other, second.grown.subset among, same⟩
    · exact second.every ask new

theorem adds_addInterrupt {interrupt : Value}
    (added : addInterrupt outstanding interrupt = .ok asks) :
    Adds (namedAsks [interrupt]) outstanding asks := by
  obtain ⟨ask, found, ⟨truthy, fresh, rfl⟩ | ⟨known, rfl⟩⟩ := addInterrupt_cases added
  · have named : namedAsks [interrupt] = [ask] := by
      simp [namedAsks, found, Except.toOption, truthy]
    rw [named]
    refine ⟨List.prefix_append _ _, ?_, fun other => List.mem_append.mp, ?_⟩
    · rw [Distinct, List.pairwise_append, and_iff_left]
      · rfl
      · simpa using memberOf_eq_false.mp fresh
    · intro other among
      exact .inl (List.mem_append_right outstanding among)
  · refine { Adds.nothing asks with only := fun _ among => .inl among, every := ?_ }
    intro other among
    obtain ⟨rfl, truthy⟩ : other = ask ∧ other.truthy = true := by
      simpa [namedAsks, found, Except.toOption] using among
    exact .inr (known truthy)

/-- The loop over the interrupts adds each of their asks once. -/
theorem adds_addInterrupts {interrupts : List Value}
    (added : interrupts.foldlM addInterrupt outstanding = .ok asks) :
    Adds (namedAsks interrupts) outstanding asks := by
  induction interrupts generalizing outstanding with
  | nil =>
      obtain rfl := Except.ok.inj added
      exact .nothing outstanding
  | cons interrupt interrupts induction =>
      rw [List.foldlM_cons] at added
      obtain ⟨next, first, rest⟩ := bind_eq_ok.mp added
      have split : namedAsks (interrupt :: interrupts) =
          namedAsks [interrupt] ++ namedAsks interrupts := by
        rw [namedAsks, namedAsks, namedAsks, ← List.filter_append, ← List.filterMap_append]
        rfl
      rw [split]
      exact (adds_addInterrupt first).trans (induction rest)

/-- What a `RUN_FINISHED` computes. -/
theorem adds_outstandingAsks {events : List Dict} {finish : Dict}
    (computed : outstandingAsks (toolCalls "TOOL_CALL_START" events)
      (toolCalls "TOOL_CALL_RESULT" events) finish = .ok asks) :
    Adds ((interruptAsks finish).filter Value.truthy) (openCalls events) asks := by
  obtain ⟨interrupts, named, taken⟩ := bind_eq_ok.mp computed
  obtain ⟨unansweredCalls, kept, added⟩ := bind_eq_ok.mp taken
  rw [interruptAsks, named, openCalls, ← unanswered_eq_ok kept]
  exact adds_addInterrupts added

end Interrupts

/-! ## The whole stream -/

/-- The asks a client remembers of a stream: those which its last `RUN_FINISHED` computed. -/
def ComputedFrom (events : List Dict) (asks : List Value) : Prop :=
  match lastFinish events with
  | none => asks = []
  | some (before, finish) =>
      outstandingAsks (toolCalls "TOOL_CALL_START" before) (toolCalls "TOOL_CALL_RESULT" before)
        finish = .ok asks

theorem statesAsks_iff {events : List Dict} {asks : List Value}
    (computed : ComputedFrom events asks) : StatesAsks events asks ↔ AnnouncedOnce events := by
  unfold ComputedFrom at computed
  unfold AnnouncedOnce
  split at computed
  · rename_i unfinished
    subst computed
    refine iff_of_true ?_ trivial
    exact ⟨List.Pairwise.nil, by simp, by simp [asksLeft, unfinished], fun _ => rfl⟩
  · rename_i before finish finished
    have adds := adds_outstandingAsks computed
    refine ⟨fun states => adds.distinct.mp states.once, fun once => ?_⟩
    refine ⟨adds.distinct.mpr once, ?_, ?_, fun unfinished => ?_⟩
    · simpa only [asksLeft, finished, List.mem_append] using adds.only
    · intro ask left
      rw [asksLeft, finished] at left
      rcases List.mem_append.mp left with call | named
      · exact .inl (adds.grown.subset call)
      · exact adds.every ask named
    · rw [finished] at unfinished
      cases unfinished

/-- The stream has followed these events, and the client remembers what they left. -/
structure Follows (events : List Dict) (client : SoukClient) (stream : RunStream) : Prop where
  announced : stream.announced = toolCalls "TOOL_CALL_START" events
  answered : stream.answered = toolCalls "TOOL_CALL_RESULT" events
  computed : ComputedFrom events client.lastOutstandingAsks

namespace Follows

variable {events : List Dict} {client next : SoukClient} {stream after : RunStream} {event : Dict}

theorem computed_other (follows : Follows events client stream)
    (other : isEvent "RUN_FINISHED" event = false) :
    ComputedFrom (events ++ [event]) client.lastOutstandingAsks := by
  rw [ComputedFrom, lastFinish_append_other other]
  exact follows.computed

/-- Every event yielded keeps the asks those its last `RUN_FINISHED` computed. -/
theorem onEvent (follows : Follows events client stream)
    (taken : client.onEvent stream event = .ok (next, after)) :
    Follows (events ++ [event]) next after := by
  obtain ⟨started, rfl, rfl⟩ | ⟨kind, rfl, rfl⟩ | ⟨kind, rfl, rfl⟩ | ⟨kind, rfl, left, found, rfl⟩ |
    ⟨others, rfl, rfl⟩ := SoukClient.onEvent_cases taken
  · have noCall : ∀ other ∈ ["TOOL_CALL_START", "TOOL_CALL_RESULT", "RUN_FINISHED"],
        isEvent other event = false := by
      intro other among
      refine Session.isEvent_other started ?_
      rintro rfl
      simp at among
    refine ⟨?_, ?_, follows.computed_other (noCall _ (by simp))⟩
    · simp [toolCalls_append, noCall, follows.announced]
    · simp [toolCalls_append, noCall, follows.answered]
  · have noResult := Session.isEvent_other kind (by decide : "TOOL_CALL_RESULT" ≠ "TOOL_CALL_START")
    have unfinished := Session.isEvent_other kind (by decide : "RUN_FINISHED" ≠ "TOOL_CALL_START")
    refine ⟨?_, ?_, follows.computed_other unfinished⟩
    · simp [toolCalls_append, kind, follows.announced]
    · simp [toolCalls_append, noResult, follows.answered]
  · have noStart := Session.isEvent_other kind (by decide : "TOOL_CALL_START" ≠ "TOOL_CALL_RESULT")
    have unfinished := Session.isEvent_other kind (by decide : "RUN_FINISHED" ≠ "TOOL_CALL_RESULT")
    refine ⟨?_, ?_, follows.computed_other unfinished⟩
    · simp [toolCalls_append, noStart, follows.announced]
    · simp [toolCalls_append, kind, follows.answered]
  · have noStart := Session.isEvent_other kind (by decide : "TOOL_CALL_START" ≠ "RUN_FINISHED")
    have noResult := Session.isEvent_other kind (by decide : "TOOL_CALL_RESULT" ≠ "RUN_FINISHED")
    refine ⟨?_, ?_, ?_⟩
    · simp [toolCalls_append, noStart, follows.announced]
    · simp [toolCalls_append, noResult, follows.answered]
    · rw [ComputedFrom, lastFinish_append_finish kind]
      rwa [follows.announced, follows.answered] at found
  · refine ⟨?_, ?_, follows.computed_other (others _ (by simp))⟩
    · simp [toolCalls_append, others, follows.announced]
    · simp [toolCalls_append, others, follows.answered]

/-- The event loop ends with the asks its last `RUN_FINISHED` computed. -/
theorem follow (follows : Follows events client stream) (limits : Json.Limits) (datas : List Str) :
    ComputedFrom (events ++ (client.follow limits stream datas).2)
      (client.follow limits stream datas).1.lastOutstandingAsks := by
  induction datas generalizing events client stream with
  | nil => simpa [SoukClient.follow] using follows.computed
  | cons data datas induction =>
      cases received : client.receive limits stream data with
      | error raised =>
          rw [SoukClient.follow_cons_error received, List.append_nil]
          exact follows.computed
      | ok result =>
          obtain ⟨event, next, after⟩ := result
          obtain ⟨_, processed⟩ := SoukClient.receive_eq_ok.mp received
          rw [SoukClient.follow_cons_ok received]
          simpa using induction (follows.onEvent processed)

end Follows

namespace SoukClient

/-- After a call whose response was opened, the asks state what the events of the stream leave open
precisely when none of the tool calls left open was announced twice. -/
theorem run_statesAsks_iff (limits : Json.Limits) (client : SoukClient) {threadId : Option Value}
    {created : Except Raised Value} {thread : Value}
    (asked : threadId.elim created .ok = .ok thread) (response : Response) :
    StatesAsks (client.run limits threadId created (some response)).2
        (client.run limits threadId created (some response)).1.lastOutstandingAsks ↔
      AnnouncedOnce (client.run limits threadId created (some response)).2 := by
  have opened : Follows [] (client.openStream thread).1 (client.openStream thread).2 :=
    ⟨rfl, rfl, rfl⟩
  rw [run_of_asked asked]
  exact statesAsks_iff (opened.follow limits response.delivered)

/-- A stream which announces the tool call `a` twice and finishes without an answer to it. -/
def announcedTwice : Response := ⟨true, [Session.asked, Session.asked, Session.finished]⟩

/-- The two events of that stream. -/
def callStart : Dict := [("type", .str "TOOL_CALL_START"), ("toolCallId", .str "a")]

def runFinished : Dict := [("type", .str "RUN_FINISHED")]

/-- A client on the thread `t1` with these asks. -/
def onThread (asks : List Value) : SoukClient := ⟨.str "t1", .null, .null, asks⟩

theorem run_announcedTwice :
    fresh.run Json.defaultLimits (some (.str "t1")) (.error .runtimeError) (some announcedTwice) =
      (onThread [.str "a", .str "a"], [callStart, callStart, runFinished]) := by
  have first : ∀ announced, (onThread []).receive Json.defaultLimits
      ⟨.str "t1", false, announced, []⟩ Session.asked =
        .ok (callStart, onThread [], ⟨.str "t1", false, announced ++ [.str "a"], []⟩) :=
    fun announced => receive_eq_ok.mpr ⟨Session.loads_asked, rfl⟩
  have last : (onThread []).receive Json.defaultLimits
      ⟨.str "t1", false, [.str "a", .str "a"], []⟩ Session.finished =
        .ok (runFinished, onThread [.str "a", .str "a"],
          ⟨.str "t1", false, [.str "a", .str "a"], []⟩) :=
    receive_eq_ok.mpr ⟨Session.loads_finished, rfl⟩
  have asked : (some (Value.str "t1")).elim (.error .runtimeError) .ok =
      (.ok (.str "t1") : Except Raised Value) := rfl
  calc fresh.run Json.defaultLimits (some (.str "t1")) (.error .runtimeError) (some announcedTwice)
      = (onThread []).follow Json.defaultLimits ⟨.str "t1", false, [], []⟩
          [Session.asked, Session.asked, Session.finished] := run_of_asked asked announcedTwice
    _ = (onThread [.str "a", .str "a"], [callStart, callStart, runFinished]) := by
      rw [follow_cons_ok (first []), List.nil_append, follow_cons_ok (first [.str "a"]),
        List.singleton_append, follow_cons_ok last]
      rfl

theorem announcedTwice_statesAsks_iff :
    StatesAsks
        (fresh.run Json.defaultLimits (some (.str "t1")) (.error .runtimeError)
          (some announcedTwice)).2
        (fresh.run Json.defaultLimits (some (.str "t1")) (.error .runtimeError)
          (some announcedTwice)).1.lastOutstandingAsks ↔
      AnnouncedOnce
        (fresh.run Json.defaultLimits (some (.str "t1")) (.error .runtimeError)
          (some announcedTwice)).2 :=
  run_statesAsks_iff Json.defaultLimits fresh rfl announcedTwice

/-- The repeated ask is in the list which the proof signs. -/
theorem announcedTwice_repeats_ask :
    ¬StatesAsks
        (fresh.run Json.defaultLimits (some (.str "t1")) (.error .runtimeError)
          (some announcedTwice)).2
        (fresh.run Json.defaultLimits (some (.str "t1")) (.error .runtimeError)
          (some announcedTwice)).1.lastOutstandingAsks := by
  rw [run_announcedTwice]
  rintro ⟨once, _⟩
  have different : (Value.str "a").same (.str "a") = false :=
    (List.pairwise_cons.mp once).1 _ List.mem_cons_self
  cases different

end SoukClient
end Souk.ClientSdk
