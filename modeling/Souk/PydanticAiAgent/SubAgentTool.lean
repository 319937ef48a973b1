import Souk.Library.Machine
import Souk.Python.Value

/-!
# Delegating to sub-agents

One process serves every run of an agent.  A table in it maps each parent thread to the
conversations this agent holds there, one for each sub-agent: it is read when a call starts and
written at every update of every stream, while any number of runs and calls interleave.
-/

namespace Souk.PydanticAiAgent

open Souk.Python

/-- `AgentDeps.sub_agent_context_ids`, by the name of the sub-agent. -/
abbrev ContextIds := AList fun _ : Str => Value

/-- What `call_sub_agent` has gathered from the updates of its stream. -/
structure Gathered where
  finalText : Str
  failed : Bool
  pending : Bool

namespace Gathered

/-- The state of an update: only two of them are told apart. -/
def onState (gathered : Gathered) (state : Value) : Gathered :=
  if state.eq (.str "TASK_STATE_FAILED") then { gathered with failed := true }
  else if state.eq (.str "TASK_STATE_INPUT_REQUIRED") then { gathered with pending := true }
  else gathered

/-- The loop over the parts of an artifact. -/
def onParts (gathered : Gathered) : List Value → Except Raised Gathered
  | [] => .ok gathered
  | part :: parts => do
      match ← part.getAttr "text" with
      | .str text => onParts { gathered with finalText := gathered.finalText ++ text } parts
      | _ => onParts gathered parts

/-- What the tool returns to the model. -/
def answer (gathered : Gathered) (name : Str) : Str :=
  if gathered.failed then
    str "(" ++ name ++ str " is currently unavailable — the call failed or timed out)"
  else if gathered.pending then
    str "(" ++ name ++ str (" needs more time to respond — e.g. it's waiting on human " ++
      "approval — and hasn't resolved yet; you'll be notified once it does, " ++
      "no need to call it again for this)")
  else if gathered.finalText = [] then str "(no response from " ++ name ++ str ")"
  else gathered.finalText

end Gathered

/-- `value.get(key, default)` on a dictionary. -/
def getDefault (value : Value) (key : Str) (default : Value) : Except Raised Value :=
  match value with
  | .dict fields => .ok ((fields.lookup key).getD default)
  | _ => .error .attributeError

/-- The two updates an item of the stream can carry, `update.get(kind) or {}`.  The item was spread
into the progress event before, which only an object can be. -/
def updatesOf : Value → Except Raised (Value × Value)
  | .dict update =>
      .ok ((Dict.get update "statusUpdate").orElse (.dict []),
        (Dict.get update "artifactUpdate").orElse (.dict []))
  | _ => .error .typeError

/-- `status_update.get("contextId") or artifact_update.get("contextId")` -/
def returnedContextId (statusUpdate artifactUpdate : Value) : Except Raised Value := do
  let contextId ← statusUpdate.getAttr "contextId"
  if contextId.truthy then return contextId
  artifactUpdate.getAttr "contextId"

/-- What follows the write of the contextId. -/
def gather (gathered : Gathered) (statusUpdate artifactUpdate : Value) :
    Except Raised Gathered := do
  let status ← getDefault statusUpdate "status" (.dict [])
  let state ← status.getAttr "state"
  let artifact := (← artifactUpdate.getAttr "artifact").orElse (.dict [])
  let parts ← (← getDefault artifact "parts" (.list [])).iterate
  (gathered.onState state).onParts parts

/-- One round of the loop over the updates: the context ids after it, and what it has gathered
unless it raises.  The progress event goes out first, on a queue without a bound. -/
def onUpdate (contextIds : ContextIds) (name : Str) (gathered : Gathered) (update : Value) :
    ContextIds × Except Raised Gathered :=
  match updatesOf update with
  | .error raised => (contextIds, .error raised)
  | .ok (statusUpdate, artifactUpdate) =>
      match returnedContextId statusUpdate artifactUpdate with
      | .error raised => (contextIds, .error raised)
      | .ok contextId =>
          (if contextId.truthy then contextIds.insert name contextId else contextIds,
            gather gathered statusUpdate artifactUpdate)

/-- `if context_id: message["contextId"] = context_id` -/
def sentContextId (contextId : Value) : Option Value :=
  if contextId.truthy then some contextId else none

/-- How far a call has come. -/
inductive Phase where
  | streaming (gathered : Gathered)
  | returned (text : Str)
  | raised

/-- One call of a sub-agent. -/
structure SubAgentCall where
  threadId : Str
  name : Str
  /-- The contextId of the message it sent. -/
  sent : Option Value
  phase : Phase

/-- The process of one agent.  `received` is a history variable: every update of every stream with
the call it was for, in the order of arrival. -/
structure AgentProcess where
  subThreads : AList fun _ : Str => ContextIds
  /-- The thread of each run. -/
  runs : List Str
  calls : List SubAgentCall
  received : List (Nat × Value)

namespace AgentProcess

/-- A process which has served no run. -/
def initial : AgentProcess := ⟨∅, [], [], []⟩

/-- `sub_threads.setdefault(thread_id, {})` -/
def contextIds (process : AgentProcess) (threadId : Str) : ContextIds :=
  (process.subThreads.lookup threadId).getD ∅

/-- The start of a run: its deps hold the table of its thread. -/
def startRun (process : AgentProcess) (threadId : Str) : AgentProcess :=
  { process with
    subThreads := process.subThreads.insert threadId (process.contextIds threadId)
    runs := process.runs ++ [threadId] }

/-- The call sends what the table of its thread holds for the sub-agent. -/
def startCall (process : AgentProcess) (threadId name : Str) : AgentProcess :=
  { process with
    calls := process.calls ++
      [{ threadId, name
         sent := sentContextId (((process.contextIds threadId).lookup name).getD .null)
         phase := .streaming ⟨[], false, false⟩ }] }

/-- An update of the stream of a call. -/
def receiveUpdate (process : AgentProcess) (index : Nat) (call : SubAgentCall)
    (gathered : Gathered) (update : Value) : AgentProcess :=
  let (contextIds, outcome) :=
    onUpdate (process.contextIds call.threadId) call.name gathered update
  let phase := match outcome with
    | .ok gathered => .streaming gathered
    | .error _ => .raised
  { process with
    subThreads := process.subThreads.insert call.threadId contextIds
    calls := process.calls.set index { call with phase }
    received := process.received ++ [(index, update)] }

/-- What can happen in the process. -/
inductive Action where
  | startRun (threadId : Str)
  /-- A run calls a sub-agent whose address is resolved. -/
  | startCall (run : Nat) (name : Str)
  | update (call : Nat) (update : Value)
  /-- The stream of a call ends, or raises. -/
  | endStream (call : Nat) (raises : Bool)

/-- One step of the process. -/
def step (process : AgentProcess) : Action → Option AgentProcess
  | .startRun threadId => some (process.startRun threadId)
  | .startCall run name => process.runs[run]?.map fun threadId => process.startCall threadId name
  | .update index update => do
      let call ← process.calls[index]?
      match call.phase with
      | .streaming gathered => some (process.receiveUpdate index call gathered update)
      | _ => none
  | .endStream index raises => do
      let call ← process.calls[index]?
      match call.phase with
      | .streaming gathered =>
          let phase := if raises then .raised else .returned (gathered.answer call.name)
          some { process with calls := process.calls.set index { call with phase } }
      | _ => none

/-- The process as a machine. -/
def machine : Machine AgentProcess Action where
  step := step

end AgentProcess

/-! ## The table is the last word of each conversation -/

/-- What stands under a key of an object, unless it is empty. -/
def under? (value : Value) (key : Str) : Option Value :=
  (value.asDict?.bind fun fields => fields.lookup key).filter Value.truthy

/-- The contextId an item of the stream returns: that of its status update and, where it has none,
that of its artifact update.  No item is read whose status update is there and is no object. -/
def contextIdOf (update : Value) : Option Value :=
  let ofArtifact :=
    (under? update "artifactUpdate").bind fun artifact => under? artifact "contextId"
  match under? update "statusUpdate" with
  | none => ofArtifact
  | some (.dict status) => (under? (.dict status) "contextId").or ofArtifact
  | some _ => none

theorem truthy_of_under? {value entry : Value} {key : Str} (found : under? value key = some entry) :
    entry.truthy = true :=
  (Option.filter_eq_some_iff.mp found).2

theorem truthy_of_contextIdOf {update contextId : Value}
    (returned : contextIdOf update = some contextId) : contextId.truthy = true := by
  have artifact (found : ((under? update "artifactUpdate").bind fun artifact =>
      under? artifact "contextId") = some contextId) : contextId.truthy = true := by
    obtain ⟨_, _, found⟩ := Option.bind_eq_some_iff.mp found
    exact truthy_of_under? found
  unfold contextIdOf at returned
  split at returned
  · exact artifact returned
  · rcases Option.or_eq_some_iff.mp returned with found | ⟨-, found⟩
    · exact truthy_of_under? found
    · exact artifact found
  · cases returned

/-- A missing key reads as `None`, which is empty. -/
theorem under?_dict (fields : Dict) (key : Str) :
    under? (.dict fields) key = (some (Dict.get fields key)).filter Value.truthy := by
  cases found : fields.lookup key <;>
    simp [under?, Value.asDict?, Dict.get, found, Option.filter_some, Value.truthy]

/-- `value.get(key) or {}` -/
theorem orElse_eq_under? (fields : Dict) (key : Str) :
    (Dict.get fields key).orElse (.dict []) = (under? (.dict fields) key).getD (.dict []) := by
  rw [under?_dict, Value.orElse]
  cases truthy : (Dict.get fields key).truthy <;> simp [Option.filter_some, truthy]

/-- What is under a key of a value is what `value.get(key)` reads, where that returns. -/
theorem getAttr_toOption (value : Value) (key : Str) :
    (value.getAttr key).toOption.filter Value.truthy = under? value key := by
  cases value with
  | dict fields => exact (under?_dict fields key).symm
  | null | bool | int | float | str | list => rfl

/-- The artifact update is asked only behind a status update which can be. -/
theorem returnedContextId_eq (statusUpdate artifactUpdate : Value) :
    (returnedContextId statusUpdate artifactUpdate).toOption.filter Value.truthy =
      statusUpdate.asDict?.bind fun _ =>
        (under? statusUpdate "contextId").or (under? artifactUpdate "contextId") := by
  cases statusUpdate with
  | dict status =>
      have read : returnedContextId (.dict status) artifactUpdate =
          if (Dict.get status "contextId").truthy then .ok (Dict.get status "contextId")
          else artifactUpdate.getAttr "contextId" := rfl
      rw [read, ← getAttr_toOption artifactUpdate, under?_dict]
      cases truthy : (Dict.get status "contextId").truthy <;>
        simp [Value.asDict?, truthy, Option.filter_some, Except.toOption]
  | null | bool | int | float | str | list => rfl

/-- An update writes the contextId it returns, if it returns one. -/
theorem onUpdate_contextIds (contextIds : ContextIds) (name : Str) (gathered : Gathered)
    (update : Value) :
    (onUpdate contextIds name gathered update).1 =
      (contextIdOf update).elim contextIds (contextIds.insert name) := by
  cases update with
  | dict fields =>
      have written : (onUpdate contextIds name gathered (.dict fields)).1 =
          ((returnedContextId ((Dict.get fields "statusUpdate").orElse (.dict []))
            ((Dict.get fields "artifactUpdate").orElse (.dict []))).toOption.filter
              Value.truthy).elim contextIds (contextIds.insert name) := by
        rw [onUpdate, updatesOf]
        dsimp only
        split
        · simp [*, Except.toOption]
        · rename_i contextId returned
          cases truthy : contextId.truthy <;>
            simp [returned, truthy, Option.filter_some, Except.toOption]
      have nothing : under? (.dict []) "contextId" = none := rfl
      rw [written, returnedContextId_eq, orElse_eq_under?, orElse_eq_under?, contextIdOf]
      congr 1
      cases under? (.dict fields) "artifactUpdate" <;>
        cases under? (.dict fields) "statusUpdate" with
        | none => simp [Value.asDict?, nothing]
        | some status => cases status <;> simp [Value.asDict?, nothing]
  | null | bool | int | float | str | list => rfl

namespace AgentProcess

variable {process next : AgentProcess} {action : Action} {threadId name : Str}

/-- The contextIds which a sub-agent has returned to the calls from a thread, in the order of their
arrival. -/
def returnedTo (process : AgentProcess) (threadId name : Str) : List Value :=
  process.received.filterMap fun entry =>
    (process.calls[entry.1]?).bind fun call =>
      if call.threadId = threadId ∧ call.name = name then contextIdOf entry.2 else none

/-- The table has, for each thread and sub-agent, the last contextId returned there. -/
structure Invariant (process : AgentProcess) : Prop where
  last : ∀ threadId name,
    (process.contextIds threadId).lookup name = (process.returnedTo threadId name).getLast?
  arrived : ∀ entry ∈ process.received, entry.1 < process.calls.length

/-- Every call is still there, with the thread and the sub-agent it had. -/
def KeepsCalls (process next : AgentProcess) : Prop :=
  ∀ (index : Nat) (call : SubAgentCall), process.calls[index]? = some call →
    ∃ after : SubAgentCall, next.calls[index]? = some after ∧ after.threadId = call.threadId ∧
      after.name = call.name

theorem keepsCalls_append {calls : List SubAgentCall}
    (appended : next.calls = process.calls ++ calls) : process.KeepsCalls next := by
  intro index call found
  refine ⟨call, ?_, rfl, rfl⟩
  rw [appended, List.getElem?_append_left (List.getElem?_eq_some_iff.mp found).1, found]

theorem keepsCalls_set {index : Nat} {call : SubAgentCall} {phase : Phase}
    (found : process.calls[index]? = some call)
    (replaced : next.calls = process.calls.set index { call with phase }) :
    process.KeepsCalls next := by
  intro other before before_found
  obtain ⟨inside, _⟩ := List.getElem?_eq_some_iff.mp found
  by_cases same : index = other
  · subst same
    obtain rfl := Option.some.inj (found.symm.trans before_found)
    exact ⟨{ call with phase }, by simp [replaced, inside], rfl, rfl⟩
  · exact ⟨before, by simpa [replaced, List.getElem?_set, same] using before_found, rfl, rfl⟩

theorem KeepsCalls.length_le (kept : process.KeepsCalls next) :
    process.calls.length ≤ next.calls.length := by
  by_contra shorter
  obtain ⟨after, found, _⟩ :=
    kept next.calls.length _ (List.getElem?_eq_getElem (not_le.mp shorter))
  rw [List.getElem?_eq_none le_rfl] at found
  cases found

/-- What the updates received so far returned does not depend on how the calls go on. -/
theorem KeepsCalls.returnedTo_append (kept : process.KeepsCalls next)
    (arrived : ∀ entry ∈ process.received, entry.1 < process.calls.length) (threadId name : Str)
    {later : List (Nat × Value)} (received : next.received = process.received ++ later) :
    next.returnedTo threadId name = process.returnedTo threadId name ++
      later.filterMap fun entry => (next.calls[entry.1]?).bind fun call =>
        if call.threadId = threadId ∧ call.name = name then contextIdOf entry.2 else none := by
  rw [returnedTo, received, List.filterMap_append, returnedTo]
  congr 1
  apply List.filterMap_congr
  intro entry among
  have found := List.getElem?_eq_getElem (arrived entry among)
  obtain ⟨after, after_found, same_thread, same_name⟩ := kept entry.1 _ found
  simp [found, after_found, same_thread, same_name]

theorem contextIds_of_insert {contextIds : ContextIds}
    (inserted : next.subThreads = process.subThreads.insert threadId contextIds) (other : Str) :
    next.contextIds other = if other = threadId then contextIds else process.contextIds other := by
  rw [AgentProcess.contextIds, inserted]
  split
  · rename_i same
    rw [same, AList.lookup_insert, Option.getD_some]
  · rename_i different
    rw [AList.lookup_insert_ne different, AgentProcess.contextIds]

/-- A step which receives nothing and leaves the table as it reads. -/
theorem Invariant.unreceived (invariant : Invariant process) (kept : process.KeepsCalls next)
    (table : ∀ threadId, next.contextIds threadId = process.contextIds threadId)
    (received : next.received = process.received) : Invariant next where
  last threadId name := by
    have same := kept.returnedTo_append invariant.arrived threadId name
      (received.trans (List.append_nil _).symm)
    rw [table, same, invariant.last]
    simp
  arrived entry among :=
    (invariant.arrived entry (received ▸ among)).trans_le kept.length_le

theorem Invariant.receiveUpdate (invariant : Invariant process) {index : Nat}
    {call : SubAgentCall} (found : process.calls[index]? = some call) (gathered : Gathered)
    (update : Value) : Invariant (process.receiveUpdate index call gathered update) := by
  have kept : process.KeepsCalls (process.receiveUpdate index call gathered update) :=
    keepsCalls_set found rfl
  obtain ⟨after, after_found, after_thread, after_name⟩ := kept index call found
  constructor
  · intro threadId name
    have table : (process.receiveUpdate index call gathered update).subThreads =
        process.subThreads.insert call.threadId
          ((contextIdOf update).elim (process.contextIds call.threadId)
            ((process.contextIds call.threadId).insert call.name)) := by
      rw [← onUpdate_contextIds _ _ gathered]
      rfl
    rw [contextIds_of_insert table, kept.returnedTo_append invariant.arrived threadId name rfl,
      List.filterMap_cons, after_found, Option.bind_some, after_thread, after_name,
      List.filterMap_nil]
    by_cases own : threadId = call.threadId ∧ name = call.name
    · obtain ⟨rfl, rfl⟩ := own
      cases returned : contextIdOf update with
      | none => simpa [returned] using invariant.last call.threadId call.name
      | some contextId => simp
    · have elsewhere : ¬(call.threadId = threadId ∧ call.name = name) :=
        fun same => own ⟨same.1.symm, same.2.symm⟩
      rw [if_neg elsewhere, List.append_nil, ← invariant.last]
      split
      · rename_i same
        have different : name ≠ call.name := fun same_name => own ⟨same, same_name⟩
        cases contextIdOf update with
        | none => rw [same, Option.elim_none]
        | some contextId => rw [same, Option.elim_some, AList.lookup_insert_ne different]
      · rfl
  · intro entry among
    rcases List.mem_append.mp among with old | new
    · exact (invariant.arrived entry old).trans_le kept.length_le
    · obtain rfl := List.mem_singleton.mp new
      exact (List.getElem?_eq_some_iff.mp after_found).1

/-- Every step keeps the table and the history in agreement. -/
theorem Invariant.step (invariant : Invariant process)
    (taken : machine.step process action = some next) : Invariant next := by
  cases action with
  | startRun threadId =>
      obtain rfl := Option.some.inj taken
      refine invariant.unreceived (keepsCalls_append (List.append_nil _).symm) ?_ rfl
      intro other
      rw [contextIds_of_insert rfl]
      split
      · rename_i same
        rw [same]
      · rfl
  | startCall run name =>
      obtain ⟨threadId, _, rfl⟩ := Option.map_eq_some_iff.mp taken
      exact invariant.unreceived (keepsCalls_append rfl) (fun _ => rfl) rfl
  | update index update =>
      obtain ⟨call, found, taken⟩ := Option.bind_eq_some_iff.mp taken
      split at taken
      · obtain rfl := Option.some.inj taken
        exact invariant.receiveUpdate found _ update
      · cases taken
  | endStream index raises =>
      obtain ⟨call, found, taken⟩ := Option.bind_eq_some_iff.mp taken
      split at taken
      · obtain rfl := Option.some.inj taken
        exact invariant.unreceived (keepsCalls_set found rfl) (fun _ => rfl) rfl
      · cases taken

theorem invariant_initial : Invariant initial :=
  ⟨fun _ _ => rfl, fun _ among => by cases among⟩

/-- A contextId returned to a thread came with an update of one of its calls. -/
theorem mem_returnedTo {contextId : Value}
    (returned : contextId ∈ process.returnedTo threadId name) :
    ∃ (index : Nat) (call : SubAgentCall) (update : Value), process.calls[index]? = some call ∧
      call.threadId = threadId ∧ call.name = name ∧ (index, update) ∈ process.received ∧
        contextIdOf update = some contextId := by
  obtain ⟨⟨index, update⟩, received, carried⟩ := List.mem_filterMap.mp returned
  obtain ⟨call, found, carried⟩ := Option.bind_eq_some_iff.mp carried
  split at carried
  · rename_i own
    exact ⟨index, call, update, found, own.1, own.2, received, carried⟩
  · cases carried

/-- In every run of the process, whatever its runs and calls interleave to, a call sends the last
contextId which its sub-agent has returned to a call from the same thread, and none if it has
returned none.  What it sends was returned in an update of an earlier call from that thread. -/
theorem startCall_sends {actions : List Action} {run : Nat}
    (execution : machine.run initial actions = some process)
    (taken : machine.step process (.startCall run name) = some next) :
    ∃ call, next.calls = process.calls ++ [call] ∧ process.runs[run]? = some call.threadId ∧
      call.name = name ∧ call.sent = (process.returnedTo call.threadId name).getLast? ∧
      ∀ contextId, call.sent = some contextId →
        ∃ (index : Nat) (earlier : SubAgentCall) (update : Value),
          process.calls[index]? = some earlier ∧ earlier.threadId = call.threadId ∧
            earlier.name = name ∧ (index, update) ∈ process.received ∧
              contextIdOf update = some contextId := by
  have invariant : Invariant process :=
    Machine.run_invariant Invariant.step invariant_initial execution
  obtain ⟨threadId, found, rfl⟩ := Option.map_eq_some_iff.mp taken
  have sends : sentContextId (((process.contextIds threadId).lookup name).getD .null) =
      (process.returnedTo threadId name).getLast? := by
    rw [invariant.last]
    cases last : (process.returnedTo threadId name).getLast? with
    | none => rfl
    | some contextId =>
        obtain ⟨_, _, update, _, _, _, _, carried⟩ :=
          mem_returnedTo (List.mem_of_getLast? last)
        rw [Option.getD_some, sentContextId, if_pos (truthy_of_contextIdOf carried)]
  refine ⟨_, rfl, found, rfl, sends, fun contextId sent => ?_⟩
  exact mem_returnedTo (List.mem_of_getLast? (sends.symm.trans sent))

/-- An update which returns a contextId. -/
def returning (contextId : Str) : Value :=
  .dict [("statusUpdate", .dict [("contextId", .str contextId)])]

/-- Runs on the threads `t` and `u`, of which the first has called the sub-agent `s`. -/
def interleaved : List Action :=
  [.startRun "t", .startRun "u", .startCall 0 "s", .update 0 (returning "c")]

/-- The process after these steps. -/
def interleavedProcess : AgentProcess := (machine.run initial interleaved).getD initial

theorem startCall_sends_interleaved :
    ∃ call, (interleavedProcess.startCall "t" "s").calls = interleavedProcess.calls ++ [call] ∧
      interleavedProcess.runs[0]? = some call.threadId ∧ call.name = str "s" ∧
      call.sent = (interleavedProcess.returnedTo call.threadId "s").getLast? ∧
      ∀ contextId, call.sent = some contextId →
        ∃ (index : Nat) (earlier : SubAgentCall) (update : Value),
          interleavedProcess.calls[index]? = some earlier ∧ earlier.threadId = call.threadId ∧
            earlier.name = str "s" ∧ (index, update) ∈ interleavedProcess.received ∧
              contextIdOf update = some contextId :=
  have execution : machine.run initial interleaved = some interleavedProcess := rfl
  have taken : machine.step interleavedProcess (.startCall 0 "s") =
      some (interleavedProcess.startCall "t" "s") := rfl
  startCall_sends execution taken

/-- The thread `t` goes on where it was, and `u` starts anew. -/
example : (interleavedProcess.startCall "t" "s").calls.map SubAgentCall.sent =
      [none, some (.str "c")] ∧
    (interleavedProcess.startCall "u" "s").calls.map SubAgentCall.sent = [none, none] :=
  ⟨rfl, rfl⟩

end AgentProcess
end Souk.PydanticAiAgent
