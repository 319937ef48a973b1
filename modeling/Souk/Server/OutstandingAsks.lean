import Souk.Server.ApiA2A

/-!
# What a task waits on

Six operations of the A2A door hand out Tasks.  Three of them put the ids of the open asks under
`metadata.funduq`, where core's own keys stand; the streams and the pages hand core's Tasks on.
-/

namespace Souk.Server.ApiA2A

open Souk.Python

/-! ## The other operations -/

/-- What core raises at a message. -/
inductive CoreRaised where
  | agentNotFound (message : Str)
  | presenterRequired (message : Str)
  | threadQueueFull (message : Str)
  | a2a (error : A2AError)

/-- What leaves the handler: an `HTTPException`, or an error the dispatcher relays. -/
inductive Escaped where
  | http (statusCode : Nat) (detail : Message) (headers : List (Str × Str))
  | a2a (error : A2AError)

/-- `_escape` -/
def escape : CoreRaised → Escaped
  | .agentNotFound message => .http 404 { format := "%s", values := [.str message] } []
  | .presenterRequired message => .http 401 { format := "%s", values := [.str message] } []
  | .threadQueueFull message =>
      .http 429
        { format := "%s — retry after a moment; the request was not accepted"
          values := [.str message] }
        [("Retry-After", "1")]
  | .a2a error => .a2a error

/-- The inherited operations which act. -/
structure Acting where
  onMessageSend : Dict → Except CoreRaised (Task ⊕ Dict)
  /-- The events it yields, and the exception which ends them, if one does. -/
  onMessageSendStream : Dict → List StreamEvent × Option CoreRaised
  onCancelTask : Dict → Except A2AError (Option Task)

/-- `on_message_send` -/
def onMessageSend (packages : Packages) (core : Core) (acting : Acting) (params : Dict) :
    Except Escaped (Task ⊕ Dict) :=
  match acting.onMessageSend params with
  | .ok (.inl sent) => .ok (.inl (annotateAsks packages core sent))
  | .ok (.inr message) => .ok (.inr message)
  | .error raised => .error (escape raised)

/-- `on_message_send_stream` -/
def onMessageSendStream (acting : Acting) (params : Dict) : List StreamEvent × Option Escaped :=
  let (events, raised) := acting.onMessageSendStream params
  (events, raised.map escape)

/-- `on_cancel_task` -/
def onCancelTask (packages : Packages) (core : Core) (acting : Acting) (params : Dict) :
    Except A2AError (Option Task) := do
  let task ← acting.onCancelTask params
  return task.map (annotateAsks packages core)

/-- A request for an operation which returns Tasks. -/
inductive Operation where
  | sendMessage (params : Dict)
  | sendStreamingMessage (params : Dict)
  | getTask (agent : AgentRef) (presenterKey : Except Raised (Option Str)) (params : TaskRequest)
  | cancelTask (params : Dict)
  | subscribeToTask (agent : AgentRef) (presenterKey : Except Raised (Option Str))
      (params : TaskRequest)
  | listTasks (agent : AgentRef) (presenterKey : Except Raised (Option Str))
      (params : ListTasksRequest)

/-- The Tasks among the events of a stream. -/
def streamTasks (events : List StreamEvent) : List Task :=
  events.filterMap fun event =>
    match event with
    | .task task => some task
    | .other _ => none

/-- The Task a message is answered with, if it is one. -/
def sentTask {Error : Type} : Except Error (Task ⊕ Dict) → List Task
  | .ok (.inl task) => [task]
  | _ => []

/-- The Task a request names, if there is one. -/
def namedTask {Error : Type} : Except Error (Option Task) → List Task
  | .ok (some task) => [task]
  | _ => []

/-- The Tasks on a page. -/
def pageTasks {Error : Type} : Except Error ListTasksResponse → List Task
  | .ok page => page.tasks
  | .error _ => []

/-- The Tasks of a subscription. -/
def subscribedTasks {Error : Type} : Except Error (List StreamEvent) → List Task
  | .ok events => streamTasks events
  | .error _ => []

/-- The presenter of a request may read the thread; an exception of the hook admits nobody. -/
def admits (record : Record) (threadId : Str) : Except Raised (Option Str) → Bool
  | .ok key => mayRead record threadId key
  | .error _ => false

namespace Operation

/-- The Tasks the door hands back, in their order. -/
def handedBack (packages : Packages) (core : Core) (acting : Acting) : Operation → List Task
  | sendMessage params => sentTask (ApiA2A.onMessageSend packages core acting params)
  | sendStreamingMessage params => streamTasks (ApiA2A.onMessageSendStream acting params).1
  | getTask agent presenterKey params =>
      namedTask (onGetTask packages core agent presenterKey params)
  | cancelTask params => namedTask (ApiA2A.onCancelTask packages core acting params)
  | subscribeToTask agent presenterKey params =>
      subscribedTasks (onSubscribeToTask packages core agent presenterKey params)
  | listTasks agent presenterKey params =>
      pageTasks (onListTasks packages core agent presenterKey params)

/-- The Tasks as core hands them to the door, those withheld from the presenter left out. -/
def fromCore (packages : Packages) (core : Core) (acting : Acting) : Operation → List Task
  | sendMessage params => sentTask (acting.onMessageSend params)
  | sendStreamingMessage params => streamTasks (acting.onMessageSendStream params).1
  | getTask agent presenterKey params =>
      (namedTask (superGetTask packages core agent params)).filter fun task =>
        admits core.record task.contextId presenterKey
  | cancelTask params => namedTask (acting.onCancelTask params)
  | subscribeToTask agent presenterKey params =>
      if (core.getRun params.id).all fun run => admits core.record run.threadId presenterKey then
        subscribedTasks (superSubscribe packages core agent params)
      else []
  | listTasks agent presenterKey params =>
      if params.contextId = [] ∨ admits core.record params.contextId presenterKey = true then
        pageTasks (superListTasks packages core agent params)
      else []

/-- The operation passes its Task through `_annotate_asks`. -/
def Annotates : Operation → Prop
  | sendMessage _ | getTask _ _ _ | cancelTask _ => True
  | sendStreamingMessage _ | subscribeToTask _ _ _ | listTasks _ _ _ => False

end Operation

/-! ## What a Task says -/

/-- The fields under `metadata.funduq`. -/
def funduqFields (task : Task) : Dict :=
  match task.metadata.lookup (str "funduq") with
  | some (.dict fields) => fields
  | _ => []

/-- What stands under `metadata.funduq.outstandingAsks`. -/
def outstandingAsks (task : Task) : Option Value :=
  (funduqFields task).lookup (str "outstandingAsks")

/-- The open asks of the run at the tail of the task's lineage. -/
def tailAsks (packages : Packages) (core : Core) (task : Task) : List Str :=
  match (core.lineage task.id).getLast? with
  | none => []
  | some tail => packages.openAsks (core.getRunEvents tail.runId)

/-- The list a caller reads. -/
def sortedAsks (asks : List Str) : Value := .list ((sortedNames asks).map Value.str)

/-- The Task says what it waits on, and is otherwise as core made it. -/
structure Announces (packages : Packages) (core : Core) (original shown : Task) : Prop where
  id : shown.id = original.id
  contextId : shown.contextId = original.contextId
  body : shown.body = original.body
  asks : outstandingAsks shown =
    if tailAsks packages core original = [] then none
    else some (sortedAsks (tailAsks packages core original))
  metadata : ∀ key, key ≠ str "funduq" → shown.metadata.lookup key = original.metadata.lookup key
  funduq : ∀ key, key ≠ str "outstandingAsks" →
    (funduqFields shown).lookup key = (funduqFields original).lookup key

/-- What is relied on of core and of its packages: `funduq_metadata_of` reads `metadata.funduq`, and
core's own keys there are others than the door's. -/
structure LawfulTasks (packages : Packages) (core : Core) (acting : Acting) : Prop where
  funduqMetadataOf : ∀ task, packages.funduqMetadataOf task = funduqFields task
  unannounced : ∀ operation : Operation, ∀ task ∈ operation.fromCore packages core acting,
    outstandingAsks task = none

section Announces

variable {packages : Packages} {core : Core} {acting : Acting} {task : Task}

theorem annotateAsks_eq (packages : Packages) (core : Core) (task : Task) :
    annotateAsks packages core task =
      if tailAsks packages core task = [] then task
      else { task with
        metadata := Dict.set task.metadata "funduq" (.dict (Dict.set (packages.funduqMetadataOf task)
          "outstandingAsks" (sortedAsks (tailAsks packages core task)))) } := by
  rw [annotateAsks, tailAsks]
  cases (core.lineage task.id).getLast? with
  | none => rfl
  | some tail =>
      simp only
      cases packages.openAsks (core.getRunEvents tail.runId) <;> rfl

/-- A Task which waits on nothing is announced as it is. -/
theorem announces_self_iff (unannounced : outstandingAsks task = none) :
    Announces packages core task task ↔ tailAsks packages core task = [] := by
  constructor
  · intro announces
    by_contra waiting
    have asks := announces.asks
    rw [unannounced, if_neg waiting] at asks
    cases asks
  · intro idle
    refine ⟨rfl, rfl, rfl, ?_, fun _ _ => rfl, fun _ _ => rfl⟩
    rw [unannounced, if_pos idle]

/-- The keys beside the door's own survive, under `funduq` as well as outside. -/
theorem announces_annotateAsks
    (funduqMetadataOf : packages.funduqMetadataOf task = funduqFields task)
    (unannounced : outstandingAsks task = none) :
    Announces packages core task (annotateAsks packages core task) := by
  rw [annotateAsks_eq]
  by_cases idle : tailAsks packages core task = []
  · rw [if_pos idle]
    exact (announces_self_iff unannounced).mpr idle
  · rw [if_neg idle]
    have fields : funduqFields { task with
        metadata := Dict.set task.metadata "funduq" (.dict (Dict.set (packages.funduqMetadataOf task)
          "outstandingAsks" (sortedAsks (tailAsks packages core task)))) } =
        Dict.set (funduqFields task) "outstandingAsks"
          (sortedAsks (tailAsks packages core task)) := by
      rw [funduqFields, Dict.lookup_set_self, funduqMetadataOf]
    refine ⟨rfl, rfl, rfl, ?_, fun key other => ?_, fun key other => ?_⟩
    · rw [outstandingAsks, fields, Dict.lookup_set_self, if_neg idle]
    · exact Dict.lookup_set_of_ne other
    · rw [fields, Dict.lookup_set_of_ne other]

end Announces

/-! ## The six operations -/

section Operations

variable {packages : Packages} {core : Core} {acting : Acting} {operation : Operation}

theorem subscribedTasks_mapError {result : Except A2AError (List StreamEvent)} :
    subscribedTasks (result.mapError Fault.a2a) = subscribedTasks result := by
  cases result <;> rfl

theorem pageTasks_mapError {result : Except A2AError ListTasksResponse} :
    pageTasks (result.mapError Fault.a2a) = pageTasks result := by
  cases result <;> rfl

/-- Three operations annotate what core hands them. -/
theorem handedBack_of_annotates (annotates : operation.Annotates) :
    operation.handedBack packages core acting =
      (operation.fromCore packages core acting).map (annotateAsks packages core) := by
  cases operation with
  | sendMessage params =>
      rw [Operation.handedBack, Operation.fromCore, onMessageSend]
      rcases acting.onMessageSend params with raised | sent | message <;> rfl
  | getTask agent presenterKey params =>
      rw [Operation.handedBack, Operation.fromCore, onGetTask]
      rcases superGetTask packages core agent params with error | missing | task
      · rfl
      · rfl
      · cases presenterKey with
        | error raised => rfl
        | ok key =>
            cases readable : mayRead core.record task.contextId key <;>
              simp [namedTask, admits, readable, Except.mapError, bind, Except.bind, pure,
                Except.pure]
  | cancelTask params =>
      rw [Operation.handedBack, Operation.fromCore, onCancelTask]
      rcases acting.onCancelTask params with error | missing | task <;> rfl
  | sendStreamingMessage | subscribeToTask | listTasks => exact annotates.elim

/-- The others hand it on. -/
theorem handedBack_of_not_annotates (relays : ¬operation.Annotates) :
    operation.handedBack packages core acting = operation.fromCore packages core acting := by
  cases operation with
  | sendStreamingMessage params => rfl
  | subscribeToTask agent presenterKey params =>
      rw [Operation.handedBack, Operation.fromCore]
      cases found : core.getRun params.id with
      | none =>
          rw [onSubscribeToTask_missing found, subscribedTasks_mapError]
          rfl
      | some run =>
          rw [onSubscribeToTask_found found]
          cases presenterKey with
          | error raised => rfl
          | ok key =>
              cases readable : mayRead core.record run.threadId key with
              | true => simpa [admits, readable] using subscribedTasks_mapError
              | false => simp [admits, readable, subscribedTasks]
  | listTasks agent presenterKey params =>
      rw [Operation.handedBack, Operation.fromCore]
      by_cases unnamed : params.contextId = []
      · rw [onListTasks_unnamed unnamed, if_pos (.inl unnamed), pageTasks_mapError]
      · rw [onListTasks_named unnamed]
        cases presenterKey with
        | error raised => simp [admits, unnamed, pageTasks]
        | ok key =>
            cases readable : mayRead core.record params.contextId key with
            | true => simpa [admits, unnamed, readable] using pageTasks_mapError
            | false => simp [admits, unnamed, readable, pageTasks]
  | sendMessage | getTask | cancelTask => exact absurd trivial relays

/-- Every Task an operation hands back says what it waits on, if the operation annotates it or none of
its Tasks waits on anything; and in no other case. -/
theorem tasks_announced_iff (lawful : LawfulTasks packages core acting) (operation : Operation) :
    List.Forall₂ (Announces packages core) (operation.fromCore packages core acting)
        (operation.handedBack packages core acting) ↔
      operation.Annotates ∨
        ∀ task ∈ operation.fromCore packages core acting, tailAsks packages core task = [] := by
  by_cases annotates : operation.Annotates
  · simp only [annotates, true_or, iff_true, handedBack_of_annotates annotates]
    rw [List.forall₂_map_right_iff, List.forall₂_same]
    intro task among
    exact announces_annotateAsks (lawful.funduqMetadataOf task)
      (lawful.unannounced operation task among)
  · simp only [annotates, false_or, handedBack_of_not_annotates annotates]
    rw [List.forall₂_same]
    refine forall_congr' fun task => forall_congr' fun among => ?_
    exact announces_self_iff (lawful.unannounced operation task among)

end Operations

/-! A run which has asked `ask`, on a thread anybody may read. -/

/-- Its Task, as core makes it. -/
def pausedTask : Task := ⟨"r", "t", [("funduq", .dict [("interrupts", .list [])])], []⟩

/-- Core with this run. -/
def pausedCore : Core where
  record :=
    { getThread := fun _ => some ⟨"p", "a"⟩
      partiesOf := fun _ => none
      getThreadMessages := fun _ => []
      listsAgent := fun _ _ => true }
  getRun _ := some ⟨"r", "t"⟩
  lineage _ := [⟨"r", "t"⟩]
  getRunEvents _ := [.dict [("type", .str "RUN_FINISHED")]]
  adapterGetTask _ _ := .found pausedTask
  adapterSubscribe _ _ := .ok [.task pausedTask]
  adapterListTasks _ _ := .ok ⟨[pausedTask], [], 1, 1⟩

def pausedActing : Acting where
  onMessageSend _ := .ok (.inl pausedTask)
  onMessageSendStream _ := ([.task pausedTask], none)
  onCancelTask _ := .ok (some pausedTask)

/-- Packages which find the ask `ask` among the events of a run. -/
def askingPackages : Packages where
  validateGetTask _ := none
  validateSubscribe _ := none
  validateListTasks _ := none
  openAsks events := if events.isEmpty then [] else ["ask"]
  funduqMetadataOf := funduqFields

theorem lawful_pausedCore : LawfulTasks askingPackages pausedCore pausedActing where
  funduqMetadataOf _ := rfl
  unannounced operation task among := by
    have paused : task = pausedTask := by
      cases operation with
      | sendMessage | sendStreamingMessage | cancelTask => exact List.mem_singleton.mp among
      | getTask agent presenterKey params =>
          exact List.mem_singleton.mp (List.mem_filter.mp among).1
      | subscribeToTask agent presenterKey params =>
          simp only [Operation.fromCore] at among
          split at among
          · exact List.mem_singleton.mp among
          · cases among
      | listTasks agent presenterKey params =>
          simp only [Operation.fromCore] at among
          split at among
          · exact List.mem_singleton.mp among
          · cases among
    rw [paused]
    rfl

/-- A page of the thread `t`. -/
def pageRequest : Operation := .listTasks ⟨"p", "a"⟩ (.ok none) ⟨"t", []⟩

theorem paused_tasks_announced_iff :
    LawfulTasks askingPackages pausedCore pausedActing ∧
      (List.Forall₂ (Announces askingPackages pausedCore)
          (pageRequest.fromCore askingPackages pausedCore pausedActing)
          (pageRequest.handedBack askingPackages pausedCore pausedActing) ↔
        pageRequest.Annotates ∨
          ∀ task ∈ pageRequest.fromCore askingPackages pausedCore pausedActing,
            tailAsks askingPackages pausedCore task = []) :=
  ⟨lawful_pausedCore, tasks_announced_iff lawful_pausedCore pageRequest⟩

/-- The page shows a paused task, and not what it waits on. -/
theorem page_without_asks :
    pageRequest.handedBack askingPackages pausedCore pausedActing = [pausedTask] ∧
      tailAsks askingPackages pausedCore pausedTask = ["ask"] ∧
      ¬List.Forall₂ (Announces askingPackages pausedCore)
        (pageRequest.fromCore askingPackages pausedCore pausedActing)
        (pageRequest.handedBack askingPackages pausedCore pausedActing) := by
  refine ⟨rfl, rfl, fun announced => ?_⟩
  have announces : Announces askingPackages pausedCore pausedTask pausedTask := by
    cases announced with
    | cons first _ => exact first
  cases announces.asks

end Souk.Server.ApiA2A
