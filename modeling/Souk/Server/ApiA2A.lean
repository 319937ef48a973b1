import Souk.Server.Reads

/-!
# The reading operations of the A2A door

`SoukA2ARequestHandler` inherits its operations and adds three decisions: who may read, which asks a
waiting task names, and how a refusal looks.  The inherited part is not in this repository.  It
validates a request by itself and then asks core's adapter.
-/

namespace Souk.Server.ApiA2A

open Souk.Python

/-- An error the dispatcher relays. -/
structure A2AError where
  code : Int
  message : Message

/-- The code of `TaskNotFoundError`. -/
def taskNotFoundCode : Int := -32001

/-- The code of a server fault. -/
def internalErrorCode : Int := -32603

def taskNotFound (message : Message) : A2AError := ⟨taskNotFoundCode, message⟩

/-- What leaves an operation in place of a result: an error the dispatcher relays, or an exception
which it reports as a fault of the server. -/
inductive Fault where
  | a2a (error : A2AError)
  | raised (error : Raised)

/-- The code the caller is told. -/
def Fault.code : Fault → Int
  | a2a error => error.code
  | raised _ => internalErrorCode

/-- A `Task` message. -/
structure Task where
  id : Str
  contextId : Str
  metadata : Dict
  /-- Its remaining fields. -/
  body : Dict

/-- An event of a stream. -/
inductive StreamEvent where
  | task (task : Task)
  /-- A message, or an update of a status or of an artifact. -/
  | other (event : Value)

structure Run where
  runId : Str
  threadId : Str

/-- The agent a handler is bound to: its provider's key and its name. -/
structure AgentRef where
  providerKey : Str
  name : Str

/-- A `GetTaskRequest` or a `SubscribeToTaskRequest`. -/
structure TaskRequest where
  id : Str
  options : Dict

structure ListTasksRequest where
  contextId : Str
  options : Dict

structure ListTasksResponse where
  tasks : List Task
  nextPageToken : Str
  pageSize : Nat
  totalSize : Nat

/-- What core's adapter answers for a task id. -/
inductive AdapterTask where
  /-- It raises `TaskNotFoundError`. -/
  | missing (message : Message)
  /-- The task belongs to another agent. -/
  | foreign
  | found (task : Task)

/-- Core at one moment, as this door asks it. -/
structure Core where
  record : Record
  getRun : Str → Option Run
  lineage : Str → List Run
  getRunEvents : Str → List Value
  adapterGetTask : AgentRef → TaskRequest → AdapterTask
  adapterSubscribe : AgentRef → TaskRequest → Except A2AError (List StreamEvent)
  adapterListTasks : AgentRef → ListTasksRequest → Except A2AError ListTasksResponse

/-- The functions of the two packages which depend on no state. -/
structure Packages where
  validateGetTask : TaskRequest → Option A2AError
  validateSubscribe : TaskRequest → Option A2AError
  validateListTasks : ListTasksRequest → Option A2AError
  openAsks : List Value → List Str
  funduqMetadataOf : Task → Dict

/-! ## What is inherited -/

/-- `super().on_get_task` -/
def superGetTask (packages : Packages) (core : Core) (agent : AgentRef) (params : TaskRequest) :
    Except A2AError (Option Task) :=
  match packages.validateGetTask params with
  | some error => .error error
  | none =>
      match core.adapterGetTask agent params with
      | .missing message => .error (taskNotFound message)
      | .foreign => .ok none
      | .found task => .ok (some task)

/-- `super().on_subscribe_to_task` -/
def superSubscribe (packages : Packages) (core : Core) (agent : AgentRef) (params : TaskRequest) :
    Except A2AError (List StreamEvent) :=
  match packages.validateSubscribe params with
  | some error => .error error
  | none => core.adapterSubscribe agent params

/-- `super().on_list_tasks` -/
def superListTasks (packages : Packages) (core : Core) (agent : AgentRef)
    (params : ListTasksRequest) : Except A2AError ListTasksResponse :=
  match packages.validateListTasks params with
  | some error => .error error
  | none => core.adapterListTasks agent params

/-! ## What the handler adds -/

/-- `_annotate_asks`, on a task. -/
def annotateAsks (packages : Packages) (core : Core) (task : Task) : Task :=
  match (core.lineage task.id).getLast? with
  | none => task
  | some tail =>
      match packages.openAsks (core.getRunEvents tail.runId) with
      | [] => task
      | asks =>
          let outstanding := Value.list ((sortedNames asks).map Value.str)
          let ours := Dict.set (packages.funduqMetadataOf task) "outstandingAsks" outstanding
          { task with metadata := Dict.set task.metadata "funduq" (.dict ours) }

/-! The key which presents a request is asked of a hook, `_presenter_key_of`, and may raise.  Each
operation asks it once there is a thread to be judged, and not before. -/

/-- `on_get_task` -/
def onGetTask (packages : Packages) (core : Core) (agent : AgentRef)
    (presenterKey : Except Raised (Option Str)) (params : TaskRequest) :
    Except Fault (Option Task) := do
  match ← (superGetTask packages core agent params).mapError .a2a with
  | none => return none
  | some task =>
      let key ← presenterKey.mapError .raised
      if mayRead core.record task.contextId key then
        return some (annotateAsks packages core task)
      else return none

/-- `on_subscribe_to_task` -/
def onSubscribeToTask (packages : Packages) (core : Core) (agent : AgentRef)
    (presenterKey : Except Raised (Option Str)) (params : TaskRequest) :
    Except Fault (List StreamEvent) :=
  match core.getRun params.id with
  | none => (superSubscribe packages core agent params).mapError .a2a
  | some run => do
      let key ← presenterKey.mapError .raised
      if mayRead core.record run.threadId key then
        (superSubscribe packages core agent params).mapError .a2a
      else
        .error (.a2a (taskNotFound
          { format := "no task '%s' for this agent", values := [.str params.id] }))

/-- `on_list_tasks` -/
def onListTasks (packages : Packages) (core : Core) (agent : AgentRef)
    (presenterKey : Except Raised (Option Str)) (params : ListTasksRequest) :
    Except Fault ListTasksResponse :=
  if params.contextId = [] then (superListTasks packages core agent params).mapError .a2a
  else do
    let key ← presenterKey.mapError .raised
    if mayRead core.record params.contextId key then
      (superListTasks packages core agent params).mapError .a2a
    else .ok { tasks := [], nextPageToken := [], pageSize := 0, totalSize := 0 }

section Operations

variable {packages : Packages} {core : Core} {agent : AgentRef}
  {presenterKey : Except Raised (Option Str)}

theorem onGetTask_invalid {params : TaskRequest} {error : A2AError}
    (invalid : packages.validateGetTask params = some error) :
    onGetTask packages core agent presenterKey params = .error (.a2a error) := by
  rw [onGetTask, superGetTask, invalid]
  rfl

theorem onGetTask_valid {params : TaskRequest} (valid : packages.validateGetTask params = none) :
    onGetTask packages core agent presenterKey params =
      match core.adapterGetTask agent params with
      | .missing message => .error (.a2a (taskNotFound message))
      | .foreign => .ok none
      | .found task =>
          match presenterKey with
          | .error error => .error (.raised error)
          | .ok key =>
              if mayRead core.record task.contextId key then
                .ok (some (annotateAsks packages core task))
              else .ok none := by
  rw [onGetTask, superGetTask, valid]
  cases core.adapterGetTask agent params with
  | missing | foreign => rfl
  | found task => cases presenterKey <;> rfl

theorem onSubscribeToTask_missing {params : TaskRequest} (missing : core.getRun params.id = none) :
    onSubscribeToTask packages core agent presenterKey params =
      (superSubscribe packages core agent params).mapError .a2a := by
  rw [onSubscribeToTask, missing]

theorem onSubscribeToTask_found {params : TaskRequest} {run : Run}
    (found : core.getRun params.id = some run) :
    onSubscribeToTask packages core agent presenterKey params =
      match presenterKey with
      | .error error => .error (.raised error)
      | .ok key =>
          if mayRead core.record run.threadId key then
            (superSubscribe packages core agent params).mapError .a2a
          else
            .error (.a2a (taskNotFound
              { format := "no task '%s' for this agent", values := [.str params.id] })) := by
  rw [onSubscribeToTask, found]
  cases presenterKey <;> rfl

theorem onListTasks_unnamed {params : ListTasksRequest} (unnamed : params.contextId = []) :
    onListTasks packages core agent presenterKey params =
      (superListTasks packages core agent params).mapError .a2a := by
  rw [onListTasks, if_pos unnamed]

theorem onListTasks_named {params : ListTasksRequest} (named : params.contextId ≠ []) :
    onListTasks packages core agent presenterKey params =
      match presenterKey with
      | .error error => .error (.raised error)
      | .ok key =>
          if mayRead core.record params.contextId key then
            (superListTasks packages core agent params).mapError .a2a
          else .ok { tasks := [], nextPageToken := [], pageSize := 0, totalSize := 0 } := by
  rw [onListTasks, if_neg named]
  cases presenterKey <;> rfl

end Operations

/-! ## What the caller sees -/

/-- The result of an operation, or the code of what leaves it. -/
def answered {Result : Type} : Except Fault Result → Except Int Result
  | .ok result => .ok result
  | .error fault => .error fault.code

/-- The dispatcher's answer to `GetTask`, where nothing is `TaskNotFoundError`. -/
def dispatchGetTask (result : Except Fault (Option Task)) : Except Int Task :=
  match answered result with
  | .ok (some task) => .ok task
  | .ok none => .error taskNotFoundCode
  | .error code => .error code

end Souk.Server.ApiA2A
