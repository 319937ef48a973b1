import Souk.Server.OutstandingAsks

/-!
# The thread snapshot of the AG-UI door

`GET /threads/{thread_id}` names the asks of the thread's latest run, unless a cancel of that run was
requested.  The A2A door names those of a lineage's tail, and knows no such exception.
-/

namespace Souk.Server.ApiAgui

open Souk.Python
open Souk.Server.ApiA2A

/-- Core at one moment, with what this door reads besides. -/
structure ThreadCore where
  core : Core
  getThreadSnapshot : Str → Option Dict
  latestRunForThread : Str → Option Run
  /-- The column `cancel_requested_by` of a run. -/
  cancelRequestedBy : Run → Option Str

/-- What leaves the route. -/
inductive RouteError where
  | agentNotFound (message : Message)

/-- `_with_outstanding_asks` -/
def withOutstandingAsks (packages : Packages) (threads : ThreadCore) (threadId : Str)
    (snapshot : Dict) : Dict :=
  match threads.latestRunForThread threadId with
  | none => snapshot
  | some latest =>
      if (threads.cancelRequestedBy latest).isSome then snapshot
      else
        match packages.openAsks (threads.core.getRunEvents latest.runId) with
        | [] => snapshot
        | asks =>
            Dict.set snapshot "waiting_run" (.dict
              [("run_id", .str latest.runId),
                ("outstanding_asks", .list ((sortedNames asks).map Value.str))])

/-- `get_thread_snapshot` -/
def getThreadSnapshot (packages : Packages) (threads : ThreadCore) (threadId : Str) :
    Except RouteError Dict :=
  match threads.getThreadSnapshot threadId with
  | none =>
      .error (.agentNotFound { format := "thread '%s' not found", values := [.str threadId] })
  | some snapshot => .ok (withOutstandingAsks packages threads threadId snapshot)

/-! ## What the two doors show -/

/-- What stands under `waiting_run.outstanding_asks`. -/
def waitingAsks (snapshot : Dict) : Option Value :=
  match snapshot.lookup (str "waiting_run") with
  | some (.dict waiting) => waiting.lookup (str "outstanding_asks")
  | _ => none

/-- Both absent, or one sorted list. -/
def SameAsks (onTask onSnapshot : Option Value) : Prop :=
  onTask = none ∧ onSnapshot = none ∨
    ∃ ids : List Str, ids.Pairwise (· ≤ ·) ∧
      onTask = some (.list (ids.map Value.str)) ∧ onSnapshot = some (.list (ids.map Value.str))

/-- What is relied on of core: its own Tasks and snapshots carry neither door's key. -/
structure LawfulThreads (packages : Packages) (threads : ThreadCore) : Prop where
  funduqMetadataOf : ∀ task, packages.funduqMetadataOf task = funduqFields task
  tasks : ∀ {agent params task},
    threads.core.adapterGetTask agent params = .found task → outstandingAsks task = none
  snapshots : ∀ {threadId snapshot},
    threads.getThreadSnapshot threadId = some snapshot → snapshot.lookup (str "waiting_run") = none

variable {packages : Packages} {threads : ThreadCore}

/-- What `GetTask` shows is a Task core found, annotated. -/
theorem found_of_onGetTask {core : Core} {agent : AgentRef}
    {presenterKey : Except Raised (Option Str)} {params : TaskRequest} {shown : Task}
    (got : onGetTask packages core agent presenterKey params = .ok (some shown)) :
    ∃ task, core.adapterGetTask agent params = .found task ∧
      annotateAsks packages core task = shown := by
  cases valid : packages.validateGetTask params with
  | some error =>
      rw [onGetTask_invalid valid] at got
      cases got
  | none =>
      rw [onGetTask_valid valid] at got
      split at got
      · cases got
      · cases got
      · rename_i task found
        split at got
        · cases got
        · split at got
          · exact ⟨task, found, Option.some.inj (Except.ok.inj got)⟩
          · cases got

/-- `GetTask` shows the asks of the tail. -/
theorem outstandingAsks_onGetTask (lawful : LawfulThreads packages threads) {agent : AgentRef}
    {presenterKey : Except Raised (Option Str)} {params : TaskRequest} {shown : Task}
    (got : onGetTask packages threads.core agent presenterKey params = .ok (some shown)) :
    outstandingAsks shown =
      if tailAsks packages threads.core shown = [] then none
      else some (sortedAsks (tailAsks packages threads.core shown)) := by
  obtain ⟨task, found, rfl⟩ := found_of_onGetTask got
  have announces : Announces packages threads.core task
      (annotateAsks packages threads.core task) :=
    announces_annotateAsks (lawful.funduqMetadataOf task) (lawful.tasks found)
  have same : tailAsks packages threads.core (annotateAsks packages threads.core task) =
      tailAsks packages threads.core task := by
    rw [tailAsks, tailAsks, announces.id]
  rw [announces.asks, same]

/-- The snapshot shows the asks of the latest run, if its cancel was not requested. -/
theorem waitingAsks_getThreadSnapshot (lawful : LawfulThreads packages threads) {threadId : Str}
    {latest : Run} {snapshot : Dict}
    (latestRun : threads.latestRunForThread threadId = some latest)
    (got : getThreadSnapshot packages threads threadId = .ok snapshot) :
    waitingAsks snapshot =
      if (threads.cancelRequestedBy latest).isSome ∨
          packages.openAsks (threads.core.getRunEvents latest.runId) = [] then none
      else some (sortedAsks (packages.openAsks (threads.core.getRunEvents latest.runId))) := by
  rw [getThreadSnapshot] at got
  split at got
  · cases got
  · rename_i original found
    obtain rfl := Except.ok.inj got
    have unasked : waitingAsks original = none := by rw [waitingAsks, lawful.snapshots found]
    simp only [withOutstandingAsks, latestRun]
    cases requested : (threads.cancelRequestedBy latest).isSome with
    | true => simpa using unasked
    | false =>
        cases asks : packages.openAsks (threads.core.getRunEvents latest.runId) with
        | nil => simpa using unasked
        | cons ask rest =>
            simp only [Bool.false_eq_true, if_false, false_or, reduceCtorEq, waitingAsks,
              Dict.lookup_set_self]
            rfl

theorem pairwise_sortedNames (names : List Str) : (sortedNames names).Pairwise (· ≤ ·) :=
  List.pairwise_insertionSort _ names

/-- The two doors name the same asks of a run exactly when no cancel of it was requested, or it has
none. -/
theorem same_asks_iff (lawful : LawfulThreads packages threads) {threadId : Str} {latest : Run}
    {agent : AgentRef} {presenterKey : Except Raised (Option Str)} {params : TaskRequest}
    {shown : Task} {snapshot : Dict}
    (latestRun : threads.latestRunForThread threadId = some latest)
    (tail : (threads.core.lineage shown.id).getLast? = some latest)
    (task : onGetTask packages threads.core agent presenterKey params = .ok (some shown))
    (thread : getThreadSnapshot packages threads threadId = .ok snapshot) :
    SameAsks (outstandingAsks shown) (waitingAsks snapshot) ↔
      threads.cancelRequestedBy latest = none ∨
        packages.openAsks (threads.core.getRunEvents latest.runId) = [] := by
  have ofTail : tailAsks packages threads.core shown =
      packages.openAsks (threads.core.getRunEvents latest.runId) := by
    rw [tailAsks, tail]
  rw [outstandingAsks_onGetTask lawful task, waitingAsks_getThreadSnapshot lawful latestRun thread,
    ofTail]
  by_cases idle : packages.openAsks (threads.core.getRunEvents latest.runId) = []
  · simp [idle, SameAsks]
  · cases requested : threads.cancelRequestedBy latest with
    | none =>
        simp only [idle, Option.isSome_none, Bool.false_eq_true, or_self, if_false, true_or,
          iff_true]
        exact Or.inr ⟨_, pairwise_sortedNames _, rfl, rfl⟩
    | some presenter => simp [idle, SameAsks]

/-! The paused run once more, with or without a request to cancel it. -/

/-- Core where the run of the thread `t` has asked `ask`. -/
def pausedThreads (cancelRequestedBy : Option Str) : ThreadCore where
  core := pausedCore
  getThreadSnapshot _ := some [("thread_id", .str "t")]
  latestRunForThread _ := some ⟨"r", "t"⟩
  cancelRequestedBy _ := cancelRequestedBy

theorem lawful_pausedThreads (cancelRequestedBy : Option Str) :
    LawfulThreads askingPackages (pausedThreads cancelRequestedBy) where
  funduqMetadataOf _ := rfl
  tasks adapted := by
    obtain rfl := AdapterTask.found.inj adapted
    rfl
  snapshots got := by
    obtain rfl := Option.some.inj got
    rfl

/-- What `GetTask` shows of the run. -/
def shownTask : Task := annotateAsks askingPackages pausedCore pausedTask

/-- What `GET /threads/t` shows. -/
def shownSnapshot (cancelRequestedBy : Option Str) : Dict :=
  withOutstandingAsks askingPackages (pausedThreads cancelRequestedBy) "t"
    [("thread_id", .str "t")]

theorem paused_asks_same_iff :
    LawfulThreads askingPackages (pausedThreads none) ∧
      (SameAsks (outstandingAsks shownTask) (waitingAsks (shownSnapshot none)) ↔
        (pausedThreads none).cancelRequestedBy ⟨"r", "t"⟩ = none ∨
          askingPackages.openAsks (pausedCore.getRunEvents "r") = []) :=
  ⟨lawful_pausedThreads none,
    @same_asks_iff askingPackages (pausedThreads none) (lawful_pausedThreads none) "t" ⟨"r", "t"⟩
      ⟨"p", "a"⟩ (.ok none) ⟨"r", []⟩ shownTask (shownSnapshot none) rfl rfl rfl rfl⟩

/-- One door names the ask, the other does not. -/
theorem cancelled_asks_differ :
    onGetTask askingPackages pausedCore ⟨"p", "a"⟩ (.ok none) ⟨"r", []⟩ = .ok (some shownTask) ∧
      getThreadSnapshot askingPackages (pausedThreads (some "k")) "t" =
        .ok (shownSnapshot (some "k")) ∧
      ¬SameAsks (outstandingAsks shownTask) (waitingAsks (shownSnapshot (some "k"))) := by
  refine ⟨rfl, rfl, ?_⟩
  rintro (⟨onTask, _⟩ | ⟨ids, _, _, onSnapshot⟩)
  · cases onTask
  · cases onSnapshot

end Souk.Server.ApiAgui
