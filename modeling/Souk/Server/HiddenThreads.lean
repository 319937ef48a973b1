import Souk.Server.ApiA2A
import Souk.Server.BadProofs

/-!
# Hidden threads

A thread is hidden from a key when it is bound to a party set without the key.  Each of the four
doors which read the record asks about a thread nothing but what its view shows, so two states of
core which differ in hidden threads only are told apart by none of them, as long as the key can be
read off the request.  Where the hook raises, only a task which exists tells so.
-/

namespace Souk.Server.ApiA2A

open Souk.Python

/-- The thread is bound to a party set which does not contain the key. -/
def isHidden (record : Record) (key : Option Str) (threadId : Str) : Bool :=
  match record.partiesOf threadId with
  | none => false
  | some parties => !isParty key parties

/-- What a key sees of a thread it may see. -/
structure ThreadView where
  thread : Thread
  parties : Option (List Str)
  messages : List Value

/-- The thread as the key may see it: a hidden one looks like a missing one. -/
def threadView (record : Record) (key : Option Str) (threadId : Str) : Option ThreadView :=
  if isHidden record key threadId then none
  else (record.getThread threadId).map fun thread =>
    ⟨thread, record.partiesOf threadId, record.getThreadMessages threadId⟩

/-- The run as the key may see it. -/
def runView (core : Core) (key : Option Str) (runId : Str) : Option Run :=
  (core.getRun runId).filter fun run => !isHidden core.record key run.threadId

/-- What is relied on of core: an id which names no run names nothing, and a task, a run and a
lineage stay in the thread they name. -/
structure Lawful (packages : Packages) (core : Core) : Prop where
  missingTask : ∀ {agent params}, core.getRun params.id = none →
    ∃ message, core.adapterGetTask agent params = .missing message
  missingSubscription : ∀ {agent params}, core.getRun params.id = none →
    ∃ message, core.adapterSubscribe agent params = .error (taskNotFound message)
  taskThread : ∀ {agent params task}, core.adapterGetTask agent params = .found task →
    ∃ run root, core.getRun params.id = some run ∧ core.getRun task.id = some root ∧
      task.contextId = run.threadId ∧ root.threadId = run.threadId
  lineageThread : ∀ {runId root run}, core.getRun runId = some root → run ∈ core.lineage runId →
    core.getRun run.runId = some run ∧ run.threadId = root.threadId
  /-- A subscription which names a run passes validation: its id is all it needs. -/
  subscribeValid : ∀ {params run}, core.getRun params.id = some run →
    packages.validateSubscribe params = none

/-- Two states of core which differ in threads hidden from the key only. -/
structure SameView (key : Option Str) (left right : Core) : Prop where
  threads : ∀ threadId,
    threadView left.record key threadId = threadView right.record key threadId
  runs : ∀ runId, runView left key runId = runView right key runId
  tasks : ∀ {agent params run}, runView left key params.id = some run →
    left.adapterGetTask agent params = right.adapterGetTask agent params
  subscriptions : ∀ {agent params run}, runView left key params.id = some run →
    left.adapterSubscribe agent params = right.adapterSubscribe agent params
  pages : ∀ {agent params view}, threadView left.record key params.contextId = some view →
    left.adapterListTasks agent params = right.adapterListTasks agent params
  /-- Without a context nothing is named. -/
  unnamedPage : ∀ {agent params}, params.contextId = [] →
    left.adapterListTasks agent params = right.adapterListTasks agent params
  lineages : ∀ {runId run}, runView left key runId = some run →
    left.lineage runId = right.lineage runId
  events : ∀ {runId run}, runView left key runId = some run →
    left.getRunEvents runId = right.getRunEvents runId

/-- A request at one of the four doors, with the header and the body it is presented by. -/
inductive ReadRequest where
  | getTask (agent : AgentRef) (header : Option Str) (body : List UInt8) (params : TaskRequest)
  | listTasks (agent : AgentRef) (header : Option Str) (body : List UInt8)
      (params : ListTasksRequest)
  | subscribeToTask (agent : AgentRef) (header : Option Str) (body : List UInt8)
      (params : TaskRequest)
  /-- A query frame on the socket of a key. -/
  | query (publicKey : Str) (parsed : Dict)

namespace ReadRequest

/-- Who presents the request; a header of which no key is read presents nobody. -/
def presenter (terms : PresenterTerms) : ReadRequest → Option Str
  | getTask _ header body _ | listTasks _ header body _ | subscribeToTask _ header body _ =>
      (presenterKeyOf terms header body).toOption.join
  | query publicKey _ => some publicKey

/-- The answer is the same in both states: the same result or the same error, and of a query the
same frame, if any, from the five steps of its task. -/
def SameAnswer (terms : PresenterTerms) (packages : Packages) (left right : Core) :
    ReadRequest → Prop
  | getTask agent header body params =>
      dispatchGetTask
          (onGetTask packages left agent (presenterKeyOf terms header body) params) =
        dispatchGetTask
          (onGetTask packages right agent (presenterKeyOf terms header body) params)
  | listTasks agent header body params =>
      answered (onListTasks packages left agent (presenterKeyOf terms header body) params) =
        answered (onListTasks packages right agent (presenterKeyOf terms header body) params)
  | subscribeToTask agent header body params =>
      answered (onSubscribeToTask packages left agent (presenterKeyOf terms header body) params) =
        answered
          (onSubscribeToTask packages right agent (presenterKeyOf terms header body) params)
  | query publicKey parsed =>
      (WsProvider.QueryTask.spawned parsed).runs left.record publicKey 5 =
        (WsProvider.QueryTask.spawned parsed).runs right.record publicKey 5

/-- A request which names a run has no header, or one from which the proof is read without an
exception. -/
def Tolerable (terms : PresenterTerms) : ReadRequest → Prop
  | getTask _ header _ _ | subscribeToTask _ header _ _ =>
      ∀ text, header = some text → Tolerated terms text
  | listTasks _ _ _ _ | query _ _ => True

end ReadRequest

variable {packages : Packages} {core left right : Core} {key : Option Str} {agent : AgentRef}

/-! ## The rule about who may read -/

theorem mayRead_eq_isSome (record : Record) (key : Option Str) (threadId : Str) :
    mayRead record threadId key = (threadView record key threadId).isSome := by
  cases found : record.getThread threadId with
  | none => simp [mayRead, threadView, found]
  | some thread =>
      cases bound : record.partiesOf threadId with
      | none => simp [mayRead, threadView, partiesAdmit, isHidden, found, bound]
      | some parties =>
          cases party : isParty key parties <;>
            simp [mayRead, threadView, partiesAdmit, isHidden, found, bound, party]

theorem mayRead_of_isHidden {record : Record} {threadId : Str}
    (hidden : isHidden record key threadId = true) : mayRead record threadId key = false := by
  rw [mayRead_eq_isSome, threadView, if_pos hidden]
  rfl

theorem SameView.mayRead_eq (same : SameView key left right) (threadId : Str) :
    mayRead left.record threadId key = mayRead right.record threadId key := by
  rw [mayRead_eq_isSome, mayRead_eq_isSome, same.threads]

theorem runView_eq_some {runId : Str} {run : Run} : runView core key runId = some run ↔
    core.getRun runId = some run ∧ isHidden core.record key run.threadId = false := by
  rw [runView, Option.filter_eq_some_iff, Bool.not_eq_true']

theorem unseen_run {runId : Str} (unseen : runView core key runId = none) :
    core.getRun runId = none ∨
      ∃ run, core.getRun runId = some run ∧ isHidden core.record key run.threadId = true := by
  cases found : core.getRun runId with
  | none => exact Or.inl rfl
  | some run =>
      refine Or.inr ⟨run, rfl, ?_⟩
      by_contra visible
      rw [runView_eq_some.mpr ⟨found, Bool.eq_false_iff.mpr visible⟩] at unseen
      cases unseen

/-! ## `GetTask` -/

/-- A run which the key may not see is answered as one which does not exist. -/
theorem getTask_unseen (lawful : Lawful packages core) {params : TaskRequest}
    (valid : packages.validateGetTask params = none)
    (unseen : runView core key params.id = none) :
    dispatchGetTask (onGetTask packages core agent (.ok key) params) = .error taskNotFoundCode := by
  rw [onGetTask_valid valid]
  cases adapted : core.adapterGetTask agent params with
  | missing message => rfl
  | foreign => rfl
  | found task =>
      obtain ⟨run, root, found, _, context, _⟩ := lawful.taskThread adapted
      obtain missing | ⟨other, foundOther, hidden⟩ := unseen_run unseen
      · rw [missing] at found
        cases found
      · obtain rfl : run = other := Option.some.inj (found.symm.trans foundOther)
        simp only [context, mayRead_of_isHidden hidden]
        rfl

/-- The asks of a task the key may see are those of runs it may see. -/
theorem SameView.annotateAsks_eq (same : SameView key left right) (lawful : Lawful packages left)
    {task : Task} {root : Run} (seen : runView left key task.id = some root) :
    annotateAsks packages left task = annotateAsks packages right task := by
  rw [annotateAsks, annotateAsks, ← same.lineages seen]
  cases last : (left.lineage task.id).getLast? with
  | none => rfl
  | some tail =>
      obtain ⟨found, visible⟩ := runView_eq_some.mp seen
      obtain ⟨foundTail, sameThread⟩ := lawful.lineageThread found (List.mem_of_getLast? last)
      have seenTail : runView left key tail.runId = some tail :=
        runView_eq_some.mpr ⟨foundTail, sameThread ▸ visible⟩
      simp only [same.events seenTail]

theorem SameView.getTask_eq (same : SameView key left right) (lawfulLeft : Lawful packages left)
    (lawfulRight : Lawful packages right) (params : TaskRequest) :
    dispatchGetTask (onGetTask packages left agent (.ok key) params) =
      dispatchGetTask (onGetTask packages right agent (.ok key) params) := by
  cases valid : packages.validateGetTask params with
  | some error => rw [onGetTask_invalid valid, onGetTask_invalid valid]
  | none =>
      cases seen : runView left key params.id with
      | none =>
          rw [getTask_unseen lawfulLeft valid seen,
            getTask_unseen lawfulRight valid (same.runs params.id ▸ seen)]
      | some run =>
          rw [onGetTask_valid valid, onGetTask_valid valid, ← same.tasks seen]
          cases adapted : left.adapterGetTask agent params with
          | missing message => rfl
          | foreign => rfl
          | found task =>
              obtain ⟨_, root, found, foundRoot, _, sameThread⟩ := lawfulLeft.taskThread adapted
              obtain ⟨foundRun, visible⟩ := runView_eq_some.mp seen
              obtain rfl := Option.some.inj (found.symm.trans foundRun)
              have seenRoot : runView left key task.id = some root :=
                runView_eq_some.mpr ⟨foundRoot, sameThread ▸ visible⟩
              simp only [same.mayRead_eq, same.annotateAsks_eq lawfulLeft seenRoot]

/-! ## `SubscribeToTask` -/

theorem subscribe_hidden {params : TaskRequest} {run : Run}
    (found : core.getRun params.id = some run)
    (hidden : isHidden core.record key run.threadId = true) :
    answered (onSubscribeToTask packages core agent (.ok key) params) =
      .error taskNotFoundCode := by
  rw [onSubscribeToTask_found found]
  simp only [mayRead_of_isHidden hidden]
  rfl

theorem subscribe_missing (lawful : Lawful packages core) {params : TaskRequest}
    (missing : core.getRun params.id = none) :
    answered (onSubscribeToTask packages core agent (.ok key) params) =
      match packages.validateSubscribe params with
      | some error => .error error.code
      | none => .error taskNotFoundCode := by
  have adapted : ∃ message,
      core.adapterSubscribe agent params = .error (taskNotFound message) :=
    lawful.missingSubscription missing
  obtain ⟨message, adapted⟩ := adapted
  rw [onSubscribeToTask_missing missing, superSubscribe, adapted]
  cases packages.validateSubscribe params <;> rfl

/-- A run which the key may not see is answered as one which does not exist. -/
theorem subscribe_unseen (lawful : Lawful packages core) {params : TaskRequest}
    (valid : packages.validateSubscribe params = none)
    (unseen : runView core key params.id = none) :
    answered (onSubscribeToTask packages core agent (.ok key) params) =
      .error taskNotFoundCode := by
  obtain missing | ⟨run, found, hidden⟩ := unseen_run unseen
  · rw [subscribe_missing lawful missing, valid]
  · exact subscribe_hidden found hidden

theorem SameView.subscribe_eq (same : SameView key left right)
    (lawfulLeft : Lawful packages left) (lawfulRight : Lawful packages right)
    (params : TaskRequest) :
    answered (onSubscribeToTask packages left agent (.ok key) params) =
      answered (onSubscribeToTask packages right agent (.ok key) params) := by
  cases seen : runView left key params.id with
  | some run =>
      have seenRight := same.runs params.id ▸ seen
      obtain ⟨found, _⟩ := runView_eq_some.mp seen
      obtain ⟨foundRight, _⟩ := runView_eq_some.mp seenRight
      rw [onSubscribeToTask_found found, onSubscribeToTask_found foundRight]
      simp only [same.mayRead_eq, superSubscribe, same.subscriptions seen]
  | none =>
      have seenRight : runView right key params.id = none := same.runs params.id ▸ seen
      cases valid : packages.validateSubscribe params with
      | none =>
          rw [subscribe_unseen lawfulLeft valid seen, subscribe_unseen lawfulRight valid seenRight]
      | some error =>
          -- A request which names a run is valid, so neither state has one.
          have missing : ∀ {core : Core}, Lawful packages core → core.getRun params.id = none := by
            intro core lawful
            by_contra found
            obtain ⟨run, found⟩ := Option.ne_none_iff_exists'.mp found
            rw [lawful.subscribeValid found] at valid
            cases valid
          rw [subscribe_missing lawfulLeft (missing lawfulLeft),
            subscribe_missing lawfulRight (missing lawfulRight)]

/-! ## `ListTasks` and `thread_messages` -/

/-- The page of a context which is named by nobody, or by a request whose key may read it, is the
same in both states. -/
theorem SameView.superListTasks_eq (same : SameView key left right) {params : ListTasksRequest}
    (shown : params.contextId = [] ∨ mayRead right.record params.contextId key = true) :
    superListTasks packages left agent params = superListTasks packages right agent params := by
  have adapted : left.adapterListTasks agent params = right.adapterListTasks agent params := by
    obtain unnamed | readable := shown
    · exact same.unnamedPage unnamed
    · rw [mayRead_eq_isSome, ← same.threads] at readable
      obtain ⟨view, seen⟩ := Option.isSome_iff_exists.mp readable
      exact same.pages seen
  rw [superListTasks, superListTasks, adapted]

/-- Of a context which is named the key is asked whether or not there is a thread, so that the hook
tells nothing. -/
theorem SameView.listTasks_eq {presenterKey : Except Raised (Option Str)}
    (same : SameView presenterKey.toOption.join left right) (params : ListTasksRequest) :
    onListTasks packages left agent presenterKey params =
      onListTasks packages right agent presenterKey params := by
  by_cases unnamed : params.contextId = []
  · rw [onListTasks_unnamed unnamed, onListTasks_unnamed unnamed,
      same.superListTasks_eq (.inl unnamed)]
  rw [onListTasks_named unnamed, onListTasks_named unnamed]
  cases presenterKey with
  | error raised => rfl
  | ok key =>
      have sameKey : SameView key left right := same
      simp only [sameKey.mayRead_eq]
      by_cases readable : mayRead right.record params.contextId key = true
      · rw [if_pos readable, if_pos readable, sameKey.superListTasks_eq (.inr readable)]
      · rw [if_neg readable, if_neg readable]

/-- The answer to a well-formed query is a function of what the link's key sees of its thread. -/
theorem answerQuestion_eq_view (record : Record) (publicKey : Str) (query : WsProvider.Query) :
    WsProvider.answerQuestion record publicKey query =
      match threadView record (some publicKey) query.threadId with
      | none => WsProvider.noSuchThread query
      | some view =>
          if view.thread.providerKey = publicKey then
            .queryResult query.queryId
              (.result (WsProvider.lastMessages view.messages query.limit))
          else WsProvider.noSuchThread query := by
  rw [WsProvider.answerQuestion, mayRead_eq_isSome, threadView]
  cases found : record.getThread query.threadId with
  | none => simp
  | some thread =>
      cases isHidden record (some publicKey) query.threadId <;>
        by_cases own : thread.providerKey = publicKey <;> simp [own]

theorem answerQuery_eq {left right : Record} {publicKey : Str}
    (same : ∀ threadId, threadView left (some publicKey) threadId =
      threadView right (some publicKey) threadId) (parsed : Dict) :
    WsProvider.answerQuery left publicKey parsed =
      WsProvider.answerQuery right publicKey parsed := by
  rw [WsProvider.answerQuery, WsProvider.answerQuery]
  congr 1
  funext answer
  cases answer with
  | inl query => simp only [answerQuestion_eq_view, same]
  | inr frame => rfl

/-! ## The key of a request -/

section Requests

variable {terms : PresenterTerms} {header : Option Str} {body : List UInt8}

theorem completes_iff_tolerated
    (ascii : ∀ body, ∀ point ∈ terms.sha256Hex body, point.val < 0x80)
    (verifies : ∀ key signature payload, Completes (terms.verifySignature key signature payload)) :
    Completes (presenterKeyOf terms header body) ↔
      ∀ text, header = some text → Tolerated terms text := by
  cases header with
  | none =>
      refine iff_of_true ⟨none, rfl⟩ ?_
      rintro _ ⟨⟩
  | some text =>
      have given : (∀ other, some text = some other → Tolerated terms other) ↔
          Tolerated terms text := by simp
      rw [given]
      cases text with
      | nil => exact iff_of_true ⟨none, rfl⟩ tolerated_nil
      | cons point rest => exact completes_cons_iff ascii verifies

/-- A request whose key is read, or which asks for no run by its id, is answered alike. -/
theorem ReadRequest.sameAnswer
    (ascii : ∀ body, ∀ point ∈ terms.sha256Hex body, point.val < 0x80)
    (verifies : ∀ key signature payload, Completes (terms.verifySignature key signature payload))
    {request : ReadRequest} (tolerable : request.Tolerable terms)
    (lawfulLeft : Lawful packages left) (lawfulRight : Lawful packages right)
    (same : SameView (request.presenter terms) left right) :
    request.SameAnswer terms packages left right := by
  cases request with
  | getTask agent header body params =>
      obtain ⟨key, read⟩ := (completes_iff_tolerated ascii verifies).mpr tolerable
      rw [ReadRequest.presenter, read] at same
      rw [ReadRequest.SameAnswer, read]
      exact @SameView.getTask_eq _ _ _ key _ same lawfulLeft lawfulRight params
  | listTasks agent header body params => exact congrArg answered (same.listTasks_eq params)
  | subscribeToTask agent header body params =>
      obtain ⟨key, read⟩ := (completes_iff_tolerated ascii verifies).mpr tolerable
      rw [ReadRequest.presenter, read] at same
      rw [ReadRequest.SameAnswer, read]
      exact @SameView.subscribe_eq _ _ _ key _ same lawfulLeft lawfulRight params
  | query publicKey parsed =>
      rw [ReadRequest.SameAnswer, WsProvider.QueryTask.runs_spawned,
        WsProvider.QueryTask.runs_spawned, answerQuery_eq same.threads parsed]

end Requests

/-! ## A thread `t` bound to the party `p`, with one run, against nothing at all -/

/-- Core with a run on the bound thread, or without it. -/
def boundCore (runId : Str) (present : Bool) : Core where
  record :=
    { getThread := fun id => if present ∧ id = str "t" then some ⟨str "p", str "a"⟩ else none
      partiesOf := fun id => if present ∧ id = str "t" then some [str "p"] else none
      getThreadMessages := fun _ => []
      listsAgent := fun _ _ => true }
  getRun id := if present ∧ id = runId then some ⟨runId, str "t"⟩ else none
  lineage id := if present ∧ id = runId then [⟨runId, str "t"⟩] else []
  getRunEvents _ := []
  adapterGetTask _ params :=
    if present ∧ params.id = runId then .found ⟨runId, str "t", [], []⟩
    else .missing { format := "no such task" }
  adapterSubscribe _ params :=
    if present ∧ params.id = runId then .ok []
    else .error (taskNotFound { format := "no such task" })
  adapterListTasks _ _ := .ok ⟨[], [], 0, 0⟩

/-- Packages which validate every request and find no asks. -/
def plainPackages : Packages where
  validateGetTask _ := none
  validateSubscribe _ := none
  validateListTasks _ := none
  openAsks _ := []
  funduqMetadataOf _ := []

theorem lawful_boundCore (runId : Str) (present : Bool) :
    Lawful plainPackages (boundCore runId present) where
  missingTask := by
    intro agent params missing
    simp only [boundCore] at missing ⊢
    split at missing
    · cases missing
    · rename_i absent
      exact ⟨_, if_neg absent⟩
  missingSubscription := by
    intro agent params missing
    simp only [boundCore] at missing ⊢
    split at missing
    · cases missing
    · rename_i absent
      exact ⟨_, if_neg absent⟩
  taskThread := by
    intro agent params task adapted
    simp only [boundCore] at adapted ⊢
    split at adapted
    · rename_i held
      obtain rfl := AdapterTask.found.inj adapted
      exact ⟨_, _, if_pos held, if_pos ⟨held.1, rfl⟩, rfl, rfl⟩
    · cases adapted
  lineageThread := by
    intro id root run found member
    simp only [boundCore] at found member ⊢
    split at found
    · rename_i held
      rw [if_pos held] at member
      obtain rfl := List.mem_singleton.mp member
      obtain rfl := Option.some.inj found
      exact ⟨if_pos ⟨held.1, rfl⟩, rfl⟩
    · cases found
  subscribeValid := fun _ => rfl

/-- Whoever is not the party sees no difference. -/
theorem sameView_boundCore {key : Option Str} (stranger : key ≠ some (str "p")) (runId : Str) :
    SameView key (boundCore runId true) (boundCore runId false) := by
  have outside : isParty key [str "p"] = false := by
    cases key with
    | none => rfl
    | some name => simpa [isParty] using stranger
  have hidden : isHidden (boundCore runId true).record key (str "t") = true := by
    simp [isHidden, boundCore, outside]
  have unseenThread (threadId : Str) :
      threadView (boundCore runId true).record key threadId = none := by
    by_cases held : threadId = str "t"
    · rw [threadView, held, if_pos hidden]
    · simp [threadView, boundCore, held]
  have unseenRun (id : Str) : runView (boundCore runId true) key id = none := by
    by_cases held : id = runId
    · have found : (boundCore runId true).getRun id = some ⟨runId, str "t"⟩ := if_pos ⟨rfl, held⟩
      rw [runView, found, Option.filter_some, hidden]
      rfl
    · have missing : (boundCore runId true).getRun id = none := if_neg (held ·.2)
      rw [runView, missing, Option.filter_none]
  have impossible {Claim : Prop} {id : Str} {run : Run}
      (seen : runView (boundCore runId true) key id = some run) : Claim := by
    rw [unseenRun] at seen
    cases seen
  constructor
  · intro threadId
    rw [unseenThread]
    simp [threadView, boundCore]
  · intro id
    rw [unseenRun]
    simp [runView, boundCore]
  · exact fun seen => impossible seen
  · exact fun seen => impossible seen
  · exact fun _ => rfl
  · exact fun _ => rfl
  · exact fun seen => impossible seen
  · exact fun _ => rfl

theorem sameView_boundCore_of_none {key : Option Str} (nobody : key = none) (runId : Str) :
    SameView key (boundCore runId true) (boundCore runId false) := by
  rw [nobody]
  exact sameView_boundCore (Option.some_ne_none _).symm runId

section Raises

variable {presenterKey : Except Raised (Option Str)} {raised : Raised} {agent : AgentRef}

/-- Where the hook raises, a hidden task is a fault of the server. -/
theorem getTask_present (raises : presenterKey = .error raised) (params : TaskRequest) :
    dispatchGetTask (onGetTask plainPackages (boundCore params.id true) agent presenterKey params) =
      .error internalErrorCode := by
  rw [onGetTask_valid rfl, raises]
  simp [boundCore, dispatchGetTask, answered, Fault.code]

theorem getTask_absent (params : TaskRequest) :
    dispatchGetTask
        (onGetTask plainPackages (boundCore params.id false) agent presenterKey params) =
      .error taskNotFoundCode := by
  rw [onGetTask_valid rfl]
  simp [boundCore, dispatchGetTask, answered, Fault.code, taskNotFound]

theorem subscribe_present (raises : presenterKey = .error raised) (params : TaskRequest) :
    answered
        (onSubscribeToTask plainPackages (boundCore params.id true) agent presenterKey params) =
      .error internalErrorCode := by
  have found : (boundCore params.id true).getRun params.id = some ⟨params.id, str "t"⟩ :=
    if_pos ⟨rfl, rfl⟩
  rw [onSubscribeToTask_found found, raises]
  rfl

theorem subscribe_absent (params : TaskRequest) :
    answered
        (onSubscribeToTask plainPackages (boundCore params.id false) agent presenterKey params) =
      .error taskNotFoundCode := by
  have missing : (boundCore params.id false).getRun params.id = none := by
    simp [boundCore]
  rw [onSubscribeToTask_missing missing]
  simp [superSubscribe, plainPackages, boundCore, answered, Fault.code, taskNotFound,
    Except.mapError]

end Raises

/-- A request of which the hook reads no key for an exception tells a hidden run from none. -/
theorem ReadRequest.tolerable_of_sameAnswer {terms : PresenterTerms}
    (ascii : ∀ body, ∀ point ∈ terms.sha256Hex body, point.val < 0x80)
    (verifies : ∀ key signature payload, Completes (terms.verifySignature key signature payload))
    {request : ReadRequest}
    (same : ∀ runId, SameView (request.presenter terms) (boundCore runId true)
        (boundCore runId false) →
      request.SameAnswer terms plainPackages (boundCore runId true) (boundCore runId false)) :
    request.Tolerable terms := by
  have tolerated {header : Option Str} {body : List UInt8}
      (returns : ∀ raised, presenterKeyOf terms header body ≠ .error raised) :
      ∀ text, header = some text → Tolerated terms text := by
    refine (@completes_iff_tolerated _ _ body ascii verifies).mp ?_
    cases read : presenterKeyOf terms header body with
    | ok key => exact ⟨key, rfl⟩
    | error raised => exact absurd read (returns raised)
  cases request with
  | listTasks | query => trivial
  | getTask agent header body params =>
      refine @tolerated header body fun raised read => ?_
      have nobody : (getTask agent header body params).presenter terms = none := by
        rw [presenter, read]
        rfl
      have told := same params.id (sameView_boundCore_of_none nobody params.id)
      rw [SameAnswer, getTask_present read, getTask_absent] at told
      cases told
  | subscribeToTask agent header body params =>
      refine @tolerated header body fun raised read => ?_
      have nobody : (subscribeToTask agent header body params).presenter terms = none := by
        rw [presenter, read]
        rfl
      have told := same params.id (sameView_boundCore_of_none nobody params.id)
      rw [SameAnswer, subscribe_present read, subscribe_absent] at told
      cases told

/-- A request gets the same answer in any two states of core which differ only in threads hidden
from its presenter, exactly if it names no run or its header does not raise. -/
theorem hidden_threads_indistinguishable_iff {terms : PresenterTerms}
    (ascii : ∀ body, ∀ point ∈ terms.sha256Hex body, point.val < 0x80)
    (verifies : ∀ key signature payload, Completes (terms.verifySignature key signature payload))
    (request : ReadRequest) :
    (∀ packages left right, Lawful packages left → Lawful packages right →
        SameView (request.presenter terms) left right →
        request.SameAnswer terms packages left right) ↔
      request.Tolerable terms := by
  constructor
  · intro same
    refine ReadRequest.tolerable_of_sameAnswer ascii verifies fun runId => ?_
    exact same _ _ _ (lawful_boundCore runId true) (lawful_boundCore runId false)
  · intro tolerable packages left right lawfulLeft lawfulRight
    exact ReadRequest.sameAnswer ascii verifies tolerable lawfulLeft lawfulRight

/-- `GetTask` of the run `r`, presented with this header or with none. -/
def getRequest (header : Option Str) : ReadRequest :=
  .getTask ⟨str "p", str "a"⟩ header [] ⟨str "r", []⟩

/-- Who presents nothing is not told that the run `r` exists. -/
theorem bare_request_indistinguishable :
    (getRequest none).SameAnswer plainTerms plainPackages (boundCore (str "r") true)
      (boundCore (str "r") false) := by
  have tolerable : (getRequest none).Tolerable plainTerms := by
    rintro _ ⟨⟩
  have same : SameView ((getRequest none).presenter plainTerms) (boundCore (str "r") true)
      (boundCore (str "r") false) := sameView_boundCore_of_none rfl (str "r")
  exact (hidden_threads_indistinguishable_iff plainTerms_lawful.digest_ascii
    (fun _ _ _ => ⟨_, rfl⟩) (getRequest none)).mpr tolerable plainPackages _ _
    (lawful_boundCore (str "r") true) (lawful_boundCore (str "r") false) same

set_option maxRecDepth 4000 in
/-- A timestamp which is infinite tells a hidden task from a missing one. -/
theorem oversized_header_tells :
    SameView ((getRequest (some oversizedHeader)).presenter plainTerms) (boundCore (str "r") true)
        (boundCore (str "r") false) ∧
      ¬(getRequest (some oversizedHeader)).SameAnswer plainTerms plainPackages
        (boundCore (str "r") true) (boundCore (str "r") false) := by
  have read : presenterKeyOf plainTerms (some oversizedHeader) [] = .error .overflowError := rfl
  have nobody : (getRequest (some oversizedHeader)).presenter plainTerms = none := by
    rw [getRequest, ReadRequest.presenter, read]
    rfl
  refine ⟨sameView_boundCore_of_none nobody (str "r"), ?_⟩
  intro told
  rw [getRequest, ReadRequest.SameAnswer, read] at told
  cases told

end Souk.Server.ApiA2A
