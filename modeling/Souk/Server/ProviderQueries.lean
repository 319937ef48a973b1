import Souk.Server.ProviderLink

/-!
# Who reads a thread over a provider link

A query is checked while it runs: the thread's provider key against the link's, and the link's key
against the parties.  Neither check looks at the roster, and neither is made again.  The answers
are authorised in a run whose roster names the agent of every thread which passes the first check,
as long as nothing takes from a task what it has found before it answers.
-/

namespace Souk.Server.WsProvider

open Souk.Python

namespace QueryTask

/-- The query which a task is at. -/
def asks : QueryTask → Option Query
  | reading query | admitting query _ | askingParties query _ | fetching query _ => some query
  | spawned _ | ended => none

/-- The query for which a task has found a thread of the link's key. -/
def hasFound : QueryTask → Option Query
  | admitting query _ | askingParties query _ | fetching query _ => some query
  | spawned _ | reading _ | ended => none

end QueryTask

namespace ProviderLink

variable {contract : Contract} {limits : Json.Limits} {link next : ProviderLink} {action : Action}

/-! ## What is claimed, and on which condition -/

/-- The link serves the thread's agent: the thread is bound to the link's key, and the agent's name
is on the roster the link last published. -/
def Serves (link : ProviderLink) (threadId : Str) : Prop :=
  ∃ thread, link.record.getThread threadId = some thread ∧
    thread.providerKey = link.socket.publicKey ∧ thread.agentName ∈ link.registeredNames

/-- The parties of a thread admit the link's key. -/
def Admits (link : ProviderLink) (threadId : Str) : Prop :=
  partiesAdmit link.record threadId (some link.socket.publicKey) = true

/-- The link serves the thread's agent and its key may read the thread. -/
def MayAnswer (link : ProviderLink) (threadId : Str) : Prop :=
  link.Serves threadId ∧ mayRead link.record threadId (some link.socket.publicKey) = true

/-- How a step may answer queries. -/
structure Authorised (contract : Contract) (limits : Json.Limits) (link : ProviderLink)
    (action : Action) : Prop where
  /-- Messages which a step puts on the queue are those of a thread the link serves and may read. -/
  messages : ∀ next, step contract limits link action = some next →
    ∃ added, next.socket.outbound <:+ link.socket.outbound ++ added ∧
      ∀ queryId messages, .queryResult queryId (.result messages) ∈ added →
        ∃ query : Query, query.queryId = queryId ∧ link.MayAnswer query.threadId ∧
          messages = lastMessages (link.record.getThreadMessages query.threadId) query.limit
  /-- A query of any other thread is answered as one of a thread which does not exist. -/
  refusals : ∀ index task query frame, action = .query index →
    link.socket.queries[index]? = some task → task.asks = some query →
    (task.advance link.record link.socket.publicKey).2 = some frame →
    ¬link.MayAnswer query.threadId → frame = noSuchThread query

/-- The roster and the record stand by the queries in a step. -/
structure StandsBy (contract : Contract) (limits : Json.Limits) (link : ProviderLink)
    (action : Action) : Prop where
  /-- Where a task reads a thread of the link's key, the roster names the thread's agent. -/
  rostered : ∀ index query thread, action = .query index →
    link.socket.queries[index]? = some (.reading query) →
    link.record.getThread query.threadId = some thread →
    thread.providerKey = link.socket.publicKey → thread.agentName ∈ link.registeredNames
  /-- No thread is withdrawn which a task has found. -/
  found : ∀ next task query, step contract limits link action = some next →
    task ∈ link.socket.queries → task.hasFound = some query →
    link.Serves query.threadId → next.Serves query.threadId
  /-- No party is withdrawn whose admission a task has seen. -/
  admitted : ∀ next query thread, step contract limits link action = some next →
    .fetching query thread ∈ link.socket.queries →
    link.Admits query.threadId → next.Admits query.threadId

/-! ## The messages of a step -/

/-- The query which a step answers with messages, and the thread its task has read. -/
def answers (link : ProviderLink) : Action → Option (Query × Thread)
  | .query index =>
      match link.socket.queries[index]? with
      | some (.fetching query thread) => some (query, thread)
      | _ => none
  | _ => none

/-- Messages reach the queue only from a step which answers a query. -/
theorem answers_of_messages {queryId : Str} {messages : List Value}
    (adds : Adds link action (.queryResult queryId (.result messages))) :
    ∃ query thread, link.answers action = some (query, thread) ∧ query.queryId = queryId := by
  cases adds with
  | reply reply => cases reply
  | refusal refusal => cases refusal
  | @messages index query thread fetching =>
      exact ⟨query, thread, by simp only [answers, fetching], rfl⟩

/-- Such a step enqueues the messages core holds, and nothing else. -/
theorem messages_of_answers {query : Query} {thread : Thread}
    (answered : link.answers action = some (query, thread))
    (taken : step contract limits link action = some next) :
    next.socket.outbound = link.socket.outbound ++ [.queryResult query.queryId
      (.result (lastMessages (link.record.getThreadMessages query.threadId) query.limit))] := by
  cases action with
  | query index =>
      obtain ⟨task, found, rfl⟩ := Option.map_eq_some_iff.mp taken
      simp only [answers, found] at answered
      split at answered
      · rename_i same
        obtain rfl := Option.some.inj same
        obtain ⟨rfl, rfl⟩ := Prod.mk.inj (Option.some.inj answered)
        rfl
      · cases answered
  | receive | answer | cancelHandler | goLive | goOffline | deliver | cancelRun | queryRaises
    | watch | watchRaises | write | writeFails | recordChanges => cases answered

theorem fetching_of_answers {query : Query} {thread : Thread}
    (answered : link.answers action = some (query, thread)) :
    .fetching query thread ∈ link.socket.queries := by
  cases action with
  | query index =>
      simp only [answers] at answered
      split at answered
      · rename_i found
        obtain ⟨rfl, rfl⟩ := Prod.mk.inj (Option.some.inj answered)
        exact List.mem_of_getElem? found
      · cases answered
  | receive | answer | cancelHandler | goLive | goOffline | deliver | cancelRun | queryRaises
    | watch | watchRaises | write | writeFails | recordChanges => cases answered

/-- A step takes frames from the front of the queue or adds some at its end. -/
theorem outbound_of_step (taken : step contract limits link action = some next) :
    ∃ added, next.socket.outbound <:+ link.socket.outbound ++ added ∧
      ∀ frame ∈ added, Adds link action frame := by
  have kept {left : List OutboundFrame} (suffix : left <:+ link.socket.outbound) :
      ∃ added, left <:+ link.socket.outbound ++ added ∧ ∀ frame ∈ added, Adds link action frame :=
    ⟨[], by rwa [List.append_nil], by simp⟩
  have grown {socket : ProviderSocket} (grows : ProviderSocket.Grows link.socket socket) :
      ∃ added, socket.outbound <:+ link.socket.outbound ++ added ∧
        ∀ frame ∈ added, Adds link action frame := by
    obtain ⟨replies, outbound, reply⟩ := grows.outbound
    exact ⟨replies, outbound ▸ List.suffix_rfl, fun frame among => .reply (reply frame among)⟩
  cases moves_of_step taken with
  | left | raised | aside => exact kept List.suffix_rfl
  | received _ received | called _ received => exact grown (ProviderSocket.grows_receive received)
  | answered _ resumed => exact grown (ProviderSocket.grows_resume resumed)
  | @sent _ frame _ adds =>
      refine ⟨[frame], List.suffix_rfl, fun other among => ?_⟩
      rwa [List.mem_singleton.mp among]
  | @queried index task found =>
      cases answered : (task.advance link.record link.socket.publicKey).2 with
      | none =>
          have silent : (link.runQuery index task).socket.outbound = link.socket.outbound := by
            simp [runQuery, answered, ProviderSocket.setQuery]
          exact kept (silent ▸ List.suffix_rfl)
      | some frame =>
          have sent : (link.runQuery index task).socket.outbound =
              link.socket.outbound ++ [frame] := by
            simp [runQuery, answered, ProviderSocket.setQuery, ProviderSocket.send]
          refine ⟨[frame], sent ▸ List.suffix_rfl, fun other among => ?_⟩
          obtain rfl := List.mem_singleton.mp among
          obtain refusal | ⟨query, thread, messages, rfl, rfl⟩ := QueryTask.advance_frame answered
          · exact .refusal refusal
          · exact .messages found messages
  | @wrote frame rest _ outbound | @silenced _ _ frame rest outbound =>
      exact kept (outbound ▸ List.suffix_cons frame rest)

/-! ## What a task has found -/

/-- What a task has found by its checks still stands. -/
def Holds (link : ProviderLink) : QueryTask → Prop
  | .admitting query _ | .askingParties query _ => link.Serves query.threadId
  | .fetching query _ => link.Serves query.threadId ∧ link.Admits query.threadId
  | .spawned _ | .reading _ | .ended => True

/-- What every query task has found still stands. -/
def AllHold (link : ProviderLink) : Prop := ∀ task ∈ link.socket.queries, link.Holds task

/-- A check finds what it looks for, and of the roster what the condition says. -/
theorem Holds.advance {index : Nat} {task : QueryTask} (holds : link.Holds task)
    (standsBy : StandsBy contract limits link (.query index))
    (found : link.socket.queries[index]? = some task) :
    link.Holds (task.advance link.record link.socket.publicKey).1 := by
  cases task with
  | spawned parsed =>
      simp only [QueryTask.advance]
      split <;> trivial
  | reading query =>
      simp only [QueryTask.advance]
      split
      · trivial
      · rename_i thread read
        split
        · rename_i own
          exact ⟨thread, read, own, standsBy.rostered index query thread rfl found read own⟩
        · trivial
  | admitting query thread =>
      simp only [QueryTask.advance]
      split
      · trivial
      · exact holds
  | askingParties query thread =>
      simp only [QueryTask.advance]
      split
      · rename_i admits
        exact ⟨holds, admits⟩
      · trivial
  | fetching query thread | ended => trivial

/-- A step of a query task changes neither the roster nor the record. -/
theorem same_runQuery (link : ProviderLink) (index : Nat) (task : QueryTask) :
    (link.runQuery index task).record = link.record ∧
      (link.runQuery index task).socket.publicKey = link.socket.publicKey ∧
      (link.runQuery index task).registeredNames = link.registeredNames := by
  cases answered : (task.advance link.record link.socket.publicKey).2 <;>
    simp [runQuery, answered, registeredNames, ProviderSocket.setQuery, ProviderSocket.send]

theorem serves_runQuery {index : Nat} {task : QueryTask} {threadId : Str} :
    (link.runQuery index task).Serves threadId ↔ link.Serves threadId := by
  simp only [Serves, same_runQuery]

theorem admits_runQuery {index : Nat} {task : QueryTask} {threadId : Str} :
    (link.runQuery index task).Admits threadId ↔ link.Admits threadId := by
  simp only [Admits, same_runQuery]

theorem holds_runQuery {index : Nat} {ran task : QueryTask} :
    (link.runQuery index ran).Holds task ↔ link.Holds task := by
  cases task <;> simp only [Holds, serves_runQuery, admits_runQuery]

theorem AllHold.step (holds : AllHold link) (standsBy : StandsBy contract limits link action)
    (taken : step contract limits link action = some next) : AllHold next := by
  intro task member
  have kept (was : task ∈ link.socket.queries) : next.Holds task := by
    have before := holds task was
    cases task with
    | spawned | reading | ended => trivial
    | admitting query thread => exact standsBy.found next _ query taken was rfl before
    | askingParties query thread => exact standsBy.found next _ query taken was rfl before
    | fetching query thread =>
        exact ⟨standsBy.found next _ query taken was rfl before.1,
          standsBy.admitted next query thread taken was before.2⟩
  cases (step_effect taken).queries task member with
  | kept was => exact kept was
  | spawned parsed => trivial
  | @advanced index ran found =>
      obtain ⟨_, same, rfl⟩ := Option.map_eq_some_iff.mp taken
      obtain rfl := Option.some.inj (found.symm.trans same)
      exact holds_runQuery.mpr
        (Holds.advance (holds _ (List.mem_of_getElem? found)) standsBy found)
  | ended => trivial

theorem mayAnswer_of_holds {query : Query} {thread : Thread}
    (holds : link.Holds (.fetching query thread)) : link.MayAnswer query.threadId := by
  obtain ⟨⟨current, found, own, named⟩, admits⟩ := holds
  refine ⟨⟨current, found, own, named⟩, ?_⟩
  rw [mayRead, found]
  exact admits

/-- A task answers a query without messages as if there were no such thread. -/
theorem advance_of_asks {record : Record} {publicKey : Str} {task : QueryTask} {query : Query}
    {frame : OutboundFrame} (asks : task.asks = some query)
    (answered : (task.advance record publicKey).2 = some frame) :
    frame = noSuchThread query ∨ ∃ thread, task = .fetching query thread := by
  cases task with
  | spawned | ended => cases asks
  | reading other =>
      obtain rfl := Option.some.inj asks
      simp only [QueryTask.advance] at answered
      split at answered
      · exact .inl (Option.some.inj answered).symm
      · split at answered
        · cases answered
        · exact .inl (Option.some.inj answered).symm
  | admitting other thread =>
      obtain rfl := Option.some.inj asks
      simp only [QueryTask.advance] at answered
      split at answered
      · exact .inl (Option.some.inj answered).symm
      · cases answered
  | askingParties other thread =>
      obtain rfl := Option.some.inj asks
      simp only [QueryTask.advance] at answered
      split at answered
      · cases answered
      · exact .inl (Option.some.inj answered).symm
  | fetching other thread =>
      obtain rfl := Option.some.inj asks
      exact .inr ⟨thread, rfl⟩

theorem AllHold.authorised (holds : AllHold link) : Authorised contract limits link action where
  messages next taken := by
    cases answered : link.answers action with
    | none =>
        obtain ⟨added, suffix, adds⟩ := outbound_of_step taken
        refine ⟨added, suffix, fun queryId messages among => ?_⟩
        obtain ⟨query, thread, answers, _⟩ := answers_of_messages (adds _ among)
        cases answered.symm.trans answers
    | some asked =>
        obtain ⟨query, thread⟩ := asked
        refine ⟨_, ⟨[], messages_of_answers answered taken⟩, ?_⟩
        intro queryId messages among
        obtain ⟨rfl, same⟩ := by simpa using among
        exact ⟨query, rfl, mayAnswer_of_holds (holds _ (fetching_of_answers answered)), same⟩
  refusals index task query frame _ found asks answered denied := by
    obtain refused | ⟨thread, rfl⟩ := advance_of_asks asks answered
    · exact refused
    · exact absurd (mayAnswer_of_holds (holds _ (List.mem_of_getElem? found))) denied

/-- In every run of a link in which the roster and the record stand by its queries, a query is
answered with messages only if the link serves the thread's agent and its key may read the thread
at that moment, and any other query as one of a thread which does not exist. -/
theorem queries_authorised_of_standsBy {publicKey funduqPublicKey answer : Str} {record : Record}
    {actions : List Action}
    (standsBy : (machine contract limits).Along (StandsBy contract limits)
      (opened publicKey funduqPublicKey answer record) actions) :
    (machine contract limits).Along (Authorised contract limits)
      (opened publicKey funduqPublicKey answer record) actions := by
  have start : AllHold (opened publicKey funduqPublicKey answer record) := fun _ =>
    (List.not_mem_nil · |>.elim)
  exact Machine.along_of_along AllHold.step (fun holds _ => holds.authorised) start standsBy

/-! ## Steps which stand by the queries -/

/-- Where no query has been asked there is nothing to stand by. -/
theorem standsBy_of_idle (idle : link.socket.queries = []) :
    StandsBy contract limits link action where
  rostered index query thread _ found := by
    rw [idle, List.getElem?_nil] at found
    cases found
  found next task query _ member := by
    rw [idle] at member
    cases member
  admitted next query thread _ member := by
    rw [idle] at member
    cases member

/-- The roster names the agents of all threads of core. -/
def NamesAll (link : ProviderLink) : Prop :=
  ∀ threadId thread, link.record.getThread threadId = some thread →
    thread.agentName ∈ link.registeredNames

/-- Query tasks take nothing away, so that the roster alone counts while nothing else happens. -/
theorem standsBy_of_namesAll (named : link.NamesAll) (index : Nat) :
    StandsBy contract limits link (.query index) where
  rostered _ query thread _ _ found _ := named query.threadId thread found
  found next task query taken _ _ serves := by
    obtain ⟨ran, _, rfl⟩ := Option.map_eq_some_iff.mp taken
    exact serves_runQuery.mpr serves
  admitted next query thread taken _ admits := by
    obtain ⟨ran, _, rfl⟩ := Option.map_eq_some_iff.mp taken
    exact admits_runQuery.mpr admits

theorem along_standsBy_of_namesAll (named : link.NamesAll) (indices : List Nat) :
    (machine contract limits).Along (StandsBy contract limits) link (indices.map .query) := by
  induction indices generalizing link with
  | nil => trivial
  | cons index indices induction =>
      refine ⟨standsBy_of_namesAll named index, fun next taken => induction ?_⟩
      obtain ⟨task, _, rfl⟩ := Option.map_eq_some_iff.mp taken
      have same := same_runQuery link index task
      intro threadId thread found
      rw [same.1] at found
      rw [same.2.2]
      exact named threadId thread found

/-! A provider reads an unbound thread of its own key: on a link which has registered its agent, and
on one which has registered nothing. -/

/-- The frame `{"type": "query", "queryId": "q", "method": "thread_messages",
"params": {"threadId": "t"}}`. -/
def queryFrame : Str :=
  str ("\x7b\"type\": \"query\", \"queryId\": \"q\", \"method\": \"thread_messages\", " ++
    "\"params\": \x7b\"threadId\": \"t\"\x7d\x7d")

/-- One unbound thread, `t`, of the agent `a` of the key `k`. -/
def oneThread : Record where
  getThread threadId := if threadId = str "t" then some ⟨str "k", str "a"⟩ else none
  partiesOf _ := none
  getThreadMessages _ := [.str (str "hello")]
  listsAgent _ _ := false

def unregisteredLink : ProviderLink := opened (str "k") (str "f") (str "s") oneThread

/-- The link while its roster is being registered. -/
def registeringLink : ProviderLink :=
  { unregisteredLink with
    loop := .awaiting (.registerAgents [⟨str "a", false, [(str "name", .str (str "a"))]⟩] .null)
    socket := { unregisteredLink.socket with interjections := [(str "a", false)] } }

def registeredLink : ProviderLink :=
  { unregisteredLink with
    socket := { registeringLink.socket with
      registeredNames := [str "a"]
      outbound := [.welcome (str "f") (str "s"), .registered [str "a"]] } }

/-- The registered link with a task for the query. -/
def queriedLink : ProviderLink :=
  { registeredLink with
    socket := { registeredLink.socket with
      queries := [.spawned ((Json.loads Json.defaultLimits queryFrame).toOption.bind
        Value.asDict? |>.getD [])] } }

theorem step_register : (machine plainContract Json.defaultLimits).step unregisteredLink
    (.receive (.text registerFrame) plainCore) = some registeringLink := (rfl)

theorem step_registered : (machine plainContract Json.defaultLimits).step registeringLink
    (.answer plainCore) = some registeredLink := (rfl)

set_option maxRecDepth 4000 in
theorem step_asked : (machine plainContract Json.defaultLimits).step registeredLink
    (.receive (.text queryFrame) plainCore) = some queriedLink := (rfl)

/-- The query is received and its task runs to its end. -/
def unregisteredQuery : List Action :=
  .receive (.text queryFrame) plainCore :: [0, 0, 0, 0].map .query ++ [.query 0]

/-- The agent is registered in front of it. -/
def registeredQuery : List Action :=
  .receive (.text registerFrame) plainCore :: .answer plainCore ::
    .receive (.text queryFrame) plainCore :: [0, 0, 0, 0, 0].map .query

theorem namesAll_queriedLink : queriedLink.NamesAll := by
  intro threadId thread found
  have named : thread.agentName = str "a" := by
    simp only [queriedLink, registeredLink, unregisteredLink, opened, oneThread] at found
    split at found
    · obtain rfl := Option.some.inj found
      rfl
    · cases found
  rw [named]
  exact List.mem_singleton_self _

theorem standsBy_registeredQuery :
    (machine plainContract Json.defaultLimits).Along (StandsBy plainContract Json.defaultLimits)
      unregisteredLink registeredQuery := by
  have rest : (machine plainContract Json.defaultLimits).Along
      (StandsBy plainContract Json.defaultLimits) queriedLink ([0, 0, 0, 0, 0].map .query) :=
    along_standsBy_of_namesAll namesAll_queriedLink _
  have asked := Machine.along_cons (standsBy_of_idle rfl) step_asked rest
  have registered := Machine.along_cons (standsBy_of_idle rfl) step_registered asked
  exact Machine.along_cons (standsBy_of_idle rfl) step_register registered

set_option maxRecDepth 4000 in
/-- A link which has registered the agent is sent the messages. -/
theorem registered_link_reads_thread :
    ((machine plainContract Json.defaultLimits).run unregisteredLink registeredQuery).map
        (fun link => link.socket.outbound) = some [.welcome (str "f") (str "s"),
          .registered [str "a"], .queryResult (str "q") (.result [.str (str "hello")])] ∧
      (machine plainContract Json.defaultLimits).Along
        (Authorised plainContract Json.defaultLimits) unregisteredLink registeredQuery :=
  ⟨(rfl), queries_authorised_of_standsBy standsBy_registeredQuery⟩

/-- The link which has registered nothing, when its query has passed both checks. -/
def fetchingLink : ProviderLink :=
  { unregisteredLink with
    socket := { unregisteredLink.socket with
      queries := [.fetching ⟨str "q", str "t", none⟩ ⟨str "k", str "a"⟩] } }

def afterUnregisteredQuery : ProviderLink :=
  { unregisteredLink with
    socket := { unregisteredLink.socket with
      outbound := [.welcome (str "f") (str "s"),
        .queryResult (str "q") (.result [.str (str "hello")])]
      queries := [.ended] } }

set_option maxRecDepth 4000 in
theorem run_fetchingLink :
    (machine plainContract Json.defaultLimits).run unregisteredLink
      (.receive (.text queryFrame) plainCore :: [0, 0, 0, 0].map .query) = some fetchingLink :=
  (rfl)

theorem step_fetchingLink : (machine plainContract Json.defaultLimits).step fetchingLink
    (.query 0) = some afterUnregisteredQuery := (rfl)

theorem run_unregisteredQuery :
    (machine plainContract Json.defaultLimits).run unregisteredLink unregisteredQuery =
      some afterUnregisteredQuery := by
  rw [unregisteredQuery, Machine.run_append _ run_fetchingLink, Machine.run_cons,
    step_fetchingLink]
  rfl

/-- The query is answered with messages although the roster is empty. -/
theorem unregistered_link_reads_thread :
    ∃ actions link,
      (machine plainContract Json.defaultLimits).run unregisteredLink actions = some link ∧
      link.registeredNames = [] ∧
      link.socket.outbound = [.welcome (str "f") (str "s"),
        .queryResult (str "q") (.result [.str (str "hello")])] ∧
      ¬(machine plainContract Json.defaultLimits).Along
        (Authorised plainContract Json.defaultLimits) unregisteredLink actions := by
  refine ⟨unregisteredQuery, afterUnregisteredQuery, run_unregisteredQuery, rfl, rfl, ?_⟩
  intro authorised
  have fetched := (authorised.of_append run_fetchingLink).1
  obtain ⟨added, suffix, those⟩ := fetched.messages _ step_fetchingLink
  have stands : OutboundFrame.queryResult (str "q") (.result [.str (str "hello")]) ∈
      [.welcome (str "f") (str "s")] ++ added :=
    suffix.subset (List.mem_cons_of_mem _ (List.mem_singleton_self _))
  have new : OutboundFrame.queryResult (str "q") (.result [.str (str "hello")]) ∈ added := by
    simpa using stands
  obtain ⟨query, _, ⟨⟨thread, _, _, named⟩, _⟩, _⟩ := those _ _ new
  cases named

end ProviderLink
end Souk.Server.WsProvider
