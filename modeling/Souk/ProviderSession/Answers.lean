import Souk.ProviderSession.Session

/-!
# The answers of a handler

A question spawns a task at the handler which hears it, and the task reads core at four different
moments.  Whatever the interleaving of tasks, read loop and writer, every answer of a connection
goes back to a question which the connection has heard: messages to three moments of core, in their
order, and a refusal to a malformed question or to a moment at which core withheld the thread.
-/

namespace Souk.ProviderSession

open Souk.Python
open Souk.Server (RawMessage Record parseFrame partiesAdmit)
open Souk.Server.WsProvider (Contract ProviderLink ProviderSocket Query QueryTask lastMessages
  parseQuery)
open Souk.AgentSdk (OutboundFrame Queries SoukProvider)

/-! ## What a handler can know -/

/-- At this moment the thread belongs to the key. -/
def OwnedAt (records : List Record) (key threadId : Str) (moment : Nat) : Prop :=
  ∃ record thread, records[moment]? = some record ∧ record.getThread threadId = some thread ∧
    thread.providerKey = key

/-- At this moment the parties of the thread admit the key. -/
def AdmittedAt (records : List Record) (key threadId : Str) (moment : Nat) : Prop :=
  ∃ record, records[moment]? = some record ∧ partiesAdmit record threadId (some key) = true

/-- At this moment these are the messages of the thread. -/
def HeldAt (records : List Record) (query : Query) (messages : List Value) (moment : Nat) : Prop :=
  ∃ record, records[moment]? = some record ∧
    messages = lastMessages (record.getThreadMessages query.threadId) query.limit

/-- At some moment the thread is another's, or nobody's, or its parties do not admit the key. -/
def Withheld (records : List Record) (key threadId : Str) : Prop :=
  ∃ record ∈ records,
    (∀ thread, record.getThread threadId = some thread → thread.providerKey ≠ key) ∨
      partiesAdmit record threadId (some key) = false

/-- The key may read the thread, which was first found to be its own. -/
def Granted (records : List Record) (key threadId : Str) (moment : Nat) : Prop :=
  ∃ owned ≤ moment, OwnedAt records key threadId owned ∧ AdmittedAt records key threadId moment

/-- The messages were read from core when the key had been granted them. -/
def Fetched (records : List Record) (key : Str) (query : Query) (messages : List Value) : Prop :=
  ∃ granted read, granted ≤ read ∧ Granted records key query.threadId granted ∧
    HeldAt records query messages read

/-- The question has been heard. -/
def Asked (heard : List OutboundFrame) (query : Query) : Prop :=
  ∃ queryId threadId limit, OutboundFrame.query queryId threadId limit ∈ heard ∧
    query.queryId = Json.rereadStr queryId ∧ query.threadId = Json.rereadStr threadId ∧
    limit = query.limit.map Int.ofNat

/-- Why a question is refused: it is malformed, or core withholds the thread. -/
def Refusable (records : List Record) (key threadId : Str) (limit : Option Int) : Prop :=
  threadId = [] ∨ (∃ count ≤ 0, limit = some count) ∨ Withheld records key threadId

/-- What a query task stands for. -/
def TaskGrounded (heard : List OutboundFrame) (records : List Record) (key : Str) :
    QueryTask → Prop
  | .spawned parsed => ∃ queryId threadId limit,
      OutboundFrame.query queryId threadId limit ∈ heard ∧
        parsed = questionFields queryId threadId limit
  | .reading query => Asked heard query
  | .admitting query _ | .askingParties query _ =>
      Asked heard query ∧ ∃ moment, OwnedAt records key query.threadId moment
  | .fetching query _ => Asked heard query ∧ ∃ moment, Granted records key query.threadId moment
  | .ended => True

/-- What an answer stands for. -/
def AnswerGrounded (heard : List OutboundFrame) (records : List Record) (key : Str) :
    Server.WsProvider.OutboundFrame → Prop
  | .queryResult queryId (.result messages) => ∃ query, queryId = query.queryId ∧
      Asked heard query ∧ Fetched records key query messages
  | .queryResult queryId (.error _) => ∃ asked threadId limit,
      OutboundFrame.query asked threadId limit ∈ heard ∧ queryId = Json.rereadStr asked ∧
        Refusable records key (Json.rereadStr threadId) limit
  | _ => True

section Grounded

variable {heard : List OutboundFrame} {records : List Record} {key : Str}

/-! Both last as more is heard and core goes on. -/

theorem OwnedAt.mono {threadId : Str} {moment : Nat} (owned : OwnedAt records key threadId moment)
    (later : List Record) : OwnedAt (records ++ later) key threadId moment := by
  obtain ⟨record, thread, found, rest⟩ := owned
  exact ⟨record, thread, getElem?_append_of_eq_some found, rest⟩

theorem Granted.mono {threadId : Str} {moment : Nat} (granted : Granted records key threadId moment)
    (later : List Record) : Granted (records ++ later) key threadId moment := by
  obtain ⟨owned, before, isOwned, record, found, admits⟩ := granted
  exact ⟨owned, before, isOwned.mono later, record, getElem?_append_of_eq_some found, admits⟩

theorem Fetched.mono {query : Query} {messages : List Value}
    (fetched : Fetched records key query messages) (later : List Record) :
    Fetched (records ++ later) key query messages := by
  obtain ⟨granted, read, before, isGranted, record, found, held⟩ := fetched
  exact ⟨granted, read, before, isGranted.mono later, record,
    getElem?_append_of_eq_some found, held⟩

theorem Asked.mono {query : Query} (asked : Asked heard query) (later : List OutboundFrame) :
    Asked (heard ++ later) query := by
  obtain ⟨queryId, threadId, limit, among, rest⟩ := asked
  exact ⟨queryId, threadId, limit, List.mem_append_left _ among, rest⟩

theorem Refusable.mono {threadId : Str} {limit : Option Int}
    (refusable : Refusable records key threadId limit) (later : List Record) :
    Refusable (records ++ later) key threadId limit := by
  rcases refusable with empty | unbounded | ⟨record, among, withheld⟩
  · exact .inl empty
  · exact .inr (.inl unbounded)
  · exact .inr (.inr ⟨record, List.mem_append_left _ among, withheld⟩)

theorem TaskGrounded.mono {task : QueryTask} (grounded : TaskGrounded heard records key task)
    (frames : List OutboundFrame) (later : List Record) :
    TaskGrounded (heard ++ frames) (records ++ later) key task := by
  cases task with
  | spawned parsed =>
      obtain ⟨queryId, threadId, limit, among, same⟩ := grounded
      exact ⟨queryId, threadId, limit, List.mem_append_left _ among, same⟩
  | reading query => exact Asked.mono grounded frames
  | admitting query thread | askingParties query thread =>
      obtain ⟨asked, moment, owned⟩ := grounded
      exact ⟨asked.mono frames, moment, owned.mono later⟩
  | fetching query thread =>
      obtain ⟨asked, moment, granted⟩ := grounded
      exact ⟨asked.mono frames, moment, granted.mono later⟩
  | ended => trivial

theorem AnswerGrounded.mono {frame : Server.WsProvider.OutboundFrame}
    (grounded : AnswerGrounded heard records key frame) (frames : List OutboundFrame)
    (later : List Record) : AnswerGrounded (heard ++ frames) (records ++ later) key frame := by
  cases frame with
  | queryResult queryId answer =>
      cases answer with
      | result messages =>
          obtain ⟨query, same, asked, fetched⟩ := grounded
          exact ⟨query, same, asked.mono frames, fetched.mono later⟩
      | error message =>
          obtain ⟨asked, threadId, limit, among, same, refusable⟩ := grounded
          exact ⟨asked, threadId, limit, List.mem_append_left _ among, same,
            refusable.mono later⟩
  | _ => trivial

/-! ## A step of a task -/

theorem Asked.frame {query : Query} (asked : Asked heard query) : ∃ queryId threadId limit,
    OutboundFrame.query queryId threadId limit ∈ heard ∧ query.queryId = Json.rereadStr queryId ∧
      query.threadId = Json.rereadStr threadId := by
  obtain ⟨queryId, threadId, limit, among, named, thread, -⟩ := asked
  exact ⟨queryId, threadId, limit, among, named, thread⟩

/-- A task which gives up its question has found core withholding the thread. -/
theorem grounded_noSuchThread {query : Query} (asked : Asked heard query)
    (withheld : Withheld records key query.threadId) :
    AnswerGrounded heard records key (Server.WsProvider.noSuchThread query) := by
  obtain ⟨queryId, threadId, limit, among, named, thread⟩ := asked.frame
  exact ⟨queryId, threadId, limit, among, named, .inr (.inr (thread ▸ withheld))⟩

theorem mem_of_getLast? {record : Record} (now : records.getLast? = some record) :
    record ∈ records := List.mem_of_getLast? now

theorem now_at {record : Record} (now : records.getLast? = some record) :
    records[records.length - 1]? = some record := List.getLast?_eq_getElem? ▸ now

theorem before_now {moment : Nat} {record : Record} (found : records[moment]? = some record) :
    moment ≤ records.length - 1 := by
  have inside := (List.getElem?_eq_some_iff.mp found).1
  omega

/-- A task which is grounded stays so, and puts nothing but grounded answers on the queue. -/
theorem grounded_advance {record : Record} {task : QueryTask}
    (grounded : TaskGrounded heard records key task) (now : records.getLast? = some record) :
    TaskGrounded heard records key (task.advance record key).1 ∧
      ∀ frame ∈ (task.advance record key).2, AnswerGrounded heard records key frame := by
  cases task with
  | spawned parsed =>
      obtain ⟨queryId, threadId, limit, among, rfl⟩ := grounded
      rcases parseQuery_questionFields queryId threadId limit with
        ⟨query, parsed, named, thread, limited⟩ | ⟨message, parsed, reason⟩ | ⟨message, parsed⟩
      · simp only [QueryTask.advance, parsed]
        exact ⟨⟨queryId, threadId, limit, among, named, thread, limited⟩, by simp⟩
      · simp only [QueryTask.advance, parsed]
        refine ⟨trivial, fun frame answer => ?_⟩
        obtain rfl := Option.some.inj answer
        exact ⟨queryId, threadId, limit, among, rfl, reason.imp_right .inl⟩
      · simp only [QueryTask.advance, parsed]
        refine ⟨trivial, fun frame answer => ?_⟩
        obtain rfl := Option.some.inj answer
        trivial
  | reading query =>
      have withheld : (∀ thread, record.getThread query.threadId = some thread →
          thread.providerKey ≠ key) → Withheld records key query.threadId :=
        fun others => ⟨record, mem_of_getLast? now, .inl others⟩
      simp only [QueryTask.advance]
      split
      · rename_i absent
        refine ⟨trivial, fun frame answer => ?_⟩
        obtain rfl := Option.some.inj answer
        refine grounded_noSuchThread grounded (withheld fun thread found => ?_)
        rw [absent] at found
        cases found
      · rename_i thread found
        split
        · rename_i own
          exact ⟨⟨grounded, records.length - 1, record, thread, now_at now, found, own⟩, by simp⟩
        · rename_i others
          refine ⟨trivial, fun frame answer => ?_⟩
          obtain rfl := Option.some.inj answer
          refine grounded_noSuchThread grounded (withheld fun other same => ?_)
          obtain rfl := Option.some.inj (found.symm.trans same)
          exact others
  | admitting query thread =>
      simp only [QueryTask.advance]
      split
      · rename_i absent
        refine ⟨trivial, fun frame answer => ?_⟩
        obtain rfl := Option.some.inj answer
        refine grounded_noSuchThread grounded.1 ⟨record, mem_of_getLast? now, .inl ?_⟩
        intro other same
        rw [absent] at same
        cases same
      · exact ⟨grounded, by simp⟩
  | askingParties query thread =>
      obtain ⟨asked, moment, owned⟩ := grounded
      simp only [QueryTask.advance]
      split
      · rename_i admitted
        have before : moment ≤ records.length - 1 := by
          obtain ⟨_, _, found, _⟩ := owned
          exact before_now found
        refine ⟨⟨asked, records.length - 1, moment, before, owned, ?_⟩, by simp⟩
        exact ⟨record, now_at now, admitted⟩
      · rename_i refused
        refine ⟨trivial, fun frame answer => ?_⟩
        obtain rfl := Option.some.inj answer
        refine grounded_noSuchThread asked ⟨record, mem_of_getLast? now, .inr ?_⟩
        exact Bool.not_eq_true _ ▸ refused
  | fetching query thread =>
      obtain ⟨asked, moment, granted⟩ := grounded
      simp only [QueryTask.advance]
      refine ⟨trivial, fun frame answer => ?_⟩
      obtain rfl := Option.some.inj answer
      have before : moment ≤ records.length - 1 := by
        obtain ⟨_, _, _, _, found, _⟩ := granted
        exact before_now found
      exact ⟨query, rfl, asked, moment, records.length - 1, before, granted, record, now_at now,
        rfl⟩
  | ended => exact ⟨trivial, by simp [QueryTask.advance]⟩

end Grounded

/-! ## A step of a handler -/

section Handler

variable {contract : Contract} {limits : Json.Limits} {encoder : Json.Encoder}

theorem queries_of_onAck {core : Server.WsProvider.CoreReplies} {socket next : ProviderSocket}
    {fields : Dict} (taken : socket.onAck contract core fields = .ok next) :
    next.queries = socket.queries := by
  simp only [ProviderSocket.onAck] at taken
  split at taken
  · obtain rfl := Except.ok.inj taken
    rfl
  · obtain ⟨answer, _, taken⟩ := bind_eq_ok.mp taken
    split at taken
    · obtain rfl := Except.ok.inj taken
      rfl
    · cases taken

theorem queries_of_onReport {socket next : ProviderSocket} {fields : Dict} {refusal : String}
    {reply : Except Server.CoreError Bool}
    (taken : socket.onReport fields refusal reply = .ok next) :
    next.queries = socket.queries := by
  rcases reply with error | (_ | _)
  · cases taken
  · obtain rfl := Except.ok.inj taken
    rfl
  · obtain rfl := Except.ok.inj taken
    rfl

/-- The read loop spawns a task for a question, and for nothing else. -/
theorem queries_of_dispatch {core : Server.WsProvider.CoreReplies} {socket next : ProviderSocket}
    {fields : Dict} {call : Option Server.WsProvider.CoreCall}
    (taken : socket.dispatch contract core fields = .ok (next, call)) :
    next.queries = socket.queries ∨ Dict.get fields "type" = .str "query" ∧
      next.queries = socket.queries ++ [.spawned fields] := by
  by_cases typed : ∃ kind, Dict.get fields "type" = .str kind
  · obtain ⟨kind, typed⟩ := typed
    rw [ProviderSocket.dispatch_str contract core socket typed] at taken
    split at taken
    · obtain ⟨rfl, rfl⟩ := Except.ok.inj taken
      exact .inl rfl
    rename_i known
    split at taken
    · obtain ⟨rfl, -⟩ := Prod.mk.inj (Except.ok.inj taken)
      refine .inl ?_
      split <;> rfl
    rename_i notRegister
    split at taken
    · obtain ⟨rfl, -⟩ := Prod.mk.inj (Except.ok.inj taken)
      refine .inl ?_
      split <;> rfl
    rename_i notDelete
    split at taken
    · obtain ⟨acked, branch, same⟩ := bind_eq_ok.mp taken
      obtain ⟨rfl, rfl⟩ := Except.ok.inj same
      exact .inl (queries_of_onAck branch)
    rename_i notAck
    split at taken
    · obtain ⟨reported, branch, same⟩ := bind_eq_ok.mp taken
      obtain ⟨rfl, rfl⟩ := Except.ok.inj same
      exact .inl (queries_of_onReport branch)
    rename_i notEvent
    split at taken
    · obtain ⟨reported, branch, same⟩ := bind_eq_ok.mp taken
      obtain ⟨rfl, rfl⟩ := Except.ok.inj same
      exact .inl (queries_of_onReport branch)
    · rename_i notFinish
      obtain ⟨rfl, rfl⟩ := Except.ok.inj taken
      have query : kind = "query" := by
        simpa [Server.WsProvider.inboundFrameTypes, notRegister, notDelete, notAck, notEvent,
          notFinish] using known
      exact .inr ⟨typed.trans (congrArg Value.str query), rfl⟩
  · rw [ProviderSocket.dispatch_not_str contract core socket fields
      fun kind same => typed ⟨kind, same⟩] at taken
    split at taken
    · obtain ⟨rfl, rfl⟩ := Except.ok.inj taken
      exact .inl rfl
    · cases taken

theorem queries_of_resume {core : Server.WsProvider.CoreReplies} {socket next : ProviderSocket}
    {call : Server.WsProvider.CoreCall} (taken : socket.resume core (some call) = .ok next) :
    next.queries = socket.queries := by
  cases call with
  | registerAgents agents providerName =>
      obtain rfl := Except.ok.inj taken
      cases core.registerAgents agents providerName <;> rfl
  | deleteAgent name =>
      simp only [ProviderSocket.resume] at taken
      rcases answered : core.deleteAgent name with (message | message) | done
      · rw [answered] at taken
        obtain rfl := Except.ok.inj taken
        rfl
      · rw [answered] at taken
        cases taken
      · rw [answered] at taken
        obtain rfl := Except.ok.inj taken
        rfl

/-- The frame answers a question. -/
def IsAnswer : Server.WsProvider.OutboundFrame → Prop
  | .queryResult .. => True
  | _ => False

theorem not_isAnswer_of_isReply {frame : Server.WsProvider.OutboundFrame}
    (reply : frame.isReply = true) : ¬IsAnswer frame := by
  cases frame with
  | queryResult => cases reply
  | _ => exact id

/-- Where a task of the next state comes from. -/
inductive Begins (limits : Json.Limits) (link : ProviderLink)
    (action : Server.WsProvider.Action) : QueryTask → Prop
  | kept {task : QueryTask} (member : task ∈ link.socket.queries) :
      Begins limits link action task
  | spawned {message : RawMessage} {core : Server.WsProvider.CoreReplies} {fields : Dict}
      (receives : action = .receive message core)
      (parsed : parseFrame limits message = .ok (some fields))
      (typed : Dict.get fields "type" = .str "query") :
      Begins limits link action (.spawned fields)
  | advanced {task : QueryTask} (member : task ∈ link.socket.queries) :
      Begins limits link action (task.advance link.record link.socket.publicKey).1
  | ended : Begins limits link action .ended

/-- The frames which are on the wire or on their way to it. -/
def issued (link : ProviderLink) : List Server.WsProvider.OutboundFrame :=
  link.wire ++ link.socket.outbound

/-- Where the tasks and the answers of a handler come from. -/
structure Stems (limits : Json.Limits) (link : ProviderLink)
    (action : Server.WsProvider.Action) (next : ProviderLink) : Prop where
  publicKey : next.socket.publicKey = link.socket.publicKey
  record : next.record = (brings action).getD link.record
  tasks : ∀ task ∈ next.socket.queries, Begins limits link action task
  answers : ∀ frame ∈ issued next, IsAnswer frame → frame ∈ issued link ∨
    ∃ task ∈ link.socket.queries, frame ∈ (task.advance link.record link.socket.publicKey).2

section Stems

variable {link next : ProviderLink} {action : Server.WsProvider.Action}

theorem Stems.of_subset (publicKey : next.socket.publicKey = link.socket.publicKey)
    (record : next.record = (brings action).getD link.record)
    (queries : next.socket.queries = link.socket.queries)
    (frames : issued next ⊆ issued link) : Stems limits link action next where
  publicKey := publicKey
  record := record
  tasks := fun _ member => .kept (queries ▸ member)
  answers := fun _ member _ => .inl (frames member)

theorem Stems.of_same (socket : next.socket = link.socket) (wire : next.wire = link.wire)
    (record : next.record = (brings action).getD link.record) : Stems limits link action next :=
  .of_subset (by rw [socket]) record (by rw [socket])
    (by rw [issued, issued, socket, wire]; exact List.Subset.refl _)

/-- A step which enqueues frames, none of which is an answer. -/
theorem Stems.of_added {frames : List Server.WsProvider.OutboundFrame}
    (publicKey : next.socket.publicKey = link.socket.publicKey)
    (record : next.record = (brings action).getD link.record)
    (queries : ∀ task ∈ next.socket.queries, Begins limits link action task)
    (wire : next.wire = link.wire)
    (outbound : next.socket.outbound = link.socket.outbound ++ frames)
    (others : ∀ frame ∈ frames, ¬IsAnswer frame) : Stems limits link action next where
  publicKey := publicKey
  record := record
  tasks := queries
  answers := by
    intro frame member answer
    rw [issued, wire, outbound, ← List.append_assoc, List.mem_append] at member
    exact .inl (member.resolve_right fun added => others frame added answer)

theorem Stems.of_send {frame : Server.WsProvider.OutboundFrame} (other : ¬IsAnswer frame)
    (socket : next.socket = link.socket.send frame) (wire : next.wire = link.wire)
    (record : next.record = (brings action).getD link.record) :
    Stems limits link action next := by
  refine .of_added (by rw [socket]; rfl) record ?_ wire (by rw [socket]; rfl) ?_
  · intro task member
    rw [socket] at member
    exact .kept member
  · exact List.forall_mem_singleton.mpr other

theorem stems_of_received {message : RawMessage} {core : Server.WsProvider.CoreReplies}
    {socket : ProviderSocket} {call : Option Server.WsProvider.CoreCall}
    (received : link.socket.receive contract limits core message = .ok (socket, call))
    (nextSocket : next.socket = socket) (wire : next.wire = link.wire)
    (record : next.record = link.record) :
    Stems limits link (.receive message core) next := by
  have grows := ProviderSocket.grows_receive received
  obtain ⟨replies, outbound, isReply⟩ := grows.outbound
  refine .of_added (nextSocket ▸ grows.publicKey) record ?_ wire (nextSocket ▸ outbound)
    fun frame among => not_isAnswer_of_isReply (isReply frame among)
  obtain ⟨parsed, parses, taken⟩ := bind_eq_ok.mp received
  intro task member
  rw [nextSocket] at member
  cases parsed with
  | none =>
      obtain ⟨rfl, rfl⟩ := Except.ok.inj taken
      exact .kept member
  | some fields =>
      rcases queries_of_dispatch taken with same | ⟨typed, spawned⟩
      · exact .kept (same ▸ member)
      · rw [spawned, List.mem_append, List.mem_singleton] at member
        rcases member with old | rfl
        · exact .kept old
        · exact .spawned rfl parses typed

theorem stems_of_query {index : Nat} {task : QueryTask}
    (found : link.socket.queries[index]? = some task) :
    Stems limits link (.query index) (link.runQuery index task) := by
  have begins : ∀ other ∈ link.socket.queries.set index
      (task.advance link.record link.socket.publicKey).1,
      Begins limits link (.query index) other := by
    intro other member
    rcases List.mem_or_eq_of_mem_set member with old | rfl
    · exact .kept old
    · exact .advanced (List.mem_of_getElem? found)
  cases answered : (task.advance link.record link.socket.publicKey).2 with
  | none =>
      refine ⟨?_, ?_, ?_, fun frame member _ => .inl ?_⟩
      · simp [ProviderLink.runQuery, answered, ProviderSocket.setQuery]
      · simp [ProviderLink.runQuery, brings]
      · simpa [ProviderLink.runQuery, answered, ProviderSocket.setQuery] using begins
      · simpa [issued, ProviderLink.runQuery, answered, ProviderSocket.setQuery] using member
  | some frame =>
      refine ⟨?_, ?_, ?_, fun other member _ => ?_⟩
      · simp [ProviderLink.runQuery, answered, ProviderSocket.setQuery, ProviderSocket.send]
      · simp [ProviderLink.runQuery, brings]
      · simpa [ProviderLink.runQuery, answered, ProviderSocket.setQuery, ProviderSocket.send]
          using begins
      · have shape : issued (link.runQuery index task) = issued link ++ [frame] := by
          simp [issued, ProviderLink.runQuery, answered, ProviderSocket.setQuery,
            ProviderSocket.send]
        rw [shape, List.mem_append, List.mem_singleton] at member
        rcases member with old | rfl
        · exact .inl old
        · exact .inr ⟨task, List.mem_of_getElem? found, answered⟩

theorem stems_of_step (taken : ProviderLink.step contract limits link action = some next) :
    Stems limits link action next := by
  cases action with
  | receive message core =>
      simp only [ProviderLink.step] at taken
      split at taken
      · obtain rfl := Option.some.inj taken
        exact .of_same rfl rfl rfl
      · split at taken
        · rename_i received
          obtain rfl := Option.some.inj taken
          exact stems_of_received received rfl rfl rfl
        · rename_i received
          obtain rfl := Option.some.inj taken
          exact stems_of_received received rfl rfl rfl
        · obtain rfl := Option.some.inj taken
          exact .of_same rfl rfl rfl
      · cases taken
  | answer core =>
      simp only [ProviderLink.step] at taken
      split at taken
      · split at taken
        · rename_i resumed
          obtain rfl := Option.some.inj taken
          have grows := ProviderSocket.grows_resume resumed
          obtain ⟨replies, outbound, isReply⟩ := grows.outbound
          refine .of_added grows.publicKey rfl ?_ rfl outbound
            fun frame among => not_isAnswer_of_isReply (isReply frame among)
          exact fun task member => .kept (queries_of_resume resumed ▸ member)
        · obtain rfl := Option.some.inj taken
          exact .of_same rfl rfl rfl
      · cases taken
  | cancelHandler =>
      simp only [ProviderLink.step] at taken
      split at taken
      · cases taken
      · obtain rfl := Option.some.inj taken
        exact .of_same rfl rfl rfl
  | goLive name =>
      simp only [ProviderLink.step] at taken
      split at taken
      · split at taken
        · obtain rfl := Option.some.inj taken
          exact .of_same rfl rfl rfl
        · cases taken
      · cases taken
  | goOffline name | recordChanges record =>
      obtain rfl := Option.some.inj taken
      exact .of_same rfl rfl rfl
  | deliver run =>
      simp only [ProviderLink.step] at taken
      split at taken
      · obtain rfl := Option.some.inj taken
        exact .of_send id rfl rfl rfl
      · cases taken
  | cancelRun runId =>
      obtain rfl := Option.some.inj taken
      exact .of_send id rfl rfl rfl
  | query index =>
      obtain ⟨task, found, rfl⟩ := Option.map_eq_some_iff.mp taken
      exact stems_of_query found
  | queryRaises index =>
      obtain ⟨task, found, rfl⟩ := Option.map_eq_some_iff.mp taken
      refine ⟨rfl, rfl, fun other member => ?_, fun frame member _ => .inl member⟩
      rcases List.mem_or_eq_of_mem_set member with old | rfl
      · exact .kept old
      · exact .ended
  | watch =>
      simp only [ProviderLink.step, ProviderLink.watch] at taken
      split at taken
      · split at taken <;> obtain rfl := Option.some.inj taken <;> exact .of_same rfl rfl rfl
      · obtain rfl := Option.some.inj taken
        exact .of_same rfl rfl rfl
      · split at taken
        · obtain rfl := Option.some.inj taken
          exact .of_same rfl rfl rfl
        · obtain rfl := Option.some.inj taken
          exact .of_send id rfl rfl rfl
        · obtain rfl := Option.some.inj taken
          exact .of_same rfl rfl rfl
      · cases taken
      · cases taken
  | watchRaises =>
      simp only [ProviderLink.step] at taken
      split at taken
      · obtain rfl := Option.some.inj taken
        exact .of_same rfl rfl rfl
      · obtain rfl := Option.some.inj taken
        exact .of_same rfl rfl rfl
      · cases taken
      · cases taken
  | write =>
      simp only [ProviderLink.step, ProviderLink.write] at taken
      split at taken
      · rename_i outbound
        obtain rfl := Option.some.inj taken
        refine .of_subset rfl rfl rfl ?_
        simp [issued, outbound]
      · rename_i outbound
        obtain rfl := Option.some.inj taken
        refine .of_subset rfl rfl rfl ?_
        simp [issued, outbound]
      · cases taken
  | writeFails =>
      simp only [ProviderLink.step] at taken
      split at taken
      · rename_i outbound
        obtain rfl := Option.some.inj taken
        refine .of_subset rfl rfl rfl ?_
        simp [issued, outbound]
      · cases taken

end Stems

end Handler

/-! ## Every connection -/

/-- The tasks and the answers of a connection go back to questions which it has heard. -/
structure Grounded
    (connection : Exchange Handler OutboundFrame Server.WsProvider.OutboundFrame) : Prop where
  now : connection.server.records.getLast? = some connection.server.link.record
  tasks : ∀ task ∈ connection.server.link.socket.queries,
    TaskGrounded connection.heard connection.server.records
      connection.server.link.socket.publicKey task
  answers : ∀ frame ∈ issued connection.server.link,
    AnswerGrounded connection.heard connection.server.records
      connection.server.link.socket.publicKey frame

section Session

variable {contract : Contract} {encoder : Json.Encoder} {limits : Json.Limits}
  {agents : List Str} {session next : Session} {action : Action}

theorem answerGrounded_of_not_isAnswer {heard : List OutboundFrame} {records : List Record}
    {key : Str} {frame : Server.WsProvider.OutboundFrame} (other : ¬IsAnswer frame) :
    AnswerGrounded heard records key frame := by
  cases frame with
  | queryResult => exact absurd trivial other
  | _ => trivial

/-- A question which the handler spawns a task for is one it has just heard. -/
theorem question_of_hears {message : RawMessage} {frame : OutboundFrame} {fields : Dict}
    (reaches : ReachesGateway encoder limits frame message)
    (parsed : parseFrame limits message = .ok (some fields))
    (typed : Dict.get fields "type" = .str "query") :
    ∃ queryId threadId limit, frame = .query queryId threadId limit ∧
      fields = questionFields queryId threadId limit := by
  cases message with
  | bytes | disconnect => cases reaches
  | text raw =>
      obtain ⟨value, received, read⟩ := reaches
      rw [parseFrame, read] at parsed
      have isDict : value = .dict fields := by
        cases value <;> simp_all [Value.asDict?]
      subst isDict
      obtain ⟨queryId, threadId, limit, rfl⟩ := query_of_typed received typed
      rw [received_query] at received
      exact ⟨queryId, threadId, limit, rfl, (Value.dict.inj (Option.some.inj received)).symm⟩

theorem kept_grounded : Reconnecting.Kept (caller limits agents) (Handler.party contract limits)
    (ReachesGateway encoder limits) Handler.Fresh Grounded where
  opened connection opened := by
    refine ⟨?_, ?_, fun frame member => answerGrounded_of_not_isAnswer fun answer => ?_⟩
    · rw [opened.fresh.records]
      rfl
    · rw [opened.fresh.queries]
      exact List.forall_mem_nil _
    · cases frame with
      | queryResult queryId content => exact opened.fresh.unanswered queryId content member
      | _ => exact answer
  carried connection entry grounded := ⟨grounded.now, grounded.tasks, grounded.answers⟩
  read connection entry grounded awaited := ⟨grounded.now, grounded.tasks, grounded.answers⟩
  served connection action handler heard grounded moves := by
    have stepped : connection.server.step contract limits action = some handler := moves.taken
    obtain ⟨link, taken, rfl⟩ := Option.map_eq_some_iff.mp stepped
    have stems := stems_of_step taken
    have spawned : ∀ message core fields, action = .receive message core →
        parseFrame limits message = .ok (some fields) → Dict.get fields "type" = .str "query" →
        ∃ queryId threadId limit, .query queryId threadId limit ∈ heard ∧
          fields = questionFields queryId threadId limit := by
      rintro message core fields rfl parsed typed
      cases moves with
      | acts quiet =>
          cases message with
          | text | bytes => cases quiet
          | disconnect => cases parsed
      | hears hearing awaited reaches =>
          cases message with
          | disconnect => cases hearing
          | text | bytes =>
              obtain rfl := Option.some.inj hearing
              obtain ⟨queryId, threadId, limit, rfl, same⟩ :=
                question_of_hears reaches parsed typed
              exact ⟨queryId, threadId, limit, List.mem_concat_self, same⟩
    obtain ⟨frames, longer⟩ : ∃ frames, heard = connection.heard ++ frames := by
      cases moves with
      | acts => exact ⟨[], (List.append_nil _).symm⟩
      | hears => exact ⟨_, rfl⟩
    refine ⟨?_, fun task member => ?_, fun frame member => ?_⟩
    · simp only [stems.record]
      cases brings action with
      | none => simpa using grounded.now
      | some record => simp
    · simp only [stems.publicKey]
      cases stems.tasks task member with
      | kept old =>
          rw [longer]
          exact (grounded.tasks task old).mono frames _
      | spawned receives parsed typed => exact spawned _ _ _ receives parsed typed
      | advanced old =>
          rw [longer]
          exact (grounded_advance (grounded.tasks _ old) grounded.now).1.mono frames _
      | ended => trivial
    · simp only [stems.publicKey]
      by_cases answer : IsAnswer frame
      · rw [longer]
        rcases stems.answers frame member answer with old | ⟨task, old, answered⟩
        · exact (grounded.answers frame old).mono frames _
        · exact ((grounded_advance (grounded.tasks task old) grounded.now).2 frame
            answered).mono frames _
      · exact answerGrounded_of_not_isAnswer answer

end Session

end Souk.ProviderSession
