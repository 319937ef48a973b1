import Souk.Server.ProviderLink

/-!
# Malformed queries

A query is answered by a task nobody awaits, so an exception in it is silence on the wire.  The task
awaits core up to four times, and the record may change at each of them: its frames are a function
of the records of its moments.  The last section finds these moments in the runs of a link.
-/

namespace Souk.Server.WsProvider

open Souk.Python

/-- The frames a query task enqueues in steps at the moments of these records. -/
def QueryTask.framesOver (publicKey : Str) : List Record → QueryTask → List OutboundFrame
  | [], _ => []
  | record :: records, task =>
      let (next, frame) := task.advance record publicKey
      frame.toList ++ next.framesOver publicKey records

/-- The task after these steps. -/
def QueryTask.after (publicKey : Str) : List Record → QueryTask → QueryTask
  | [], task => task
  | record :: records, task => (task.advance record publicKey).1.after publicKey records

/-- The steps which a task takes at most. -/
def QueryTask.stepsLeft : QueryTask → Nat
  | .spawned _ => 5
  | .reading _ => 4
  | .admitting _ _ => 3
  | .askingParties _ _ => 2
  | .fetching _ _ => 1
  | .ended => 0

theorem QueryTask.stepsLeft_advance (record : Record) (publicKey : Str) (task : QueryTask) :
    (task.advance record publicKey).1.stepsLeft ≤ task.stepsLeft - 1 := by
  cases task with
  | spawned parsed =>
      simp only [advance]
      split <;> simp [stepsLeft]
  | reading query =>
      simp only [advance]
      split
      · simp [stepsLeft]
      · split <;> simp [stepsLeft]
  | admitting query thread =>
      simp only [advance]
      split <;> simp [stepsLeft]
  | askingParties query thread =>
      simp only [advance]
      split <;> simp [stepsLeft]
  | fetching query thread | ended => simp [advance, stepsLeft]

theorem QueryTask.stepsLeft_after (publicKey : Str) (records : List Record) (task : QueryTask) :
    (task.after publicKey records).stepsLeft ≤ task.stepsLeft - records.length := by
  induction records generalizing task with
  | nil => exact Nat.le_refl _
  | cons record records induction =>
      have first := task.stepsLeft_advance record publicKey
      have later := induction (task.advance record publicKey).1
      rw [after, List.length_cons]
      omega

/-- Five steps of its own end a task. -/
theorem QueryTask.after_eq_ended {publicKey : Str} {records : List Record}
    (five : 5 ≤ records.length) (task : QueryTask) : task.after publicKey records = .ended := by
  have spent := task.stepsLeft_after publicKey records
  have bound : task.stepsLeft ≤ 5 := by cases task <;> simp [stepsLeft]
  have none : (task.after publicKey records).stepsLeft = 0 := by omega
  cases last : task.after publicKey records with
  | ended => rfl
  | spawned | reading | admitting | askingParties | fetching =>
      rw [last] at none
      cases none

/-- The question is one which may be answered with messages. -/
def WellFormed (frame : Dict) : Prop :=
  Dict.get frame "method" = .str "thread_messages" ∧
    ∃ params threadId, Dict.get frame "params" = .dict params ∧
      Dict.get params "threadId" = .str threadId ∧ threadId ≠ [] ∧
      (Dict.get params "limit" = .null ∨ ∃ limit, Dict.get params "limit" = .int limit ∧ 0 < limit)

/-- The frames answer a query: one result under its id, with messages only for a question which may
be answered so. -/
structure Answered (frame : Dict) (queryId : Str) (frames : List OutboundFrame) : Prop where
  once : ∃ answer, frames = [.queryResult queryId answer]
  wellFormed : ∀ messages, frames = [.queryResult queryId (.result messages)] → WellFormed frame

/-- The reads of a task, which begin with its second step, let the provider have the thread: it
keeps the thread when it is first read, the thread is there when it is read again, and then its
parties admit the provider. -/
def Grants (publicKey threadId : Str) : List Record → Prop
  | _ :: first :: second :: third :: _ =>
      (∃ thread, first.getThread threadId = some thread ∧ thread.providerKey = publicKey) ∧
        (second.getThread threadId).isSome = true ∧ partiesAdmit third threadId publicKey = true
  | _ => False

/-- The method can be looked up, a question about a thread has an object or nothing for its params,
and `true` does not stand for a limit of a thread which core grants. -/
structure Answerable (records : List Record) (publicKey : Str) (frame : Dict) : Prop where
  hashable : (Dict.get frame "method").hashable = true
  params : Dict.get frame "method" = .str "thread_messages" →
    (Dict.get frame "params").truthy = true → ∃ fields, Dict.get frame "params" = .dict fields
  limit : ∀ params threadId, Dict.get frame "method" = .str "thread_messages" →
    Dict.get frame "params" = .dict params → Dict.get params "threadId" = .str threadId →
      threadId ≠ [] → Dict.get params "limit" = .bool true → ¬Grants publicKey threadId records

section Parse

variable {frame params : Dict} {queryId : Str}

theorem nonEmptyStr?_eq_some {value : Value} {text : Str} :
    value.nonEmptyStr? = some text ↔ value = .str text ∧ text ≠ [] := by
  cases value with
  | str other =>
      cases other with
      | nil => simp [Value.nonEmptyStr?, eq_comm]
      | cons point rest =>
          simp only [Value.nonEmptyStr?, Option.some.injEq, Value.str.injEq]
          constructor
          · rintro rfl
            exact ⟨rfl, List.cons_ne_nil point rest⟩
          · exact And.left
  | null | bool | int | float | list | dict => simp [Value.nonEmptyStr?]

theorem parseQuery_unhashable (queried : (Dict.get frame "queryId").nonEmptyStr? = some queryId)
    (unhashable : (Dict.get frame "method").hashable = false) :
    parseQuery frame = .error .typeError := by
  simp [parseQuery, queried, notInSet, unhashable, bind, Except.bind]

/-- A method nobody answers is named in the answer. -/
theorem parseQuery_unknown (queried : (Dict.get frame "queryId").nonEmptyStr? = some queryId)
    (hashable : (Dict.get frame "method").hashable = true)
    (unknown : Dict.get frame "method" ≠ .str "thread_messages") :
    parseQuery frame = .ok (.inr (.queryResult queryId
      (.error { format := "unknown query method %r", values := [Dict.get frame "method"] }))) := by
  have outside : notInSet (Dict.get frame "method") queryMethods = .ok true := by
    cases method : Dict.get frame "method" with
    | str name =>
        have other : name ≠ str "thread_messages" := by
          rintro rfl
          exact unknown method
        simp [notInSet, Value.hashable, Value.asStr?, queryMethods, other]
    | null | bool | int | float => rfl
    | list | dict => simp [method, Value.hashable] at hashable
  simp [parseQuery, queried, outside, bind, Except.bind, pure, Except.pure]

theorem notInSet_known (known : Dict.get frame "method" = .str "thread_messages") :
    notInSet (Dict.get frame "method") queryMethods = .ok false := by
  rw [known]
  rfl

theorem parseQuery_notObject (queried : (Dict.get frame "queryId").nonEmptyStr? = some queryId)
    (known : Dict.get frame "method" = .str "thread_messages")
    (truthy : (Dict.get frame "params").truthy = true)
    (notObject : ∀ fields, Dict.get frame "params" ≠ .dict fields) :
    parseQuery frame = .error .attributeError := by
  have without : (Dict.get frame "params").getAttr "threadId" = .error .attributeError := by
    cases given : Dict.get frame "params" with
    | dict fields => exact absurd given (notObject fields)
    | null | bool | int | float | str | list => rfl
  simp [parseQuery, queried, notInSet_known known, Value.orElse, truthy, without, bind,
    Except.bind]

/-- A question about a thread, from the thread and the limit in its params. -/
theorem parseQuery_question (queried : (Dict.get frame "queryId").nonEmptyStr? = some queryId)
    (known : Dict.get frame "method" = .str "thread_messages")
    (object : (Dict.get frame "params").orElse (.dict []) = .dict params) {threadId : Str}
    {limit : Option Nat} (named : (Dict.get params "threadId").nonEmptyStr? = some threadId)
    (limited : parseLimit (Dict.get params "limit") = some limit) :
    parseQuery frame = .ok (.inl ⟨queryId, threadId, limit⟩) := by
  simp [parseQuery, queried, notInSet_known known, object, Value.getAttr, named, limited, bind,
    Except.bind, pure, Except.pure]

theorem parseQuery_refused (queried : (Dict.get frame "queryId").nonEmptyStr? = some queryId)
    (known : Dict.get frame "method" = .str "thread_messages")
    (object : (Dict.get frame "params").orElse (.dict []) = .dict params)
    (refused : (Dict.get params "threadId").nonEmptyStr? = none ∨
      parseLimit (Dict.get params "limit") = none) :
    ∃ message, parseQuery frame = .ok (.inr (.queryResult queryId (.error message))) := by
  cases named : (Dict.get params "threadId").nonEmptyStr? with
  | none =>
      exact ⟨{ format := "thread_messages needs a threadId" }, by
        simp [parseQuery, queried, notInSet_known known, object, Value.getAttr, named, bind,
          Except.bind, pure, Except.pure]⟩
  | some threadId =>
      have unlimited := refused.resolve_left (by simp [named])
      exact ⟨{ format := "limit must be a positive integer" }, by
        simp [parseQuery, queried, notInSet_known known, object, Value.getAttr, named, unlimited,
          bind, Except.bind, pure, Except.pure]⟩

/-- A limit is absent or null, a positive integer, or `true`, which is an `int`. -/
theorem parseLimit_cases {value : Value} {limit : Option Nat}
    (admitted : parseLimit value = some limit) :
    (value = .null ∨ ∃ number, value = .int number ∧ 0 < number) ∨ value = .bool true := by
  cases value with
  | null => exact .inl (.inl rfl)
  | int number =>
      simp only [parseLimit, Value.asInt?] at admitted
      split at admitted
      · rename_i positive
        exact .inl (.inr ⟨number, rfl, positive⟩)
      · cases admitted
  | bool flag =>
      cases flag with
      | true => exact .inr rfl
      | false => simp [parseLimit, Value.asInt?] at admitted
  | float | str | list | dict => simp [parseLimit, Value.asInt?] at admitted

end Parse

/-! ## The frames of a task -/

section Frames

variable {record : Record} {records : List Record} {publicKey : Str} {frame : Dict}

@[simp]
theorem framesOver_ended (records : List Record) :
    QueryTask.ended.framesOver publicKey records = [] := by
  induction records with
  | nil => rfl
  | cons record records induction => simp [QueryTask.framesOver, QueryTask.advance, induction]

/-- A task whose parse raises is silent. -/
theorem framesOver_raised {raised : Raised} (parsed : parseQuery frame = .error raised) :
    (QueryTask.spawned frame).framesOver publicKey records = [] := by
  cases records with
  | nil => rfl
  | cons record records => simp [QueryTask.framesOver, QueryTask.advance, parsed]

theorem framesOver_refused {answer : OutboundFrame}
    (parsed : parseQuery frame = .ok (.inr answer))
    (ended : (QueryTask.spawned frame).after publicKey records = .ended) :
    (QueryTask.spawned frame).framesOver publicKey records = [answer] := by
  cases records with
  | nil => cases ended
  | cons record later => simp [QueryTask.framesOver, QueryTask.advance, parsed]

section Reads

variable {query : Query}

/-- A task whose reads let the provider have the thread reads its messages last. -/
theorem framesOver_granted (parsed : parseQuery frame = .ok (.inl query))
    (ended : (QueryTask.spawned frame).after publicKey records = .ended)
    (grants : Grants publicKey query.threadId records) :
    ∃ record ∈ records, (QueryTask.spawned frame).framesOver publicKey records =
      [.queryResult query.queryId (.result
        (lastMessages (record.getThreadMessages query.threadId) query.limit))] := by
  rcases records with _ | ⟨record, _ | ⟨first, _ | ⟨second, _ | ⟨third, later⟩⟩⟩⟩
  case cons.cons.cons.cons =>
    obtain ⟨⟨thread, found, keeper⟩, present, admits⟩ := grants
    obtain ⟨again, present⟩ := Option.isSome_iff_exists.mp present
    cases later with
    | nil =>
        simp [QueryTask.after, QueryTask.advance, parsed, found, keeper, present, admits] at ended
    | cons fourth later =>
        refine ⟨fourth, by simp, ?_⟩
        simp [QueryTask.framesOver, QueryTask.advance, parsed, found, keeper, present, admits]
  all_goals exact grants.elim

/-- A task one of whose reads withholds the thread ends there, with a refusal. -/
theorem framesOver_withheld (parsed : parseQuery frame = .ok (.inl query))
    (ended : (QueryTask.spawned frame).after publicKey records = .ended)
    (withheld : ¬Grants publicKey query.threadId records) :
    (QueryTask.spawned frame).framesOver publicKey records = [noSuchThread query] := by
  rcases records with _ | ⟨record, _ | ⟨first, later⟩⟩
  · cases ended
  · simp [QueryTask.after, QueryTask.advance, parsed] at ended
  cases found : first.getThread query.threadId with
  | none => simp [QueryTask.framesOver, QueryTask.advance, parsed, found]
  | some thread =>
      by_cases keeper : thread.providerKey = publicKey
      · rcases later with _ | ⟨second, later⟩
        · simp [QueryTask.after, QueryTask.advance, parsed, found, keeper] at ended
        cases present : second.getThread query.threadId with
        | none => simp [QueryTask.framesOver, QueryTask.advance, parsed, found, keeper, present]
        | some again =>
            rcases later with _ | ⟨third, later⟩
            · simp [QueryTask.after, QueryTask.advance, parsed, found, keeper, present] at ended
            have refused : partiesAdmit third query.threadId publicKey = false := by
              by_contra admits
              exact withheld ⟨⟨thread, found, keeper⟩, by rw [present, Option.isSome_some],
                by simpa using admits⟩
            simp [QueryTask.framesOver, QueryTask.advance, parsed, found, keeper, present, refused]
      · simp [QueryTask.framesOver, QueryTask.advance, parsed, found, keeper]

end Reads

/-- The params of a frame are an object or read as the empty one, or reading from them raises. -/
theorem params_cases (frame : Dict) :
    (∃ params, (Dict.get frame "params").orElse (.dict []) = .dict params ∧
      ((Dict.get frame "params").truthy = true → Dict.get frame "params" = .dict params) ∧
      (params ≠ [] → Dict.get frame "params" = .dict params)) ∨
    (Dict.get frame "params").truthy = true ∧
      ∀ params, Dict.get frame "params" ≠ .dict params := by
  cases truthy : (Dict.get frame "params").truthy with
  | false => exact .inl ⟨[], by simp [Value.orElse, truthy], by simp, by simp⟩
  | true =>
      by_cases object : ∃ params, Dict.get frame "params" = .dict params
      · obtain ⟨params, given⟩ := object
        refine .inl ⟨params, ?_, fun _ => given, fun _ => given⟩
        rw [Value.orElse, if_pos truthy, given]
      · exact .inr ⟨rfl, fun params given => object ⟨params, given⟩⟩

theorem answered_of_error {queryId : Str} {message : Message} {frames : List OutboundFrame}
    (only : frames = [.queryResult queryId (.error message)]) : Answered frame queryId frames where
  once := ⟨.error message, only⟩
  wellFormed messages same := by
    rw [only] at same
    cases same

theorem not_answered_nil {queryId : Str} : ¬Answered frame queryId [] := by
  rintro ⟨⟨answer, impossible⟩, _⟩
  cases impossible

/-- A question about a thread, with a limit which passes the check, is answered unless that limit is
`true` and core grants the thread. -/
theorem limited_answered_iff {queryId threadId : Str} {params : Dict} {limit : Option Nat}
    (parsed : parseQuery frame = .ok (.inl ⟨queryId, threadId, limit⟩))
    (known : Dict.get frame "method" = .str "thread_messages")
    (given : Dict.get frame "params" = .dict params)
    (named : Dict.get params "threadId" = .str threadId) (nonempty : threadId ≠ [])
    (limited : parseLimit (Dict.get params "limit") = some limit)
    (ended : (QueryTask.spawned frame).after publicKey records = .ended) :
    Answered frame queryId ((QueryTask.spawned frame).framesOver publicKey records) ↔
      (Dict.get params "limit" = .bool true → ¬Grants publicKey threadId records) := by
  by_cases grants : Grants publicKey threadId records
  · obtain ⟨record, _, frames⟩ := framesOver_granted parsed ended grants
    rw [frames]
    constructor
    · intro answered isTrue
      obtain ⟨_, fields, _, same, _, _, whole⟩ := answered.wellFormed _ rfl
      obtain rfl := Value.dict.inj (given.symm.trans same)
      rcases whole with absent | ⟨number, integer, _⟩
      · cases isTrue.symm.trans absent
      · cases isTrue.symm.trans integer
    · intro held
      refine ⟨⟨_, rfl⟩, fun messages _ => ?_⟩
      rcases parseLimit_cases limited with whole | isTrue
      · exact ⟨known, params, threadId, given, named, nonempty, whole⟩
      · exact absurd grants (held isTrue)
  · have frames := framesOver_withheld parsed ended grants
    exact iff_of_true (answered_of_error frames) fun _ => grants

/-- A question whose params are an object, or nothing, is answered unless `true` is the limit of a
thread which core grants. -/
theorem question_answered_iff {queryId : Str} {params : Dict}
    (queried : (Dict.get frame "queryId").nonEmptyStr? = some queryId)
    (known : Dict.get frame "method" = .str "thread_messages")
    (object : (Dict.get frame "params").orElse (.dict []) = .dict params)
    (filled : params ≠ [] → Dict.get frame "params" = .dict params)
    (ended : (QueryTask.spawned frame).after publicKey records = .ended) :
    Answered frame queryId ((QueryTask.spawned frame).framesOver publicKey records) ↔
      ∀ threadId, Dict.get frame "params" = .dict params →
        Dict.get params "threadId" = .str threadId → threadId ≠ [] →
          Dict.get params "limit" = .bool true → ¬Grants publicKey threadId records := by
  cases named : (Dict.get params "threadId").nonEmptyStr? with
  | none =>
      obtain ⟨message, parsed⟩ := parseQuery_refused queried known object (.inl named)
      refine iff_of_true (answered_of_error (framesOver_refused parsed ended)) ?_
      intro threadId _ named' nonempty
      rw [nonEmptyStr?_eq_some.mpr ⟨named', nonempty⟩] at named
      cases named
  | some threadId =>
      obtain ⟨thread, nonempty⟩ := nonEmptyStr?_eq_some.mp named
      have given : Dict.get frame "params" = .dict params := by
        refine filled ?_
        rintro rfl
        cases thread
      have only : (∀ threadId, Dict.get frame "params" = .dict params →
          Dict.get params "threadId" = .str threadId → threadId ≠ [] →
            Dict.get params "limit" = .bool true → ¬Grants publicKey threadId records) ↔
          (Dict.get params "limit" = .bool true → ¬Grants publicKey threadId records) := by
        constructor
        · exact fun held => held threadId given thread nonempty
        · intro held other _ same
          obtain rfl := Value.str.inj (same.symm.trans thread)
          exact fun _ => held
      rw [only]
      cases limited : parseLimit (Dict.get params "limit") with
      | none =>
          obtain ⟨message, parsed⟩ := parseQuery_refused queried known object (.inr limited)
          refine iff_of_true (answered_of_error (framesOver_refused parsed ended)) fun isTrue => ?_
          rw [isTrue] at limited
          cases limited
      | some limit =>
          have parsed := parseQuery_question queried known object named limited
          exact limited_answered_iff parsed known given thread nonempty limited ended

/-- A task which has ended has enqueued exactly one result under the id of its query, with messages
only for a well-formed question, precisely when the query is answerable. -/
theorem framesOver_answered_iff {queryId : Str} (queried : Dict.get frame "queryId" = .str queryId)
    (nonempty : queryId ≠ [])
    (ended : (QueryTask.spawned frame).after publicKey records = .ended) :
    Answered frame queryId ((QueryTask.spawned frame).framesOver publicKey records) ↔
      Answerable records publicKey frame := by
  have id := nonEmptyStr?_eq_some.mpr ⟨queried, nonempty⟩
  cases hashable : (Dict.get frame "method").hashable with
  | false =>
      rw [framesOver_raised (parseQuery_unhashable id hashable)]
      refine iff_of_false not_answered_nil fun answerable => ?_
      rw [answerable.hashable] at hashable
      cases hashable
  | true =>
      by_cases known : Dict.get frame "method" = .str "thread_messages"
      · rcases params_cases frame with ⟨params, object, given, filled⟩ | ⟨truthy, notObject⟩
        · rw [question_answered_iff id known object filled ended]
          constructor
          · intro held
            refine ⟨hashable, fun _ truthy => ⟨params, given truthy⟩, ?_⟩
            intro fields threadId _ same
            obtain rfl : fields = params := by
              rw [same] at object
              cases fields with
              | nil => simpa [Value.orElse, Value.truthy] using object
              | cons field fields => simpa [Value.orElse, Value.truthy] using object
            exact held threadId same
          · exact fun answerable threadId same => answerable.limit params threadId known same
        · rw [framesOver_raised (parseQuery_notObject id known truthy notObject)]
          refine iff_of_false not_answered_nil fun answerable => ?_
          obtain ⟨fields, given⟩ := answerable.params known truthy
          exact notObject fields given
      · have parsed := parseQuery_unknown id hashable known
        exact iff_of_true (answered_of_error (framesOver_refused parsed ended))
          ⟨hashable, fun same => absurd same known, fun _ _ same => absurd same known⟩

end Frames

/-! ## The moments of a link -/

namespace ProviderLink

variable {contract : Contract} {limits : Json.Limits} {link next : ProviderLink} {action : Action}
  {index : Nat}

/-- The record at which a step advances the query task of an index. -/
def moment (index : Nat) (link : ProviderLink) : Action → Option Record
  | .query other => if other = index then some link.record else none
  | _ => none

/-- The frame which a step of that task enqueues. -/
def taskFrame (index : Nat) (link : ProviderLink) : Action → Option OutboundFrame
  | .query other =>
      if other = index then
        link.socket.queries[index]?.bind fun task =>
          (task.advance link.record link.socket.publicKey).2
      else none
  | _ => none

/-- Nothing but a step of a query task changes a task, and tasks are never forgotten. -/
theorem queries_grow (taken : step contract limits link action = some next)
    (other : ∀ index, action ≠ .query index ∧ action ≠ .queryRaises index) :
    link.socket.queries <+: next.socket.queries := by
  have grown {socket : ProviderSocket} (grows : ProviderSocket.Grows link.socket socket) :
      link.socket.queries <+: socket.queries := by
    obtain ⟨spawned, queries⟩ := grows.queries
    exact queries ▸ List.prefix_append _ _
  cases moves_of_step taken with
  | received _ received | called _ received =>
      exact grown (ProviderSocket.grows_receive received)
  | answered _ resumed => exact grown (ProviderSocket.grows_resume resumed)
  | @queried index => exact absurd rfl (other index).1
  | raised index => exact absurd rfl (other index).2
  | left | sent | wrote | silenced | aside => exact List.prefix_rfl

/-- Only its own steps advance a task, each at the record of its moment. -/
theorem queries_of_step {task : QueryTask} (found : link.socket.queries[index]? = some task)
    (taken : step contract limits link action = some next)
    (returns : action ≠ .queryRaises index) :
    next.socket.queries[index]? = some ((link.moment index action).elim task fun record =>
      (task.advance record link.socket.publicKey).1) := by
  obtain ⟨inside, _⟩ := List.getElem?_eq_some_iff.mp found
  have kept : (∀ other, action ≠ .query other ∧ action ≠ .queryRaises other) →
      next.socket.queries[index]? = some task := by
    intro other
    have grown := List.prefix_iff_getElem?.mp (queries_grow taken other) index inside
    rw [grown, ← found, List.getElem?_eq_getElem inside]
  cases action with
  | query other =>
      obtain ⟨advanced, foundOther, rfl⟩ := Option.map_eq_some_iff.mp taken
      have queries : (link.runQuery other advanced).socket.queries = link.socket.queries.set other
          (advanced.advance link.record link.socket.publicKey).1 := by
        cases answered : (advanced.advance link.record link.socket.publicKey).2 <;>
          simp [runQuery, answered, ProviderSocket.setQuery, ProviderSocket.send]
      rw [queries]
      by_cases same : other = index
      · subst same
        obtain rfl := Option.some.inj (foundOther.symm.trans found)
        simp [moment, inside]
      · simp [moment, same, found]
  | queryRaises other =>
      obtain ⟨raising, _, rfl⟩ := Option.map_eq_some_iff.mp taken
      have same : other ≠ index := fun same => returns (same ▸ rfl)
      simp [moment, ProviderSocket.setQuery, same, found]
  | receive | answer | cancelHandler | goLive | goOffline | deliver | cancelRun | watch
    | watchRaises | write | writeFails | recordChanges => exact kept (by simp)

/-- A step which is not one of a task is no moment of it, and enqueues nothing for it. -/
theorem moment_of_ne (other : action ≠ .query index) :
    link.moment index action = none ∧ link.taskFrame index action = none := by
  cases action with
  | query own =>
      have different : own ≠ index := fun same => other (same ▸ rfl)
      simp [moment, taskFrame, different]
  | receive | answer | cancelHandler | goLive | goOffline | deliver | cancelRun | queryRaises
    | watch | watchRaises | write | writeFails | recordChanges => exact ⟨rfl, rfl⟩

/-- In every run of a link in which core's reads return, a query task enqueues the frames it owes to
the records at which it was advanced, and is at the end where these have brought it. -/
theorem task_of_run {task : QueryTask} {final : ProviderLink} {actions : List Action}
    (found : link.socket.queries[index]? = some task)
    (execution : (machine contract limits).run link actions = some final)
    (returns : .queryRaises index ∉ actions) :
    let records := (machine contract limits).collect (moment index) link actions
    (machine contract limits).collect (taskFrame index) link actions =
        task.framesOver link.socket.publicKey records ∧
      final.socket.queries[index]? = some (task.after link.socket.publicKey records) := by
  induction actions generalizing link task with
  | nil =>
      obtain rfl : link = final := by simpa using execution
      exact ⟨rfl, found⟩
  | cons action actions induction =>
      obtain ⟨next, taken, rest⟩ := (machine contract limits).run_cons_eq_some.mp execution
      have returned : action ≠ .queryRaises index := by
        rintro rfl
        exact returns List.mem_cons_self
      have kept := queries_of_step found taken returned
      obtain ⟨frames, ends⟩ :=
        induction kept rest fun among => returns (List.mem_cons_of_mem _ among)
      dsimp only
      rw [ends, (machine contract limits).collect_cons _ _ taken,
        (machine contract limits).collect_cons _ _ taken, frames, (step_effect taken).publicKey]
      by_cases own : action = .query index
      · subst own
        simp [taskFrame, moment, found, QueryTask.framesOver, QueryTask.after]
      · obtain ⟨silent, unmoved⟩ := @moment_of_ne link action index own
        simp [silent, unmoved]

/-- A query task which has taken five steps of its own has ended, whatever else has happened. -/
theorem ended_of_run {task : QueryTask} {final : ProviderLink} {actions : List Action}
    (found : link.socket.queries[index]? = some task)
    (execution : (machine contract limits).run link actions = some final)
    (returns : .queryRaises index ∉ actions)
    (five : 5 ≤ ((machine contract limits).collect (moment index) link actions).length) :
    final.socket.queries[index]? = some .ended := by
  rw [(task_of_run found execution returns).2, task.after_eq_ended five]

/-- A query frame spawns a task, whatever else is in it. -/
theorem spawned_of_receive {message : RawMessage} {core : CoreReplies} {frame : Dict}
    (received : parseFrame limits message = .ok (some frame))
    (typed : Dict.get frame "type" = .str "query")
    (taken : step contract limits link (.receive message core) = some next) :
    next.socket.publicKey = link.socket.publicKey ∧
      next.socket.queries[link.socket.queries.length]? = some (.spawned frame) := by
  have spawns : link.socket.receive contract limits core message =
      .ok ({ link.socket with queries := link.socket.queries ++ [.spawned frame] }, none) := by
    rw [ProviderSocket.receive, received]
    exact ProviderSocket.dispatch_str contract core link.socket typed
  cases message with
  | disconnect => cases received
  | text | bytes =>
      cases loop : link.loop with
      | receiving =>
          obtain rfl := Option.some.inj (by simpa only [step, loop, spawns] using taken)
          exact ⟨rfl, by simp⟩
      | awaiting | ended => simp [step, loop] at taken

/-- A query frame with an id, received on a link whose core reads return, has enqueued exactly one
result under that id when its task has ended, with messages only for a well-formed question,
precisely when the query is answerable. -/
theorem query_answered_iff {message : RawMessage} {core : CoreReplies} {frame : Dict}
    {queryId : Str} {final : ProviderLink} {actions : List Action}
    (received : parseFrame limits message = .ok (some frame))
    (typed : Dict.get frame "type" = .str "query")
    (queried : Dict.get frame "queryId" = .str queryId) (nonempty : queryId ≠ [])
    (taken : (machine contract limits).step link (.receive message core) = some next)
    (execution : (machine contract limits).run next actions = some final)
    (returns : .queryRaises link.socket.queries.length ∉ actions)
    (ended : final.socket.queries[link.socket.queries.length]? = some .ended) :
    Answered frame queryId ((machine contract limits).collect
        (taskFrame link.socket.queries.length) next actions) ↔
      Answerable ((machine contract limits).collect (moment link.socket.queries.length) next
        actions) link.socket.publicKey frame := by
  obtain ⟨publicKey, found⟩ := spawned_of_receive received typed taken
  obtain ⟨frames, ends⟩ := task_of_run found execution returns
  rw [ends] at ended
  rw [frames, ← publicKey]
  exact framesOver_answered_iff queried nonempty (Option.some.inj ended)

/-! Three queries about a thread of one message, which core would grant. -/

/-- A record of one thread, which belongs to the key `k`. -/
def ownRecord : Record where
  getThread _ := some ⟨"k", "a"⟩
  partiesOf _ := none
  getThreadMessages _ := [.str "hello"]
  listsAgent _ _ := true

/-- The link of that key. -/
def ownLink : ProviderLink := opened "k" "f" "s" ownRecord

/-- A question about that thread, with a method and a limit. -/
def threadQuery (method limit : Value) : Dict :=
  [("type", .str "query"), ("queryId", .str "q"), ("method", method),
    ("params", .dict [("threadId", .str "t"), ("limit", limit)])]

/-- Its text, from the texts of the method and of the limit. -/
def threadQueryText (method limit : String) : Str :=
  str ("\x7b\"type\": \"query\", \"queryId\": \"q\", \"method\": " ++ method ++
    ", \"params\": \x7b\"threadId\": \"t\", \"limit\": " ++ limit ++ "\x7d\x7d")

/-- The link when it has received the question. -/
def askedLink (method limit : Value) : ProviderLink :=
  { ownLink with
    socket := { ownLink.socket with queries := [.spawned (threadQuery method limit)] } }

/-- The steps of its task. -/
def querySteps : List Action := List.replicate 5 (.query 0)

theorem step_threadQuery {method limit : String} {methodValue limitValue : Value}
    (loaded : Json.loads Json.defaultLimits (threadQueryText method limit) =
      .ok (.dict (threadQuery methodValue limitValue))) :
    (machine plainContract Json.defaultLimits).step ownLink
        (.receive (.text (threadQueryText method limit)) plainCore) =
      some (askedLink methodValue limitValue) := by
  have receiving : ownLink.loop = .receiving := rfl
  have received : ownLink.socket.receive plainContract Json.defaultLimits plainCore
      (.text (threadQueryText method limit)) =
        .ok ((askedLink methodValue limitValue).socket, none) := by
    rw [ProviderSocket.receive, parseFrame, loaded]
    rfl
  simp only [machine, step, receiving, received]
  rfl

set_option maxRecDepth 4000 in
theorem loads_wellFormed :
    Json.loads Json.defaultLimits (threadQueryText "\"thread_messages\"" "1") =
      .ok (.dict (threadQuery (.str "thread_messages") (.int 1))) := (rfl)

set_option maxRecDepth 4000 in
theorem loads_listMethod : Json.loads Json.defaultLimits (threadQueryText "[]" "1") =
    .ok (.dict (threadQuery (.list []) (.int 1))) := (rfl)

set_option maxRecDepth 4000 in
theorem loads_trueLimit :
    Json.loads Json.defaultLimits (threadQueryText "\"thread_messages\"" "true") =
      .ok (.dict (threadQuery (.str "thread_messages") (.bool true))) := (rfl)

/-- The well-formed question, of the three. -/
theorem threadQuery_answered_iff :
    Answered (threadQuery (.str "thread_messages") (.int 1)) "q"
        ((machine plainContract Json.defaultLimits).collect (taskFrame 0)
          (askedLink (.str "thread_messages") (.int 1)) querySteps) ↔
      Answerable ((machine plainContract Json.defaultLimits).collect (moment 0)
        (askedLink (.str "thread_messages") (.int 1)) querySteps) "k"
        (threadQuery (.str "thread_messages") (.int 1)) := by
  have received : parseFrame Json.defaultLimits
      (.text (threadQueryText "\"thread_messages\"" "1")) =
        .ok (some (threadQuery (.str "thread_messages") (.int 1))) := by
    rw [parseFrame, loads_wellFormed]
    rfl
  have returns : .queryRaises ownLink.socket.queries.length ∉ querySteps := by
    simp [querySteps]
  refine query_answered_iff received rfl rfl (by decide) (step_threadQuery loads_wellFormed) rfl
    returns ?_
  have asked : (askedLink (.str "thread_messages") (.int 1)).socket.queries[0]? =
      some (.spawned (threadQuery (.str "thread_messages") (.int 1))) := rfl
  exact @ended_of_run plainContract Json.defaultLimits _ _ _ _ querySteps asked rfl returns
    (Nat.le_refl 5)

/-- A method which is a list is met with silence, and `true` passes for a limit. -/
theorem malformed_queries_not_answered :
    ¬Answered (threadQuery (.list []) (.int 1)) "q"
        ((machine plainContract Json.defaultLimits).collect (taskFrame 0) ownLink
          (.receive (.text (threadQueryText "[]" "1")) plainCore :: querySteps)) ∧
      ¬Answered (threadQuery (.str "thread_messages") (.bool true)) "q"
        ((machine plainContract Json.defaultLimits).collect (taskFrame 0) ownLink
          (.receive (.text (threadQueryText "\"thread_messages\"" "true")) plainCore ::
            querySteps)) := by
  constructor
  · rw [(machine plainContract Json.defaultLimits).collect_cons (taskFrame 0) querySteps
      (step_threadQuery loads_listMethod)]
    rintro ⟨⟨answer, impossible⟩, _⟩
    cases impossible
  · rw [(machine plainContract Json.defaultLimits).collect_cons (taskFrame 0) querySteps
      (step_threadQuery loads_trueLimit)]
    rintro ⟨_, wellFormed⟩
    obtain ⟨_, params, _, given, _, _, limit⟩ := wellFormed [.str "hello"] rfl
    obtain rfl := Value.dict.inj given
    rcases limit with impossible | ⟨_, impossible, _⟩ <;> cases impossible

end ProviderLink

end Souk.Server.WsProvider
