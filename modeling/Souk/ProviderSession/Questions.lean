import Souk.AgentSdk.QueryRetries
import Souk.ProviderSession.Answers
import Souk.ProviderSession.Reports

/-!
# Questions from end to end

A question of the provider is asked on one connection and answered on that connection.  A call which
returns messages returns those which core held for the thread it asked about, at a moment after core
had the thread as the provider's own and after it had let the provider's key read it.
-/

namespace Souk.ProviderSession

open Souk.Python
open Souk.Server.WsProvider (Contract Query)
open Souk.AgentSdk (OutboundFrame Queries SoukProvider)

/-! ## The caller -/

section Caller

variable {limits : Json.Limits} {agents : List Str} {queries next : Queries}
  {action : Queries.Action}

/-- What a call asks. -/
def question (call : AgentSdk.Call) : Str × Str × Option Int :=
  (call.queryId, call.threadId, call.limit)

/-- The question an action asks. -/
def asks : Queries.Action → Option (Str × Str × Option Int)
  | .link (.threadMessages queryId threadId limit) => some (queryId, threadId, limit)
  | _ => none

theorem questions_resolveQuery (fields : Dict) :
    (queries.resolveQuery fields).calls.map question = queries.calls.map question := by
  unfold Queries.resolveQuery
  split
  · rfl
  · rename_i index call waiting
    obtain ⟨_, _, _, found, _⟩ := Queries.waiting_eq_some waiting
    exact map_set_of_same found rfl

theorem questions_failPendingQueries (reason : Str) :
    (queries.failPendingQueries reason).calls.map question = queries.calls.map question := by
  refine List.ext_getElem? fun place => ?_
  simp only [Queries.failPendingQueries, List.getElem?_map, List.getElem?_mapIdx]
  cases queries.calls[place]? with
  | none => rfl
  | some call =>
      simp only [Option.map_some, Option.some.injEq]
      split
      · unfold AgentSdk.Call.close
        split <;> rfl
      · rfl

/-- A step of the provider asks what its action asks. -/
theorem questions_attend (action : SoukProvider.Action) :
    (queries.attend limits agents action).calls.map question =
      queries.calls.map question ++ (asks (.link action)).toList := by
  unfold Queries.attend
  split
  · rename_i leaves
    have silent : asks (.link action) = none := by
      cases action with
      | threadMessages => cases leaves
      | _ => rfl
    rw [silent, Option.toList_none, List.append_nil]
    exact questions_failPendingQueries _
  · cases action with
    | threadMessages queryId threadId limit => simp [Queries.ask, asks, question]
    | receive raw answer =>
        simp only [asks, Option.toList_none, List.append_nil]
        cases AgentSdk.queryResult? limits raw with
        | none => rfl
        | some fields => exact questions_resolveQuery fields
    | _ => exact (List.append_nil _).symm

/-- A step asks what its action asks, and forgets no question. -/
theorem questions_of_step (taken : Queries.step limits agents queries action = some next) :
    next.calls.map question = queries.calls.map question ++ (asks action).toList := by
  cases action with
  | link action =>
      simp only [Queries.step] at taken
      split at taken
      · obtain ⟨provider, stepped, rfl⟩ := Option.map_eq_some_iff.mp taken
        exact questions_attend action
      · cases taken
  | expire index | cancelCall index =>
      obtain ⟨call, found, rfl⟩ := Option.map_eq_some_iff.mp taken
      rw [asks, Option.toList_none, List.append_nil]
      · exact map_set_of_same (Queries.unreturned_eq_some.mp found).1 rfl
      · simp
  | wake index =>
      obtain ⟨call, found, woken⟩ := Option.bind_eq_some_iff.mp taken
      obtain ⟨outcome, wakes, rfl⟩ := Option.map_eq_some_iff.mp woken
      rw [asks, Option.toList_none, List.append_nil]
      · exact map_set_of_same (Queries.unreturned_eq_some.mp found).1 rfl
      · simp

theorem enqueued_of_step (taken : Queries.step limits agents queries action = some next)
    {queryId threadId : Str} {limit : Option Int}
    (enqueued : .query queryId threadId limit ∈ next.provider.enqueued) :
    .query queryId threadId limit ∈ queries.provider.enqueued ∨
      asks action = some (queryId, threadId, limit) := by
  cases action with
  | link action =>
      simp only [Queries.step] at taken
      split at taken
      · obtain ⟨provider, stepped, rfl⟩ := Option.map_eq_some_iff.mp taken
        rw [SoukProvider.step_enqueued stepped, List.mem_append, Option.mem_toList] at enqueued
        refine enqueued.imp_right fun puts => ?_
        obtain ⟨_, _, rfl⟩ := SoukProvider.action_of_puts_query puts rfl
        obtain ⟨-, rfl, rfl⟩ := OutboundFrame.query.inj (Option.some.inj puts)
        rfl
      · cases taken
  | expire index | cancelCall index =>
      obtain ⟨call, found, rfl⟩ := Option.map_eq_some_iff.mp taken
      exact .inl enqueued
  | wake index =>
      obtain ⟨call, found, woken⟩ := Option.bind_eq_some_iff.mp taken
      obtain ⟨outcome, wakes, rfl⟩ := Option.map_eq_some_iff.mp woken
      exact .inl enqueued

theorem answers_of_step (taken : Queries.step limits agents queries action = some next)
    {fields : Dict} (read : fields ∈ next.answers) : fields ∈ queries.answers ∨
      ∃ raw answer, action = .link (.receive raw answer) ∧
        AgentSdk.queryResult? limits raw = some fields := by
  cases action with
  | link action =>
      simp only [Queries.step] at taken
      split at taken
      · obtain ⟨provider, stepped, rfl⟩ := Option.map_eq_some_iff.mp taken
        change fields ∈ (queries.attend limits agents action).answers at read
        unfold Queries.attend at read
        split at read
        · exact .inl read
        · cases action with
          | receive raw answer =>
              dsimp only at read
              cases result : AgentSdk.queryResult? limits raw with
              | none =>
                  rw [result] at read
                  exact .inl read
              | some other =>
                  rw [result] at read
                  have answers : (queries.resolveQuery other).answers =
                      queries.answers ++ [other] := by
                    unfold Queries.resolveQuery
                    split <;> rfl
                  rw [Option.elim_some, answers, List.mem_append, List.mem_singleton] at read
                  rcases read with old | rfl
                  · exact .inl old
                  · exact .inr ⟨raw, answer, rfl, result⟩
          | _ => exact .inl read
      · cases taken
  | expire index | cancelCall index =>
      obtain ⟨call, found, rfl⟩ := Option.map_eq_some_iff.mp taken
      exact .inl read
  | wake index =>
      obtain ⟨call, found, woken⟩ := Option.bind_eq_some_iff.mp taken
      obtain ⟨outcome, wakes, rfl⟩ := Option.map_eq_some_iff.mp woken
      exact .inl read

end Caller

/-! ## From end to end -/

/-- How a call has ended, and why. -/
inductive Explained (session : Session) (call : AgentSdk.Call) : AgentSdk.Outcome → Prop
  /-- The question was heard on a connection, whose handler fetched these messages. -/
  | returned {connection : Exchange Handler OutboundFrame Server.WsProvider.OutboundFrame}
      {query : Query} {messages : List Value} (among : connection ∈ session.connections)
      (heard : .query call.queryId call.threadId call.limit ∈ connection.heard)
      (thread : query.threadId = Json.rereadStr call.threadId)
      (limited : call.limit = query.limit.map Int.ofNat)
      (fetched : Fetched connection.server.records connection.server.link.socket.publicKey query
        messages) : Explained session call (.returned (Json.reread (.list messages)))
  /-- The question was heard on a connection, whose handler had a reason to refuse it. -/
  | refused {connection : Exchange Handler OutboundFrame Server.WsProvider.OutboundFrame}
      {text : Str} (among : connection ∈ session.connections)
      (heard : .query call.queryId call.threadId call.limit ∈ connection.heard)
      (refusable : Refusable connection.server.records
        connection.server.link.socket.publicKey (Json.rereadStr call.threadId) call.limit) :
      Explained session call (.raised (.refused (.str text)))
  | closed {connection : Nat} (closed : call.closedBy = some connection) :
      Explained session call (.raised (.closed Queries.closedReason))
  | timedOut (expired : call.expired = true) :
      Explained session call (.raised (.timedOut call.threadId))
  | cancelled (requested : call.cancelRequested = true) : Explained session call .cancelled

/-- The id of a question is written as it is read, as every `token_hex` is. -/
def AsksPlainly : Action → Prop
  | .caller (.link (.threadMessages queryId ..)) => Json.rereadStr queryId = queryId
  | _ => True

/-- What every state of a session keeps of its questions. -/
structure Questioned (contract : Contract) (encoder : Json.Encoder) (limits : Json.Limits)
    (session : Session) : Prop where
  reporting : Reporting contract encoder limits session
  grounded : ∀ connection ∈ session.connections, Grounded connection
  consistent : Queries.Consistent session.caller.provider.earlier.length session.caller
  plain : ∀ call ∈ session.caller.calls, Json.rereadStr call.queryId = call.queryId
  asked : ∀ queryId threadId limit,
    .query queryId threadId limit ∈ session.caller.provider.enqueued →
      (queryId, threadId, limit) ∈ session.caller.calls.map question
  answered : ∀ fields ∈ session.caller.answers, ∃ frame ∈ session.readings, AnswersAs frame fields

section Questioned

variable {contract : Contract} {encoder : Json.Encoder} {limits : Json.Limits}
  {agents : List Str} {session next : Session} {action : Action}

theorem questioned_unconnected : Questioned contract encoder limits unconnected where
  reporting := reporting_unconnected
  grounded := List.forall_mem_nil _
  consistent := Queries.consistent_fresh
  plain := List.forall_mem_nil _
  asked _ _ _ among := absurd among List.not_mem_nil
  answered := List.forall_mem_nil _

/-- The caller's part of a step, where it is one. -/
theorem caller_of_moves
    (moves : session.Moves (caller limits agents) (Handler.party contract limits)
      (ReachesGateway encoder limits) (ReachesProvider encoder limits) Handler.Fresh action next) :
    next.caller = session.caller ∨ ∃ own,
      Queries.step limits agents session.caller own = some next.caller ∧
      (AsksPlainly action → ∀ queryId threadId limit,
        asks own = some (queryId, threadId, limit) → Json.rereadStr queryId = queryId) ∧
      ∀ raw answer fields, own = .link (.receive raw answer) →
        AgentSdk.queryResult? limits raw = some fields →
        ∃ frame ∈ next.readings, AnswersAs frame fields := by
  cases moves with
  | @opened _ own _ opens _ taken =>
      refine .inr ⟨own, taken, fun _ queryId threadId limit asked => ?_, ?_⟩
      · cases own with
        | link action =>
            cases action with
            | connect => cases asked
            | _ => cases opens
        | _ => cases opens
      · rintro raw answer fields rfl _
        cases opens
  | @acted own _ stays quiet taken =>
      refine .inr ⟨own, taken, fun plainly queryId threadId limit asked => ?_, ?_⟩
      · cases own with
        | link action =>
            cases action with
            | threadMessages =>
                obtain ⟨rfl, -⟩ := Prod.mk.inj (Option.some.inj asked)
                exact plainly
            | _ => cases asked
        | _ => cases asked
      · rintro raw answer fields rfl _
        cases quiet
  | @heard own _ message entry stays hearing awaited carried taken =>
      refine .inr ⟨own, taken, fun _ queryId threadId limit asked => ?_, ?_⟩
      · cases own with
        | link action =>
            cases action with
            | receive raw answer => cases asked
            | _ => cases hearing
        | _ => cases hearing
      · rintro raw answer fields rfl result
        obtain rfl := Option.some.inj hearing
        exact ⟨entry, Reconnecting.mem_readings_listen awaited,
          queryResult?_of_reaches carried result⟩
  | served => exact .inl rfl

theorem Questioned.step (questioned : Questioned contract encoder limits session)
    (plainly : AsksPlainly action)
    (taken : (machine contract encoder limits agents).step session action = some next) :
    Questioned contract encoder limits next := by
  have moves := Reconnecting.moves_of_step taken
  have reporting := questioned.reporting.step taken
  have grounded := kept_grounded.step questioned.grounded moves
  have answered : ∀ fields ∈ session.caller.answers,
      ∃ frame ∈ next.readings, AnswersAs frame fields := by
    intro fields read
    obtain ⟨frame, among, answers⟩ := questioned.answered fields read
    exact ⟨frame, Reconnecting.readings_subset_of_moves moves among, answers⟩
  rcases caller_of_moves moves with same | ⟨own, stepped, plain, read⟩
  · refine ⟨reporting, grounded, ?_, ?_, ?_, ?_⟩ <;> rw [same]
    · exact questioned.consistent
    · exact questioned.plain
    · exact questioned.asked
    · exact answered
  · have questions := questions_of_step stepped
    refine ⟨reporting, grounded, questioned.consistent.step stepped, fun call member => ?_,
      fun queryId threadId limit enqueued => ?_, fun fields among => ?_⟩
    · have asked : question call ∈ next.caller.calls.map question := List.mem_map_of_mem member
      rw [questions, List.mem_append, Option.mem_toList] at asked
      rcases asked with old | new
      · obtain ⟨before, was, same⟩ := List.mem_map.mp old
        obtain ⟨sameId, -⟩ := Prod.mk.inj same
        exact sameId ▸ questioned.plain before was
      · exact plain plainly _ _ _ new
    · rw [questions, List.mem_append, Option.mem_toList]
      exact (enqueued_of_step stepped enqueued).imp_left (questioned.asked queryId threadId limit)
    · rcases answers_of_step stepped among with old | ⟨raw, answer, rfl, result⟩
      · exact answered fields old
      · exact read raw answer fields rfl result

/-- The call whose question a connection has heard. -/
theorem Questioned.call_of_heard (questioned : Questioned contract encoder limits session)
    {connection : Exchange Handler OutboundFrame Server.WsProvider.OutboundFrame}
    (among : connection ∈ session.connections) {queryId threadId : Str} {limit : Option Int}
    (heard : .query queryId threadId limit ∈ connection.heard) :
    ∃ call ∈ session.caller.calls, question call = (queryId, threadId, limit) := by
  have line := (questioned.reporting.sound connection among).heard.subset heard
  have carried : .query queryId threadId limit ∈ session.lines :=
    List.mem_flatMap.mpr ⟨connection, List.mem_reverse.mpr among, line⟩
  have enqueued := questioned.reporting.lines_sublist.subset carried
  obtain ⟨call, member, same⟩ := List.mem_map.mp (questioned.asked queryId threadId limit enqueued)
  exact ⟨call, member, same⟩

/-- A question which is heard under the id of a call is that of the call. -/
theorem Questioned.heard_of_id (questioned : Questioned contract encoder limits session)
    {connection : Exchange Handler OutboundFrame Server.WsProvider.OutboundFrame}
    (among : connection ∈ session.connections) {call : AgentSdk.Call}
    (member : call ∈ session.caller.calls) {queryId threadId : Str} {limit : Option Int}
    (heard : .query queryId threadId limit ∈ connection.heard)
    (same : Json.rereadStr (Json.rereadStr queryId) = call.queryId) :
    queryId = call.queryId ∧ threadId = call.threadId ∧ limit = call.limit := by
  obtain ⟨other, known, asked⟩ := questioned.call_of_heard among heard
  obtain ⟨rfl, thread⟩ := Prod.mk.inj asked
  obtain ⟨rfl, rfl⟩ := Prod.mk.inj thread
  have plain := questioned.plain other known
  rw [plain, plain] at same
  obtain rfl : other = call :=
    List.inj_on_of_nodup_map questioned.consistent.distinct known member same
  exact ⟨rfl, rfl, rfl⟩

/-- `frame.get("result") or []` is the list which was sent. -/
theorem orElse_reread (messages : List Value) :
    (Json.reread (.list messages)).orElse (.list []) = Json.reread (.list messages) := by
  cases messages with
  | nil => rfl
  | cons message messages => simp [Json.reread, Json.rereadItems, Value.orElse, Value.truthy]

theorem Questioned.explained (questioned : Questioned contract encoder limits session)
    {call : AgentSdk.Call} (member : call ∈ session.caller.calls) {outcome : AgentSdk.Outcome}
    (ends : call.outcome = some outcome) : Explained session call outcome := by
  have grounded_of_read : ∀ {fields : Dict}, fields ∈ session.caller.answers →
      ∃ connection ∈ session.connections, ∃ frame, AnswersAs frame fields ∧
        AnswerGrounded connection.heard connection.server.records
          connection.server.link.socket.publicKey frame := by
    intro fields read
    obtain ⟨frame, among, answers⟩ := questioned.answered fields read
    obtain ⟨connection, member, among⟩ := List.mem_flatMap.mp among
    have member := List.mem_reverse.mp member
    have written := (questioned.reporting.sound connection member).read.subset among
    exact ⟨connection, member, frame, answers,
      (questioned.grounded connection member).answers frame (List.mem_append_left _ written)⟩
  cases (questioned.consistent.sound call member).ended_of_outcome ends with
  | answered read own accepted =>
      obtain ⟨connection, among, frame, answers, grounded⟩ := grounded_of_read read
      cases answers with
      | result named _ carried =>
          obtain ⟨query, rfl, ⟨queryId, threadId, limit, heard, asked, thread, limited⟩, fetched⟩ :=
            grounded
          have same := Value.str.inj (named.symm.trans own)
          rw [asked] at same
          obtain ⟨rfl, rfl, rfl⟩ := questioned.heard_of_id among member heard same
          rw [carried, orElse_reread]
          exact .returned among heard thread limited fetched
      | error _ refused =>
          rw [refused] at accepted
          cases accepted
  | refused read own refused =>
      obtain ⟨connection, among, frame, answers, grounded⟩ := grounded_of_read read
      cases answers with
      | result _ accepted _ => exact absurd accepted refused
      | error named text =>
          obtain ⟨queryId, threadId, limit, heard, rfl, refusable⟩ := grounded
          have same := Value.str.inj (named.symm.trans own)
          obtain ⟨rfl, rfl, rfl⟩ := questioned.heard_of_id among member heard same
          rw [text]
          exact .refused among heard refusable
  | closed closed => exact .closed closed
  | timedOut expired => exact .timedOut expired
  | cancelled requested => exact .cancelled requested

/-- However a provider, its connections and their handlers interleave, each of its questions ends
with the messages which the handler of one of its connections fetched for that very question, with
a refusal which such a handler had a reason for, or with the failure which befell it. -/
theorem questions_explained {actions : List Action}
    (plainly : ∀ action ∈ actions, AsksPlainly action)
    (execution : (machine contract encoder limits agents).run unconnected actions =
      some session) :
    ∀ call ∈ session.caller.calls, ∀ outcome, call.outcome = some outcome →
      Explained session call outcome := by
  have questioned : Questioned contract encoder limits session :=
    Machine.run_invariant_along (fun kept plainly taken => kept.step plainly taken)
      questioned_unconnected (Machine.along_of_forall _ plainly) execution
  exact fun call member outcome ends => questioned.explained member ends

end Questioned

/-! A question, up to where its call returns. -/

def queryFrame : Str :=
  str ("\x7b\"type\": \"query\", \"queryId\": \"q\", \"method\": \"thread_messages\", " ++
    "\"params\": \x7b\"threadId\": \"t\", \"limit\": null\x7d\x7d")

def answerFrame : Str :=
  "\x7b\"type\": \"queryResult\", \"queryId\": \"q\", \"result\": [\"hello\"]\x7d"

def askedAndAnswered : List Action :=
  [.opens opening (.link .connect), .caller (.link (.threadMessages "q" "t" none)),
    .caller (.link (.writer .get)),
    .server 0 (.receive (.text queryFrame) Server.WsProvider.plainCore), .server 0 (.query 0),
    .server 0 (.query 0), .server 0 (.query 0), .server 0 (.query 0), .server 0 (.query 0),
    .server 0 .write, .caller (.link (.receive answerFrame (.verdict false))), .caller (.wake 0)]

set_option maxRecDepth 4000 in
theorem askedAndAnswered_explained : ∃ session,
    (machine Server.WsProvider.plainContract Json.floatless Json.defaultLimits []).run unconnected
      askedAndAnswered = some session ∧
    session.caller.calls.map AgentSdk.Call.outcome =
      [some (.returned (.list [.str "hello"]))] ∧
    ∀ call ∈ session.caller.calls, ∀ outcome, call.outcome = some outcome →
      Explained session call outcome := by
  have asked : ReachesGateway Json.floatless Json.defaultLimits (.query "q" "t" none)
      (.text queryFrame) := ⟨_, rfl, rfl⟩
  have answered : ReachesProvider Json.floatless Json.defaultLimits
      (.queryResult "q" (.result [.str "hello"])) answerFrame := ⟨_, rfl, rfl⟩
  obtain ⟨session, execution, returned⟩ : ∃ session,
      (machine Server.WsProvider.plainContract Json.floatless Json.defaultLimits []).run
        unconnected askedAndAnswered = some session ∧
      session.caller.calls.map AgentSdk.Call.outcome =
        [some (.returned (.list [.str "hello"]))] := by
    exact ⟨_, Reconnecting.run_cons_of_moves (.opened rfl opened_opening rfl) <|
      Reconnecting.run_cons_of_moves (.acted rfl rfl rfl) <|
      Reconnecting.run_cons_of_moves (.acted rfl rfl rfl) <|
      Reconnecting.run_cons_of_moves (.served rfl (.hears rfl rfl asked rfl)) <|
      Reconnecting.run_cons_of_moves (.served rfl (.acts rfl rfl)) <|
      Reconnecting.run_cons_of_moves (.served rfl (.acts rfl rfl)) <|
      Reconnecting.run_cons_of_moves (.served rfl (.acts rfl rfl)) <|
      Reconnecting.run_cons_of_moves (.served rfl (.acts rfl rfl)) <|
      Reconnecting.run_cons_of_moves (.served rfl (.acts rfl rfl)) <|
      Reconnecting.run_cons_of_moves (.served rfl (.acts rfl rfl)) <|
      Reconnecting.run_cons_of_moves (.heard rfl rfl rfl answered rfl) <|
      Reconnecting.run_cons_of_moves (.acted rfl rfl rfl) rfl, rfl⟩
  refine ⟨session, execution, returned, questions_explained ?_ execution⟩
  have plain : Json.rereadStr (str "q") = str "q" := by decide
  simp [askedAndAnswered, AsksPlainly, plain]

end Souk.ProviderSession
