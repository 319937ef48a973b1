import Souk.Library.Records
import Souk.Server.WsKyokStreams

/-!
# The table of completions in flight

Membership in the table of a `/ws/kyok` connection is what authorizes an answer.  A completion is
over by the protocol as soon as a `done` or an `error` was accepted for it; its entry goes when its
generator ends, which is later for a generator that still has items to take, and never for one that
was not started.  The table is exact on the runs in which neither gap opens.
-/

namespace Souk.Server.WsKyok

open Souk.Python

variable {Chunk : Type}

/-- The items which end a completion. -/
def Answer.Terminal : Answer → Prop
  | .chunk _ => False
  | .done | .failure _ => True

/-- The phases of a generator which yields nothing more. -/
def StreamPhase.Ended : StreamPhase → Prop
  | .created | .waiting | .suspended => False
  | .returned | .raised _ | .closed => True

namespace Connection

/-- A `done` or an `error` was accepted for the completion, or the teardown failed it. -/
def Finished (connection : Connection Chunk) (requestId : Str) : Prop :=
  ∃ item ∈ queuedUnder connection.queued requestId, item.Terminal

/-- A completion is over: answered to its end, its stream raised, timed out, was closed or dropped,
or the connection torn down. -/
def Over (connection : Connection Chunk) (stream : AnswerStream Chunk) : Prop :=
  connection.Finished stream.requestId ∨ stream.phase.Ended ∨ connection.reading = false

/-- `complete` issued the request id here and its completion is not over. -/
def InFlight (connection : Connection Chunk) (requestId : Str) : Prop :=
  ∃ stream ∈ connection.streams, stream.requestId = requestId ∧ ¬connection.Over stream

/-- The error frame for an answer to no completion in flight. -/
def notInFlight (requestId : Str) : OutboundFrame :=
  .error [("requestId", .str requestId)]
    { format := "no such in-flight completion on this connection" }

/-- The table authorizes exactly the completions which are in flight. -/
structure Exact (connection : Connection Chunk) : Prop where
  accepts : ∀ requestId item, (connection.feed requestId item).2 = true ↔
    connection.InFlight requestId
  answers : connection.reading = true → ∀ requestId, connection.Finished requestId →
    ∀ core frame kind, kind ∈ answerTypes → Dict.get frame "type" = .str kind →
      Dict.get frame "requestId" = .str requestId →
        connection.dispatch core frame = .ok (connection.send (notInFlight requestId))
  entries : ∀ requestId ∈ connection.answers, connection.InFlight requestId

theorem feed_accepts {connection : Connection Chunk} {requestId : Str} {item : Answer} :
    (connection.feed requestId item).2 = true ↔ requestId ∈ connection.answers := by
  rw [← AList.lookup_isSome, feed]
  cases connection.answers.lookup requestId <;> simp

/-- Where the table is exact, an item for a completion which is over is refused. -/
theorem Exact.onAnswer_refused {connection : Connection Chunk} (exact : connection.Exact)
    {kind requestId : Str} {frame : Dict} {item : Answer}
    (named : Dict.get frame "requestId" = .str requestId)
    (carries : answerOf kind frame = some item) (ended : ¬connection.InFlight requestId) :
    connection.onAnswer kind frame = connection.send (notInFlight requestId) := by
  have absent : requestId ∉ connection.answers := fun entry => ended (exact.entries requestId entry)
  rw [onAnswer, named]
  simp only [carries, feed, AList.lookup_eq_none.mpr absent, notInFlight]

/-- The dispatch of an answer frame. -/
theorem dispatch_answer {connection : Connection Chunk} {core : CoreReplies} {frame : Dict}
    {kind : Str} (answering : kind ∈ answerTypes) (typed : Dict.get frame "type" = .str kind) :
    connection.dispatch core frame = .ok (connection.onAnswer kind frame) := by
  have hashable : (Value.str kind).hashable = true := rfl
  have known : kind ∈ inboundFrameTypes := by
    simp only [answerTypes, inboundFrameTypes, List.mem_cons] at answering ⊢
    tauto
  have others : kind ≠ "register" ∧ kind ≠ "deleteModel" := by
    constructor <;>
      · rintro rfl
        revert answering
        decide
  simp only [dispatch, typed, notInSet, hashable, Value.asStr?, known, others.1, others.2,
    bind, Except.bind, pure, Except.pure, if_true, if_false, not_true_eq_false, decide_false,
    Bool.false_eq_true]

end Connection

/-! ### Which steps keep the table exact -/

/-- A message which ends a completion: a `done` or an `error` frame with its request id. -/
def EndsCompletion (limits : Json.Limits) (message : RawMessage) (requestId : Str) : Prop :=
  ∃ frame kind, parseFrame limits message = .ok (some frame) ∧
    Dict.get frame "type" = .str kind ∧ (kind = "done" ∨ kind = "error") ∧
    Dict.get frame "requestId" = .str requestId

/-- The steps after which the table still says what the protocol says: no `done` and no `error`
reaches a completion of the table, no stream of the table is dropped before it was started, and
nothing is issued on a connection which was torn down. -/
def Prompt (limits : Json.Limits) (connection : Connection Chunk) : Action → Prop
  | .complete requestId _ =>
      requestId ∉ connection.streams.map AnswerStream.requestId → connection.reading = true
  | .receive message _ =>
      connection.reading = true → ∀ requestId, EndsCompletion limits message requestId →
        requestId ∉ connection.answers
  | .close index => ∀ stream, connection.streams[index]? = some stream →
      stream.phase = .created → stream.requestId ∉ connection.answers
  | _ => True

theorem ends_of_terminal {kind : Str} {frame : Dict} {item : Answer}
    (carries : Connection.answerOf kind frame = some item) (terminal : item.Terminal)
    (answering : kind ∈ Connection.answerTypes) : kind = "done" ∨ kind = "error" := by
  simp only [Connection.answerTypes, List.mem_cons, List.not_mem_nil, or_false] at answering
  rcases answering with rfl | ends
  · obtain ⟨data, _, rfl⟩ := Option.map_eq_some_iff.mp carries
    exact terminal.elim
  · exact ends

theorem mem_queuedUnder {queued : List (Str × Answer)} {requestId : Str} {item : Answer} :
    item ∈ queuedUnder queued requestId ↔ (requestId, item) ∈ queued := by
  simp only [queuedUnder, List.mem_filterMap, Prod.exists]
  constructor
  · rintro ⟨other, queuedItem, entry, kept⟩
    split at kept
    · rename_i same
      obtain rfl := Option.some.inj kept
      exact same ▸ entry
    · cases kept
  · intro entry
    exact ⟨requestId, item, entry, by simp⟩

/-- A message which ends a completion of the table queues a last item on it. -/
theorem Connection.iteration_ends {connection : Connection Chunk} {limits : Json.Limits}
    {message : RawMessage} {requestId : Str} {index : Nat} (core : CoreReplies)
    (ending : EndsCompletion limits message requestId)
    (found : connection.answers.lookup requestId = some index) :
    ∃ item, item.Terminal ∧
      connection.iteration limits core message = .ok (connection.put requestId index item) := by
  obtain ⟨frame, kind, parsed, typed, ends, named⟩ := ending
  obtain ⟨item, carries, terminal⟩ : ∃ item, answerOf kind frame = some item ∧ item.Terminal := by
    rcases ends with rfl | rfl
    · exact ⟨.done, rfl, trivial⟩
    · exact ⟨.failure (reportedFailure frame), rfl, trivial⟩
  have answering : kind ∈ answerTypes := by
    rcases ends with rfl | rfl <;> decide
  refine ⟨item, terminal, ?_⟩
  rw [iteration, parsed]
  simp only [bind, Except.bind, dispatch_answer answering typed, onAnswer, named, carries,
    feed_of_lookup found]

/-- The table has the streams which can still yield, and no completion of a connection which is
read has been answered to its end. -/
structure Tracks (connection : Connection Chunk) : Prop where
  unfinished : connection.reading = true → ∀ entry ∈ connection.queued, ¬entry.2.Terminal
  tracks : ∀ index stream, connection.streams[index]? = some stream →
    (connection.answers.lookup stream.requestId = some index ↔
      connection.reading = true ∧ ¬stream.phase.Ended)

namespace Tracks

variable {validate : Dict → Option Chunk} {connection : Connection Chunk}

theorem send (tracks : Tracks connection) (frame : OutboundFrame) :
    Tracks (connection.send frame) :=
  ⟨tracks.unfinished, tracks.tracks⟩

theorem put (tracks : Tracks connection) {requestId : Str} {index : Nat} {item : Answer}
    (chunk : ¬item.Terminal) : Tracks (connection.put requestId index item) where
  unfinished := by
    intro reading entry entry_mem
    rcases List.mem_append.mp entry_mem with old | new
    · exact tracks.unfinished reading entry old
    · obtain rfl : entry = (requestId, item) := by simpa using new
      exact chunk
  tracks := by
    intro position stream found
    simp only [Connection.put, List.getElem?_modify, Option.map_eq_map,
      Option.map_eq_some_iff] at found
    obtain ⟨before, before_at, rfl⟩ := found
    have same := tracks.tracks position before before_at
    by_cases here : index = position
    · rw [if_pos here]
      exact same
    · rw [if_neg here]
      exact same

/-- Replacing a stream by a state of itself which has ended exactly if it had. -/
theorem setStream (tracks : Tracks connection) {index : Nat} {before after : AnswerStream Chunk}
    (found : connection.streams[index]? = some before)
    (same_id : after.requestId = before.requestId)
    (same_end : after.phase.Ended ↔ before.phase.Ended) :
    Tracks (connection.setStream index after) where
  unfinished := tracks.unfinished
  tracks := by
    intro position stream now
    obtain ⟨rfl, rfl⟩ | ⟨_, old⟩ := (getElem?_set_eq_some found).mp now
    · rw [same_id, same_end]
      exact tracks.tracks position before found
    · exact tracks.tracks position stream old

theorem endStream (tracks : Tracks connection) (invariant : Invariant validate connection)
    {index : Nat} {before after : AnswerStream Chunk} {phase : StreamPhase}
    (found : connection.streams[index]? = some before)
    (same_id : after.requestId = before.requestId) (ended : phase.Ended) :
    Tracks (connection.endStream index after phase) where
  unfinished := tracks.unfinished
  tracks := by
    intro position stream now
    obtain ⟨rfl, rfl⟩ | ⟨elsewhere, old⟩ := (getElem?_set_eq_some found).mp now
    · simp [Connection.endStream, ended]
    · have different : stream.requestId ≠ after.requestId := by
        intro same
        have before_id : (connection.streams.map AnswerStream.requestId)[index]? =
            some stream.requestId := by
          simp [found, same, same_id]
        exact elsewhere (invariant.index_unique before_id (by simp [old])).symm
      simpa [Connection.endStream, Connection.setStream, AList.lookup_erase_ne different]
        using tracks.tracks position stream old

theorem complete (tracks : Tracks connection) {requestId : Str}
    (fresh : requestId ∉ connection.streams.map AnswerStream.requestId)
    (reading : connection.reading = true) (request : Dict) :
    Tracks (connection.complete requestId request) where
  unfinished := tracks.unfinished
  tracks := by
    intro position stream now
    simp only [Connection.complete] at now ⊢
    by_cases old : position < connection.streams.length
    · rw [List.getElem?_append_left old] at now
      have different : stream.requestId ≠ requestId := by
        rintro rfl
        exact fresh (List.mem_map_of_mem (List.mem_of_getElem? now))
      rw [AList.lookup_insert_ne different]
      exact tracks.tracks position stream now
    · rw [List.getElem?_append_right (not_lt.mp old)] at now
      obtain ⟨last, rfl⟩ : position = connection.streams.length ∧ _ = stream := by
        have position_zero : position - connection.streams.length = 0 := by
          by_contra later
          simp [later] at now
        refine ⟨by omega, ?_⟩
        simpa [position_zero] using now
      simp [last, reading, StreamPhase.Ended]

theorem teardown : Tracks connection.teardown where
  unfinished := by
    intro reading
    cases reading
  tracks := by
    intro position stream _
    simp [Connection.teardown, Connection.failPending]

theorem opened (funduqPublicKey answer : Str) :
    Tracks (Connection.opened funduqPublicKey answer : Connection Chunk) :=
  ⟨by simp [Connection.opened], by simp [Connection.opened]⟩

theorem takeItem (tracks : Tracks connection) (invariant : Invariant validate connection)
    {index : Nat} {stream : AnswerStream Chunk} (found : connection.streams[index]? = some stream)
    (waiting : stream.phase = .waiting) (item : Answer) (rest : List Answer) :
    Tracks (connection.takeItem validate index { stream with queue := rest } item) := by
  cases item with
  | done | failure error => exact tracks.endStream invariant found rfl trivial
  | chunk data =>
      simp only [Connection.takeItem]
      split
      · exact tracks.setStream found rfl (by simp [waiting, StreamPhase.Ended])
      · exact tracks.endStream invariant found rfl trivial

/-- A stream dropped before it was started, when the teardown had already emptied the table. -/
theorem dropCreated (tracks : Tracks connection) {index : Nat} {stream : AnswerStream Chunk}
    (found : connection.streams[index]? = some stream) (created : stream.phase = .created)
    (absent : stream.requestId ∉ connection.answers) :
    Tracks (connection.setStream index { stream with phase := .closed }) where
  unfinished := tracks.unfinished
  tracks := by
    have torn : connection.reading = false := by
      by_contra reading
      have entry := (tracks.tracks index stream found).mpr
        ⟨by simpa using reading, by simp [created, StreamPhase.Ended]⟩
      exact absent (AList.lookup_isSome.mp (by rw [entry]; rfl))
    intro position other now
    obtain ⟨rfl, rfl⟩ | ⟨_, old⟩ := (getElem?_set_eq_some found).mp now
    · simp [Connection.setStream, torn, AList.lookup_eq_none.mpr absent]
    · exact tracks.tracks position other old

/-- A prompt step keeps the table tracking the streams. -/
theorem step (tracks : Tracks connection) (invariant : Invariant validate connection)
    {limits : Json.Limits} {action : Action} {next : Connection Chunk}
    (prompt : Prompt limits connection action)
    (taken : (machine validate limits).step connection action = some next) : Tracks next := by
  cases moves_of_step taken with
  | completed fresh request => exact tracks.complete fresh (prompt fresh) request
  | torn => exact teardown
  | ignored => exact tracks
  | replied frame => exact tracks.send frame
  | @fed _ _ frame kind requestId _ _ reading parsed typed answering named carries found =>
      refine tracks.put fun terminal => ?_
      refine prompt reading requestId
        ⟨frame, kind, parsed, typed, ends_of_terminal carries terminal answering, named⟩ ?_
      exact AList.lookup_isSome.mp (by rw [found]; rfl)
  | resumed found idle =>
      refine tracks.setStream found rfl ?_
      rcases idle with phase_eq | phase_eq <;> simp [phase_eq, StreamPhase.Ended]
  | took found waiting => exact tracks.takeItem invariant found waiting _ _
  | raised found | closed found => exact tracks.endStream invariant found rfl trivial
  | @dropped _ stream found created =>
      exact tracks.dropCreated found created (prompt stream found created)

/-- The entries of a tracking table are the completions in flight. -/
theorem mem_answers_iff (tracks : Tracks connection) (invariant : Invariant validate connection)
    {requestId : Str} : requestId ∈ connection.answers ↔ connection.InFlight requestId := by
  constructor
  · intro entry
    obtain ⟨index, found⟩ := Option.isSome_iff_exists.mp (AList.lookup_isSome.mpr entry)
    obtain ⟨stream, stream_at, rfl⟩ : ∃ stream, connection.streams[index]? = some stream ∧
        stream.requestId = requestId := by
      simpa using invariant.table requestId index found
    obtain ⟨reading, yielding⟩ := (tracks.tracks index stream stream_at).mp found
    refine ⟨stream, List.mem_of_getElem? stream_at, rfl, ?_⟩
    rintro (⟨item, queued, terminal⟩ | ended | torn)
    · exact tracks.unfinished reading _ (mem_queuedUnder.mp queued) terminal
    · exact yielding ended
    · simp [torn] at reading
  · rintro ⟨stream, stream_mem, rfl, running⟩
    obtain ⟨index, stream_at⟩ := List.mem_iff_getElem?.mp stream_mem
    have reading : connection.reading = true := by
      by_contra torn
      exact running (.inr (.inr (by simpa using torn)))
    have found := (tracks.tracks index stream stream_at).mpr
      ⟨reading, fun ended => running (.inr (.inl ended))⟩
    exact AList.lookup_isSome.mp (by rw [found]; rfl)

theorem exact (tracks : Tracks connection) (invariant : Invariant validate connection) :
    connection.Exact where
  accepts requestId item := Connection.feed_accepts.trans (tracks.mem_answers_iff invariant)
  answers := by
    rintro reading requestId ⟨item, queued, terminal⟩
    exact absurd terminal (tracks.unfinished reading _ (mem_queuedUnder.mp queued))
  entries requestId entry := (tracks.mem_answers_iff invariant).mp entry

end Tracks

/-- A completion which is over while the table has its request id. -/
theorem not_exact {connection : Connection Chunk} {stream : AnswerStream Chunk} {index : Nat}
    (distinct : (connection.streams.map AnswerStream.requestId).Nodup)
    (found : connection.streams[index]? = some stream) (ended : connection.Over stream)
    (entry : stream.requestId ∈ connection.answers) : ¬connection.Exact := by
  intro exact
  obtain ⟨other, other_mem, same_id, running⟩ := exact.entries _ entry
  have same : other = stream :=
    List.inj_on_of_nodup_map distinct other_mem (List.mem_of_getElem? found) same_id
  exact running (same ▸ ended)

/-- After a step which is not prompt the table has a completion which is over. -/
theorem not_exact_of_not_prompt {validate : Dict → Option Chunk} {limits : Json.Limits}
    {connection next : Connection Chunk} {action : Action}
    (invariant : Invariant validate connection) (late : ¬Prompt limits connection action)
    (taken : (machine validate limits).step connection action = some next) : ¬next.Exact := by
  have after : Invariant validate next := invariant.step taken
  cases action with
  | complete requestId request =>
      obtain ⟨fresh, torn⟩ := Classical.not_imp.mp late
      obtain rfl : connection.complete requestId request = next := by
        simpa [machine, WsKyok.step, fresh] using taken
      have stands : (connection.complete requestId request).streams[connection.streams.length]? =
          some ⟨requestId, [], [], .created⟩ := by
        simp [Connection.complete]
      refine not_exact after.distinct stands (.inr (.inr ?_)) ?_
      · simpa [Connection.complete] using torn
      · simp [Connection.complete]
  | receive message core =>
      simp only [Prompt, Classical.not_imp, not_forall, not_not] at late
      obtain ⟨reading, requestId, ending, entry⟩ := late
      obtain ⟨index, found⟩ := Option.isSome_iff_exists.mp (AList.lookup_isSome.mpr entry)
      obtain ⟨item, terminal, outcome⟩ := Connection.iteration_ends core ending found
      obtain rfl : connection.put requestId index item = next := by
        cases message with
        | disconnect =>
            obtain ⟨frame, _, parsed, _⟩ := ending
            cases parsed
        | text text => simpa [machine, WsKyok.step, reading, outcome] using taken
        | bytes => simpa [machine, WsKyok.step, reading, outcome] using taken
      obtain ⟨stream, stream_at, rfl⟩ : ∃ stream,
          (connection.put requestId index item).streams[index]? = some stream ∧
            stream.requestId = requestId := by
        rw [← Option.map_eq_some_iff, ← List.getElem?_map]
        exact after.table requestId index found
      refine not_exact after.distinct stream_at (.inl ⟨item, ?_, terminal⟩) entry
      exact mem_queuedUnder.mpr (List.mem_append_right _ (List.mem_singleton.mpr rfl))
  | close index =>
      simp only [Prompt, Classical.not_imp, not_forall, not_not] at late
      obtain ⟨stream, found, created, entry⟩ := late
      obtain rfl : connection.setStream index { stream with phase := .closed } = next := by
        simpa [machine, WsKyok.step, found, created] using taken
      obtain ⟨inside, _⟩ := List.getElem?_eq_some_iff.mp found
      have stands : (connection.setStream index { stream with phase := .closed }).streams[index]? =
          some { stream with phase := .closed } := by
        simp [Connection.setStream, inside]
      exact not_exact after.distinct stands (.inr (.inl trivial)) entry
  | cancelHandler | resume index | take index | gapTimeout index | cancelConsumer index =>
      exact absurd trivial late

/-- A step which is refused is prompt. -/
theorem prompt_of_refused {validate : Dict → Option Chunk} {limits : Json.Limits}
    {connection : Connection Chunk} {action : Action}
    (refused : (machine validate limits).step connection action = none) :
    Prompt limits connection action := by
  cases action with
  | complete requestId request =>
      intro fresh
      simp [machine, WsKyok.step, fresh] at refused
  | receive message core =>
      intro reading
      simp only [machine, WsKyok.step, reading, if_true] at refused
      split at refused
      · cases refused
      · split at refused <;> cases refused
  | close index =>
      intro stream found created
      simp [machine, WsKyok.step, found, created] at refused
  | cancelHandler | resume index | take index | gapTimeout index | cancelConsumer index =>
      trivial

/-- The table of a connection is exact throughout a run precisely when every step of the run is
prompt. -/
theorem exact_iff_prompt (validate : Dict → Option Chunk) (limits : Json.Limits)
    (funduqPublicKey answer : Str) (actions : List Action) :
    (machine validate limits).Throughout Connection.Exact (.opened funduqPublicKey answer)
        actions ↔
      (machine validate limits).Along (Prompt limits) (.opened funduqPublicKey answer) actions := by
  have start : Invariant validate (.opened funduqPublicKey answer) ∧
      Tracks (.opened funduqPublicKey answer : Connection Chunk) :=
    ⟨.opened funduqPublicKey answer, .opened funduqPublicKey answer⟩
  have kept : ∀ {connection next : Connection Chunk} {action : Action},
      Invariant validate connection ∧ Tracks connection → Prompt limits connection action →
        (machine validate limits).step connection action = some next →
          Invariant validate next ∧ Tracks next :=
    fun held prompt taken => ⟨held.1.step taken, held.2.step held.1 prompt taken⟩
  exact Machine.throughout_iff_along kept
    (fun kept late taken => not_exact_of_not_prompt kept.1 late taken)
    (fun _ refused => prompt_of_refused refused) (fun kept => kept.2.exact kept.1) start

/-! Two runs of one completion, of which the first is finished and the second dropped. -/

/-- The frame `{"type": "done", "requestId": "r"}`. -/
def doneFrame : Str := "\x7b\"type\": \"done\", \"requestId\": \"r\"\x7d"

/-- The completion `r` is issued, and its `done` arrives before its consumer asks for it. -/
def finishedRun (core : CoreReplies) : List Action :=
  [.complete "r" [], .receive (.text doneFrame) core]

/-- The completion `r` is issued, and its consumer drops the stream without starting it. -/
def droppedRun : List Action :=
  [.complete "r" [], .close 0]

/-- The completion `r` on a connection which has just opened. -/
def issued : Connection Dict :=
  (Connection.opened "k" "a").complete "r" []

theorem issued_invariant : Invariant some issued :=
  (Invariant.opened "k" "a").complete (by simp [Connection.opened]) []

theorem finished_and_dropped_stay_in_table :
    (∀ core, ¬(machine some Json.defaultLimits).Throughout Connection.Exact (.opened "k" "a")
        (finishedRun core)) ∧
      ¬(machine some Json.defaultLimits).Throughout Connection.Exact (.opened "k" "a")
        droppedRun := by
  have entry : ("r" : Str) ∈ issued.answers := AList.lookup_isSome.mp rfl
  constructor
  · intro core throughout
    have parsed : parseFrame Json.defaultLimits (.text doneFrame) =
        .ok (some [("type", .str "done"), ("requestId", .str "r")]) := rfl
    have late : ¬Prompt Json.defaultLimits issued (.receive (.text doneFrame) core) :=
      fun prompt => prompt rfl "r" ⟨_, "done", parsed, rfl, .inl rfl, rfl⟩ entry
    have taken : (machine some Json.defaultLimits).step issued (.receive (.text doneFrame) core) =
        some (issued.put "r" 0 .done) := by
      simp only [machine, WsKyok.step, Connection.iteration, parsed]
      rfl
    exact not_exact_of_not_prompt issued_invariant late taken ((throughout.2 issued rfl).2 _ taken)
  · intro throughout
    have late : ¬Prompt Json.defaultLimits issued (.close 0) :=
      fun prompt => prompt _ rfl rfl entry
    exact not_exact_of_not_prompt issued_invariant late rfl ((throughout.2 issued rfl).2 _ rfl)

end Souk.Server.WsKyok
