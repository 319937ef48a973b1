import Souk.Python.Conversions
import Souk.Python.JsonEncoder
import Souk.Server.WsKyokStreams

/-!
# The completion endpoint

`chat_completions` frames what core's relay yields as server-sent events.  The relay is core's: it
is a parameter, with the two facts its documentation states and this file relies on.
-/

namespace Souk.Server.ApiLlmBridge

open Souk.Python WsKyok

variable {Chunk : Type}

/-- How the stream an LLM provider link handed out ended. -/
inductive StreamEnd where
  | returned
  | raised (error : StreamError)

/-- The end of a stream which its consumer read to the end. -/
def endOf : StreamPhase → Option StreamEnd
  | .returned => some .returned
  | .raised error => some (.raised error)
  | _ => none

/-- An item of `CompletionRelay.stream()`: a chunk, or the `CompletionFailure` which ends it. -/
inductive RelayItem (Chunk : Type) where
  | chunk (chunk : Chunk)
  | failure (payload : Value)

/-- Core's relay of one completion, as a function of what the link's stream yielded. -/
structure CompletionRelay (Chunk : Type) where
  streamRequested : Bool
  stream : List Chunk → StreamEnd → List (RelayItem Chunk)
  collapsed : List Chunk → StreamEnd → Except Value Value

/-- The relay passes chunks on as they are, and closes a broken completion with a failure. -/
structure CompletionRelay.Relays (relay : CompletionRelay Chunk) : Prop where
  returned : ∀ chunks, relay.stream chunks .returned = chunks.map .chunk
  raised : ∀ chunks error, ∃ payload,
    relay.stream chunks (.raised error) = chunks.map .chunk ++ [.failure payload]

/-- One `data:` frame: a chunk's JSON, an `error` object, or the `[DONE]` sentinel. -/
inductive SseFrame where
  | chunk (json : Str)
  | error (payload : Value)
  | done

section Body

variable (limits : Json.Limits) (modelDumpJson : Chunk → Except Raised Str)

/-- `json.dumps({'error': payload})` -/
def dumpsFailure (payload : Value) : Except Raised Unit :=
  Json.dumps limits (.record [("error", .ofValue payload)])

/-- The generator `sse`: the frames it yields, and the exception which ends it, if one does. -/
def sse : List (RelayItem Chunk) → List SseFrame × Option Raised
  | [] => ([.done], none)
  | .failure payload :: _ =>
      match dumpsFailure limits payload with
      | .ok () => ([.error payload], none)
      | .error raised => ([], some raised)
  | .chunk chunk :: items =>
      match modelDumpJson chunk with
      | .ok json =>
          let (frames, raised) := sse items
          (.chunk json :: frames, raised)
      | .error raised => ([], some raised)

/-- What the endpoint answers; an event stream may be cut by an exception. -/
inductive Response where
  | json (body : Value)
  | rejected (payload : Value)
  | eventStream (frames : List SseFrame) (raised : Option Raised)

/-- `chat_completions`, for a caller who reads the answer to its end. -/
def chatCompletions (relay : CompletionRelay Chunk) (chunks : List Chunk) (ending : StreamEnd) :
    Response :=
  if relay.streamRequested then
    let (frames, raised) := sse limits modelDumpJson (relay.stream chunks ending)
    .eventStream frames raised
  else
    match relay.collapsed chunks ending with
    | .ok body => .json body
    | .error payload => .rejected payload

/-- The frames of some chunks, each as its model writes it. -/
def FramesOf (chunks : List Chunk) (frames : List SseFrame) : Prop :=
  List.Forall₂ (fun chunk frame => ∃ json, modelDumpJson chunk = .ok json ∧ frame = .chunk json)
    chunks frames

/-- The body a completion's end calls for, after the frames of its chunks. -/
def ClosesWith (frames : List SseFrame) (chunks : List Chunk) : StreamEnd → Prop
  | .returned => ∃ written, FramesOf modelDumpJson chunks written ∧ frames = written ++ [.done]
  | .raised _ => ∃ written payload, FramesOf modelDumpJson chunks written ∧
      frames = written ++ [.error payload]

/-- The text of an item can be written: a model has no string `model_dump_json` cannot encode, and
`json.dumps` takes the payload of a failure. -/
def CanBeWritten : RelayItem Chunk → Prop
  | .chunk chunk => ∃ json, modelDumpJson chunk = .ok json
  | .failure payload => dumpsFailure limits payload = .ok ()

end Body

section Closing

variable {limits : Json.Limits} {modelDumpJson : Chunk → Except Raised Str}

/-- The body of one item, which is all there is behind the chunks. -/
theorem sse_last {last : List (RelayItem Chunk)} (single : last.length ≤ 1) :
    ((∀ item ∈ last, CanBeWritten limits modelDumpJson item) ∧
        (sse limits modelDumpJson last).2 = none) ∨
      (¬∀ item ∈ last, CanBeWritten limits modelDumpJson item) ∧
        ∃ raised, sse limits modelDumpJson last = ([], some raised) := by
  cases last with
  | nil => exact .inl ⟨fun item among => absurd among List.not_mem_nil, rfl⟩
  | cons item rest =>
      obtain rfl : rest = [] := by
        rw [List.length_cons] at single
        exact List.length_eq_zero_iff.mp (by omega)
      cases item with
      | chunk chunk =>
          simp only [List.forall_mem_singleton, CanBeWritten, sse]
          cases modelDumpJson chunk <;> simp
      | failure payload =>
          simp only [List.forall_mem_singleton, CanBeWritten, sse]
          cases dumpsFailure limits payload <;> simp

/-- Either all items are written, or an exception cuts the body among the frames of the chunks. -/
theorem sse_cases (chunks : List Chunk) {last : List (RelayItem Chunk)} (single : last.length ≤ 1) :
    ((∀ item ∈ chunks.map .chunk ++ last, CanBeWritten limits modelDumpJson item) ∧
        (sse limits modelDumpJson (chunks.map .chunk ++ last)).2 = none ∧
        ∃ written, FramesOf modelDumpJson chunks written ∧
          (sse limits modelDumpJson (chunks.map .chunk ++ last)).1 =
            written ++ (sse limits modelDumpJson last).1) ∨
      (¬∀ item ∈ chunks.map .chunk ++ last, CanBeWritten limits modelDumpJson item) ∧
        (sse limits modelDumpJson (chunks.map .chunk ++ last)).2 ≠ none ∧
        ∀ frame ∈ (sse limits modelDumpJson (chunks.map .chunk ++ last)).1,
          ∃ chunk ∈ chunks, ∃ json, modelDumpJson chunk = .ok json ∧ frame = .chunk json := by
  induction chunks with
  | nil =>
      obtain ⟨can, completes⟩ | ⟨cannot, raised, cut⟩ :=
        @sse_last _ limits modelDumpJson last single
      · exact .inl ⟨can, completes, [], .nil, rfl⟩
      · refine .inr ⟨cannot, ?_, ?_⟩
        · rw [List.map_nil, List.nil_append, cut]
          exact Option.some_ne_none raised
        · rw [List.map_nil, List.nil_append, cut]
          exact fun frame among => absurd among List.not_mem_nil
  | cons chunk chunks induction =>
      rw [List.map_cons, List.cons_append, List.forall_mem_cons, sse]
      cases dumped : modelDumpJson chunk with
      | error raised =>
          refine .inr ⟨?_, Option.some_ne_none raised, fun frame among => ?_⟩
          · rintro ⟨⟨json, other⟩, _⟩
            cases dumped.symm.trans other
          · cases among
      | ok json =>
          obtain ⟨can, completes, written, writes, frames⟩ | ⟨cannot, raises, cut⟩ := induction
          · refine .inl ⟨⟨⟨json, dumped⟩, can⟩, completes, .chunk json :: written,
              .cons ⟨json, dumped, rfl⟩ writes, ?_⟩
            rw [List.cons_append, ← frames]
          · refine .inr ⟨fun can => cannot can.2, raises, ?_⟩
            refine List.forall_mem_cons.mpr ⟨⟨chunk, List.mem_cons_self, json, dumped, rfl⟩, ?_⟩
            intro frame among
            obtain ⟨other, listed, text⟩ := cut frame among
            exact ⟨other, List.mem_cons_of_mem chunk listed, text⟩

/-- The body of a relayed completion closes as the completion ended, or is cut in front of any
sentinel because something cannot be written. -/
theorem body_cases {relay : CompletionRelay Chunk} (relays : relay.Relays) (chunks : List Chunk)
    (ending : StreamEnd) :
    ((∀ item ∈ relay.stream chunks ending, CanBeWritten limits modelDumpJson item) ∧
        (sse limits modelDumpJson (relay.stream chunks ending)).2 = none ∧
        ClosesWith modelDumpJson (sse limits modelDumpJson (relay.stream chunks ending)).1 chunks
          ending) ∨
      (¬∀ item ∈ relay.stream chunks ending, CanBeWritten limits modelDumpJson item) ∧
        (sse limits modelDumpJson (relay.stream chunks ending)).2 ≠ none ∧
        ∀ frame ∈ (sse limits modelDumpJson (relay.stream chunks ending)).1,
          ∃ chunk ∈ chunks, ∃ json, modelDumpJson chunk = .ok json ∧ frame = .chunk json := by
  cases ending with
  | returned =>
      have relayed : relay.stream chunks .returned = chunks.map .chunk ++ [] := by
        rw [relays.returned, List.append_nil]
      rw [relayed]
      obtain ⟨can, completes, written, writes, frames⟩ | cut :=
        @sse_cases _ limits modelDumpJson chunks [] (Nat.zero_le 1)
      · exact .inl ⟨can, completes, written, writes, frames⟩
      · exact .inr cut
  | raised error =>
      obtain ⟨payload, relayed⟩ := relays.raised chunks error
      rw [relayed]
      obtain ⟨can, completes, written, writes, frames⟩ | cut :=
        @sse_cases _ limits modelDumpJson chunks [.failure payload] le_rfl
      · refine .inl ⟨can, completes, written, payload, writes, ?_⟩
        have dumped : dumpsFailure limits payload = .ok () :=
          can (.failure payload) (List.mem_append_right _ List.mem_cons_self)
        rw [frames, sse, dumped]
      · exact .inr cut

/-- The body closes as the completion ended precisely if everything which is relayed can be
written. -/
theorem sse_closesWith_iff {relay : CompletionRelay Chunk} (relays : relay.Relays)
    (chunks : List Chunk) (ending : StreamEnd) :
    ClosesWith modelDumpJson (sse limits modelDumpJson (relay.stream chunks ending)).1 chunks
        ending ↔
      ∀ item ∈ relay.stream chunks ending, CanBeWritten limits modelDumpJson item := by
  obtain ⟨can, _, closes⟩ | ⟨cannot, _, cut⟩ :=
    @body_cases _ limits modelDumpJson _ relays chunks ending
  · exact iff_of_true closes can
  · refine iff_of_false (fun closes => ?_) cannot
    have last : ∃ frame ∈ (sse limits modelDumpJson (relay.stream chunks ending)).1,
        ∀ json, frame ≠ .chunk json := by
      cases ending with
      | returned =>
          obtain ⟨written, _, frames⟩ := closes
          exact ⟨.done, frames ▸ List.mem_append_right _ List.mem_cons_self,
            fun _ => SseFrame.noConfusion⟩
      | raised error =>
          obtain ⟨written, payload, _, frames⟩ := closes
          exact ⟨.error payload, frames ▸ List.mem_append_right _ List.mem_cons_self,
            fun _ => SseFrame.noConfusion⟩
    obtain ⟨frame, among, other⟩ := last
    obtain ⟨_, _, json, _, same⟩ := cut frame among
    exact other json same

end Closing

/-- The payloads of the chunks among queued items, in order. -/
def chunkPayloads (items : List Answer) : List Dict :=
  items.filterMap fun item =>
    match item with
    | .chunk data => some data
    | _ => none

theorem chunkPayloads_append (early late : List Answer) :
    chunkPayloads (early ++ late) = chunkPayloads early ++ chunkPayloads late := by
  simp [chunkPayloads]

theorem chunkPayloads_chunks (payloads : List Dict) :
    chunkPayloads (payloads.map .chunk) = payloads := by
  simp [chunkPayloads, List.filterMap_map]

/-- In every run of one connection, each completion's stream yields an in-order prefix of the chunk
payloads accepted under its own request id, which no other stream shares.  It returns only behind a
`done` which nothing but chunks precedes, all of them yielded.  The events written for a caller who
reads to the end close with `[DONE]` in that case and with one error frame in every other, if
everything the relay yields can be written, and in no other case. -/
theorem completion_answer_iff {validate : Dict → Option Chunk} {limits : Json.Limits}
    (modelDumpJson : Chunk → Except Raised Str) {relay : CompletionRelay Chunk}
    (relays : relay.Relays) {funduqPublicKey answer : Str} {actions : List Action}
    {final : Connection Chunk}
    (execution : (machine validate limits).run (.opened funduqPublicKey answer) actions =
      some final)
    {index : Nat} {stream : AnswerStream Chunk} (found : final.streams[index]? = some stream) :
    (∀ (other : Nat) (twin : AnswerStream Chunk), final.streams[other]? = some twin →
        twin.requestId = stream.requestId → other = index) ∧
      (∃ payloads, payloads <+: chunkPayloads (queuedUnder final.queued stream.requestId) ∧
        payloads.map validate = stream.yielded.map some) ∧
      (stream.phase = .returned → ∃ (before : List Dict) (after : List Answer),
        queuedUnder final.queued stream.requestId = before.map .chunk ++ .done :: after ∧
          before.map validate = stream.yielded.map some) ∧
      (∀ ending, endOf stream.phase = some ending → relay.streamRequested = true →
        ∃ frames raised, chatCompletions limits modelDumpJson relay stream.yielded ending =
            .eventStream frames raised ∧
          (ClosesWith modelDumpJson frames stream.yielded ending ↔
            ∀ item ∈ relay.stream stream.yielded ending,
              CanBeWritten limits modelDumpJson item)) := by
  have invariant := Invariant.run execution
  obtain ⟨payloads, taken, history, validated, phase⟩ :=
    invariant.accounted stream (List.mem_of_getElem? found)
  refine ⟨?_, ?_, ?_, ?_⟩
  · intro other twin twin_found same
    have twin_id : (final.streams.map AnswerStream.requestId)[other]? =
        some stream.requestId := by
      simp [twin_found, same]
    exact invariant.index_unique twin_id (by simp [found])
  · refine ⟨payloads, ?_, validated⟩
    rw [history, List.append_assoc, chunkPayloads_append, chunkPayloads_chunks]
    exact List.prefix_append _ _
  · intro returned
    obtain rfl : taken = [.done] := by simpa [returned, TakenIn] using phase
    exact ⟨payloads, stream.queue, by simpa using history, validated⟩
  · intro ending _ requested
    refine ⟨_, (sse limits modelDumpJson (relay.stream stream.yielded ending)).2, ?_,
      sse_closesWith_iff relays stream.yielded ending⟩
    rw [chatCompletions, if_pos requested]

/-! One completion, answered by one chunk and `done`, whose consumer reads to the end. -/

/-- A chunk with one choice, whose delta has a content. -/
structure ContentChunk where
  content : Str
  deriving DecidableEq

/-- `ChatCompletionChunk.model_validate`, as far as the content of the first choice. -/
def validateContent (data : Dict) : Option ContentChunk :=
  match Dict.get data "choices" with
  | .list (.dict choice :: _) => do
      let delta ← (Dict.get choice "delta").asDict?
      let content ← (Dict.get delta "content").asStr?
      return ⟨content⟩
  | _ => none

/-- `model_dump_json`, for contents which need no escape; its exception is a `ValueError`. -/
def dumpContent (chunk : ContentChunk) : Except Raised Str :=
  match encodeUtf8 chunk.content with
  | .ok _ =>
      .ok (str "\x7b\"choices\":[\x7b\"delta\":\x7b\"content\":\"" ++ chunk.content ++
        str "\"\x7d\x7d]\x7d")
  | .error _ => .error .valueError

/-- A relay which passes on the chunks of a request for a stream. -/
def streamingRelay : CompletionRelay ContentChunk where
  streamRequested := true
  stream
    | chunks, .returned => chunks.map .chunk
    | chunks, .raised _ => chunks.map .chunk ++ [.failure .null]
  collapsed _ _ := .error .null

theorem streamingRelay_relays : streamingRelay.Relays := ⟨fun _ => rfl, fun _ _ => ⟨.null, rfl⟩⟩

/-- Core accepting every registration and every deletion. -/
def acceptingCore : CoreReplies where
  registerLlmProviders models _ := .ok models
  deleteLlmOffering _ := .ok ()

/-- The text of a chunk frame whose content is written so. -/
def chunkText (content : String) : Str :=
  str ("\x7b\"type\": \"chunk\", \"requestId\": \"r\", \"data\": \x7b\"choices\": " ++
    "[\x7b\"delta\": \x7b\"content\": \"" ++ content ++ "\"\x7d\x7d]\x7d\x7d")

/-- The steps of the completion. -/
def answeredActions (content : String) : List Action :=
  [.complete "r" [], .receive (.text (chunkText content)) acceptingCore,
    .receive (.text "\x7b\"type\": \"done\", \"requestId\": \"r\"\x7d") acceptingCore,
    .resume 0, .take 0, .resume 0, .take 0]

/-- The connection once the completion has ended. -/
def answeredConnection (content : String) : Connection ContentChunk :=
  ((machine validateContent Json.defaultLimits).run (.opened "k" "a")
    (answeredActions content)).getD (.opened "k" "a")

theorem completion_answer_returned :
    (∃ payloads, payloads <+: chunkPayloads (queuedUnder (answeredConnection "hi").queued "r") ∧
        payloads.map validateContent = [some ⟨"hi"⟩]) ∧
      ∃ frames raised, chatCompletions Json.defaultLimits dumpContent streamingRelay [⟨"hi"⟩]
          .returned = .eventStream frames raised ∧
        (ClosesWith dumpContent frames [⟨"hi"⟩] .returned ↔
          ∀ item ∈ streamingRelay.stream [⟨"hi"⟩] .returned,
            CanBeWritten Json.defaultLimits dumpContent item) := by
  have execution : (machine validateContent Json.defaultLimits).run (.opened "k" "a")
      (answeredActions "hi") = some (answeredConnection "hi") := rfl
  have found : (answeredConnection "hi").streams[0]? =
      some { requestId := "r", queue := [], yielded := [⟨"hi"⟩], phase := .returned } := rfl
  obtain ⟨_, yields, _, closes⟩ :=
    completion_answer_iff dumpContent streamingRelay_relays execution found
  exact ⟨yields, closes .returned rfl rfl⟩

/-- A lone surrogate. -/
def surrogate : Str := [0xD800]

/-- A `done` is accepted behind one chunk, and the body holds neither `[DONE]` nor an error
frame. -/
theorem surrogate_cuts_body :
    (machine validateContent Json.defaultLimits).run (.opened "k" "a")
        (answeredActions "\\ud800") = some (answeredConnection "\\ud800") ∧
      (answeredConnection "\\ud800").streams[0]? =
        some { requestId := "r", queue := [], yielded := [⟨surrogate⟩], phase := .returned } ∧
      chatCompletions Json.defaultLimits dumpContent streamingRelay [⟨surrogate⟩] .returned =
        .eventStream [] (some .valueError) ∧
      ¬ClosesWith dumpContent [] [⟨surrogate⟩] .returned := by
  refine ⟨rfl, rfl, rfl, ?_⟩
  rintro ⟨written, _, frames⟩
  exact List.append_ne_nil_of_right_ne_nil written (List.cons_ne_nil _ _) frames.symm

end Souk.Server.ApiLlmBridge
