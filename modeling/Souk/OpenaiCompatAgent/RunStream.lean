import Souk.Python.JsonText
import Souk.Server.ApiLlmBridge

/-!
# The run stream over an OpenAI-compatible endpoint

The upstream answers one request with server-sent events and closes them with a `[DONE]` sentinel;
once its status line has gone out, an error is one more event.  The loop stops at the sentinel, at
the end of the events and at an exception, and only the last of these makes the run an error.
-/

namespace Souk.OpenaiCompatAgent

open Souk.Python
open Souk.Server.ApiLlmBridge

/-- What a run reads of its agent's configuration; an unset string is empty. -/
structure AgentConfig where
  apiBase : Str
  apiKey : Str
  model : Str
  systemPrompt : Str
  sessionIdHeader : Str
  memoryScopeHeader : Str

/-- What a run reads of its `RunAgentInput`. -/
structure RunInput where
  threadId : Str
  runId : Str
  messages : List Dict

/-- The POST to the upstream. -/
structure UpstreamRequest where
  url : Str
  headers : Dict
  body : Dict

/-- How the events of the upstream stop. -/
inductive UpstreamEnd where
  | closed
  /-- The transport, or the check of the content type, raises. -/
  | raised (message : Str)

/-- The upstream's answer: the `sse.data` it delivers, and how they stop. -/
structure Upstream where
  datas : List Str
  ending : UpstreamEnd
  /-- What leaving the `async with` blocks raises. -/
  leaving : Option Str

/-- What the `except` clause catches. -/
inductive Failure where
  | transport (message : Str)
  | raised (raised : Raised)

/-- The AG-UI events of a run; the message of a `RUN_ERROR` quotes the exception. -/
inductive Event where
  | runStarted (threadId runId : Str)
  | textMessageStart (messageId : Str)
  | textMessageContent (messageId : Str) (delta : Value)
  | textMessageEnd (messageId : Str)
  | runFinished (threadId runId : Str)
  | runError (cause : Failure)

/-- `_build_messages` -/
def buildMessages (agent : AgentConfig) (messages : List Dict) : List Value :=
  (if agent.systemPrompt = [] then []
    else [.dict [("role", .str "system"), ("content", .str agent.systemPrompt)]]) ++
  messages.filterMap fun message =>
    let role := Dict.get message "role"
    let content := (Dict.get message "content").orElse (.str [])
    if role.memberOf [.str "user", .str "assistant", .str "system"] ∧ content.truthy then
      some (.dict [("role", role), ("content", content)])
    else none

/-- The request a run makes. -/
def upstreamRequest (agent : AgentConfig) (runInput : RunInput) : UpstreamRequest :=
  let addressed (headers : Dict) (name : Str) :=
    if name = [] then headers else Dict.set headers name (.str runInput.threadId)
  { url := agent.apiBase.rdropWhile (· = codePoint '/') ++ str "/chat/completions"
    headers := addressed (addressed (if agent.apiKey = [] then []
      else [("Authorization", .str (str "Bearer " ++ agent.apiKey))]) agent.sessionIdHeader)
      agent.memoryScopeHeader
    body := [("model", .str agent.model),
      ("messages", .list (buildMessages agent runInput.messages)), ("stream", .bool true)] }

/-- The sentinel which ends the events. -/
def done : Str := "[DONE]"

/-- `json.loads(sse.data).get("choices", [])`, as the `for` loop takes it. -/
def choicesOf (limits : Json.Limits) (data : Str) : Except Raised (List Value) := do
  match ← Json.loads limits data with
  | .dict chunk => ((chunk.lookup (str "choices")).getD (.list [])).iterate
  | _ => throw .attributeError

/-- `choice.get("delta", {}).get("content")` -/
def deltaOf (choice : Value) : Except Raised Value :=
  match choice with
  | .dict fields => ((fields.lookup (str "delta")).getD (.dict [])).getAttr "content"
  | _ => .error .attributeError

/-- The loop over the choices of one chunk: the events it yields, and whether the text of the reply
has started, unless it raises. -/
def onChoices (messageId : Str) (started : Bool) : List Value → List Event × Except Raised Bool
  | [] => ([], .ok started)
  | choice :: choices =>
      match deltaOf choice with
      | .error raised => ([], .error raised)
      | .ok delta =>
          if delta.truthy then
            let (events, outcome) := onChoices messageId true choices
            ((if started then [] else [.textMessageStart messageId]) ++
              .textMessageContent messageId delta :: events, outcome)
          else onChoices messageId started choices

/-- One round of the loop over the events. -/
def onData (limits : Json.Limits) (messageId : Str) (started : Bool) (data : Str) :
    List Event × Except Raised Bool :=
  match choicesOf limits data with
  | .error raised => ([], .error raised)
  | .ok choices => onChoices messageId started choices

/-- The `try` block from the first event on. -/
def relayed (limits : Json.Limits) (messageId : Str) (ending : UpstreamEnd) :
    Bool → List Str → List Event × Except Failure Bool
  | started, [] =>
      match ending with
      | .closed => ([], .ok started)
      | .raised message => ([], .error (.transport message))
  | started, data :: datas =>
      if data = done then ([], .ok started)
      else
        match onData limits messageId started data with
        | (events, .error raised) => (events, .error (.raised raised))
        | (events, .ok started) =>
            let (later, outcome) := relayed limits messageId ending started datas
            (events ++ later, outcome)

/-- Leaving the `async with` blocks, which may raise in its turn. -/
def leave (leaving : Option Str) (outcome : Except Failure Bool) : Except Failure Bool :=
  match leaving with
  | none => outcome
  | some message => .error (.transport message)

/-- How a run closes, after its text has been relayed. -/
def closing (runInput : RunInput) (messageId : Str) : Except Failure Bool → List Event
  | .error cause => [.runError cause]
  | .ok started =>
      (if started then [.textMessageEnd messageId] else []) ++
        [.runFinished runInput.threadId runInput.runId]

/-- The events of a run whose upstream gives this answer. -/
def reply (limits : Json.Limits) (runInput : RunInput) (answer : Upstream) : List Event :=
  let messageId := runInput.runId ++ str "-reply"
  let (events, outcome) := relayed limits messageId answer.ending false answer.datas
  .runStarted runInput.threadId runInput.runId :: events ++
    closing runInput messageId (leave answer.leaving outcome)

/-- `run_stream`, over whatever the upstream answers to its request. -/
def runStream (limits : Json.Limits) (agent : AgentConfig) (upstream : UpstreamRequest → Upstream)
    (runInput : RunInput) : List Event :=
  reply limits runInput (upstream (upstreamRequest agent runInput))

/-! ## What an answer amounts to -/

/-- An in-band error payload, `{"error": ...}`. -/
def ErrorPayload (limits : Json.Limits) (data : Str) : Prop :=
  ∃ payload, Json.loads limits data = .ok (.dict [("error", payload)])

/-- What comes before the sentinel. -/
def beforeDone (datas : List Str) : List Str := datas.takeWhile (· ≠ done)

/-- The upstream delivered its sentinel, and no error payload before it. -/
def Delivered (limits : Json.Limits) (datas : List Str) : Prop :=
  done ∈ datas ∧ ∀ data ∈ beforeDone datas, ¬ErrorPayload limits data

/-- A run does not report a broken answer as a finished one. -/
structure Honest (limits : Json.Limits) (datas : List Str) (events : List Event) : Prop where
  finished : ∀ threadId runId, .runFinished threadId runId ∈ events → Delivered limits datas
  broken : ¬Delivered limits datas → ∃ cause, events.getLast? = some (.runError cause)

/-- The content of a choice, as its JSON has it: there is none if the choice or its delta is no
object, and `null` if there is no delta or it has no content. -/
def contentOf : Value → Option Value
  | .dict choice =>
      match choice.lookup (str "delta") with
      | none => some .null
      | some (.dict delta) => some ((delta.lookup (str "content")).getD .null)
      | some _ => none
  | _ => none

/-- The contents of an event, as its JSON has them; `none` stands where nothing can be read. -/
def contentsOf : Value → List (Option Value)
  | .dict chunk =>
      match chunk.lookup (str "choices") with
      | none => []
      | some (.list choices) => choices.map contentOf
      -- Strings and objects have items, none of which is a choice.
      | some (.str text) => text.map fun _ => none
      | some (.dict fields) => fields.map fun _ => none
      | some _ => [none]
  | _ => [none]

/-- The contents of the text of an event. -/
def contents (limits : Json.Limits) (data : Str) : List (Option Value) :=
  match Json.loads limits data with
  | .ok value => contentsOf value
  | .error _ => [none]

/-- An event is a chunk whose choices can all be read. -/
def Readable (limits : Json.Limits) (data : Str) : Prop := none ∉ contents limits data

/-- The answer breaks in a way the loop notices: before the sentinel something cannot be read, or
the transport raises, with the sentinel yet to come or on leaving. -/
def Breaks (limits : Json.Limits) (upstream : Upstream) : Prop :=
  (∃ data ∈ beforeDone upstream.datas, ¬Readable limits data) ∨
    (done ∉ upstream.datas ∧ ∃ message, upstream.ending = .raised message) ∨
    ∃ message, upstream.leaving = some message

/-! ## What the loop reads

What the loop does is a function of what it reads: the contents of the choices up to the sentinel,
each of them a value or an exception. -/

/-- What one event of the upstream has the loop read. -/
def readsOf (limits : Json.Limits) (data : Str) : List (Except Raised Value) :=
  match choicesOf limits data with
  | .error raised => [.error raised]
  | .ok choices => choices.map deltaOf

/-- What the upstream's events have the loop read, up to the sentinel. -/
def reads (limits : Json.Limits) (datas : List Str) : List (Except Raised Value) :=
  (beforeDone datas).flatMap (readsOf limits)

/-- The contents which are not empty, up to the first exception. -/
def arrived : List (Except Raised Value) → List Value
  | [] => []
  | .error _ :: _ => []
  | .ok content :: rest => if content.truthy then content :: arrived rest else arrived rest

/-- The first exception. -/
def firstRaised : List (Except Raised Value) → Option Raised
  | [] => none
  | .error raised :: _ => some raised
  | .ok _ :: rest => firstRaised rest

theorem arrived_append (first second : List (Except Raised Value)) :
    arrived (first ++ second) =
      arrived first ++ if firstRaised first = none then arrived second else [] := by
  induction first with
  | nil => rfl
  | cons read rest induction =>
      cases read with
      | error raised => rfl
      | ok content =>
          rw [List.cons_append, arrived, arrived, firstRaised, induction]
          split <;> rfl

theorem firstRaised_append (first second : List (Except Raised Value)) :
    firstRaised (first ++ second) = (firstRaised first).or (firstRaised second) := by
  induction first with
  | nil => rfl
  | cons read rest induction =>
      cases read with
      | error raised => rfl
      | ok content => exact induction

theorem firstRaised_eq_none_iff {read : List (Except Raised Value)} :
    firstRaised read = none ↔ ¬∃ raised, .error raised ∈ read := by
  induction read with
  | nil => simp [firstRaised]
  | cons first rest induction =>
      cases first with
      | error raised => simp [firstRaised]
      | ok content => simpa [firstRaised] using induction

/-! ## The loop -/

section Loop

variable {limits : Json.Limits} {messageId : Str} {ending : UpstreamEnd}

/-- The events of the text of a reply. -/
def Event.IsText : Event → Prop
  | .textMessageStart _ | .textMessageContent _ _ | .textMessageEnd _ => True
  | .runStarted _ _ | .runFinished _ _ | .runError _ => False

/-- The events of some deltas, with the start of their message before them if there is none yet. -/
def deltaEvents (messageId : Str) (started : Bool) (deltas : List Value) : List Event :=
  (if started ∨ deltas = [] then [] else [.textMessageStart messageId]) ++
    deltas.map (.textMessageContent messageId)

theorem deltaEvents_append (messageId : Str) (started : Bool) (first second : List Value) :
    deltaEvents messageId started (first ++ second) =
      deltaEvents messageId started first ++
        deltaEvents messageId (started || !first.isEmpty) second := by
  cases first with
  | nil => simp [deltaEvents]
  | cons delta rest => simp [deltaEvents]

/-- How the reads of the loop end it. -/
def ended (started : Bool) (read : List (Except Raised Value)) : Except Raised Bool :=
  match firstRaised read with
  | some raised => .error raised
  | none => .ok (started || !(arrived read).isEmpty)

theorem ended_append {first second : List (Except Raised Value)} (started : Bool)
    (clean : firstRaised first = none) :
    ended started (first ++ second) = ended (started || !(arrived first).isEmpty) second := by
  rw [ended, ended, firstRaised_append, clean, Option.none_or, arrived_append, if_pos clean]
  cases firstRaised second with
  | some raised => rfl
  | none => cases arrived first <;> simp

theorem onChoices_eq (messageId : Str) (started : Bool) (choices : List Value) :
    onChoices messageId started choices =
      (deltaEvents messageId started (arrived (choices.map deltaOf)),
        ended started (choices.map deltaOf)) := by
  induction choices generalizing started with
  | nil => simp [onChoices, arrived, deltaEvents, ended, firstRaised]
  | cons choice choices induction =>
      rw [onChoices, List.map_cons]
      cases deltaOf choice with
      | error raised => simp [arrived, deltaEvents, ended, firstRaised]
      | ok delta =>
          dsimp only
          by_cases content : delta.truthy = true
          · rw [if_pos content, induction true]
            simp [arrived, content, deltaEvents, ended, firstRaised]
          · rw [if_neg content, induction started]
            simp [arrived, content, ended, firstRaised]

theorem onData_eq (limits : Json.Limits) (messageId : Str) (started : Bool) (data : Str) :
    onData limits messageId started data =
      (deltaEvents messageId started (arrived (readsOf limits data)),
        ended started (readsOf limits data)) := by
  rw [onData, readsOf]
  cases choicesOf limits data with
  | error raised => simp [arrived, deltaEvents, ended, firstRaised]
  | ok choices => exact onChoices_eq messageId started choices

/-- How the `try` block ends, once the loop has ended. -/
def outcomeOf (ending : UpstreamEnd) (datas : List Str) : Except Raised Bool → Except Failure Bool
  | .error raised => .error (.raised raised)
  | .ok started =>
      if done ∈ datas then .ok started
      else
        match ending with
        | .closed => .ok started
        | .raised message => .error (.transport message)

/-- The loop over the upstream's events yields the deltas which arrived. -/
theorem relayed_eq (limits : Json.Limits) (messageId : Str) (ending : UpstreamEnd) (started : Bool)
    (datas : List Str) :
    relayed limits messageId ending started datas =
      (deltaEvents messageId started (arrived (reads limits datas)),
        outcomeOf ending datas (ended started (reads limits datas))) := by
  induction datas generalizing started with
  | nil => cases ending <;>
      simp [relayed, reads, beforeDone, arrived, deltaEvents, ended, firstRaised, outcomeOf]
  | cons data datas induction =>
      rw [relayed]
      by_cases sentinel : data = done
      · simp [reads, beforeDone, sentinel, arrived, deltaEvents, ended, firstRaised, outcomeOf]
      · have later : reads limits (data :: datas) = readsOf limits data ++ reads limits datas := by
          simp [reads, beforeDone, sentinel]
        rw [if_neg sentinel, onData_eq, later, arrived_append]
        cases raises : firstRaised (readsOf limits data) with
        | some raised => simp [ended, firstRaised_append, raises, outcomeOf]
        | none =>
            have continues : ended started (readsOf limits data) =
                .ok (started || !(arrived (readsOf limits data)).isEmpty) := by
              rw [ended, raises]
            have others : outcomeOf ending (data :: datas) = outcomeOf ending datas := by
              funext outcome
              simp [outcomeOf, Ne.symm sentinel]
            rw [if_pos rfl, deltaEvents_append, ended_append started raises, others, continues]
            simp only [induction]

theorem deltaEvents_isText {started : Bool} {deltas : List Value} {event : Event}
    (among : event ∈ deltaEvents messageId started deltas) : event.IsText := by
  rcases List.mem_append.mp among with start | content
  · split at start
    · cases start
    · obtain rfl := List.mem_singleton.mp start
      trivial
  · obtain ⟨delta, _, rfl⟩ := List.mem_map.mp content
    trivial

/-- The loop reads the content of a choice, or raises where there is none. -/
theorem toOption_deltaOf (choice : Value) : (deltaOf choice).toOption = contentOf choice := by
  cases choice with
  | dict fields =>
      rw [deltaOf, contentOf]
      cases found : fields.lookup (str "delta") with
      | none => rfl
      | some delta => cases delta <;> rfl
  | null | bool | int | float | str | list => rfl

/-- What one event has the loop read is what its JSON holds. -/
theorem toOption_readsOf (limits : Json.Limits) (data : Str) :
    (readsOf limits data).map Except.toOption = contents limits data := by
  have choices (items : List Value) :
      (items.map deltaOf).map Except.toOption = items.map contentOf := by
    rw [List.map_map]
    exact List.map_congr_left fun choice _ => toOption_deltaOf choice
  rw [readsOf, choicesOf, contents]
  cases Json.loads limits data with
  | error raised => rfl
  | ok value =>
      cases value with
      | dict chunk =>
          simp only [bind, Except.bind, contentsOf]
          cases chunk.lookup (str "choices") with
          | none => rfl
          | some listed =>
              cases listed with
              | list items => exact choices items
              | str text =>
                  rw [Option.getD_some, Value.iterate, choices, List.map_map]
                  rfl
              | dict fields =>
                  rw [Option.getD_some, Value.iterate, choices, List.map_map]
                  rfl
              | null | bool | int | float => rfl
      | null | bool | int | float | str | list => rfl

/-- The loop reads the contents of the events up to the sentinel. -/
theorem toOption_reads (limits : Json.Limits) (datas : List Str) :
    (reads limits datas).map Except.toOption =
      (beforeDone datas).flatMap (contents limits) := by
  rw [reads, List.map_flatMap]
  exact congrArg (fun read => (beforeDone datas).flatMap read)
    (funext (toOption_readsOf limits))

theorem raised_mem_iff {read : List (Except Raised Value)} :
    (∃ raised, .error raised ∈ read) ↔ none ∈ read.map Except.toOption := by
  rw [List.mem_map]
  constructor
  · rintro ⟨raised, among⟩
    exact ⟨.error raised, among, rfl⟩
  · rintro ⟨outcome, among, unread⟩
    cases outcome with
    | error raised => exact ⟨raised, among⟩
    | ok content => cases unread

/-- An event which cannot be read raises, and only such an event. -/
theorem raises_reads_iff {datas : List Str} :
    (∃ raised, .error raised ∈ reads limits datas) ↔
      ∃ data ∈ beforeDone datas, ¬Readable limits data := by
  rw [raised_mem_iff, toOption_reads, List.mem_flatMap]
  simp only [Readable, not_not]

/-- Either an exception ends the `try` block, or nothing has raised. -/
theorem outcomeOf_cases (ending : UpstreamEnd) (datas : List Str) (started : Bool)
    (read : List (Except Raised Value)) :
    ((∃ raised, .error raised ∈ read) ∨ done ∉ datas ∧ ∃ message, ending = .raised message) ∧
        (∃ cause, outcomeOf ending datas (ended started read) = .error cause) ∨
      ¬((∃ raised, .error raised ∈ read) ∨ done ∉ datas ∧ ∃ message, ending = .raised message) ∧
        outcomeOf ending datas (ended started read) =
          .ok (started || !(arrived read).isEmpty) := by
  rw [ended]
  cases raises : firstRaised read with
  | some raised =>
      have found : ∃ raised, .error raised ∈ read := by
        by_contra clean
        rw [firstRaised_eq_none_iff.mpr clean] at raises
        cases raises
      exact .inl ⟨.inl found, _, rfl⟩
  | none =>
      have clean := firstRaised_eq_none_iff.mp raises
      rw [or_iff_right clean]
      by_cases sentinel : done ∈ datas
      · exact .inr ⟨fun cut => cut.1 sentinel, if_pos sentinel⟩
      · simp only [outcomeOf, if_neg sentinel]
        cases ending with
        | closed => exact .inr ⟨by rintro ⟨_, _, ⟨⟩⟩, rfl⟩
        | raised message => exact .inl ⟨⟨sentinel, message, rfl⟩, _, rfl⟩

/-- The `try` block ends with an exception precisely when the answer breaks. -/
theorem leave_cases (limits : Json.Limits) (answer : Upstream) :
    (Breaks limits answer ∧ ∃ cause, leave answer.leaving (outcomeOf answer.ending answer.datas
        (ended false (reads limits answer.datas))) = .error cause) ∨
      ¬Breaks limits answer ∧ leave answer.leaving (outcomeOf answer.ending answer.datas
        (ended false (reads limits answer.datas))) =
          .ok !(arrived (reads limits answer.datas)).isEmpty := by
  obtain ⟨datas, ending, leaving⟩ := answer
  cases leaving with
  | some message => exact .inl ⟨.inr (.inr ⟨message, rfl⟩), _, rfl⟩
  | none =>
      have breaks : Breaks limits ⟨datas, ending, none⟩ ↔
          (∃ raised, .error raised ∈ reads limits datas) ∨
            done ∉ datas ∧ ∃ message, ending = .raised message := by
        rw [raises_reads_iff]
        simp [Breaks]
      rw [breaks]
      exact outcomeOf_cases ending datas false (reads limits datas)

end Loop

/-- A run closes with `RUN_FINISHED` or `RUN_ERROR`, and has neither before. -/
theorem reply_closes (limits : Json.Limits) (runInput : RunInput) (answer : Upstream) :
    (¬Breaks limits answer ∧
        .runFinished runInput.threadId runInput.runId ∈ reply limits runInput answer) ∨
      Breaks limits answer ∧
        (∀ threadId runId, .runFinished threadId runId ∉ reply limits runInput answer) ∧
        ∃ cause, (reply limits runInput answer).getLast? = some (.runError cause) := by
  rw [reply, relayed_eq]
  dsimp only
  obtain ⟨breaks, cause, outcome⟩ | ⟨clean, outcome⟩ := leave_cases limits answer
  · refine .inr ⟨breaks, ?_, cause, ?_⟩
    · intro threadId runId among
      simp only [outcome, closing, List.cons_append, List.mem_cons, List.mem_append,
        List.not_mem_nil, or_false, reduceCtorEq, false_or] at among
      exact deltaEvents_isText among
    · simp only [outcome, closing]
      exact List.getLast?_concat
  · refine .inl ⟨clean, ?_⟩
    simp [outcome, closing]

theorem reply_honest_iff (limits : Json.Limits) (runInput : RunInput) (answer : Upstream) :
    Honest limits answer.datas (reply limits runInput answer) ↔
      Delivered limits answer.datas ∨ Breaks limits answer := by
  rcases reply_closes limits runInput answer with
    ⟨reads, finishes⟩ | ⟨breaks, unfinished, closes⟩
  · rw [or_iff_left reads]
    constructor
    · exact fun honest => honest.finished _ _ finishes
    · exact fun delivered => ⟨fun _ _ _ => delivered, fun broken => absurd delivered broken⟩
  · refine iff_of_true ⟨fun threadId runId among => ?_, fun _ => closes⟩ (.inr breaks)
    exact absurd among (unfinished threadId runId)

/-- A run is honest about its upstream's answer precisely when the answer was delivered to its
sentinel, or breaks in a way the loop notices. -/
theorem runStream_honest_iff (limits : Json.Limits) (agent : AgentConfig)
    (upstream : UpstreamRequest → Upstream) (runInput : RunInput) :
    Honest limits (upstream (upstreamRequest agent runInput)).datas
        (runStream limits agent upstream runInput) ↔
      Delivered limits (upstream (upstreamRequest agent runInput)).datas ∨
        Breaks limits (upstream (upstreamRequest agent runInput)) :=
  reply_honest_iff limits runInput (upstream (upstreamRequest agent runInput))

/-! ## The relay as the upstream -/

section Relay

variable {Chunk : Type} (encoder : Json.Encoder)

/-- The `sse.data` of a frame of the completion endpoint. -/
def dataOf : SseFrame → Str
  | .chunk json => json
  | .error payload => Json.text encoder (.dict [("error", payload)])
  | .done => done

/-- The completion endpoint's body as an upstream: where an exception cuts it, the transport
raises. -/
def upstreamOf (message : Str) (body : List SseFrame × Option Raised) : Upstream :=
  ⟨body.1.map (dataOf encoder), if body.2 = none then .closed else .raised message, none⟩

variable {encoder}

theorem beforeDone_append {before after : List Str} (chunks : ∀ data ∈ before, data ≠ done) :
    beforeDone (before ++ after) = before ++ beforeDone after := by
  rw [beforeDone, List.takeWhile_append_of_pos fun data among => by simpa using chunks data among,
    beforeDone]

/-- The text of an error payload is read as one, and is not the sentinel. -/
theorem loads_error_text {limits : Json.Limits} {payload : Value}
    (fits : Json.readable limits 0 (.dict [("error", payload)]) = true) :
    Json.loads limits (Json.text encoder (.dict [("error", payload)])) =
      .ok (.dict [("error", Json.reread payload)]) := by
  rw [Json.loads_text encoder fits]
  rfl

theorem error_text_ne_done {payload : Value} :
    Json.text encoder (.dict [("error", payload)]) ≠ done := by
  intro same
  have first := congrArg List.head? same
  simp only [Json.text, List.cons_append, List.head?_cons] at first
  revert first
  decide

/-- An error payload passes the loop as a chunk without choices. -/
theorem readable_error_text {limits : Json.Limits} {payload : Value}
    (fits : Json.readable limits 0 (.dict [("error", payload)]) = true) :
    Readable limits (Json.text encoder (.dict [("error", payload)])) := by
  rw [Readable, contents, loads_error_text fits]
  exact List.not_mem_nil

section Written

variable {limits : Json.Limits} {jsons : List Str}

/-- Chunks and the sentinel are a delivered answer. -/
theorem delivered_chunks (written : ∀ json ∈ jsons, json ≠ done ∧ ¬ErrorPayload limits json) :
    Delivered limits (jsons ++ [done]) := by
  refine ⟨by simp, fun data among => ?_⟩
  have sentinel : beforeDone [done] = [] := by simp [beforeDone]
  rw [beforeDone_append fun json json_mem => (written json json_mem).1, sentinel,
    List.append_nil] at among
  exact (written data among).2

/-- Chunks and an error payload are no delivered answer, and nothing in it breaks the loop. -/
theorem not_noticed_error {payload : Value}
    (written : ∀ json ∈ jsons, json ≠ done ∧ Readable limits json)
    (fits : Json.readable limits 0 (.dict [("error", payload)]) = true) :
    ¬(Delivered limits (jsons ++ [Json.text encoder (.dict [("error", payload)])]) ∨
      Breaks limits
        ⟨jsons ++ [Json.text encoder (.dict [("error", payload)])], .closed, none⟩) := by
  have whole : beforeDone (jsons ++ [Json.text encoder (.dict [("error", payload)])]) =
      jsons ++ [Json.text encoder (.dict [("error", payload)])] := by
    rw [beforeDone_append fun json json_mem => (written json json_mem).1]
    simp [beforeDone, error_text_ne_done]
  rintro (⟨_, clean⟩ | ⟨data, among, unreadable⟩ | ⟨_, message, raises⟩ | ⟨message, raises⟩)
  · have payload_mem := List.mem_append_right jsons
      (List.mem_singleton_self (Json.text encoder (.dict [("error", payload)])))
    exact clean _ (whole ▸ payload_mem) ⟨_, loads_error_text fits⟩
  · rw [whole] at among
    rcases List.mem_append.mp among with chunk_text | last
    · exact unreadable (written data chunk_text).2
    · obtain rfl := List.mem_singleton.mp last
      exact unreadable (readable_error_text fits)
  · cases raises
  · cases raises

/-- The frames of chunks are their JSON. -/
theorem map_dataOf_of_framesOf {modelDumpJson : Chunk → Except Raised Str} {chunks : List Chunk}
    {frames : List SseFrame} (writes : FramesOf modelDumpJson chunks frames) :
    ∀ json ∈ frames.map (dataOf encoder), ∃ chunk ∈ chunks, modelDumpJson chunk = .ok json := by
  induction writes with
  | nil => exact fun json among => absurd among List.not_mem_nil
  | cons first _ induction =>
      obtain ⟨text, dumped, rfl⟩ := first
      refine List.forall_mem_cons.mpr ⟨⟨_, List.mem_cons_self, dumped⟩, fun json among => ?_⟩
      obtain ⟨chunk, listed, written⟩ := induction json among
      exact ⟨chunk, List.mem_cons_of_mem _ listed, written⟩

end Written

/-- Over this gateway's own completion endpoint, with chunks that can be read, a run is honest about
an answer precisely when the completion returned, or something it yielded could not be written. -/
theorem relay_honest_iff {limits : Json.Limits} {modelDumpJson : Chunk → Except Raised Str}
    {relay : CompletionRelay Chunk} (relays : relay.Relays) (runInput : RunInput)
    {chunks : List Chunk} {ending : StreamEnd} (message : Str)
    (readable : ∀ chunk ∈ chunks, ∀ json, modelDumpJson chunk = .ok json →
      json ≠ done ∧ Readable limits json ∧ ¬ErrorPayload limits json)
    (fits : ∀ payload,
      .error payload ∈ (sse limits modelDumpJson (relay.stream chunks ending)).1 →
        Json.readable limits 0 (.dict [("error", payload)]) = true) :
    Honest limits
        (upstreamOf encoder message (sse limits modelDumpJson (relay.stream chunks ending))).datas
        (reply limits runInput
          (upstreamOf encoder message (sse limits modelDumpJson (relay.stream chunks ending)))) ↔
      ending = .returned ∨
        ¬∀ item ∈ relay.stream chunks ending, CanBeWritten limits modelDumpJson item := by
  rw [reply_honest_iff]
  obtain ⟨can, completes, closes⟩ | ⟨cannot, raises, cut⟩ :=
    @body_cases _ limits modelDumpJson _ relays chunks ending
  · rw [or_iff_left (not_not.mpr can), upstreamOf, if_pos completes]
    cases ending with
    | returned =>
        obtain ⟨written, writes, frames⟩ := closes
        rw [frames, List.map_append]
        refine iff_of_true (.inl (delivered_chunks fun json among => ?_)) rfl
        obtain ⟨chunk, listed, dumped⟩ := map_dataOf_of_framesOf writes json among
        exact (readable chunk listed json dumped).imp_right And.right
    | raised error =>
        obtain ⟨written, payload, writes, frames⟩ := closes
        have shown := fits payload (frames ▸ List.mem_append_right _ List.mem_cons_self)
        rw [frames, List.map_append]
        refine iff_of_false (not_noticed_error (fun json among => ?_) shown) (by simp)
        obtain ⟨chunk, listed, dumped⟩ := map_dataOf_of_framesOf writes json among
        exact (readable chunk listed json dumped).imp_right And.left
  · refine iff_of_true (.inr (.inr (.inl ⟨fun sentinel => ?_, message, if_neg raises⟩)))
      (.inr cannot)
    obtain ⟨frame, among, same⟩ := List.mem_map.mp sentinel
    obtain ⟨chunk, listed, json, dumped, rfl⟩ := cut frame among
    exact (readable chunk listed json dumped).1 same

end Relay

/-! Two answers which are not delivered to a sentinel. -/

/-- An agent over an endpoint which asks for no key. -/
def plainAgent : AgentConfig := ⟨"http://h/v1", [], "m", [], [], []⟩

/-- A run without messages. -/
def plainInput : RunInput := ⟨"t", "r", []⟩

/-- An answer which was cut in front of its sentinel, without the transport raising. -/
def cutShort : Upstream := ⟨[], .closed, none⟩

/-- The answer `{"error": "x"}`. -/
def failed : Upstream := ⟨["\x7b\"error\": \"x\"\x7d"], .closed, none⟩

/-- Both are reported as finished. -/
theorem broken_answers_finish :
    ¬Honest Json.defaultLimits cutShort.datas
        (runStream Json.defaultLimits plainAgent (fun _ => cutShort) plainInput) ∧
      ¬Honest Json.defaultLimits failed.datas
        (runStream Json.defaultLimits plainAgent (fun _ => failed) plainInput) := by
  have finishes : ∀ answer ∈ [cutShort, failed],
      runStream Json.defaultLimits plainAgent (fun _ => answer) plainInput =
        [.runStarted "t" "r", .runFinished "t" "r"] := by
    intro answer among
    simp only [List.mem_cons, List.not_mem_nil, or_false] at among
    rcases among with rfl | rfl <;> rfl
  constructor
  · intro honest
    rw [finishes cutShort (by simp)] at honest
    have delivered := honest.finished "t" "r" (by simp)
    exact absurd delivered.1 (by decide)
  · intro honest
    rw [finishes failed (by simp)] at honest
    have delivered := honest.finished "t" "r" (by simp)
    exact absurd delivered.1 (by decide)

end Souk.OpenaiCompatAgent
