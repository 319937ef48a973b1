import Souk.OpenaiCompatAgent.RunStream

/-!
# The law of the run stream

Whatever the upstream answers and wherever an exception strikes, the events of a run are those of
one message between its start and its end: the message is opened by the first delta which arrives,
and closed unless an exception came after it.
-/

namespace Souk.OpenaiCompatAgent

open Souk.Python

/-! ## The grammar of a run -/

/-- The `type` of an event. -/
inductive EventType where
  | runStarted
  | textMessageStart
  | textMessageContent
  | textMessageEnd
  | runFinished
  | runError
  deriving DecidableEq

namespace Event

/-- `event["type"]` -/
def type : Event → EventType
  | .runStarted _ _ => .runStarted
  | .textMessageStart _ => .textMessageStart
  | .textMessageContent _ _ => .textMessageContent
  | .textMessageEnd _ => .textMessageEnd
  | .runFinished _ _ => .runFinished
  | .runError _ => .runError

/-- `event["messageId"]`, if the event has one. -/
def messageId? : Event → Option Str
  | .textMessageStart messageId | .textMessageContent messageId _ | .textMessageEnd messageId =>
      some messageId
  | .runStarted _ _ | .runFinished _ _ | .runError _ => none

/-- `event["delta"]`, if the event has one. -/
def delta? : Event → Option Value
  | .textMessageContent _ delta => some delta
  | _ => none

end Event

namespace EventType

/-- A message which has been opened. -/
def opened : RegularExpression EventType :=
  .char .textMessageStart * (.char .textMessageContent * (.star (.char .textMessageContent)))

/-- The runs which finish. -/
def finished : RegularExpression EventType :=
  .char .runStarted * (1 + opened * .char .textMessageEnd) * .char .runFinished

/-- The runs which fail. -/
def failed : RegularExpression EventType := .char .runStarted * (1 + opened) * .char .runError

end EventType

/-! ## The law -/

/-- The contents which are not empty, of all choices of all events up to the sentinel, the end or
the first place at which nothing can be read. -/
def spoken (limits : Json.Limits) (datas : List Str) : List Value :=
  ((((beforeDone datas).flatMap (contents limits)).takeWhile Option.isSome).reduceOption).filter
    Value.truthy

/-- The law of the stream. -/
structure Lawful (limits : Json.Limits) (runInput : RunInput) (answer : Upstream)
    (events : List Event) : Prop where
  grammar : events.map Event.type ∈ (EventType.finished + EventType.failed).matches'
  oneMessage : ∀ event ∈ events, ∀ messageId, event.messageId? = some messageId →
    messageId = runInput.runId ++ str "-reply"
  deltas : events.filterMap Event.delta? = spoken limits answer.datas
  /-- An exception is raised by something which cannot be read, by the upstream in front of the
  sentinel, or on leaving. -/
  error : (∃ cause, .runError cause ∈ events) ↔ Breaks limits answer

/-- What arrives is what is read in front of the first exception and is not empty. -/
theorem arrived_eq (read : List (Except Raised Value)) :
    arrived read =
      (((read.map Except.toOption).takeWhile Option.isSome).reduceOption).filter Value.truthy := by
  induction read with
  | nil => rfl
  | cons outcome read induction =>
      cases outcome with
      | error raised => rfl
      | ok content =>
          have first : List.reduceOption (some content ::
              (read.map Except.toOption).takeWhile Option.isSome) =
                content :: ((read.map Except.toOption).takeWhile Option.isSome).reduceOption := by
            simp
          rw [arrived, List.map_cons, Except.toOption, List.takeWhile_cons_of_pos rfl, first,
            List.filter_cons, induction]

theorem arrived_reads (limits : Json.Limits) (datas : List Str) :
    arrived (reads limits datas) = spoken limits datas := by
  rw [arrived_eq, toOption_reads, spoken]

/-! ## The run -/

theorem mem_char (type : EventType) : [type] ∈ (RegularExpression.char type).matches' :=
  Set.mem_singleton [type]

theorem mem_opened (messageId : Str) (delta : Value) (deltas : List Value) :
    (deltaEvents messageId false (delta :: deltas)).map Event.type ∈
      EventType.opened.matches' := by
  have contents : (deltas.map (Event.textMessageContent messageId)).map Event.type ∈
      (RegularExpression.char EventType.textMessageContent).star.matches' := by
    rw [RegularExpression.matches'_star, Language.mem_kstar]
    refine ⟨deltas.map fun _ => [.textMessageContent], ?_, ?_⟩
    · induction deltas with
      | nil => rfl
      | cons delta deltas induction => simpa [Event.type] using induction
    · intro word among
      obtain ⟨_, _, rfl⟩ := List.mem_map.mp among
      exact mem_char _
  exact Language.append_mem_mul (mem_char .textMessageStart)
    (Language.append_mem_mul (mem_char .textMessageContent) contents)

theorem mem_finished (runInput : RunInput) (messageId : Str) (deltas : List Value) :
    (.runStarted runInput.threadId runInput.runId :: deltaEvents messageId false deltas ++
        closing runInput messageId (.ok (!deltas.isEmpty))).map Event.type ∈
      EventType.finished.matches' := by
  have message : (deltaEvents messageId false deltas).map Event.type ++
      (if deltas = [] then [] else [.textMessageEnd]) ∈
        (1 + EventType.opened * .char .textMessageEnd).matches' := by
    cases deltas with
    | nil => exact .inl rfl
    | cons delta deltas =>
        exact .inr (Language.append_mem_mul (mem_opened messageId delta deltas) (mem_char _))
  have word : (.runStarted runInput.threadId runInput.runId ::
        deltaEvents messageId false deltas ++
        closing runInput messageId (.ok (!deltas.isEmpty))).map Event.type =
      [.runStarted] ++ ((deltaEvents messageId false deltas).map Event.type ++
        (if deltas = [] then [] else [.textMessageEnd])) ++ [.runFinished] := by
    cases deltas <;> simp [closing, Event.type]
  rw [word]
  exact Language.append_mem_mul (Language.append_mem_mul (mem_char _) message) (mem_char _)

theorem mem_failed (runInput : RunInput) (messageId : Str) (deltas : List Value)
    (cause : Failure) :
    (.runStarted runInput.threadId runInput.runId :: deltaEvents messageId false deltas ++
        closing runInput messageId (.error cause)).map Event.type ∈
      EventType.failed.matches' := by
  have message : (deltaEvents messageId false deltas).map Event.type ∈
      (1 + EventType.opened).matches' := by
    cases deltas with
    | nil => exact .inl rfl
    | cons delta deltas => exact .inr (mem_opened messageId delta deltas)
  have word : (.runStarted runInput.threadId runInput.runId ::
        deltaEvents messageId false deltas ++
        closing runInput messageId (.error cause)).map Event.type =
      [.runStarted] ++ (deltaEvents messageId false deltas).map Event.type ++ [.runError] := by
    simp [closing, Event.type]
  rw [word]
  exact Language.append_mem_mul (Language.append_mem_mul (mem_char _) message) (mem_char _)

theorem filterMap_deltaEvents (messageId : Str) (started : Bool) (deltas : List Value) :
    (deltaEvents messageId started deltas).filterMap Event.delta? = deltas := by
  have start : (if started ∨ deltas = [] then [] else
      [Event.textMessageStart messageId]).filterMap Event.delta? = [] := by
    split <;> rfl
  have contents : (Event.delta? ∘ Event.textMessageContent messageId) = some := rfl
  rw [deltaEvents, List.filterMap_append, start, List.filterMap_map, contents,
    List.filterMap_some, List.nil_append]

theorem messageId_of_deltaEvents {messageId : Str} {started : Bool} {deltas : List Value}
    {event : Event} (among : event ∈ deltaEvents messageId started deltas) :
    event.messageId? = some messageId := by
  rcases List.mem_append.mp among with start | content
  · split at start
    · cases start
    · obtain rfl := List.mem_singleton.mp start
      rfl
  · obtain ⟨delta, _, rfl⟩ := List.mem_map.mp content
    rfl

section Run

variable {runInput : RunInput} {messageId : Str} {deltas : List Value}
  {outcome : Except Failure Bool}

theorem messageId_of_closing {event : Event} {other : Str}
    (among : event ∈ closing runInput messageId outcome)
    (named : event.messageId? = some other) : other = messageId := by
  cases outcome with
  | error cause =>
      obtain rfl := List.mem_singleton.mp among
      cases named
  | ok started =>
      rcases List.mem_append.mp among with last | finish
      · split at last
        · obtain rfl := List.mem_singleton.mp last
          exact (Option.some.inj named).symm
        · cases last
      · obtain rfl := List.mem_singleton.mp finish
        cases named

theorem filterMap_closing : (closing runInput messageId outcome).filterMap Event.delta? = [] := by
  cases outcome with
  | error cause => rfl
  | ok started => cases started <;> rfl

theorem runError_mem_closing :
    (∃ cause, .runError cause ∈ closing runInput messageId outcome) ↔
      ∃ cause, outcome = .error cause := by
  cases outcome with
  | error cause => simp [closing]
  | ok started => cases started <;> simp [closing]

theorem runError_mem_iff {threadId runId : Str} :
    (∃ cause, .runError cause ∈ .runStarted threadId runId ::
        deltaEvents messageId false deltas ++ closing runInput messageId outcome) ↔
      ∃ cause, outcome = .error cause := by
  rw [← @runError_mem_closing runInput messageId]
  refine exists_congr fun cause => ⟨fun among => ?_, fun among => ?_⟩
  · rcases List.mem_append.mp among with before | close
    · rcases List.mem_cons.mp before with other | text
      · cases other
      · exact (deltaEvents_isText text).elim
    · exact close
  · exact List.mem_append_right _ among

end Run

theorem reply_lawful (limits : Json.Limits) (runInput : RunInput) (answer : Upstream) :
    Lawful limits runInput answer (reply limits runInput answer) := by
  have cases := leave_cases limits answer
  rw [reply, relayed_eq]
  dsimp only
  constructor
  · rcases cases with ⟨_, cause, outcome⟩ | ⟨_, outcome⟩
    · rw [outcome]
      exact .inr (mem_failed _ _ _ _)
    · rw [outcome]
      exact .inl (mem_finished _ _ _)
  · intro event among messageId named
    rcases List.mem_append.mp among with before | close
    · rcases List.mem_cons.mp before with rfl | text
      · cases named
      · exact (Option.some.inj ((messageId_of_deltaEvents text).symm.trans named)).symm
    · exact messageId_of_closing close named
  · rw [List.filterMap_append, filterMap_closing, List.append_nil, ← arrived_reads]
    exact filterMap_deltaEvents _ _ _
  · rw [runError_mem_iff]
    rcases cases with ⟨raises, cause, outcome⟩ | ⟨clean, outcome⟩
    · exact iff_of_true ⟨cause, outcome⟩ raises
    · rw [outcome]
      exact iff_of_false (by rintro ⟨_, ⟨⟩⟩) clean

/-- The events of a run obey the law of the stream, whatever the upstream answers and wherever an
exception strikes. -/
theorem runStream_lawful (limits : Json.Limits) (agent : AgentConfig)
    (upstream : UpstreamRequest → Upstream) (runInput : RunInput) :
    Lawful limits runInput (upstream (upstreamRequest agent runInput))
      (runStream limits agent upstream runInput) :=
  reply_lawful limits runInput _

end Souk.OpenaiCompatAgent
