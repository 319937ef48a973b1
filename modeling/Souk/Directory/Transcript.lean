import Souk.Directory.Chat

/-!
# The chat as a transcript

A transcript is a list of bubbles each of which listens to the stream on its own: it has one role,
and what an event does to it depends on that role alone.  The maps of the page say no more than
which place has which role, so the log of the page is the transcript.
-/

namespace Souk.Directory.AgentPage

/-- What a bubble still listens to. -/
inductive Role where
  | settled
  | assistant (raw : JsString)
  | tool (toolCallId : Key)
  | reasoning (messageId : Key) (raw : JsString)
  | sub (taskId : JsString) (raw : Option JsString)

namespace Role

/-- What a bubble listens to after an event. -/
def next (event : Event) (role : Role) : Role :=
  match role, event with
  | assistant raw, .textMessage delta content => assistant (raw ++ Event.delta delta content)
  | tool id, .toolCallStart other _ | tool id, .toolCallResult other _ =>
      if id = other then settled else tool id
  | reasoning id raw, .reasoningStart other | reasoning id raw, .reasoningEnd other =>
      if id = other then settled else reasoning id raw
  | reasoning id raw, .reasoningMessageContent other delta =>
      if id = other then reasoning id (raw ++ orDefault delta []) else reasoning id raw
  | sub id raw, .subAgentProgress subAgent statusTaskId artifactTaskId state parts =>
      if id = Event.taskId subAgent statusTaskId artifactTaskId then
        if Event.ended state then settled
        else
          match Event.textOf parts with
          | [] => sub id raw
          | text => sub id (some (raw.getD [] ++ text))
      else sub id raw
  | assistant _, .runFinished | tool _, .runFinished | reasoning _ _, .runFinished => settled
  | role, _ => role

/-- What an event has a bubble show. -/
def writes (event : Event) (role : Role) : Option Bubble :=
  match role, event with
  | assistant raw, .textMessage delta content =>
      match Event.delta delta content with
      | [] => none
      | delta => some (.markdown (raw ++ delta))
  | tool id, .toolCallResult other content =>
      if id = other then some (Event.result content) else none
  | reasoning id raw, .reasoningMessageContent other delta =>
      if id = other then some (.markdown (raw ++ orDefault delta [])) else none
  | reasoning id [], .reasoningEncryptedValue other =>
      if id = other then some (.text (jsString "(reasoning hidden by the model)")) else none
  | sub id raw, .subAgentProgress subAgent statusTaskId artifactTaskId state parts =>
      if id = Event.taskId subAgent statusTaskId artifactTaskId then
        if Event.ended state then none
        else
          match Event.textOf parts with
          | [] => none
          | text => some (.markdown (raw.getD [] ++ text))
      else none
  | _, _ => none

/-- The same bubble listens to the same. -/
def Continues : Role → Role → Prop
  | settled, settled => True
  | assistant _, assistant _ => True
  | tool id, tool other => id = other
  | reasoning id _, reasoning other _ => id = other
  | sub id _, sub other _ => id = other
  | _, _ => False

/-- A bubble goes on listening to what it has listened to, or is settled. -/
theorem next_continues (event : Event) (role : Role) :
    role.next event = settled ∨ role.Continues (role.next event) := by
  cases role with
  | settled => cases event <;> exact .inl rfl
  | assistant raw => cases event <;> first | exact .inl rfl | exact .inr trivial
  | tool id =>
      cases event with
      | toolCallStart other _ | toolCallResult other _ =>
          by_cases same : id = other <;> simp [next, same, Continues]
      | runFinished => exact .inl rfl
      | _ => exact .inr rfl
  | reasoning id raw =>
      cases event with
      | reasoningStart other | reasoningEnd other | reasoningMessageContent other _ =>
          by_cases same : id = other <;> simp [next, same, Continues]
      | runFinished => exact .inl rfl
      | _ => exact .inr rfl
  | sub id raw =>
      cases event with
      | subAgentProgress subAgent statusTaskId artifactTaskId state parts =>
          by_cases same : id = Event.taskId subAgent statusTaskId artifactTaskId
          · by_cases ended : Event.ended state
            · simp [next, same, ended]
            · cases text : Event.textOf parts <;> simp [next, same, ended, text, Continues]
          · simp [next, same, Continues]
      | _ => exact .inr rfl

section Becomes

variable {Holds : Role → Prop} {event : Event}

theorem becomes_assistant {raw : JsString} :
    (∃ before, Holds before ∧ before.next event = assistant raw) ↔
      ∃ held, Holds (assistant held) ∧ (assistant held).next event = assistant raw := by
  refine ⟨?_, fun ⟨held, holds, becomes⟩ => ⟨_, holds, becomes⟩⟩
  rintro ⟨before, holds, becomes⟩
  have continues := before.next_continues event
  rw [becomes] at continues
  cases before with
  | assistant held => exact ⟨held, holds, becomes⟩
  | _ => simp [Continues] at continues

theorem becomes_tool {id : Key} :
    (∃ before, Holds before ∧ before.next event = tool id) ↔
      Holds (tool id) ∧ (tool id).next event = tool id := by
  refine ⟨?_, fun ⟨holds, becomes⟩ => ⟨_, holds, becomes⟩⟩
  rintro ⟨before, holds, becomes⟩
  have continues := before.next_continues event
  rw [becomes] at continues
  cases before with
  | tool other =>
      obtain rfl : other = id := by simpa [Continues] using continues
      exact ⟨holds, becomes⟩
  | _ => simp [Continues] at continues

theorem becomes_reasoning {id : Key} {raw : JsString} :
    (∃ before, Holds before ∧ before.next event = reasoning id raw) ↔
      ∃ held, Holds (reasoning id held) ∧ (reasoning id held).next event = reasoning id raw := by
  refine ⟨?_, fun ⟨held, holds, becomes⟩ => ⟨_, holds, becomes⟩⟩
  rintro ⟨before, holds, becomes⟩
  have continues := before.next_continues event
  rw [becomes] at continues
  cases before with
  | reasoning other held =>
      obtain rfl : other = id := by simpa [Continues] using continues
      exact ⟨held, holds, becomes⟩
  | _ => simp [Continues] at continues

theorem becomes_sub {id : JsString} {raw : Option JsString} :
    (∃ before, Holds before ∧ before.next event = sub id raw) ↔
      ∃ held, Holds (sub id held) ∧ (sub id held).next event = sub id raw := by
  refine ⟨?_, fun ⟨held, holds, becomes⟩ => ⟨_, holds, becomes⟩⟩
  rintro ⟨before, holds, becomes⟩
  have continues := before.next_continues event
  rw [becomes] at continues
  cases before with
  | sub other held =>
      obtain rfl : other = id := by simpa [Continues] using continues
      exact ⟨held, holds, becomes⟩
  | _ => simp [Continues] at continues

end Becomes

end Role

/-- A bubble on its own. -/
structure Voice where
  entry : Entry
  role : Role

namespace Voice

/-- A bubble which listens no more. -/
def settle (voice : Voice) : Voice := { voice with role := .settled }

/-- What an event does to a bubble. -/
def follow (event : Event) (voice : Voice) : Voice where
  entry := { voice.entry with bubble := (voice.role.writes event).getD voice.entry.bubble }
  role := voice.role.next event

end Voice

/-- A log of bubbles. -/
structure Transcript where
  selfName : JsString
  voices : List Voice
  /-- A reply is awaited: the dots stand under the last bubble. -/
  awaiting : Bool
  threadId : Option JsString
  phase : Phase

/-- The dots. -/
def dots (selfName : JsString) (awaiting : Bool) : List Entry :=
  if awaiting then [⟨selfName, .assistant, .typing⟩] else []

namespace Transcript

/-- What is seen of a transcript. -/
def shown (transcript : Transcript) : List Entry :=
  transcript.voices.map Voice.entry ++ dots transcript.selfName transcript.awaiting

/-- Some bubble has such a role. -/
def Hears (voices : List Voice) (role : Role → Prop) : Prop :=
  ∃ voice ∈ voices, role voice.role

/-- The role of the assistant's bubble. -/
def IsAssistant : Role → Prop
  | .assistant _ => True
  | _ => False

/-- The role of the bubble of a delegated call. -/
def IsSub (taskId : JsString) : Role → Prop
  | .sub id _ => id = taskId
  | _ => False

instance : DecidablePred IsAssistant := fun role => by
  cases role <;> unfold IsAssistant <;> infer_instance

instance (taskId : JsString) : DecidablePred (IsSub taskId) := fun role => by
  cases role <;> unfold IsSub <;> infer_instance

instance (voices : List Voice) (role : Role → Prop) [DecidablePred role] :
    Decidable (Hears voices role) :=
  inferInstanceAs (Decidable (∃ voice ∈ voices, role voice.role))

/-- The bubble which an event opens. -/
def opens (selfName : JsString) (voices : List Voice) : Event → Option Voice
  | .runError message =>
      some ⟨⟨jsString "error", .error,
        .text (orDefault message (jsString "The agent failed to respond."))⟩, .settled⟩
  | .textMessage delta content =>
      match Event.delta delta content with
      | [] => none
      | delta =>
          if Hears voices IsAssistant then none
          else some ⟨⟨selfName, .assistant, .markdown delta⟩, .assistant delta⟩
  | .toolCallStart toolCallId toolCallName =>
      some ⟨Event.toolEntry toolCallName, .tool toolCallId⟩
  | .reasoningStart messageId =>
      some ⟨⟨jsString "thinking", .reasoning, .text (jsString "…")⟩, .reasoning messageId []⟩
  | .subAgentProgress subAgent statusTaskId artifactTaskId state parts =>
      let taskId := Event.taskId subAgent statusTaskId artifactTaskId
      if Event.ended state ∨ Hears voices (IsSub taskId) then none
      else
        match Event.textOf parts with
        | [] => some ⟨⟨Event.subAgentName subAgent, .sub, .text (jsString "…")⟩, .sub taskId none⟩
        | text =>
            some ⟨⟨Event.subAgentName subAgent, .sub, .markdown text⟩, .sub taskId (some text)⟩
  | _ => none

/-- The event takes the dots away. -/
def answers : Event → Bool
  | .textMessage delta content => !(Event.delta delta content).isEmpty
  | .runError _ | .toolCallStart _ _ | .reasoningStart _ | .runFinished
  | .subAgentProgress _ _ _ _ _ => true
  | _ => false

/-- Every bubble hears an event, which may open another one. -/
def hear (transcript : Transcript) (event : Event) : Transcript :=
  { transcript with
    voices := transcript.voices.map (Voice.follow event) ++
      (opens transcript.selfName transcript.voices event).toList
    awaiting := transcript.awaiting && !answers event
    threadId :=
      match event with
      | .runStarted (some (unit :: units)) => some (unit :: units)
      | _ => transcript.threadId }

/-- A bubble which listens to nothing, at the end and in place of the dots. -/
def say (transcript : Transcript) (entry : Entry) : Transcript :=
  { transcript with
    voices := transcript.voices ++ [⟨entry, .settled⟩]
    awaiting := false }

/-- A message settles what has been heard so far. -/
def submit (transcript : Transcript) (text : JsString) : Transcript :=
  { transcript with
    voices := transcript.voices.map Voice.settle ++
      [⟨⟨jsString "you", .user, .text text⟩, .settled⟩]
    awaiting := true
    phase :=
      match transcript.threadId with
      | none | some [] => .creating
      | some _ => .posting }

/-- The run of another message is under way. -/
def snapshot (transcript : Transcript) (threadId : Option JsString) : Transcript :=
  { transcript.say ⟨jsString "system", .system,
      .text (jsString "(already in flight — waiting for it to finish)")⟩ with
    threadId :=
      match threadId with
      | none | some [] => transcript.threadId
      | some threadId => some threadId
    phase := .idle }

/-- The message has failed. -/
def fail (transcript : Transcript) (message : JsString) : Transcript :=
  { transcript.say ⟨jsString "error", .error,
      .text (jsString "request failed: " ++ message)⟩ with phase := .idle }

/-- One step of a transcript. -/
def step (transcript : Transcript) : Action → Option Transcript
  | .submit text =>
      match transcript.phase with
      | .idle => some (transcript.submit text)
      | _ => none
  | .created threadId =>
      match transcript.phase with
      | .creating => some { transcript with threadId, phase := .posting }
      | _ => none
  | .streams =>
      match transcript.phase with
      | .posting => some { transcript with phase := .streaming }
      | _ => none
  | .snapshot threadId =>
      match transcript.phase with
      | .posting => some (transcript.snapshot threadId)
      | _ => none
  | .event event =>
      match transcript.phase with
      | .streaming => some (transcript.hear event)
      | _ => none
  | .done =>
      match transcript.phase with
      | .streaming => some { transcript with awaiting := false, phase := .idle }
      | _ => none
  | .fails message =>
      match transcript.phase with
      | .idle => none
      | _ => some (transcript.fail message)

/-- A transcript as a machine. -/
def machine : Machine Transcript Action where
  step := step

/-- The empty transcript. -/
def empty (selfName : JsString) : Transcript := ⟨selfName, [], false, none, .idle⟩

end Transcript

end Souk.Directory.AgentPage
