import Souk.Directory.Layout
import Souk.Library.Machine

/-!
# The chat of the directory

`agent.ts` keeps one log of bubbles and, beside it, four maps and two variables which say into which
bubble the next event of a kind is to be written.  An element of the log is named by its place; the
place of an element which has been removed stays empty.
-/

namespace Souk.Directory.AgentPage

/-- The class of an entry. -/
inductive EntryClass where
  | user
  | assistant
  | tool
  | reasoning
  | sub
  | error
  | system

/-- What a bubble holds. -/
inductive Bubble where
  /-- `textContent` -/
  | text (text : JsString)
  /-- What `renderMarkdown` makes of a text. -/
  | markdown (raw : JsString)
  /-- The three dots of a reply which is awaited. -/
  | typing

/-- An entry of the log. -/
structure Entry where
  tag : JsString
  cssClass : EntryClass
  bubble : Bubble

/-- A key of one of the page's maps: a field of an event, or `undefined`. -/
abbrev Key := Option JsString

/-- `value || default`, of strings. -/
def orDefault (value : Option JsString) (default : JsString) : JsString :=
  match value with
  | none | some [] => default
  | some text => text

/-- The events, with the fields that `handleAguiEvent` reads. -/
inductive Event where
  | runStarted (threadId : Option JsString)
  | runError (message : Option JsString)
  /-- `TEXT_MESSAGE_CONTENT` and `TEXT_MESSAGE_CHUNK` -/
  | textMessage (delta content : Option JsString)
  | toolCallStart (toolCallId : Key) (toolCallName : Option JsString)
  /-- The content is the string it is, or its JSON text. -/
  | toolCallResult (toolCallId : Key) (content : Option JsString)
  | reasoningStart (messageId : Key)
  | reasoningMessageContent (messageId : Key) (delta : Option JsString)
  | reasoningEncryptedValue (entityId : Key)
  | reasoningEnd (messageId : Key)
  | runFinished
  /-- `CUSTOM` under the name `sub_agent_progress`, with the texts of the artifact's parts. -/
  | subAgentProgress (subAgent statusTaskId artifactTaskId state : Option JsString)
      (parts : List (Option JsString))
  | other

namespace Event

/-- `event.delta || event.content || ""` -/
def delta : Option JsString → Option JsString → JsString
  | delta, content => orDefault delta (orDefault content [])

/-- The bubble of a tool's result. -/
def result (content : Option JsString) : Bubble :=
  .markdown (orDefault content (jsString "(no result)"))

/-- The entry of a call whose result is awaited. -/
def toolEntry (toolCallName : Option JsString) : Entry :=
  ⟨jsString "tool · " ++ orDefault toolCallName (jsString "?"), .tool, .text (jsString "…")⟩

/-- `value.sub_agent || "sub-agent"` -/
def subAgentName (subAgent : Option JsString) : JsString :=
  orDefault subAgent (jsString "sub-agent")

/-- `statusUpdate.taskId || artifactUpdate.taskId || subAgent` -/
def taskId (subAgent statusTaskId artifactTaskId : Option JsString) : JsString :=
  orDefault statusTaskId (orDefault artifactTaskId (subAgentName subAgent))

/-- The call is over. -/
def ended (state : Option JsString) : Bool :=
  state = some (jsString "TASK_STATE_COMPLETED") || state = some (jsString "TASK_STATE_FAILED")

/-- The texts of the parts which have one, one after the other. -/
def textOf (parts : List (Option JsString)) : JsString := parts.flatMap fun part => part.getD []

end Event

/-- The page. -/
structure Page where
  log : List (Option Entry)
  threadId : Option JsString
  selfName : JsString
  currentAssistantEl : Option Nat
  currentAssistantRaw : JsString
  typingEl : Option Nat
  subAgentEls : JsString → Option Nat
  subAgentRaw : JsString → Option JsString
  toolCallEls : Key → Option Nat
  reasoningEls : Key → Option (Nat × JsString)

namespace Page

/-- `appendEntry`, whose element is at the end of the log it is appended to. -/
def appendEntry (page : Page) (entry : Entry) : Page :=
  { page with log := page.log ++ [some entry] }

/-- A bubble is given other content. -/
def write (page : Page) (el : Nat) (bubble : Bubble) : Page :=
  { page with log := page.log.modify el (Option.map fun entry => { entry with bubble }) }

/-- `showTyping` -/
def showTyping (page : Page) : Page :=
  match page.typingEl with
  | some _ => page
  | none =>
      { page.appendEntry ⟨page.selfName, .assistant, .typing⟩ with typingEl := page.log.length }

/-- `clearTyping` -/
def clearTyping (page : Page) : Page :=
  match page.typingEl with
  | none => page
  | some el => { page with log := page.log.set el none, typingEl := none }

/-- `handleAguiEvent` -/
def handleAguiEvent (page : Page) : Event → Page
  | .runStarted threadId =>
      match threadId with
      | none | some [] => page
      | some threadId => { page with threadId := some threadId }
  | .runError message =>
      page.clearTyping.appendEntry ⟨jsString "error", .error,
        .text (orDefault message (jsString "The agent failed to respond."))⟩
  | .textMessage delta content =>
      match Event.delta delta content with
      | [] => page
      | delta =>
          let page := page.clearTyping
          match page.currentAssistantEl with
          | some el =>
              { page with currentAssistantRaw := page.currentAssistantRaw ++ delta }.write el
                (.markdown (page.currentAssistantRaw ++ delta))
          | none =>
              { page.appendEntry ⟨page.selfName, .assistant, .text []⟩ with
                currentAssistantEl := some page.log.length
                currentAssistantRaw := delta }.write page.log.length (.markdown delta)
  | .toolCallStart toolCallId toolCallName =>
      let page := page.clearTyping
      { page.appendEntry (Event.toolEntry toolCallName) with
        toolCallEls := Function.update page.toolCallEls toolCallId (some page.log.length) }
  | .toolCallResult toolCallId content =>
      match page.toolCallEls toolCallId with
      | none => page
      | some el =>
          { page with toolCallEls := Function.update page.toolCallEls toolCallId none }.write el
            (Event.result content)
  | .reasoningStart messageId =>
      let page := page.clearTyping
      { page.appendEntry ⟨jsString "thinking", .reasoning, .text (jsString "…")⟩ with
        reasoningEls := Function.update page.reasoningEls messageId (some (page.log.length, [])) }
  | .reasoningMessageContent messageId delta =>
      match page.reasoningEls messageId with
      | none => page
      | some (el, raw) =>
          let raw := raw ++ orDefault delta []
          { page with
            reasoningEls := Function.update page.reasoningEls messageId (some (el, raw)) }.write el
              (.markdown raw)
  | .reasoningEncryptedValue entityId =>
      match page.reasoningEls entityId with
      | some (el, []) => page.write el (.text (jsString "(reasoning hidden by the model)"))
      | _ => page
  | .reasoningEnd messageId =>
      { page with reasoningEls := Function.update page.reasoningEls messageId none }
  | .runFinished =>
      { page with
        currentAssistantEl := none
        currentAssistantRaw := []
        toolCallEls := fun _ => none
        reasoningEls := fun _ => none }.clearTyping
  | .subAgentProgress subAgent statusTaskId artifactTaskId state parts =>
      let page := page.clearTyping
      let name := Event.subAgentName subAgent
      let taskId := Event.taskId subAgent statusTaskId artifactTaskId
      if Event.ended state then
        { page with
          subAgentEls := Function.update page.subAgentEls taskId none
          subAgentRaw := Function.update page.subAgentRaw taskId none }
      else
        match Event.textOf parts, page.subAgentEls taskId with
        | [], none =>
            { page.appendEntry ⟨name, .sub, .text (jsString "…")⟩ with
              subAgentEls := Function.update page.subAgentEls taskId (some page.log.length) }
        | [], some _ => page
        | text, none =>
            { page.appendEntry ⟨name, .sub, .text []⟩ with
              subAgentEls := Function.update page.subAgentEls taskId (some page.log.length)
              subAgentRaw := Function.update page.subAgentRaw taskId (some text) }.write
                page.log.length (.markdown text)
        | text, some el =>
            let raw := (page.subAgentRaw taskId).getD [] ++ text
            { page with
              subAgentRaw := Function.update page.subAgentRaw taskId (some raw) }.write el
                (.markdown raw)
  | .other => page

end Page

/-! ## Messages -/

/-- Where `sendMessage` stands. -/
inductive Phase where
  /-- The form is enabled. -/
  | idle
  /-- Awaiting `POST /threads`. -/
  | creating
  /-- Awaiting the response of `POST /agui`. -/
  | posting
  /-- In `streamSse`. -/
  | streaming

/-- The page with its one message under way. -/
structure Chat where
  page : Page
  phase : Phase

/-- What can happen to a chat. -/
inductive Action where
  /-- The form is submitted with a text. -/
  | submit (text : JsString)
  /-- A thread has been created. -/
  | created (threadId : Option JsString)
  /-- The response is a stream. -/
  | streams
  /-- The response is the snapshot of a run under way. -/
  | snapshot (threadId : Option JsString)
  | event (event : Event)
  /-- The stream is over. -/
  | done
  /-- A request or the stream fails. -/
  | fails (message : JsString)

namespace Chat

/-- `sendMessage` up to its first await. -/
def submit (page : Page) (text : JsString) : Page :=
  { page.appendEntry ⟨jsString "you", .user, .text text⟩ with
    currentAssistantEl := none
    currentAssistantRaw := []
    subAgentEls := fun _ => none
    subAgentRaw := fun _ => none
    toolCallEls := fun _ => none
    reasoningEls := fun _ => none }.showTyping

/-- One step of the chat. -/
def step (chat : Chat) : Action → Option Chat
  | .submit text =>
      match chat.phase with
      | .idle =>
          some ⟨submit chat.page text,
            match chat.page.threadId with
            | none | some [] => .creating
            | some _ => .posting⟩
      | _ => none
  | .created threadId =>
      match chat.phase with
      | .creating => some ⟨{ chat.page with threadId }, .posting⟩
      | _ => none
  | .streams =>
      match chat.phase with
      | .posting => some { chat with phase := .streaming }
      | _ => none
  | .snapshot threadId =>
      match chat.phase with
      | .posting =>
          some ⟨{ chat.page with
            threadId := match threadId with
              | none | some [] => chat.page.threadId
              | some threadId => some threadId }.clearTyping.appendEntry
            ⟨jsString "system", .system,
              .text (jsString "(already in flight — waiting for it to finish)")⟩, .idle⟩
      | _ => none
  | .event event =>
      match chat.phase with
      | .streaming => some { chat with page := chat.page.handleAguiEvent event }
      | _ => none
  | .done =>
      match chat.phase with
      | .streaming => some ⟨chat.page.clearTyping, .idle⟩
      | _ => none
  | .fails message =>
      match chat.phase with
      | .idle => none
      | _ =>
          some ⟨chat.page.clearTyping.appendEntry
            ⟨jsString "error", .error, .text (jsString "request failed: " ++ message)⟩, .idle⟩

/-- A chat as a machine. -/
def machine : Machine Chat Action where
  step := step

/-- The page when it has been loaded. -/
def loaded (selfName : JsString) : Chat where
  page := ⟨[], none, selfName, none, [], none, fun _ => none, fun _ => none, fun _ => none,
    fun _ => none⟩
  phase := .idle

end Chat

end Souk.Directory.AgentPage
