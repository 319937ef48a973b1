import Souk.Server.WsKyok
import Souk.Server.WsProvider

/-!
# Bad frames

An iteration of either read loop completes unless an exception leaves it.  The file finds every
exception which can: two raised while the text is decoded, one by the lookup of the frame's type,
and those of core and of the contract's models in the branches which do not catch them.
-/

namespace Souk.Server

open Souk.Python

/-- The computation returns: no exception leaves it. -/
def Completes {α : Type} (action : Except Raised α) : Prop := ∃ value, action = .ok value

@[simp]
theorem completes_ok {α : Type} (value : α) : Completes (.ok value) := ⟨value, rfl⟩

@[simp]
theorem completes_pure {α : Type} (value : α) : Completes (pure value) := ⟨value, rfl⟩

@[simp]
theorem not_completes_error {α : Type} (raised : Raised) :
    ¬Completes (.error raised : Except Raised α) := nofun

@[simp]
theorem not_completes_throw {α : Type} (raised : Raised) :
    ¬Completes (throw raised : Except Raised α) := nofun

theorem completes_bind {α β : Type} {action : Except Raised α} {next : α → Except Raised β} :
    Completes (action >>= next) ↔ ∃ value, action = .ok value ∧ Completes (next value) := by
  constructor
  · rintro ⟨result, taken⟩
    obtain ⟨value, same, taken⟩ := bind_eq_ok.mp taken
    exact ⟨value, same, result, taken⟩
  · rintro ⟨value, same, result, taken⟩
    exact ⟨result, bind_eq_ok.mpr ⟨value, same, taken⟩⟩

/-- Decoding the text raises nothing but the `JSONDecodeError` which `parse_frame` catches: no
integer has too many digits and no containers are nested too deeply. -/
def Decodes (limits : Json.Limits) (text : Str) : Prop :=
  ∀ raised, Json.loads limits text = .error raised → raised = .jsonDecodeError

/-- The frame in a text, if there is one, has a hashable type and meets a further condition. -/
def FrameMeets (limits : Json.Limits) (text : Str) (condition : Dict → Prop) : Prop :=
  ∀ frame, Json.loads limits text = .ok (.dict frame) →
    (Dict.get frame "type").hashable = true ∧ condition frame

theorem parseFrame_bind_completes_iff {α : Type} {limits : Json.Limits} {text : Str}
    {next : Option Dict → Except Raised α} {condition : Dict → Prop}
    (unparseable : Completes (next none))
    (parsed : ∀ frame, Completes (next (some frame)) ↔
      (Dict.get frame "type").hashable = true ∧ condition frame) :
    Completes (parseFrame limits (.text text) >>= next) ↔
      Decodes limits text ∧ FrameMeets limits text condition := by
  rw [completes_bind]
  simp only [parseFrame, Decodes, FrameMeets]
  cases loaded : Json.loads limits text with
  | ok value =>
      simp only [reduceCtorEq, false_implies, implies_true, true_and, Except.ok.injEq,
        exists_eq_left']
      cases value with
      | dict fields => simpa only [Value.asDict?, Value.dict.injEq, forall_eq'] using parsed fields
      | null | bool | int | float | str | list =>
          simpa only [Value.asDict?, reduceCtorEq, false_implies, implies_true, iff_true]
            using unparseable
  | error raised =>
      cases raised with
      | jsonDecodeError => simpa using unparseable
      | typeError | valueError | keyError | attributeError | recursionError | overflowError
        | unicodeEncodeError | funduqError | runtimeError => simp

/-! ## The provider socket -/

namespace WsProvider

/-- No exception of core, or of the model of a refusal, leaves the branch of the frame. -/
structure Guarded (contract : Contract) (core : CoreReplies) (frame : Dict) : Prop where
  deleteAgent : Dict.get frame "type" = .str "deleteAgent" →
    ∀ name, (Dict.get frame "name").nonEmptyStr? = some name →
      ∀ message, core.deleteAgent name ≠ .error (.value message)
  ack : Dict.get frame "type" = .str "ack" →
    ∀ verdict reason, parseVerdict contract frame = .ok (verdict, reason) →
      ∃ answer, offerAnswer contract verdict reason = .ok answer ∧
        core.answerOffer (Dict.get frame "runId") answer = .ok ()
  event : Dict.get frame "type" = .str "event" →
    ∀ error, core.reportEvent (Dict.get frame "runId") (Dict.get frame "event") ≠ .error error
  finish : Dict.get frame "type" = .str "finish" →
    ∀ error, core.finishRun (Dict.get frame "runId") ≠ .error error

namespace ProviderSocket

variable {contract : Contract} {core : CoreReplies} {socket : ProviderSocket} {frame : Dict}

theorem onRegister_completes : Completes
    ((socket.onRegister contract frame).1.resume core (socket.onRegister contract frame).2) := by
  cases parsed : parseRegistration contract frame <;> simp [onRegister, parsed, resume]

theorem onDeleteAgent_completes_iff : Completes
    ((socket.onDeleteAgent frame).1.resume core (socket.onDeleteAgent frame).2) ↔
      ∀ name, (Dict.get frame "name").nonEmptyStr? = some name →
        ∀ message, core.deleteAgent name ≠ .error (.value message) := by
  cases named : (Dict.get frame "name").nonEmptyStr? with
  | none => simp [onDeleteAgent, named, resume]
  | some name =>
      simp only [onDeleteAgent, named, resume, Option.some.injEq, forall_eq']
      rcases core.deleteAgent name with (message | message) | answered <;> simp [onDeleted]

theorem onAck_completes_iff : Completes (socket.onAck contract core frame) ↔
    ∀ verdict reason, parseVerdict contract frame = .ok (verdict, reason) →
      ∃ answer, offerAnswer contract verdict reason = .ok answer ∧
        core.answerOffer (Dict.get frame "runId") answer = .ok () := by
  cases parsed : parseVerdict contract frame with
  | error message => simp [onAck, parsed]
  | ok pair =>
      obtain ⟨verdict, reason⟩ := pair
      simp only [onAck, parsed, completes_bind, Except.ok.injEq, Prod.mk.injEq, and_imp,
        forall_apply_eq_imp_iff, forall_eq']
      refine exists_congr fun answer => and_congr_right fun _ => ?_
      cases core.answerOffer (Dict.get frame "runId") answer <;> simp

theorem onReport_completes_iff {refusal : String} {reply : Except CoreError Bool} :
    Completes (socket.onReport frame refusal reply) ↔ ∀ error, reply ≠ .error error := by
  rcases reply with error | (_ | _) <;> simp [onReport]

theorem guarded_iff_of_type {kind : Str} (typed : Dict.get frame "type" = .str kind) :
    Guarded contract core frame ↔
      (kind = str "deleteAgent" → ∀ name, (Dict.get frame "name").nonEmptyStr? = some name →
        ∀ message, core.deleteAgent name ≠ .error (.value message)) ∧
      (kind = str "ack" → ∀ verdict reason, parseVerdict contract frame = .ok (verdict, reason) →
        ∃ answer, offerAnswer contract verdict reason = .ok answer ∧
          core.answerOffer (Dict.get frame "runId") answer = .ok ()) ∧
      (kind = str "event" → ∀ error,
        core.reportEvent (Dict.get frame "runId") (Dict.get frame "event") ≠ .error error) ∧
      (kind = str "finish" → ∀ error,
        core.finishRun (Dict.get frame "runId") ≠ .error error) := by
  constructor
  · rintro ⟨deleteAgent, ack, event, finish⟩
    simp only [typed, Value.str.injEq] at deleteAgent ack event finish
    exact ⟨deleteAgent, ack, event, finish⟩
  · rintro ⟨deleteAgent, ack, event, finish⟩
    constructor <;> simpa only [typed, Value.str.injEq]

/-- A branch which awaits nothing. -/
@[simp]
theorem completes_resume_none_iff {branch : Except Raised ProviderSocket} :
    Completes (branch >>= fun next => next.resume core none) ↔ Completes branch := by
  cases branch with
  | ok next => simp [completes_bind, resume]
  | error raised => simp [completes_bind]

theorem dispatch_completes_iff :
    Completes (socket.dispatch contract core frame >>= fun received =>
        received.1.resume core received.2) ↔
      (Dict.get frame "type").hashable = true ∧ Guarded contract core frame := by
  cases typed : Dict.get frame "type" with
  | list | dict =>
      have unhashable := socket.dispatch_not_str contract core frame (by simp [typed])
      simp [unhashable, typed, completes_bind, Value.hashable]
  | null | bool | int | float =>
      have unguarded : Guarded contract core frame := by
        constructor <;> simp [typed]
      have refused := socket.dispatch_not_str contract core frame (by simp [typed])
      simp [refused, typed, completes_bind, Value.hashable, unguarded, resume]
  | str kind =>
      have hashable : (Value.str kind).hashable = true := rfl
      rw [dispatch_str contract core socket typed, guarded_iff_of_type typed, hashable]
      simp only [true_and]
      by_cases isRegister : kind = str "register"
      · subst isRegister
        simpa [inboundFrameTypes, completes_bind] using onRegister_completes
      by_cases isDelete : kind = str "deleteAgent"
      · subst isDelete
        simpa [inboundFrameTypes, completes_bind] using onDeleteAgent_completes_iff
      by_cases isAck : kind = str "ack"
      · subst isAck
        simpa [inboundFrameTypes] using onAck_completes_iff
      by_cases isEvent : kind = str "event"
      · subst isEvent
        simpa [inboundFrameTypes] using onReport_completes_iff
      by_cases isFinish : kind = str "finish"
      · subst isFinish
        simpa [inboundFrameTypes] using onReport_completes_iff
      by_cases isKnown : kind ∈ inboundFrameTypes
      · simp [isKnown, isRegister, isDelete, isAck, isEvent, isFinish, completes_bind, resume]
      · simp [isKnown, isDelete, isAck, isEvent, isFinish, completes_bind, resume]

/-- An iteration parses first: the rest of it is a function of the frame alone. -/
theorem iteration_eq_bind {limits : Json.Limits} {text : Str} :
    socket.iteration contract limits core (.text text) =
      parseFrame limits (.text text) >>= fun parsed =>
        match parsed with
        | none => (socket.refuse { format := "unparseable frame" }).resume core none
        | some frame => socket.dispatch contract core frame >>= fun received =>
            received.1.resume core received.2 := by
  rw [iteration, receive, bind_assoc]
  congr 1
  funext parsed
  cases parsed <;> rfl

theorem iteration_completes_iff {limits : Json.Limits} {text : Str} :
    Completes (socket.iteration contract limits core (.text text)) ↔
      Decodes limits text ∧ FrameMeets limits text (Guarded contract core) := by
  rw [iteration_eq_bind]
  exact parseFrame_bind_completes_iff (by simp [resume]) fun frame => dispatch_completes_iff

end ProviderSocket
end WsProvider

/-! ## The LLM provider socket -/

namespace WsKyok

/-- No exception of core leaves the branch of the frame. -/
def Guarded (core : CoreReplies) (frame : Dict) : Prop :=
  Dict.get frame "type" = .str "deleteModel" →
    ∀ name, (Dict.get frame "name").nonEmptyStr? = some name →
      ∀ message, core.deleteLlmOffering name ≠ .error (.value message)

namespace Connection

variable {Chunk : Type} {core : CoreReplies} {connection : Connection Chunk} {frame : Dict}

theorem onDeleteModel_completes_iff : Completes (connection.onDeleteModel core frame) ↔
    ∀ name, (Dict.get frame "name").nonEmptyStr? = some name →
      ∀ message, core.deleteLlmOffering name ≠ .error (.value message) := by
  cases named : (Dict.get frame "name").nonEmptyStr? with
  | none => simp [onDeleteModel, named]
  | some name =>
      simp only [onDeleteModel, named, Option.some.injEq, forall_eq']
      rcases core.deleteLlmOffering name with (message | message) | answered <;> simp

theorem dispatch_completes_iff : Completes (connection.dispatch core frame) ↔
    (Dict.get frame "type").hashable = true ∧ Guarded core frame := by
  cases typed : Dict.get frame "type" with
  | list | dict =>
      have unhashable : connection.dispatch core frame = .error .typeError := by
        rw [dispatch, typed]
        rfl
      simp [unhashable, Value.hashable]
  | null | bool | int | float =>
      have refused : connection.dispatch core frame = .ok (connection.send
          (.error [] { format := "unknown frame type %r"
                       values := [Dict.get frame "type"] })) := by
        rw [dispatch, typed]
        rfl
      simp [refused, Value.hashable, Guarded, typed]
  | str kind =>
      have hashable : (Value.str kind).hashable = true := rfl
      have dispatched : connection.dispatch core frame =
          if kind ∉ inboundFrameTypes then .ok (connection.send
            (.error [] { format := "unknown frame type %r", values := [.str kind] }))
          else if kind = str "register" then .ok (connection.onRegister core frame)
          else if kind = str "deleteModel" then connection.onDeleteModel core frame
          else .ok (connection.onAnswer kind frame) := by
        rw [dispatch, typed]
        by_cases known : kind ∈ inboundFrameTypes <;>
          simp only [notInSet, Value.hashable, Value.asStr?, known, not_true_eq_false,
            not_false_eq_true, decide_false, decide_true] <;> rfl
      rw [dispatched, Guarded, typed, hashable]
      by_cases isRegister : kind = str "register"
      · subst isRegister
        simp [inboundFrameTypes]
      by_cases isDelete : kind = str "deleteModel"
      · subst isDelete
        simpa [inboundFrameTypes] using onDeleteModel_completes_iff
      by_cases isKnown : kind ∈ inboundFrameTypes
      · simp [isKnown, isRegister, isDelete]
      · simp [isKnown, isDelete]

/-- An iteration parses first, like the provider socket's. -/
theorem iteration_eq_bind {limits : Json.Limits} {text : Str} :
    connection.iteration limits core (.text text) =
      parseFrame limits (.text text) >>= fun parsed =>
        match parsed with
        | none => .ok (connection.send (.error [] { format := "unparseable frame" }))
        | some frame => connection.dispatch core frame := by
  rw [iteration]
  rfl

theorem iteration_completes_iff {limits : Json.Limits} {text : Str} :
    Completes (connection.iteration limits core (.text text)) ↔
      Decodes limits text ∧ FrameMeets limits text (Guarded core) := by
  rw [iteration_eq_bind]
  exact parseFrame_bind_completes_iff (by simp) fun frame => dispatch_completes_iff

end Connection
end WsKyok

/-! ## Both loops -/

/-- An iteration of either read loop on a text message completes exactly when the text decodes
without an integer too long or a nesting too deep, and its frame, if it is one, has a hashable type
and meets no uncaught exception in its branch. -/
theorem bad_frame_answered_iff {Chunk : Type} (limits : Json.Limits) (text : Str) :
    (∀ (contract : WsProvider.Contract) (core : WsProvider.CoreReplies)
        (socket : WsProvider.ProviderSocket),
      (∃ next, socket.iteration contract limits core (.text text) = .ok next) ↔
        Decodes limits text ∧ FrameMeets limits text (WsProvider.Guarded contract core)) ∧
    ∀ (core : WsKyok.CoreReplies) (connection : WsKyok.Connection Chunk),
      (∃ next, connection.iteration limits core (.text text) = .ok next) ↔
        Decodes limits text ∧ FrameMeets limits text (WsKyok.Guarded core) :=
  ⟨fun _ _ _ => WsProvider.ProviderSocket.iteration_completes_iff,
    fun _ _ => WsKyok.Connection.iteration_completes_iff⟩

/-- The frame `{"type": []}`. -/
def unhashableType : Str := "\x7b\"type\": []\x7d"

/-- It ends both read loops, whatever core does. -/
theorem unhashable_type_ends_loops :
    (∀ contract core socket, WsProvider.ProviderSocket.iteration contract Json.defaultLimits core
        socket (.text unhashableType) = .error .typeError) ∧
      ∀ core (connection : WsKyok.Connection Dict),
        connection.iteration Json.defaultLimits core (.text unhashableType) =
          .error .typeError := by
  have parsed : parseFrame Json.defaultLimits (.text unhashableType) =
      .ok (some [(str "type", .list [])]) := rfl
  constructor
  · intro contract core socket
    rw [WsProvider.ProviderSocket.iteration, WsProvider.ProviderSocket.receive, parsed]
    rfl
  · intro core connection
    rw [WsKyok.Connection.iteration, parsed]
    rfl

end Souk.Server
