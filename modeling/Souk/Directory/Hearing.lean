import Souk.Directory.Drawing

/-!
# What the page makes of each event

For every event of the stream the page ends up drawing what its transcript is when its bubbles have
heard the event.
-/

namespace Souk.Directory.AgentPage

namespace Drawn

variable {page : Page} {slots : List (Option Voice)} {awaiting : Bool}

theorem heard_runStarted (drawn : Drawn page slots awaiting) (threadId : Option JsString) :
    Heard page (page.handleAguiEvent (.runStarted threadId)) slots awaiting
      (.runStarted threadId) := by
  have stays : ∀ place role, Points page place role →
      role.next (.runStarted threadId) = role ∧ role.writes (.runStarted threadId) = none :=
    fun _ role _ => by cases role <;> exact ⟨rfl, rfl⟩
  have opens : Transcript.opens page.selfName slots.reduceOption (.runStarted threadId) = none := rfl
  rcases threadId with _ | _ | ⟨unit, units⟩
  · exact drawn.heard_same opens (.inr ⟨rfl, rfl⟩) (List.append_nil _).symm rfl rfl
      (fun _ _ => Iff.rfl) stays (by simp) drawn.raws
  · exact drawn.heard_same opens (.inr ⟨rfl, rfl⟩) (List.append_nil _).symm rfl rfl
      (fun _ _ => Iff.rfl) stays (by simp) drawn.raws
  · exact drawn.heard_same opens (.inr ⟨rfl, rfl⟩) (List.append_nil _).symm rfl rfl
      (fun _ role => by cases role <;> exact Iff.rfl) stays (by simp) drawn.raws

theorem heard_runError (clear : Drawn page slots false) (cleared : page.clearTyping = page)
    (message : Option JsString) :
    Heard page (page.handleAguiEvent (.runError message)) slots false (.runError message) := by
  simp only [Page.handleAguiEvent, cleared]
  refine clear.heard_same rfl (.inl rfl) rfl rfl rfl ?_ ?_ ?_ clear.raws
  · exact fun _ role => by cases role <;> exact Iff.rfl
  · exact fun _ role _ => by cases role <;> exact ⟨rfl, rfl⟩
  · rintro voice ⟨⟩
    rfl

/-! ## The assistant -/

/-- There is a bubble of the assistant precisely when the page has one. -/
theorem hears_assistant (drawn : Drawn page slots awaiting) :
    Transcript.Hears slots.reduceOption Transcript.IsAssistant ↔
      page.currentAssistantEl.isSome := by
  rw [hears_iff, Option.isSome_iff_exists]
  constructor
  · rintro ⟨place, role, listens, wanted⟩
    cases role with
    | assistant raw => exact ⟨place, ((drawn.points place _ (by simp)).mp listens).1⟩
    | _ => exact wanted.elim
  · rintro ⟨place, current⟩
    refine ⟨place, .assistant page.currentAssistantRaw, ?_, trivial⟩
    exact (drawn.points place _ (by simp)).mpr ⟨current, rfl⟩

theorem heard_textMessage_nil (drawn : Drawn page slots awaiting) {delta content : Option JsString}
    (text : Event.delta delta content = []) :
    Heard page (page.handleAguiEvent (.textMessage delta content)) slots awaiting
      (.textMessage delta content) := by
  have opens : Transcript.opens page.selfName slots.reduceOption (.textMessage delta content) =
      none := by
    simp only [Transcript.opens, text]
  have unanswered : Transcript.answers (.textMessage delta content) = false := by
    simp [Transcript.answers, text]
  simp only [Page.handleAguiEvent, text]
  refine drawn.heard_same opens (.inr ⟨rfl, unanswered⟩) (List.append_nil _).symm rfl rfl
    (fun _ _ => Iff.rfl) ?_ (by simp) drawn.raws
  intro _ role _
  cases role <;> simp [Role.next, Role.writes, text]

theorem heard_textMessage_cons (clear : Drawn page slots false) (cleared : page.clearTyping = page)
    {delta content : Option JsString} {unit : UInt16} {units : JsString}
    (text : Event.delta delta content = unit :: units) :
    Heard page (page.handleAguiEvent (.textMessage delta content)) slots false
      (.textMessage delta content) := by
  have hears := clear.hears_assistant
  simp only [Page.handleAguiEvent, text, cleared]
  cases current : page.currentAssistantEl with
  | none =>
      have opens : Transcript.opens page.selfName slots.reduceOption (.textMessage delta content) =
          some ⟨⟨page.selfName, .assistant, .markdown (unit :: units)⟩,
            .assistant (unit :: units)⟩ := by
        simp [Transcript.opens, text, hears, current]
      refine clear.turned opens (.inl rfl) (clear.unwritten ?_ ?_) rfl rfl ⟨?_, ?_, ?_, ?_⟩
        clear.raws
      · intro place role points
        cases role with
        | assistant raw => simp [Points, current] at points
        | _ => rfl
      · simp [Page.write, Page.appendEntry, modify_concat]
      · simp [Points, Page.write, Page.appendEntry, current, eq_comm]
      · simp [Points, Page.write, Page.appendEntry, Role.next]
      · simp [Points, Page.write, Page.appendEntry, Role.next]
      · simp [Points, Page.write, Page.appendEntry, Role.next]
  | some el =>
      have opens : Transcript.opens page.selfName slots.reduceOption (.textMessage delta content) =
          none := by
        simp [Transcript.opens, text, hears, current]
      refine clear.turned opens (.inl rfl) ?_ rfl rfl ⟨?_, ?_, ?_, ?_⟩ clear.raws
      · rw [Option.toList_none, List.map_nil, List.append_nil]
        have pointed : Points page el (.assistant page.currentAssistantRaw) := ⟨current, rfl⟩
        refine clear.written pointed ?_ ?_
        · simp [Role.writes, text]
        · intro place other points different
          cases other with
          | assistant raw => exact absurd (congrArg _ points.2.symm) different
          | _ => rfl
      · simp [Points, Page.write, Role.next, text, current]
      · simp [Points, Page.write, Role.next]
      · simp [Points, Page.write, Role.next]
      · simp [Points, Page.write, Role.next]

/-! ## Tools -/

theorem heard_toolCallStart (clear : Drawn page slots false) (cleared : page.clearTyping = page)
    (toolCallId : Key) (toolCallName : Option JsString) :
    Heard page (page.handleAguiEvent (.toolCallStart toolCallId toolCallName)) slots false
      (.toolCallStart toolCallId toolCallName) := by
  have opens : Transcript.opens page.selfName slots.reduceOption
      (.toolCallStart toolCallId toolCallName) =
      some ⟨Event.toolEntry toolCallName, .tool toolCallId⟩ := rfl
  simp only [Page.handleAguiEvent, cleared]
  refine clear.turned opens (.inl rfl) (clear.unwritten ?_ rfl) rfl rfl ⟨?_, ?_, ?_, ?_⟩ clear.raws
  · exact fun _ role _ => by cases role <;> rfl
  · simp [Points, Page.appendEntry, Role.next]
  · intro place id
    simp only [Points, opens_some, Role.next, Function.update_apply]
    grind
  · simp [Points, Page.appendEntry, Role.next]
  · simp [Points, Page.appendEntry, Role.next]

theorem heard_toolCallResult (drawn : Drawn page slots awaiting) (toolCallId : Key)
    (content : Option JsString) :
    Heard page (page.handleAguiEvent (.toolCallResult toolCallId content)) slots awaiting
      (.toolCallResult toolCallId content) := by
  have opens : Transcript.opens page.selfName slots.reduceOption
      (.toolCallResult toolCallId content) = none := rfl
  cases call : page.toolCallEls toolCallId with
  | none =>
      simp only [Page.handleAguiEvent, call]
      refine drawn.heard_same opens (.inr ⟨rfl, rfl⟩) (List.append_nil _).symm rfl rfl
        (fun _ _ => Iff.rfl) ?_ (by simp) drawn.raws
      intro place role points
      cases role with
      | tool id =>
          have other : id ≠ toolCallId := by
            rintro rfl
            cases call.symm.trans points
          exact ⟨if_neg other, if_neg other⟩
      | _ => exact ⟨rfl, rfl⟩
  | some el =>
      simp only [Page.handleAguiEvent, call]
      refine drawn.turned opens (.inr ⟨rfl, rfl⟩) ?_ rfl rfl ⟨?_, ?_, ?_, ?_⟩ drawn.raws
      · rw [Option.toList_none, List.map_nil, List.append_nil]
        have pointed : Points page el (.tool toolCallId) := call
        refine drawn.written pointed (if_pos rfl) ?_
        intro place other points different
        cases other with
        | tool id => exact if_neg fun same => different (congrArg _ same)
        | _ => rfl
      · simp [Points, Page.write, Role.next]
      · intro place id
        simp only [Points, opens_none, Page.write, Role.next, Function.update_apply]
        grind
      · simp [Points, Page.write, Role.next]
      · simp [Points, Page.write, Role.next]

/-! ## Reasoning -/

theorem heard_reasoningStart (clear : Drawn page slots false) (cleared : page.clearTyping = page)
    (messageId : Key) :
    Heard page (page.handleAguiEvent (.reasoningStart messageId)) slots false
      (.reasoningStart messageId) := by
  have opens : Transcript.opens page.selfName slots.reduceOption (.reasoningStart messageId) =
      some ⟨⟨jsString "thinking", .reasoning, .text (jsString "…")⟩, .reasoning messageId []⟩ := rfl
  simp only [Page.handleAguiEvent, cleared]
  refine clear.turned opens (.inl rfl) (clear.unwritten ?_ rfl) rfl rfl ⟨?_, ?_, ?_, ?_⟩ clear.raws
  · exact fun _ role _ => by cases role <;> rfl
  · simp [Points, Page.appendEntry, Role.next]
  · simp [Points, Page.appendEntry, Role.next]
  · intro place id raw
    simp only [Points, opens_some, Role.next, Function.update_apply]
    grind
  · simp [Points, Page.appendEntry, Role.next]

theorem heard_reasoningMessageContent (drawn : Drawn page slots awaiting) (messageId : Key)
    (delta : Option JsString) :
    Heard page (page.handleAguiEvent (.reasoningMessageContent messageId delta)) slots awaiting
      (.reasoningMessageContent messageId delta) := by
  have opens : Transcript.opens page.selfName slots.reduceOption
      (.reasoningMessageContent messageId delta) = none := rfl
  cases thought : page.reasoningEls messageId with
  | none =>
      simp only [Page.handleAguiEvent, thought]
      refine drawn.heard_same opens (.inr ⟨rfl, rfl⟩) (List.append_nil _).symm rfl rfl
        (fun _ _ => Iff.rfl) ?_ (by simp) drawn.raws
      intro place role points
      cases role with
      | reasoning id raw =>
          have other : id ≠ messageId := by
            rintro rfl
            cases thought.symm.trans points
          exact ⟨if_neg other, if_neg other⟩
      | _ => exact ⟨rfl, rfl⟩
  | some known =>
      obtain ⟨el, raw⟩ := known
      simp only [Page.handleAguiEvent, thought]
      refine drawn.turned opens (.inr ⟨rfl, rfl⟩) ?_ rfl rfl ⟨?_, ?_, ?_, ?_⟩ drawn.raws
      · rw [Option.toList_none, List.map_nil, List.append_nil]
        have pointed : Points page el (.reasoning messageId raw) := thought
        refine drawn.written pointed (if_pos rfl) ?_
        intro place other points different
        cases other with
        | reasoning id held =>
            refine if_neg fun same => different ?_
            subst same
            exact congrArg _ (Prod.mk.inj (Option.some.inj (points.symm.trans thought))).2
        | _ => rfl
      · simp [Points, Page.write, Role.next]
      · simp [Points, Page.write, Role.next]
      · intro place id after
        simp only [Points, opens_none, Page.write, Role.next, Function.update_apply]
        grind
      · simp [Points, Page.write, Role.next]

theorem heard_reasoningEncryptedValue (drawn : Drawn page slots awaiting) (entityId : Key) :
    Heard page (page.handleAguiEvent (.reasoningEncryptedValue entityId)) slots awaiting
      (.reasoningEncryptedValue entityId) := by
  have opens : Transcript.opens page.selfName slots.reduceOption
      (.reasoningEncryptedValue entityId) = none := rfl
  have stays : ∀ role : Role, role.next (.reasoningEncryptedValue entityId) = role :=
    fun role => by cases role <;> rfl
  by_cases hidden : ∃ el, page.reasoningEls entityId = some (el, [])
  · obtain ⟨el, thought⟩ := hidden
    simp only [Page.handleAguiEvent, thought]
    refine drawn.turned opens (.inr ⟨rfl, rfl⟩) ?_ rfl rfl ⟨?_, ?_, ?_, ?_⟩ drawn.raws
    · rw [Option.toList_none, List.map_nil, List.append_nil]
      have pointed : Points page el (.reasoning entityId []) := thought
      refine drawn.written pointed (if_pos rfl) ?_
      intro place other points different
      cases other with
      | reasoning id held =>
          cases held with
          | nil => exact if_neg fun same => different (congrArg (Role.reasoning · []) same)
          | cons _ _ => rfl
      | _ => rfl
    · simp [stays, Points, Page.write]
    · simp [stays, Points, Page.write]
    · simp [stays, Points, Page.write]
    · simp [stays, Points, Page.write]
  · have same : page.handleAguiEvent (.reasoningEncryptedValue entityId) = page := by
      cases thought : page.reasoningEls entityId with
      | none => simp only [Page.handleAguiEvent, thought]
      | some known =>
          obtain ⟨el, _ | ⟨unit, units⟩⟩ := known
          · exact absurd ⟨el, thought⟩ hidden
          · simp only [Page.handleAguiEvent, thought]
    rw [same]
    refine drawn.heard_same opens (.inr ⟨rfl, rfl⟩) (List.append_nil _).symm rfl rfl
      (fun _ _ => Iff.rfl) (fun place role points => ⟨stays role, ?_⟩)
      (by simp) drawn.raws
    cases role with
    | reasoning id raw =>
        cases raw with
        | nil =>
            refine if_neg fun same => hidden ⟨place, ?_⟩
            rw [← same]
            exact points
        | cons _ _ => rfl
    | _ => rfl

theorem heard_reasoningEnd (drawn : Drawn page slots awaiting) (messageId : Key) :
    Heard page (page.handleAguiEvent (.reasoningEnd messageId)) slots awaiting
      (.reasoningEnd messageId) := by
  have opens : Transcript.opens page.selfName slots.reduceOption (.reasoningEnd messageId) = none :=
    rfl
  refine drawn.turned opens (.inr ⟨rfl, rfl⟩) (drawn.unwritten ?_ (List.append_nil _).symm) rfl rfl
    ⟨?_, ?_, ?_, ?_⟩ drawn.raws
  · exact fun _ role _ => by cases role <;> rfl
  · simp [Points, Page.handleAguiEvent, Role.next]
  · simp [Points, Page.handleAguiEvent, Role.next]
  · intro place id raw
    simp only [Points, opens_none, Page.handleAguiEvent, Role.next, Function.update_apply]
    grind
  · simp [Points, Page.handleAguiEvent, Role.next]

theorem heard_runFinished (clear : Drawn page slots false) :
    Heard page (page.handleAguiEvent .runFinished) slots false .runFinished := by
  have opens : Transcript.opens page.selfName slots.reduceOption .runFinished = none := rfl
  have typing : page.typingEl = none := by simpa using clear.typing
  simp only [Page.handleAguiEvent]
  rw [Page.clearTyping_of_none (by exact typing)]
  refine clear.turned opens (.inl rfl) (clear.unwritten ?_ (List.append_nil _).symm) rfl rfl
    ⟨?_, ?_, ?_, ?_⟩ clear.raws
  · exact fun _ role _ => by cases role <;> rfl
  · simp [Points, Role.next]
  · simp [Points, Role.next]
  · simp [Points, Role.next]
  · simp [Points, Role.next]

/-! ## Delegated calls -/

/-- There is a bubble of a delegated call precisely when the page has one for its task. -/
theorem hears_sub (drawn : Drawn page slots awaiting) (taskId : JsString) :
    Transcript.Hears slots.reduceOption (Transcript.IsSub taskId) ↔
      (page.subAgentEls taskId).isSome := by
  rw [hears_iff, Option.isSome_iff_exists]
  constructor
  · rintro ⟨place, role, listens, wanted⟩
    cases role with
    | sub id raw =>
        obtain rfl : id = taskId := wanted
        exact ⟨place, ((drawn.points place _ (by simp)).mp listens).1⟩
    | _ => exact wanted.elim
  · rintro ⟨place, current⟩
    refine ⟨place, .sub taskId (page.subAgentRaw taskId), ?_, rfl⟩
    exact (drawn.points place _ (by simp)).mpr ⟨current, rfl⟩

section SubAgent

variable {subAgent statusTaskId artifactTaskId state : Option JsString}
  {parts : List (Option JsString)} {taskId : JsString}

theorem heard_subAgentProgress_ended (clear : Drawn page slots false)
    (cleared : page.clearTyping = page) (ended : Event.ended state = true) :
    Heard page
      (page.handleAguiEvent (.subAgentProgress subAgent statusTaskId artifactTaskId state parts))
      slots false (.subAgentProgress subAgent statusTaskId artifactTaskId state parts) := by
  have opens : Transcript.opens page.selfName slots.reduceOption
      (.subAgentProgress subAgent statusTaskId artifactTaskId state parts) = none := by
    simp [Transcript.opens, ended]
  simp only [Page.handleAguiEvent, cleared, if_pos ended]
  refine clear.turned opens (.inl rfl) (clear.unwritten ?_ (List.append_nil _).symm) rfl rfl
    ⟨?_, ?_, ?_, ?_⟩ ?_
  · intro _ role _
    cases role <;> simp [Role.writes, ended]
  · simp [Points, Role.next]
  · simp [Points, Role.next]
  · simp [Points, Role.next]
  · intro place id raw
    simp only [Points, opens_none, Role.next, ended, Function.update_apply]
    grind
  · intro id
    have raws := clear.raws id
    simp only [Function.update_apply]
    grind

/-- A delegated call with no bubble yet. -/
theorem heard_subAgentProgress_none (clear : Drawn page slots false)
    (cleared : page.clearTyping = page) (running : ¬Event.ended state = true)
    (called : page.subAgentEls (Event.taskId subAgent statusTaskId artifactTaskId) = none) :
    Heard page
      (page.handleAguiEvent (.subAgentProgress subAgent statusTaskId artifactTaskId state parts))
      slots false (.subAgentProgress subAgent statusTaskId artifactTaskId state parts) := by
  have hears := clear.hears_sub (Event.taskId subAgent statusTaskId artifactTaskId)
  have raw_none := clear.raws _ called
  simp only [Page.handleAguiEvent, cleared, if_neg running]
  cases text : Event.textOf parts with
  | nil =>
      have opens : Transcript.opens page.selfName slots.reduceOption
          (.subAgentProgress subAgent statusTaskId artifactTaskId state parts) =
          some ⟨⟨Event.subAgentName subAgent, .sub, .text (jsString "…")⟩,
            .sub (Event.taskId subAgent statusTaskId artifactTaskId) none⟩ := by
        simp [Transcript.opens, running, text, hears, called]
      simp only [called]
      refine clear.turned opens (.inl rfl) (clear.unwritten ?_ rfl) rfl rfl ⟨?_, ?_, ?_, ?_⟩ ?_
      · intro _ role _
        cases role <;> simp [Role.writes, running, text]
      · simp [Points, Page.appendEntry, Role.next]
      · simp [Points, Page.appendEntry, Role.next]
      · simp [Points, Page.appendEntry, Role.next]
      · intro place id raw
        simp only [Points, opens_some, Page.appendEntry, Role.next, running, text, Function.update_apply]
        grind
      · intro id
        have raws := clear.raws id
        simp only [Page.appendEntry, Function.update_apply]
        grind
  | cons unit units =>
      have opens : Transcript.opens page.selfName slots.reduceOption
          (.subAgentProgress subAgent statusTaskId artifactTaskId state parts) =
          some ⟨⟨Event.subAgentName subAgent, .sub, .markdown (unit :: units)⟩,
            .sub (Event.taskId subAgent statusTaskId artifactTaskId) (some (unit :: units))⟩ := by
        simp [Transcript.opens, running, text, hears, called]
      simp only [called]
      refine clear.turned opens (.inl rfl) (clear.unwritten ?_ ?_) rfl rfl ⟨?_, ?_, ?_, ?_⟩ ?_
      · intro place role points
        cases role with
        | sub id raw =>
            have other : id ≠ Event.taskId subAgent statusTaskId artifactTaskId := by
              rintro rfl
              cases called.symm.trans points.1
            exact if_neg other
        | _ => rfl
      · simp [Page.write, Page.appendEntry, modify_concat]
      · simp [Points, Page.write, Page.appendEntry, Role.next]
      · simp [Points, Page.write, Page.appendEntry, Role.next]
      · simp [Points, Page.write, Page.appendEntry, Role.next]
      · intro place id raw
        simp only [Points, opens_some, Page.write, Page.appendEntry, Role.next, running, text,
          Function.update_apply]
        grind
      · intro id
        have raws := clear.raws id
        simp only [Page.write, Page.appendEntry, Function.update_apply]
        grind

/-- A delegated call with a bubble. -/
theorem heard_subAgentProgress_some (clear : Drawn page slots false)
    (cleared : page.clearTyping = page) (running : ¬Event.ended state = true) {el : Nat}
    (called : page.subAgentEls (Event.taskId subAgent statusTaskId artifactTaskId) = some el) :
    Heard page
      (page.handleAguiEvent (.subAgentProgress subAgent statusTaskId artifactTaskId state parts))
      slots false (.subAgentProgress subAgent statusTaskId artifactTaskId state parts) := by
  have hears := clear.hears_sub (Event.taskId subAgent statusTaskId artifactTaskId)
  have opens : Transcript.opens page.selfName slots.reduceOption
      (.subAgentProgress subAgent statusTaskId artifactTaskId state parts) = none := by
    simp [Transcript.opens, hears, called]
  simp only [Page.handleAguiEvent, cleared, if_neg running]
  cases text : Event.textOf parts with
  | nil =>
      simp only [called]
      refine clear.heard_same opens (.inl rfl) (List.append_nil _).symm rfl rfl
        (fun _ _ => Iff.rfl) ?_ (by simp) clear.raws
      intro _ role _
      cases role <;> simp [Role.next, Role.writes, running, text]
  | cons unit units =>
      simp only [called]
      refine clear.turned opens (.inl rfl) ?_ rfl rfl ⟨?_, ?_, ?_, ?_⟩ ?_
      · rw [Option.toList_none, List.map_nil, List.append_nil]
        have pointed : Points page el (.sub (Event.taskId subAgent statusTaskId artifactTaskId)
            (page.subAgentRaw (Event.taskId subAgent statusTaskId artifactTaskId))) :=
          ⟨called, rfl⟩
        refine clear.written pointed ?_ ?_
        · simp [Role.writes, running, text]
        · intro place other points different
          cases other with
          | sub id raw =>
              refine if_neg fun same => different ?_
              obtain ⟨-, rfl⟩ := points
              rw [same]
          | _ => rfl
      · simp [Points, Page.write, Role.next]
      · simp [Points, Page.write, Role.next]
      · simp [Points, Page.write, Role.next]
      · intro place id raw
        simp only [Points, opens_none, Page.write, Role.next, running, text, Function.update_apply]
        grind
      · intro id
        have raws := clear.raws id
        simp only [Page.write, Function.update_apply]
        grind

end SubAgent

/-- Every event is heard. -/
theorem heard (drawn : Drawn page slots awaiting) (event : Event) :
    Heard page (page.handleAguiEvent event) slots awaiting event := by
  cases event with
  | runStarted threadId => exact drawn.heard_runStarted threadId
  | runError message =>
      exact drawn.heard_cleared rfl fun clear cleared => clear.heard_runError cleared message
  | textMessage delta content =>
      cases text : Event.delta delta content with
      | nil => exact drawn.heard_textMessage_nil text
      | cons unit units =>
          have answers : Transcript.answers (.textMessage delta content) = true := by
            simp [Transcript.answers, text]
          exact drawn.heard_cleared answers fun clear cleared =>
            clear.heard_textMessage_cons cleared text
  | toolCallStart toolCallId toolCallName =>
      exact drawn.heard_cleared rfl fun clear cleared =>
        clear.heard_toolCallStart cleared toolCallId toolCallName
  | toolCallResult toolCallId content => exact drawn.heard_toolCallResult toolCallId content
  | reasoningStart messageId =>
      exact drawn.heard_cleared rfl fun clear cleared =>
        clear.heard_reasoningStart cleared messageId
  | reasoningMessageContent messageId delta =>
      exact drawn.heard_reasoningMessageContent messageId delta
  | reasoningEncryptedValue entityId => exact drawn.heard_reasoningEncryptedValue entityId
  | reasoningEnd messageId => exact drawn.heard_reasoningEnd messageId
  | runFinished => exact drawn.heard_cleared rfl fun clear _ => clear.heard_runFinished
  | subAgentProgress subAgent statusTaskId artifactTaskId state parts =>
      refine drawn.heard_cleared rfl fun {page _} clear cleared => ?_
      by_cases ended : Event.ended state = true
      · exact clear.heard_subAgentProgress_ended cleared ended
      · cases called : page.subAgentEls (Event.taskId subAgent statusTaskId artifactTaskId) with
        | none => exact clear.heard_subAgentProgress_none cleared ended called
        | some el => exact clear.heard_subAgentProgress_some cleared ended called
  | other =>
      have opens : Transcript.opens page.selfName slots.reduceOption .other = none := rfl
      exact drawn.heard_same opens (.inr ⟨rfl, rfl⟩) (List.append_nil _).symm rfl rfl
        (fun _ _ => Iff.rfl) (fun _ role _ => by cases role <;> exact ⟨rfl, rfl⟩)
        (by simp) drawn.raws

end Drawn

end Souk.Directory.AgentPage
