import Souk.Directory.Hearing

/-!
# Conversations

Through every run of the chat, with its messages, streams, snapshots and failures, the log of the
page is what a transcript shows which takes the same actions.  From the transcript it is then read
off that nothing which has been shown before a message is altered after it.
-/

namespace Souk.Directory.AgentPage

/-! ## One step -/

namespace Page

variable {page : Page} {event : Event}

theorem handleAguiEvent_selfName : (page.handleAguiEvent event).selfName = page.selfName := by
  cases event <;> simp only [handleAguiEvent] <;> repeat' split
  all_goals first | rfl | simp [write, appendEntry]

/-- Only the start of a run tells the page its thread. -/
theorem handleAguiEvent_threadId :
    (page.handleAguiEvent event).threadId =
      match event with
      | .runStarted (some (unit :: units)) => some (unit :: units)
      | _ => page.threadId := by
  cases event with
  | runStarted threadId => rcases threadId with _ | _ | ⟨unit, units⟩ <;> rfl
  | _ =>
      simp only [handleAguiEvent] <;> repeat' split
      all_goals first | rfl | simp [write, appendEntry]

end Page

namespace Drawn

variable {page : Page} {slots : List (Option Voice)} {awaiting : Bool}

/-- The thread is not drawn. -/
theorem renamed (drawn : Drawn page slots awaiting) (threadId : Option JsString) :
    Drawn { page with threadId } slots awaiting := by
  refine ⟨drawn.log, drawn.typing, fun place role unsettled => ?_, drawn.raws⟩
  rw [drawn.points place role unsettled]
  cases role <;> exact Iff.rfl

/-- A bubble which listens to nothing takes the place of the dots. -/
theorem say (drawn : Drawn page slots awaiting) (entry : Entry) :
    ∃ after, after.reduceOption = slots.reduceOption ++ [⟨entry, .settled⟩] ∧
      Drawn (page.clearTyping.appendEntry entry) after false := by
  obtain ⟨cleared, same, clear⟩ := drawn.clearTyping
  refine ⟨cleared ++ [some ⟨entry, .settled⟩], ?_, ?_, ?_, ?_, clear.raws⟩
  · rw [List.reduceOption_append, same]
    rfl
  · have log := clear.log
    simp only [dots, Bool.false_eq_true, if_false, List.map_nil, List.append_nil] at log
    simp [Page.appendEntry, log, dots]
  · simp [Page.appendEntry]
  · intro place role unsettled
    have points : Points (page.clearTyping.appendEntry entry) place role ↔
        Points page.clearTyping place role := by
      cases role <;> exact Iff.rfl
    rw [points, ← clear.points place role unsettled]
    have listens := @listens_turned cleared place role id id (some ⟨entry, .settled⟩) fun _ => rfl
    simp only [Option.map_id_fun, List.map_id_fun, id_eq, Option.toList_some, List.map_cons,
      List.map_nil, exists_eq_right, Option.mem_some_iff, exists_eq_left', unsettled.symm,
      and_false, or_false] at listens
    exact listens

/-- A message settles all bubbles, and awaits a reply under its own. -/
theorem submit (drawn : Drawn page slots false) (text : JsString) :
    ∃ after, after.reduceOption = slots.reduceOption.map Voice.settle ++
        [⟨⟨jsString "you", .user, .text text⟩, .settled⟩] ∧
      Drawn (Chat.submit page text) after true := by
  have typing : page.typingEl = none := by simpa using drawn.typing
  have log := drawn.log
  simp only [dots, Bool.false_eq_true, if_false, List.map_nil, List.append_nil] at log
  refine ⟨slots.map (Option.map Voice.settle) ++ [some ⟨⟨jsString "you", .user, .text text⟩,
    .settled⟩], ?_, ?_, ?_, ?_, ?_⟩
  · exact @reduceOption_turned slots Voice.settle
      (some ⟨⟨jsString "you", .user, .text text⟩, .settled⟩)
  · simp [Chat.submit, Page.showTyping, Page.appendEntry, typing, log, dots, Function.comp_def,
      Voice.settle]
  · simp [Chat.submit, Page.showTyping, Page.appendEntry, typing, log]
  · intro place role unsettled
    have listens := @listens_turned slots place role Voice.settle (fun _ => .settled)
      (some ⟨⟨jsString "you", .user, .text text⟩, .settled⟩) fun _ => rfl
    simp only [Option.toList_some, List.map_cons, List.map_nil, Option.mem_some_iff,
      exists_eq_left', unsettled.symm, and_false, or_false, exists_false] at listens
    rw [listens]
    cases role <;> simp [Points, Chat.submit, Page.showTyping, Page.appendEntry, typing] at unsettled ⊢
  · simp [Chat.submit, Page.showTyping, Page.appendEntry, typing]

end Drawn

/-- The page draws the transcript. -/
structure Follows (chat : Chat) (transcript : Transcript) : Prop where
  drawn : ∃ slots, slots.reduceOption = transcript.voices ∧
    Drawn chat.page slots transcript.awaiting
  selfName : chat.page.selfName = transcript.selfName
  threadId : chat.page.threadId = transcript.threadId
  phase : chat.phase = transcript.phase
  idle : transcript.phase = .idle → transcript.awaiting = false

namespace Follows

variable {chat next : Chat} {transcript : Transcript} {action : Action}

theorem shown (follows : Follows chat transcript) :
    chat.page.log.reduceOption = transcript.shown := by
  obtain ⟨slots, voices, drawn⟩ := follows.drawn
  rw [drawn.log, List.reduceOption_append, List.reduceOption_map, voices, follows.selfName,
    Transcript.shown]
  congr 1
  cases transcript.awaiting <;> rfl

theorem loaded (selfName : JsString) :
    Follows (Chat.loaded selfName) (Transcript.empty selfName) where
  drawn := by
    refine ⟨[], rfl, rfl, rfl, ?_, fun _ _ => rfl⟩
    intro place role unsettled
    cases role <;> simp [Listens, Points, Chat.loaded] at unsettled ⊢
  selfName := rfl
  threadId := rfl
  phase := rfl
  idle _ := rfl

/-- The transcript takes every step of the chat. -/
theorem step (follows : Follows chat transcript) (taken : chat.step action = some next) :
    ∃ after, transcript.step action = some after ∧ Follows next after := by
  obtain ⟨slots, voices, drawn⟩ := follows.drawn
  have phase := follows.phase
  cases action with
  | submit text =>
      cases stands : chat.phase <;> simp only [Chat.step, stands, reduceCtorEq] at taken
      obtain rfl := Option.some.inj taken
      rw [stands] at phase
      rw [follows.idle phase.symm] at drawn
      obtain ⟨after, turned, redrawn⟩ := drawn.submit text
      have typing : chat.page.typingEl = none := by simpa using drawn.typing
      have step : transcript.step (.submit text) = some (transcript.submit text) := by
        simp only [Transcript.step, ← phase]
      refine ⟨_, step, ⟨after, ?_, redrawn⟩, ?_, ?_, ?_, ?_⟩
      · rw [turned, voices]
        rfl
      · simpa [Chat.submit, Page.showTyping, Page.appendEntry, typing, Transcript.submit]
          using follows.selfName
      · simpa [Chat.submit, Page.showTyping, Page.appendEntry, typing, Transcript.submit]
          using follows.threadId
      · rw [follows.threadId]
        rfl
      · rcases thread : transcript.threadId with _ | _ | ⟨unit, units⟩ <;>
          simp [Transcript.submit, thread]
  | created threadId =>
      cases stands : chat.phase <;> simp only [Chat.step, stands, reduceCtorEq] at taken
      obtain rfl := Option.some.inj taken
      rw [stands] at phase
      have step : transcript.step (.created threadId) =
          some { transcript with threadId, phase := .posting } := by
        simp only [Transcript.step, ← phase]
      exact ⟨_, step, ⟨slots, voices, drawn.renamed threadId⟩, follows.selfName, rfl, rfl,
        by simp⟩
  | streams =>
      cases stands : chat.phase <;> simp only [Chat.step, stands, reduceCtorEq] at taken
      obtain rfl := Option.some.inj taken
      rw [stands] at phase
      have step : transcript.step .streams = some { transcript with phase := .streaming } := by
        simp only [Transcript.step, ← phase]
      exact ⟨_, step, ⟨slots, voices, drawn⟩, follows.selfName, follows.threadId, rfl,
        by simp⟩
  | snapshot threadId =>
      cases stands : chat.phase <;> simp only [Chat.step, stands, reduceCtorEq] at taken
      obtain rfl := Option.some.inj taken
      rw [stands] at phase
      obtain ⟨after, said, redrawn⟩ := (drawn.renamed _).say ⟨jsString "system", .system,
        .text (jsString "(already in flight — waiting for it to finish)")⟩
      have step : transcript.step (.snapshot threadId) = some (transcript.snapshot threadId) := by
        simp only [Transcript.step, ← phase]
      refine ⟨_, step, ⟨after, ?_, redrawn⟩, ?_, ?_, rfl, fun _ => rfl⟩
      · rw [said, voices]
        rfl
      · simpa [Page.appendEntry, Transcript.snapshot, Transcript.say] using follows.selfName
      · simp only [Page.appendEntry, Page.clearTyping_threadId, follows.threadId]
        rfl
  | event event =>
      cases stands : chat.phase <;> simp only [Chat.step, stands, reduceCtorEq] at taken
      obtain rfl := Option.some.inj taken
      rw [stands] at phase
      obtain ⟨after, turned, redrawn⟩ := drawn.heard event
      have step : transcript.step (.event event) = some (transcript.hear event) := by
        simp only [Transcript.step, ← phase]
      refine ⟨_, step, ⟨after, ?_, redrawn⟩, ?_, ?_, ?_, fun idle => ?_⟩
      · rw [turned, voices, follows.selfName]
        rfl
      · rw [Page.handleAguiEvent_selfName]
        exact follows.selfName
      · rw [Page.handleAguiEvent_threadId, follows.threadId]
        rfl
      · exact phase
      · cases phase.trans idle
  | done =>
      cases stands : chat.phase <;> simp only [Chat.step, stands, reduceCtorEq] at taken
      obtain rfl := Option.some.inj taken
      rw [stands] at phase
      obtain ⟨cleared, same, clear⟩ := drawn.clearTyping
      have step : transcript.step .done =
          some { transcript with awaiting := false, phase := .idle } := by
        simp only [Transcript.step, ← phase]
      refine ⟨_, step, ⟨cleared, ?_, clear⟩, ?_, ?_, rfl, fun _ => rfl⟩
      · rw [same, voices]
      · simpa using follows.selfName
      · simpa using follows.threadId
  | fails message =>
      obtain ⟨after, said, redrawn⟩ := drawn.say ⟨jsString "error", .error,
        .text (jsString "request failed: " ++ message)⟩
      have failed : Follows ⟨chat.page.clearTyping.appendEntry ⟨jsString "error", .error,
          .text (jsString "request failed: " ++ message)⟩, .idle⟩ (transcript.fail message) := by
        refine ⟨⟨after, ?_, redrawn⟩, ?_, ?_, rfl, fun _ => rfl⟩
        · rw [said, voices]
          rfl
        · simpa [Page.appendEntry, Transcript.fail, Transcript.say] using follows.selfName
        · simpa [Page.appendEntry, Transcript.fail, Transcript.say] using follows.threadId
      refine ⟨transcript.fail message, ?_, ?_⟩
      · cases stands : chat.phase <;> simp only [Chat.step, stands, reduceCtorEq] at taken <;>
          simp only [Transcript.step, ← phase, stands]
      · cases stands : chat.phase <;> simp only [Chat.step, stands, reduceCtorEq] at taken <;>
          exact Option.some.inj taken ▸ failed

/-- The transcript takes the whole run with the chat. -/
theorem run {actions : List Action} (follows : Follows chat transcript)
    (execution : Chat.machine.run chat actions = some next) :
    ∃ after, Transcript.machine.run transcript actions = some after ∧ Follows next after :=
  Machine.run_lockstep (fun follows taken => follows.step taken) follows execution

end Follows

/-! ## What a transcript keeps -/

theorem Role.writes_ne_typing {event : Event} {role : Role} {bubble : Bubble}
    (writes : role.writes event = some bubble) : bubble ≠ .typing := by
  rintro rfl
  cases role <;> cases event <;> simp only [Role.writes, reduceCtorEq] at writes
  all_goals grind [Event.result]

namespace Transcript

variable {transcript next : Transcript} {action : Action}

theorem opens_ne_typing {selfName : JsString} {voices : List Voice} {event : Event} {voice : Voice}
    (opened : opens selfName voices event = some voice) : voice.entry.bubble ≠ .typing := by
  intro typing
  cases event <;> simp only [opens, reduceCtorEq] at opened
  all_goals grind [Event.toolEntry]

/-- What a step does to the bubbles. -/
theorem step_voices (taken : transcript.step action = some next) :
    next.voices = transcript.voices ∨
    (∃ text, action = .submit text ∧ next.voices = transcript.voices.map Voice.settle ++
      [⟨⟨jsString "you", .user, .text text⟩, .settled⟩]) ∨
    (∃ event, next.voices = transcript.voices.map (Voice.follow event) ++
      (opens transcript.selfName transcript.voices event).toList) ∨
    ∃ tag cssClass text,
      next.voices = transcript.voices ++ [⟨⟨tag, cssClass, .text text⟩, .settled⟩] := by
  cases action with
  | submit text =>
      cases stands : transcript.phase <;> simp only [step, stands, reduceCtorEq] at taken
      obtain rfl := Option.some.inj taken
      exact .inr (.inl ⟨text, rfl, rfl⟩)
  | event event =>
      cases stands : transcript.phase <;> simp only [step, stands, reduceCtorEq] at taken
      obtain rfl := Option.some.inj taken
      exact .inr (.inr (.inl ⟨event, rfl⟩))
  | snapshot threadId =>
      cases stands : transcript.phase <;> simp only [step, stands, reduceCtorEq] at taken
      obtain rfl := Option.some.inj taken
      exact .inr (.inr (.inr ⟨_, _, _, rfl⟩))
  | fails message =>
      cases stands : transcript.phase <;> simp only [step, stands, reduceCtorEq] at taken <;>
        exact .inr (.inr (.inr ⟨_, _, _, by rw [← Option.some.inj taken]; rfl⟩))
  | _ =>
      cases stands : transcript.phase <;> simp only [step, stands, reduceCtorEq] at taken
      exact .inl (by rw [← Option.some.inj taken])

/-- No bubble but the dots is dots. -/
def Written (transcript : Transcript) : Prop :=
  ∀ voice ∈ transcript.voices, voice.entry.bubble ≠ .typing

theorem Written.step (written : Written transcript) (taken : transcript.step action = some next) :
    Written next := by
  intro voice among
  obtain same | ⟨text, -, asked⟩ | ⟨event, heard⟩ | ⟨tag, cssClass, text, said⟩ := step_voices taken
  · rw [same] at among
    exact written voice among
  · rw [asked, List.mem_append, List.mem_map, List.mem_singleton] at among
    obtain ⟨before, among, rfl⟩ | rfl := among
    · exact written before among
    · exact Bubble.noConfusion
  · rw [heard, List.mem_append, List.mem_map, Option.mem_toList] at among
    obtain ⟨before, among, rfl⟩ | opened := among
    · cases writes : before.role.writes event with
      | none => simpa [Voice.follow, writes] using written before among
      | some bubble => simpa [Voice.follow, writes] using Role.writes_ne_typing writes
    · exact opens_ne_typing opened
  · rw [said, List.mem_append, List.mem_singleton] at among
    obtain among | rfl := among
    · exact written voice among
    · exact Bubble.noConfusion

/-- These bubbles are there, and listen no more. -/
structure Keeps (settled : List Voice) (transcript : Transcript) : Prop where
  roles : ∀ voice ∈ settled, voice.role = .settled
  first : settled <+: transcript.voices

theorem follow_settled {event : Event} {voice : Voice} (settled : voice.role = .settled) :
    voice.follow event = voice := by
  obtain ⟨entry, role⟩ := voice
  obtain rfl : role = .settled := settled
  cases event <;> rfl

theorem Keeps.step {settled : List Voice} (keeps : Keeps settled transcript)
    (taken : transcript.step action = some next) : Keeps settled next := by
  refine ⟨keeps.roles, ?_⟩
  have first := keeps.first
  obtain same | ⟨text, -, asked⟩ | ⟨event, heard⟩ | ⟨tag, cssClass, text, said⟩ := step_voices taken
  · rwa [same]
  · have still : settled.map Voice.settle = settled := by
      refine (List.map_congr_left fun voice among => ?_).trans (List.map_id settled)
      rw [Voice.settle, ← keeps.roles voice among, id]
    rw [asked, ← still]
    exact (first.map _).trans (List.prefix_append _ _)
  · have still : settled.map (Voice.follow event) = settled := by
      refine (List.map_congr_left fun voice among => ?_).trans (List.map_id settled)
      exact follow_settled (keeps.roles voice among)
    rw [heard, ← still]
    exact (first.map _).trans (List.prefix_append _ _)
  · rw [said]
    exact first.trans (List.prefix_append _ _)

end Transcript

/-! ## Whole conversations -/

namespace Chat

variable {selfName : JsString} {actions : List Action} {final : Chat}

/-- After every run the log of the page is what the transcript shows after the same actions, and the
dots are gone whenever the form is enabled. -/
theorem log_eq_shown (execution : machine.run (loaded selfName) actions = some final) :
    ∃ transcript, Transcript.machine.run (Transcript.empty selfName) actions = some transcript ∧
      final.page.log.reduceOption = transcript.shown ∧
      final.page.threadId = transcript.threadId ∧ final.phase = transcript.phase ∧
      (final.phase = .idle → ∀ entry ∈ final.page.log.reduceOption, entry.bubble ≠ .typing) := by
  obtain ⟨transcript, taken, follows⟩ := (Follows.loaded selfName).run execution
  have written : transcript.Written :=
    Machine.run_invariant (fun written step => written.step step)
      (show Transcript.Written _ from fun _ among => absurd among List.not_mem_nil)
      taken
  refine ⟨transcript, taken, follows.shown, follows.threadId, follows.phase, ?_⟩
  intro idle entry among
  have quiet : transcript.awaiting = false := follows.idle (follows.phase.symm.trans idle)
  rw [follows.shown, Transcript.shown, quiet, dots, if_neg (by simp), List.append_nil,
    List.mem_map] at among
  obtain ⟨voice, among, rfl⟩ := among
  exact written voice among

/-- A question, the answer in two pieces around a tool's call, and the end of the run. -/
def exchange : List Action :=
  [.submit [104], .created (some [116]), .streams, .event (.textMessage (some [97]) none),
    .event (.toolCallStart (some [99]) none), .event (.textMessage none (some [98])),
    .event .runFinished, .done]

theorem exchange_log : ∃ final, machine.run (loaded [115]) exchange = some final ∧
    final.page.log.reduceOption =
      [⟨jsString "you", .user, .text [104]⟩, ⟨[115], .assistant, .markdown [97, 98]⟩,
        Event.toolEntry none] := by
  have execution : machine.run (loaded [115]) exchange = some _ := rfl
  obtain ⟨transcript, taken, shown, -⟩ := log_eq_shown execution
  refine ⟨_, execution, shown.trans ?_⟩
  rw [← Option.some.inj taken]
  rfl

/-- What is on the page when a message is sent, and the message under it, is never altered. -/
theorem history_kept {early late : List Action} {middle : Chat} {text : JsString}
    (before : machine.run (loaded selfName) early = some middle)
    (after : machine.run middle (.submit text :: late) = some final) :
    middle.page.log.reduceOption ++ [⟨jsString "you", .user, .text text⟩] <+:
      final.page.log.reduceOption := by
  obtain ⟨asking, -, follows⟩ := (Follows.loaded selfName).run before
  obtain ⟨asked, step, rest⟩ := machine.run_cons_eq_some.mp after
  obtain ⟨transcript, taken, asked_follows⟩ := @Follows.step _ _ _ (.submit text) follows step
  obtain ⟨last, later, last_follows⟩ := asked_follows.run rest
  have idle : asking.phase = .idle := by
    cases stands : asking.phase with
    | idle => rfl
    | _ => simp only [Transcript.step, stands, reduceCtorEq] at taken
  have submitted : transcript = asking.submit text := by
    simpa only [Transcript.step, idle, Option.some.injEq, eq_comm] using taken
  have keeps : Transcript.Keeps transcript.voices transcript := by
    refine ⟨?_, List.prefix_rfl⟩
    intro voice among
    rw [submitted, Transcript.submit, List.mem_append, List.mem_map, List.mem_singleton] at among
    obtain ⟨_, -, rfl⟩ | rfl := among <;> rfl
  have kept : transcript.voices <+: last.voices :=
    (Machine.run_invariant (fun keeps step => keeps.step step) keeps later).first
  have shown : middle.page.log.reduceOption ++ [⟨jsString "you", .user, .text text⟩] =
      transcript.voices.map Voice.entry := by
    rw [follows.shown, Transcript.shown, follows.idle idle, dots, if_neg (by simp),
      List.append_nil, submitted]
    simp [Transcript.submit, Function.comp_def, Voice.settle]
  rw [shown, last_follows.shown, Transcript.shown]
  exact (kept.map Voice.entry).trans (List.prefix_append _ _)

theorem exchange_kept : ∃ middle final, machine.run (loaded [115]) exchange = some middle ∧
    machine.run middle [.submit [105], .fails []] = some final ∧
    middle.page.log.reduceOption ++ [⟨jsString "you", .user, .text [105]⟩] <+:
      final.page.log.reduceOption := by
  have before : machine.run (loaded [115]) exchange =
      some ((machine.run (loaded [115]) exchange).getD (loaded [])) := rfl
  have after : machine.run ((machine.run (loaded [115]) exchange).getD (loaded []))
      [.submit [105], .fails []] = some _ := rfl
  exact ⟨_, _, before, after, history_kept before after⟩

end Chat

end Souk.Directory.AgentPage
