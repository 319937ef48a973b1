import Souk.Directory.Conversation

/-!
# The replies on the page

The text of an agent comes in pieces, between tool calls, thoughts and delegated calls.  Whatever
comes between them, the bubbles of the assistant hold the pieces in the order in which they have
come, one bubble for each run which has said something.
-/

namespace Souk.Directory.AgentPage

namespace Action

/-- The next piece of text belongs to another bubble. -/
def cuts : Action → Bool
  | .submit _ | .event .runFinished => true
  | _ => false

/-- The text which an action brings. -/
def piece : Action → JsString
  | .event (.textMessage delta content) => Event.delta delta content
  | _ => []

end Action

/-- The text of a part of a conversation, if it has any. -/
def spoken (text : JsString) : List JsString := if text = [] then [] else [text]

/-- What the agent has said in the parts of a conversation. -/
def replies (actions : List Action) : List JsString :=
  ((actions.splitOnP Action.cuts).map fun part => part.flatMap Action.piece).flatMap spoken

/-- The entry is one of the assistant's. -/
def Entry.isAssistant (entry : Entry) : Bool :=
  match entry.cssClass with
  | .assistant => true
  | _ => false

/-- The entry is one of the assistant's, and not the dots. -/
def Entry.isReply (entry : Entry) : Bool :=
  match entry.bubble with
  | .typing => false
  | _ => entry.isAssistant

/-- A reply as it is shown. -/
def reply (selfName text : JsString) : Entry := ⟨selfName, .assistant, .markdown text⟩

namespace Transcript

/-- The bubble which the next piece of text goes to, if there is one. -/
def speaking (selfName text : JsString) : List Voice :=
  (spoken text).map fun text => ⟨reply selfName text, .assistant text⟩

/-- The bubbles of the assistant are the replies so far, and the one to which the text goes on. -/
structure Replying (transcript : Transcript) (earlier : List JsString) (text : JsString) :
    Prop where
  voices : transcript.voices.filter (fun voice => voice.entry.isAssistant) =
    earlier.map (fun text => ⟨reply transcript.selfName text, .settled⟩) ++
      speaking transcript.selfName text
  roles : ∀ voice ∈ transcript.voices, IsAssistant voice.role → voice.entry.isAssistant

variable {transcript next : Transcript} {action : Action} {earlier : List JsString}
  {text : JsString}

/-- There is a bubble to go on with precisely when something has been said. -/
theorem Replying.hears_iff (replying : Replying transcript earlier text) :
    Hears transcript.voices IsAssistant ↔ text ≠ [] := by
  have assistants : ∀ voice, voice ∈ transcript.voices ∧ voice.entry.isAssistant = true ↔
      voice ∈ earlier.map (fun text => ⟨reply transcript.selfName text, .settled⟩) ++
        speaking transcript.selfName text := by
    intro voice
    rw [← replying.voices, List.mem_filter]
  constructor
  · rintro ⟨voice, among, role⟩ rfl
    have listed := (assistants voice).mp ⟨among, replying.roles voice among role⟩
    simp only [speaking, spoken, if_pos, List.map_nil, List.append_nil, List.mem_map] at listed
    obtain ⟨text, -, rfl⟩ := listed
    exact role
  · intro said
    have listed := (assistants ⟨reply transcript.selfName text, .assistant text⟩).mpr
      (List.mem_append_right _ (by simp [speaking, spoken, said]))
    exact ⟨_, listed.1, trivial⟩

@[simp] theorem hear_voices {event : Event} : (transcript.hear event).voices =
    transcript.voices.map (Voice.follow event) ++
      (opens transcript.selfName transcript.voices event).toList := rfl

@[simp] theorem hear_selfName {event : Event} :
    (transcript.hear event).selfName = transcript.selfName := rfl

@[simp] theorem isAssistant_follow {event : Event} {voice : Voice} :
    (voice.follow event).entry.isAssistant = voice.entry.isAssistant := rfl

@[simp] theorem isAssistant_settle {voice : Voice} :
    voice.settle.entry.isAssistant = voice.entry.isAssistant := rfl

/-- The bubbles of the assistant after each has turned, and one may have been added. -/
theorem filter_turned {turn : Voice → Voice} {voices added : List Voice}
    (class_kept : ∀ voice, (turn voice).entry.isAssistant = voice.entry.isAssistant) :
    (voices.map turn ++ added).filter (fun voice => voice.entry.isAssistant) =
      (voices.filter fun voice => voice.entry.isAssistant).map turn ++
        added.filter fun voice => voice.entry.isAssistant := by
  rw [List.filter_append, List.filter_map]
  congr 3
  funext voice
  exact class_kept voice

/-- An entry which is no reply is added. -/
theorem Replying.add (replying : Replying transcript earlier text) {entry : Entry}
    (other : entry.isAssistant = false)
    (voices : next.voices = transcript.voices ++ [⟨entry, .settled⟩])
    (selfName : next.selfName = transcript.selfName) : Replying next earlier text := by
  constructor
  · rw [voices, List.filter_append, replying.voices, selfName]
    simp [other]
  · intro heard among role
    rw [voices, List.mem_append, List.mem_singleton] at among
    obtain among | rfl := among
    · exact replying.roles heard among role
    · exact role.elim

/-- A message ends the reply. -/
theorem Replying.submit (replying : Replying transcript earlier text) (asked : JsString) :
    Replying (transcript.submit asked) (earlier ++ spoken text) [] := by
  constructor
  · rw [Transcript.submit, filter_turned fun _ => isAssistant_settle, replying.voices]
    simp [speaking, spoken, Voice.settle, Entry.isAssistant, Function.comp_def]
  · intro voice among role
    rw [Transcript.submit, List.mem_append, List.mem_map, List.mem_singleton] at among
    obtain ⟨before, -, rfl⟩ | rfl := among
    · exact role.elim
    · exact role.elim

/-- Only text opens a bubble of the assistant. -/
theorem opens_isAssistant {selfName : JsString} {voices : List Voice} {event : Event} {voice : Voice}
    (opened : opens selfName voices event = some voice) (said : voice.entry.isAssistant = true) :
    ∃ delta content, event = .textMessage delta content := by
  cases event with
  | textMessage delta content => exact ⟨delta, content, rfl⟩
  | subAgentProgress subAgent statusTaskId artifactTaskId state parts =>
      simp only [opens] at opened
      split at opened
      · cases opened
      · split at opened <;> obtain rfl := Option.some.inj opened <;> cases said
  | runError | toolCallStart | reasoningStart =>
      obtain rfl := Option.some.inj opened
      cases said
  | _ => cases opened

/-- A bubble which listens as the assistant's does is the assistant's. -/
theorem opens_roles {selfName : JsString} {voices : List Voice} {event : Event} {voice : Voice}
    (opened : opens selfName voices event = some voice) (role : IsAssistant voice.role) :
    voice.entry.isAssistant = true := by
  cases event with
  | textMessage delta content =>
      simp only [opens] at opened
      split at opened
      · cases opened
      · split at opened
        · cases opened
        · obtain rfl := Option.some.inj opened
          rfl
  | subAgentProgress subAgent statusTaskId artifactTaskId state parts =>
      simp only [opens] at opened
      split at opened
      · cases opened
      · split at opened <;> obtain rfl := Option.some.inj opened <;> exact role.elim
  | runError | toolCallStart | reasoningStart =>
      obtain rfl := Option.some.inj opened
      exact role.elim
  | _ => cases opened

theorem follow_isAssistant {event : Event} {voice : Voice}
    (role : IsAssistant (voice.follow event).role) : IsAssistant voice.role := by
  have continues := voice.role.next_continues event
  change IsAssistant (voice.role.next event) at role
  cases after : voice.role.next event with
  | assistant raw =>
      rw [after] at continues
      cases before : voice.role <;> simp [before, Role.Continues] at continues
      trivial
  | _ =>
      rw [after] at role
      exact role.elim

/-- The roles are those of the assistant's bubbles after an event. -/
theorem Replying.roles_hear (replying : Replying transcript earlier text) (event : Event) :
    ∀ voice ∈ (transcript.hear event).voices, IsAssistant voice.role →
      voice.entry.isAssistant := by
  intro voice among role
  rw [hear_voices, List.mem_append, List.mem_map, Option.mem_toList] at among
  obtain ⟨before, among, rfl⟩ | opened := among
  · exact replying.roles before among (follow_isAssistant role)
  · exact opens_roles opened role

/-- The earlier replies do not change. -/
theorem map_follow_earlier {selfName : JsString} {event : Event} :
    (earlier.map fun text => (⟨reply selfName text, .settled⟩ : Voice)).map (Voice.follow event) =
      earlier.map fun text => ⟨reply selfName text, .settled⟩ := by
  rw [List.map_map]
  refine List.map_congr_left fun text _ => ?_
  exact follow_settled rfl

/-- The end of a run ends the reply. -/
theorem Replying.runFinished (replying : Replying transcript earlier text) :
    Replying (transcript.hear .runFinished) (earlier ++ spoken text) [] := by
  refine ⟨?_, replying.roles_hear _⟩
  rw [hear_voices, filter_turned fun _ => isAssistant_follow, replying.voices, List.map_append,
    map_follow_earlier]
  simp [speaking, spoken, opens, Voice.follow, Role.next, Role.writes, Function.comp_def]

/-- Text is added to the reply, or begins one. -/
theorem Replying.textMessage (replying : Replying transcript earlier text)
    (delta content : Option JsString) :
    Replying (transcript.hear (.textMessage delta content)) earlier
      (text ++ Event.delta delta content) := by
  refine ⟨?_, replying.roles_hear _⟩
  have hears := replying.hears_iff
  rw [hear_voices, filter_turned fun _ => isAssistant_follow, replying.voices, List.map_append,
    map_follow_earlier, List.append_assoc, hear_selfName]
  congr 1
  by_cases said : text = []
  · have none_heard : ¬Hears transcript.voices IsAssistant := fun heard => hears.mp heard said
    subst said
    cases more : Event.delta delta content <;>
      simp [opens, more, none_heard, speaking, spoken, reply, Entry.isAssistant]
  · have heard : Hears transcript.voices IsAssistant := hears.mpr said
    cases more : Event.delta delta content <;>
      simp [opens, more, heard, speaking, spoken, said, reply, Voice.follow, Role.next,
        Role.writes]

/-- Other events leave the replies as they are. -/
theorem Replying.other (replying : Replying transcript earlier text) {event : Event}
    (unfinished : event ≠ .runFinished)
    (silent : ∀ delta content, event ≠ .textMessage delta content) :
    Replying (transcript.hear event) earlier text := by
  refine ⟨?_, replying.roles_hear _⟩
  have none_opened : ((opens transcript.selfName transcript.voices event).toList.filter
      fun voice => voice.entry.isAssistant) = [] := by
    refine List.filter_eq_nil_iff.mpr fun voice opened said => ?_
    obtain ⟨delta, content, same⟩ := opens_isAssistant (Option.mem_toList.mp opened) said
    exact silent delta content same
  have speaking_kept : (speaking transcript.selfName text).map (Voice.follow event) =
      speaking transcript.selfName text := by
    rw [speaking, List.map_map]
    refine List.map_congr_left fun text _ => ?_
    cases event with
    | runFinished => exact absurd rfl unfinished
    | textMessage delta content => exact absurd rfl (silent delta content)
    | _ => rfl
  rw [hear_voices, filter_turned fun _ => isAssistant_follow, replying.voices, List.map_append,
    map_follow_earlier, speaking_kept, none_opened, List.append_nil, hear_selfName]

theorem step_selfName (taken : transcript.step action = some next) :
    next.selfName = transcript.selfName := by
  cases action <;> cases stands : transcript.phase <;>
    simp only [step, stands, reduceCtorEq] at taken <;> rw [← Option.some.inj taken] <;> rfl

theorem run_selfName {actions : List Action}
    (execution : machine.run transcript actions = some next) :
    next.selfName = transcript.selfName :=
  @Machine.run_invariant _ _ _ (fun other => other.selfName = transcript.selfName)
    (fun same taken => (step_selfName taken).trans same) _ _ _ rfl execution

theorem Replying.step (replying : Replying transcript earlier text)
    (taken : transcript.step action = some next) :
    if action.cuts then Replying next (earlier ++ spoken text) []
    else Replying next earlier (text ++ action.piece) := by
  cases action with
  | submit asked =>
      cases stands : transcript.phase <;> simp only [step, stands, reduceCtorEq] at taken
      obtain rfl := Option.some.inj taken
      exact replying.submit asked
  | event event =>
      cases stands : transcript.phase <;> simp only [step, stands, reduceCtorEq] at taken
      obtain rfl := Option.some.inj taken
      cases event with
      | runFinished => exact replying.runFinished
      | textMessage delta content => exact replying.textMessage delta content
      | _ =>
          simp only [Action.cuts, Action.piece, Bool.false_eq_true, if_false, List.append_nil]
          exact replying.other (by simp) (by simp)
  | snapshot threadId =>
      cases stands : transcript.phase <;> simp only [step, stands, reduceCtorEq] at taken
      obtain rfl := Option.some.inj taken
      simp only [Action.cuts, Action.piece, Bool.false_eq_true, if_false, List.append_nil]
      exact replying.add rfl rfl rfl
  | fails message =>
      have failed : next = transcript.fail message := by
        cases stands : transcript.phase <;> simp only [step, stands, reduceCtorEq] at taken <;>
          exact (Option.some.inj taken).symm
      simp only [Action.cuts, Action.piece, Bool.false_eq_true, if_false, List.append_nil, failed]
      exact replying.add rfl rfl rfl
  | _ =>
      cases stands : transcript.phase <;> simp only [step, stands, reduceCtorEq] at taken
      obtain rfl := Option.some.inj taken
      simp only [Action.cuts, Action.piece, Bool.false_eq_true, if_false, List.append_nil]
      exact ⟨replying.voices, replying.roles⟩

/-- The replies after a run are the earlier ones and those of the run, whose first one goes on with
the text so far. -/
theorem Replying.run {actions : List Action} (replying : Replying transcript earlier text)
    (execution : machine.run transcript actions = some next) :
    ∃ closed last, Replying next closed last ∧ closed ++ spoken last =
      earlier ++ (((actions.splitOnP Action.cuts).map fun part =>
        part.flatMap Action.piece).modifyHead (text ++ ·)).flatMap spoken := by
  induction actions generalizing transcript earlier text with
  | nil =>
      obtain rfl : transcript = next := by simpa using execution
      refine ⟨earlier, text, replying, ?_⟩
      simp
  | cons action actions induction =>
      obtain ⟨middle, taken, rest⟩ := machine.run_cons_eq_some.mp execution
      have after := @Replying.step _ _ action _ _ replying taken
      obtain ⟨part, parts, parted⟩ :=
        List.exists_cons_of_ne_nil (List.splitOnP_ne_nil Action.cuts actions)
      rw [List.splitOnP_cons_eq_if_modifyHead]
      by_cases cut : action.cuts
      · rw [if_pos cut] at after
        obtain ⟨closed, last, replied, same⟩ := induction after rest
        refine ⟨closed, last, replied, same.trans ?_⟩
        simp [cut, parted]
      · rw [if_neg cut] at after
        obtain ⟨closed, last, replied, same⟩ := induction after rest
        refine ⟨closed, last, replied, same.trans ?_⟩
        simp [cut, parted]

end Transcript

namespace Chat

variable {selfName : JsString} {actions : List Action} {final : Chat}

/-- The replies on the page are what the agent has said, in the order in which it has come. -/
theorem replies_shown (execution : machine.run (loaded selfName) actions = some final) :
    final.page.log.reduceOption.filter Entry.isReply = (replies actions).map (reply selfName) := by
  obtain ⟨transcript, taken, follows⟩ := (Follows.loaded selfName).run execution
  have written : transcript.Written :=
    Machine.run_invariant (fun written step => written.step step)
      (show Transcript.Written _ from fun _ among => absurd among List.not_mem_nil) taken
  have start : Transcript.Replying (Transcript.empty selfName) [] [] :=
    ⟨rfl, fun _ among => absurd among List.not_mem_nil⟩
  obtain ⟨closed, last, replied, same⟩ := start.run taken
  have all : closed ++ spoken last = replies actions := by
    obtain ⟨part, parts, parted⟩ :=
      List.exists_cons_of_ne_nil (List.splitOnP_ne_nil Action.cuts actions)
    rw [same, replies, parted]
    rfl
  have named : transcript.selfName = selfName := Transcript.run_selfName taken
  have no_dots : (dots transcript.selfName transcript.awaiting).filter Entry.isReply = [] := by
    cases transcript.awaiting <;> rfl
  have voiced : (transcript.voices.map Voice.entry).filter Entry.isReply =
      (transcript.voices.filter fun voice => voice.entry.isAssistant).map Voice.entry := by
    rw [List.filter_map]
    congr 1
    refine List.filter_congr fun voice among => ?_
    have unlike := written voice among
    cases bubble : voice.entry.bubble <;> simp_all [Entry.isReply]
  rw [follows.shown, Transcript.shown, List.filter_append, no_dots, List.append_nil, voiced,
    replied.voices, List.map_append, named, ← all, List.map_append]
  congr 1
  · rw [List.map_map]
    rfl
  · rw [Transcript.speaking, List.map_map]
    rfl

theorem exchange_replies : ∃ final, machine.run (loaded [115]) exchange = some final ∧
    final.page.log.reduceOption.filter Entry.isReply = [reply [115] [97, 98]] := by
  have execution : machine.run (loaded [115]) exchange = some _ := rfl
  exact ⟨_, execution, (replies_shown execution).trans rfl⟩

end Chat

end Souk.Directory.AgentPage
