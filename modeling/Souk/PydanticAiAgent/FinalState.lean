import Souk.PydanticAiAgent.Resolve
import Souk.PydanticAiAgent.SubAgentTool

/-!
# What a call of a sub-agent comes to

A call puts every update of its stream on the progress queue and then answers with one text.  The
states are gathered in two flags which are set and never cleared, so that the answer tells whether a
state was ever reported, not which one was the last.
-/

namespace Souk.PydanticAiAgent

open Souk.Python

/-- A key of the address, `None` where it is not known. -/
def knownOrNone (part : Option Str) : Value := (part.map Value.str).getD .null

/-- The progress event of an update; the keys of the update overwrite those before it. -/
def progressEvent (name : Str) (address : Address) (update : Dict) : Value :=
  .dict [("type", .str "CUSTOM"), ("name", .str "sub_agent_progress"),
    ("value", .dict (update.foldl (fun fields entry => Dict.set fields entry.1 entry.2)
      [("sub_agent", .str name), ("provider", knownOrNone address.provider),
        ("provider_key", knownOrNone address.providerKey),
        ("agent_name", knownOrNone address.agentName)]))]

/-- What a call leaves behind: the progress queue, the context ids of its thread, and the text it
returns unless it raises. -/
structure Called where
  progress : List Value
  contextIds : ContextIds
  text : Except Raised Str

/-- The loop over the updates of the stream of a call, up to its answer. -/
def streamUpdates (name : Str) (address : Address) (progress : List Value)
    (contextIds : ContextIds) (gathered : Gathered) : List Dict → Called
  | [] => ⟨progress, contextIds, .ok (gathered.answer name)⟩
  | update :: updates =>
      let progress := progress ++ [progressEvent name address update]
      match onUpdate contextIds name gathered (.dict update) with
      | (contextIds, .ok gathered) =>
          streamUpdates name address progress contextIds gathered updates
      | (contextIds, .error raised) => ⟨progress, contextIds, .error raised⟩

/-- `call_sub_agent`, whose stream delivers the given updates and ends. -/
def callSubAgent (name : Str) (resolved : Except SubAgentUnresolvable Address)
    (progress : List Value) (contextIds : ContextIds) (updates : List Dict) : Called :=
  match resolved with
  | .error unresolvable =>
      ⟨progress, contextIds,
        .ok (str "(" ++ name ++ str " could not be reached: " ++ unresolvable.text ++ str ")")⟩
  | .ok address => streamUpdates name address progress contextIds ⟨[], false, false⟩ updates

/-! ## What an update reports -/

/-- What the loop reads of the two updates an item can carry: the state, and what stands under
`text` in each part. -/
def readKinds (statusUpdate artifactUpdate : Value) : Except Raised (Value × List Value) := do
  let status ← getDefault statusUpdate "status" (.dict [])
  let state ← status.getAttr "state"
  let artifact := (← artifactUpdate.getAttr "artifact").orElse (.dict [])
  let parts ← (← getDefault artifact "parts" (.list [])).iterate
  let texts ← parts.mapM fun part => part.getAttr "text"
  return (state, texts)

/-- What the loop reads of an update. -/
def readUpdate (update : Dict) : Except Raised (Value × List Value) := do
  let (statusUpdate, artifactUpdate) ← updatesOf (.dict update)
  let _ ← returnedContextId statusUpdate artifactUpdate
  readKinds statusUpdate artifactUpdate

/-- The loop can read an update. -/
def Readable (update : Dict) : Prop := ∃ read, readUpdate update = .ok read

/-- The task state an update reports, if it reports one. -/
def stateOf (update : Dict) : Option Value :=
  match readUpdate update with
  | .ok (.null, _) | .error _ => none
  | .ok (state, _) => some state

/-- The text of some parts, of which those that are no text parts have none. -/
def joinTexts (texts : List Value) : Str := texts.flatMap fun text => text.asStr?.getD []

/-- The text of an update. -/
def textOf (update : Dict) : Str :=
  match readUpdate update with
  | .ok (_, texts) => joinTexts texts
  | .error _ => []

/-- `TASK_STATE_FAILED` -/
def taskFailed : Value := .str "TASK_STATE_FAILED"

/-- `TASK_STATE_INPUT_REQUIRED` -/
def inputRequired : Value := .str "TASK_STATE_INPUT_REQUIRED"

/-- The states some updates report, in their order. -/
def reportedStates (updates : List Dict) : List Value := updates.filterMap stateOf

/-- The text of some updates. -/
def spoken (updates : List Dict) : Str := updates.flatMap textOf

/-- The text for a call which is unavailable. -/
def unavailable (name : Str) : Str :=
  str "(" ++ name ++ str " is currently unavailable — the call failed or timed out)"

/-- The text for a call which waits for input. -/
def waiting (name : Str) : Str :=
  str "(" ++ name ++ str (" needs more time to respond — e.g. it's waiting on human " ++
    "approval — and hasn't resolved yet; you'll be notified once it does, " ++
    "no need to call it again for this)")

/-- The text for a call which said nothing. -/
def noResponse (name : Str) : Str := str "(no response from " ++ name ++ str ")"

/-- A text tells the last of some states, and what was said if that is neither of the two. -/
structure Tells (name : Str) (states : List Value) (said text : Str) : Prop where
  waits : text = waiting name ↔ states.getLast? = some inputRequired
  fails : text = unavailable name ↔ states.getLast? = some taskFailed
  answers : states.getLast? ≠ some inputRequired → states.getLast? ≠ some taskFailed →
    text = if said = [] then noResponse name else said

/-- What a call comes to: it returns a text which tells the state it ended in, and every update is
on the queue once, in order. -/
structure ReportsFinalState (name : Str) (address : Address) (progress : List Value)
    (updates : List Dict) (called : Called) (text : Str) : Prop where
  returned : called.text = .ok text
  relayed : called.progress = progress ++ updates.map (progressEvent name address)
  tells : Tells name (reportedStates updates) (spoken updates) text

/-- A failure is the last state reported, and so is a wait for input if there is no failure; the
text of a call with neither is not one of the two sentences. -/
structure LastWord (name : Str) (updates : List Dict) : Prop where
  failed : taskFailed ∈ reportedStates updates →
    (reportedStates updates).getLast? = some taskFailed
  waited : taskFailed ∉ reportedStates updates → inputRequired ∈ reportedStates updates →
    (reportedStates updates).getLast? = some inputRequired
  spoke : taskFailed ∉ reportedStates updates → inputRequired ∉ reportedStates updates →
    spoken updates ≠ waiting name ∧ spoken updates ≠ unavailable name

/-! ## The loop -/

theorem joinTexts_cons (text : Value) (texts : List Value) :
    joinTexts (text :: texts) = text.asStr?.getD [] ++ joinTexts texts := List.flatMap_cons

theorem onParts_eq (gathered : Gathered) (parts : List Value) :
    gathered.onParts parts =
      (fun texts => { gathered with finalText := gathered.finalText ++ joinTexts texts }) <$>
        parts.mapM fun part : Value => part.getAttr "text" := by
  induction parts generalizing gathered with
  | nil =>
      rw [Gathered.onParts, List.mapM_nil]
      exact congrArg _ (congrArg (Gathered.mk · _ _) (List.append_nil _).symm)
  | cons part parts induction =>
      rw [Gathered.onParts, List.mapM_cons]
      cases part.getAttr "text" with
      | error raised => rfl
      | ok text =>
          have rest : ∀ after : Gathered,
              after = { gathered with finalText := gathered.finalText ++ text.asStr?.getD [] } →
              after.onParts parts =
                ((parts.mapM fun part : Value => part.getAttr "text").map (text :: ·)).map
                  fun texts =>
                    { gathered with finalText := gathered.finalText ++ joinTexts texts } := by
            rintro after rfl
            rw [induction]
            cases parts.mapM fun part : Value => part.getAttr "text" with
            | error raised => rfl
            | ok texts =>
                simp only [Except.map, joinTexts_cons, List.append_assoc]
                rfl
          have silent : text.asStr?.getD [] = [] → gathered =
              { gathered with finalText := gathered.finalText ++ text.asStr?.getD [] } := by
            intro none
            rw [none, List.append_nil]
          cases text with
          | str text => exact rest _ rfl
          | null | bool | int | float | list | dict => exact rest gathered (silent rfl)

/-- What has been gathered once an update is read. -/
def Gathered.onRead (gathered : Gathered) (read : Value × List Value) : Gathered :=
  { gathered.onState read.1 with
    finalText := (gathered.onState read.1).finalText ++ joinTexts read.2 }

theorem gather_eq (gathered : Gathered) (statusUpdate artifactUpdate : Value) :
    gather gathered statusUpdate artifactUpdate =
      gathered.onRead <$> readKinds statusUpdate artifactUpdate := by
  rw [gather, readKinds, map_bind]
  refine bind_congr fun status => ?_
  rw [map_bind]
  refine bind_congr fun state => ?_
  rw [map_bind]
  refine bind_congr fun artifact => ?_
  rw [map_bind]
  refine bind_congr fun listed => ?_
  rw [map_bind]
  refine bind_congr fun parts => ?_
  rw [map_bind, onParts_eq]
  exact map_eq_pure_bind _ _

/-- The rest of a round depends on what is read of the update. -/
theorem onUpdate_eq (contextIds : ContextIds) (name : Str) (gathered : Gathered) (update : Dict) :
    (onUpdate contextIds name gathered (.dict update)).2 =
      gathered.onRead <$> readUpdate update := by
  rw [onUpdate, readUpdate]
  cases updatesOf (.dict update) with
  | error raised => rfl
  | ok kinds =>
      obtain ⟨statusUpdate, artifactUpdate⟩ := kinds
      change _ = gathered.onRead <$> (returnedContextId statusUpdate artifactUpdate >>=
        fun _ => readKinds statusUpdate artifactUpdate)
      dsimp only
      cases returnedContextId statusUpdate artifactUpdate with
      | error raised => rfl
      | ok contextId => exact gather_eq gathered statusUpdate artifactUpdate

theorem taskFailed_ne_inputRequired : taskFailed ≠ inputRequired := by
  intro same
  exact absurd (str_inj.mp (Value.str.inj same)) (by decide)

/-- A failure sets its flag, and nothing clears it. -/
theorem onState_failed (gathered : Gathered) (state : Value) :
    (gathered.onState state).failed = true ↔ gathered.failed = true ∨ state = taskFailed := by
  rw [Gathered.onState, taskFailed, ← Value.eq_str_iff]
  split
  · simp [*]
  · split <;> simp [*]

/-- A wait for input sets its flag, and nothing clears it. -/
theorem onState_pending (gathered : Gathered) (state : Value) :
    (gathered.onState state).pending = true ↔ gathered.pending = true ∨ state = inputRequired := by
  rw [Gathered.onState]
  split
  · rename_i failed
    have other : state ≠ inputRequired := by
      rw [(Value.eq_str_iff _ _).mp failed]
      exact taskFailed_ne_inputRequired
    simp [other]
  · rw [inputRequired, ← Value.eq_str_iff]
    split <;> simp [*]

theorem onState_finalText (gathered : Gathered) (state : Value) :
    (gathered.onState state).finalText = gathered.finalText := by
  unfold Gathered.onState
  split
  · rfl
  · split <;> rfl

/-- What has been gathered when some updates are read: a flag is set if its state was ever
reported. -/
structure Gathered.After (before : Gathered) (updates : List Dict) (after : Gathered) : Prop where
  failed : after.failed = true ↔ before.failed = true ∨ taskFailed ∈ reportedStates updates
  pending : after.pending = true ↔ before.pending = true ∨ inputRequired ∈ reportedStates updates
  finalText : after.finalText = before.finalText ++ spoken updates

theorem reportedStates_append (first second : List Dict) :
    reportedStates (first ++ second) = reportedStates first ++ reportedStates second :=
  List.filterMap_append

theorem spoken_append (first second : List Dict) :
    spoken (first ++ second) = spoken first ++ spoken second := List.flatMap_append

theorem Gathered.After.trans {before middle after : Gathered} {first second : List Dict}
    (left : before.After first middle) (right : middle.After second after) :
    before.After (first ++ second) after where
  failed := by
    rw [right.failed, left.failed, reportedStates_append, List.mem_append, or_assoc]
  pending := by
    rw [right.pending, left.pending, reportedStates_append, List.mem_append, or_assoc]
  finalText := by
    rw [right.finalText, left.finalText, spoken_append, List.append_assoc]

/-- An update which is read reports its state, if that is not `None`. -/
theorem mem_reportedStates_singleton {update : Dict} {state reported : Value} {texts : List Value}
    (read : readUpdate update = .ok (state, texts)) (told : reported ≠ .null) :
    reported ∈ reportedStates [update] ↔ state = reported := by
  rw [reportedStates, List.mem_filterMap]
  simp only [List.mem_singleton, exists_eq_left, stateOf, read]
  cases state with
  | null => exact iff_of_false nofun told.symm
  | bool | int | float | str | list | dict => exact Option.some_inj

theorem after_onRead {gathered : Gathered} {update : Dict} {state : Value} {texts : List Value}
    (read : readUpdate update = .ok (state, texts)) :
    gathered.After [update] (gathered.onRead (state, texts)) where
  failed := by
    rw [mem_reportedStates_singleton read (by rintro ⟨⟩), Gathered.onRead, onState_failed]
  pending := by
    rw [mem_reportedStates_singleton read (by rintro ⟨⟩), Gathered.onRead, onState_pending]
  finalText := by
    rw [Gathered.onRead, onState_finalText, spoken, List.flatMap_singleton, textOf, read]

/-- The loop, over updates which can be read. -/
theorem streamUpdates_eq {name : Str} {address : Address} {progress : List Value}
    {contextIds : ContextIds} {gathered : Gathered} {updates : List Dict}
    (readable : ∀ update ∈ updates, Readable update) :
    ∃ after later, gathered.After updates after ∧
      streamUpdates name address progress contextIds gathered updates =
        ⟨progress ++ updates.map (progressEvent name address), later,
          .ok (after.answer name)⟩ := by
  induction updates generalizing progress contextIds gathered with
  | nil =>
      refine ⟨gathered, contextIds, ⟨by simp [reportedStates], by simp [reportedStates],
        (List.append_nil _).symm⟩, ?_⟩
      rw [streamUpdates, List.map_nil, List.append_nil]
  | cons update updates induction =>
      obtain ⟨first, rest⟩ := List.forall_mem_cons.mp readable
      obtain ⟨⟨state, texts⟩, read⟩ := first
      obtain ⟨after, later, gathers, run⟩ := @induction
        (progress ++ [progressEvent name address update])
        (onUpdate contextIds name gathered (.dict update)).1 (gathered.onRead (state, texts)) rest
      refine ⟨after, later, (after_onRead read).trans gathers, ?_⟩
      have round : onUpdate contextIds name gathered (.dict update) =
          ((onUpdate contextIds name gathered (.dict update)).1,
            .ok (gathered.onRead (state, texts))) := by
        refine Prod.ext rfl ?_
        rw [onUpdate_eq, read]
        rfl
      rw [streamUpdates, round]
      dsimp only
      rw [run, List.map_cons, List.append_assoc, List.singleton_append]

/-- A call returns precisely when all of its updates can be read. -/
theorem callSubAgent_returns_iff (name : Str) (address : Address) (progress : List Value)
    (contextIds : ContextIds) (updates : List Dict) :
    (∃ text, (callSubAgent name (.ok address) progress contextIds updates).text = .ok text) ↔
      ∀ update ∈ updates, Readable update := by
  refine ⟨fun returns => ?_, fun readable => ?_⟩
  · rw [callSubAgent] at returns
    generalize (⟨[], false, false⟩ : Gathered) = gathered at returns
    induction updates generalizing progress contextIds gathered with
    | nil => exact List.forall_mem_nil _
    | cons update updates induction =>
        have round := onUpdate_eq contextIds name gathered update
        rw [streamUpdates] at returns
        cases outcome : onUpdate contextIds name gathered (.dict update) with
        | mk later read =>
            rw [outcome] at round returns
            cases readable : readUpdate update with
            | error raised =>
                rw [readable] at round
                obtain rfl : read = .error raised := round
                obtain ⟨_, ⟨⟩⟩ := returns
            | ok pieces =>
                rw [readable] at round
                obtain rfl : read = .ok (gathered.onRead pieces) := round
                exact List.forall_mem_cons.mpr ⟨⟨pieces, readable⟩, induction _ _ _ returns⟩
  · obtain ⟨after, later, _, run⟩ := @streamUpdates_eq name address progress contextIds
      ⟨[], false, false⟩ updates readable
    exact ⟨after.answer name, by rw [callSubAgent, run]⟩

/-! ## The answer -/

theorem answer_eq (gathered : Gathered) (name : Str) :
    gathered.answer name =
      if gathered.failed then unavailable name
      else if gathered.pending then waiting name
      else if gathered.finalText = [] then noResponse name else gathered.finalText := rfl

theorem unavailable_ne_waiting (name : Str) : unavailable name ≠ waiting name := by
  intro same
  have sentences := List.append_cancel_left same
  exact absurd (str_inj.mp sentences) (by decide)

/-- The sentence for a call which said nothing is the shortest. -/
theorem noResponse_ne (name : Str) :
    noResponse name ≠ waiting name ∧ noResponse name ≠ unavailable name := by
  have around : ∀ before after : Str, (before ++ name ++ after).length =
      (before ++ [] ++ after).length + name.length := by
    intro before after
    simp only [List.length_append, List.length_nil]
    omega
  have waits : (noResponse []).length < (waiting []).length := by
    have pieces : ∀ left right : String, str (left ++ right) = str left ++ str right :=
      fun left right => by rw [str, String.toList_append, List.map_append, str, str]
    have silent : (noResponse []).length = 19 := rfl
    have first : (str " needs more time to respond — e.g. it's waiting on human ").length = 57 :=
      rfl
    simp only [waiting, pieces, List.length_append, first, silent]
    omega
  have fails : (noResponse []).length < (unavailable []).length := by decide +kernel
  constructor
  · apply ne_of_apply_ne List.length
    rw [noResponse, around, waiting, around]
    exact ((Nat.add_lt_add_iff_right).mpr waits).ne
  · apply ne_of_apply_ne List.length
    rw [noResponse, around, unavailable, around]
    exact ((Nat.add_lt_add_iff_right).mpr fails).ne

section Telling

variable {name : Str} {states : List Value} {said : Str}

theorem tells_unavailable :
    Tells name states said (unavailable name) ↔ states.getLast? = some taskFailed := by
  constructor
  · exact fun tells => tells.fails.mp rfl
  · intro last
    refine ⟨iff_of_false (unavailable_ne_waiting name) ?_, iff_of_true rfl last,
      fun _ other => absurd last other⟩
    rw [last, Option.some_inj]
    exact taskFailed_ne_inputRequired

theorem tells_waiting :
    Tells name states said (waiting name) ↔ states.getLast? = some inputRequired := by
  constructor
  · exact fun tells => tells.waits.mp rfl
  · intro last
    refine ⟨iff_of_true rfl last, iff_of_false (unavailable_ne_waiting name).symm ?_,
      fun other => absurd last other⟩
    rw [last, Option.some_inj]
    exact taskFailed_ne_inputRequired.symm

theorem tells_said (unfailed : taskFailed ∉ states) (unwaited : inputRequired ∉ states) :
    Tells name states said (if said = [] then noResponse name else said) ↔
      said ≠ waiting name ∧ said ≠ unavailable name := by
  have noWait : states.getLast? ≠ some inputRequired :=
    fun last => unwaited (List.mem_of_getLast? last)
  have noFailure : states.getLast? ≠ some taskFailed :=
    fun last => unfailed (List.mem_of_getLast? last)
  have told : Tells name states said (if said = [] then noResponse name else said) ↔
      (if said = [] then noResponse name else said) ≠ waiting name ∧
        (if said = [] then noResponse name else said) ≠ unavailable name := by
    constructor
    · exact fun tells => ⟨fun same => noWait (tells.waits.mp same),
        fun same => noFailure (tells.fails.mp same)⟩
    · rintro ⟨notWaiting, notUnavailable⟩
      exact ⟨iff_of_false notWaiting noWait, iff_of_false notUnavailable noFailure,
        fun _ _ => rfl⟩
  rw [told]
  by_cases silent : said = []
  · rw [if_pos silent, silent]
    exact iff_of_true (noResponse_ne name) ⟨nofun, nofun⟩
  · rw [if_neg silent]

end Telling

/-- A call whose updates can be read returns, with all of them on the progress queue, and tells the
state it ended in precisely when the flags it set are the last word. -/
theorem reportsFinalState_iff (name : Str) (address : Address) (progress : List Value)
    (contextIds : ContextIds) {updates : List Dict}
    (readable : ∀ update ∈ updates, Readable update) :
    (∃ text, ReportsFinalState name address progress updates
        (callSubAgent name (.ok address) progress contextIds updates) text) ↔
      LastWord name updates := by
  obtain ⟨after, later, gathers, run⟩ := @streamUpdates_eq name address progress contextIds
    ⟨[], false, false⟩ updates readable
  have failed : after.failed = true ↔ taskFailed ∈ reportedStates updates := by
    simpa using gathers.failed
  have pending : after.pending = true ↔ inputRequired ∈ reportedStates updates := by
    simpa using gathers.pending
  have finalText : after.finalText = spoken updates := by simpa using gathers.finalText
  have answers : (∃ text, ReportsFinalState name address progress updates
        (callSubAgent name (.ok address) progress contextIds updates) text) ↔
      Tells name (reportedStates updates) (spoken updates) (after.answer name) := by
    rw [callSubAgent, run]
    constructor
    · rintro ⟨_, returned, _, tells⟩
      obtain rfl := Except.ok.inj returned
      exact tells
    · exact fun tells => ⟨_, rfl, rfl, tells⟩
  rw [answers, answer_eq]
  by_cases anyFailure : taskFailed ∈ reportedStates updates
  · rw [if_pos (failed.mpr anyFailure), tells_unavailable]
    exact ⟨fun last => ⟨fun _ => last, absurd anyFailure, absurd anyFailure⟩,
      fun word => word.failed anyFailure⟩
  · rw [if_neg (failed.not.mpr anyFailure)]
    by_cases anyWait : inputRequired ∈ reportedStates updates
    · rw [if_pos (pending.mpr anyWait), tells_waiting]
      exact ⟨fun last => ⟨fun here => absurd here anyFailure, fun _ _ => last,
        fun _ => absurd anyWait⟩, fun word => word.waited anyFailure anyWait⟩
    · rw [if_neg (pending.not.mpr anyWait), finalText, tells_said anyFailure anyWait]
      exact ⟨fun apart => ⟨fun here => absurd here anyFailure, fun _ here => absurd here anyWait,
        fun _ _ => apart⟩, fun word => word.spoke anyFailure anyWait⟩

/-! A call which asks for input, is answered, and completes. -/

/-- A status update. -/
def statusUpdate (state : String) : Dict :=
  [("statusUpdate", .dict [("status", .dict [("state", .str state)])])]

/-- An artifact update of one text part. -/
def artifactUpdate (text : String) : Dict :=
  [("artifactUpdate", .dict [("artifact", .dict [("parts", .list [.dict [("text", .str text)]])])])]

/-- A call which completes. -/
def completed : List Dict :=
  [statusUpdate "TASK_STATE_WORKING", artifactUpdate "done", statusUpdate "TASK_STATE_COMPLETED"]

theorem reportsFinalState_iff_completed :
    (∃ text, ReportsFinalState "s" ⟨"u", none, none, none⟩ [] completed
        (callSubAgent "s" (.ok ⟨"u", none, none, none⟩) [] ∅ completed) text) ↔
      LastWord "s" completed := by
  refine reportsFinalState_iff "s" ⟨"u", none, none, none⟩ [] ∅ fun update among => ?_
  simp only [completed, List.mem_cons, List.not_mem_nil, or_false] at among
  rcases among with rfl | rfl | rfl
  · exact ⟨_, rfl⟩
  · exact ⟨_, rfl⟩
  · exact ⟨_, rfl⟩

/-- A call which waits for an approval and completes once it has it. -/
def resumed : List Dict :=
  [statusUpdate "TASK_STATE_INPUT_REQUIRED", artifactUpdate "done",
    statusUpdate "TASK_STATE_COMPLETED"]

/-- Its answer is lost: the tool says that it still waits. -/
theorem resumed_waits :
    (callSubAgent "s" (.ok ⟨"u", none, none, none⟩) [] ∅ resumed).text = .ok (waiting "s") ∧
      ¬∃ text, ReportsFinalState "s" ⟨"u", none, none, none⟩ [] resumed
        (callSubAgent "s" (.ok ⟨"u", none, none, none⟩) [] ∅ resumed) text := by
  have answer : (callSubAgent "s" (.ok ⟨"u", none, none, none⟩) [] ∅ resumed).text =
      .ok (waiting "s") := rfl
  refine ⟨answer, ?_⟩
  rintro ⟨text, returned, _, tells⟩
  obtain rfl := Except.ok.inj (answer.symm.trans returned)
  have last : (reportedStates resumed).getLast? = some (.str "TASK_STATE_COMPLETED") := rfl
  have same := last.symm.trans (tells.waits.mp rfl)
  exact absurd (str_inj.mp (Value.str.inj (Option.some.inj same))) (by decide)

end Souk.PydanticAiAgent
