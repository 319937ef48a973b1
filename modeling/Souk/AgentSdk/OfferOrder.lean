import Souk.AgentSdk.Client
import Souk.Library.Records

/-!
# Offers, verdicts and runs

`_offer` answers a `run` frame in the read loop, and the task which `runtime.deliver` starts for
the run reports its events through the same queue.  Nothing in a frame orders the two.  What does
is that `deliver` returns without giving up the event loop once it has started the task, so that
the ack is on the queue before the task has taken its first step.
-/

namespace Souk.AgentSdk

open Souk.Python
open Souk.Sdk

namespace OutboundFrame

/-- The `runId` of an ack. -/
def acked? : OutboundFrame → Option Value
  | ack runId .. => some runId
  | _ => none

/-- The run whose task reports the frame. -/
def reports? : OutboundFrame → Option Str
  | event runId _ | finish runId => some runId
  | _ => none

end OutboundFrame

/-- A `run` frame with a `runId` and a string for its `agentName`. -/
structure RunFrame where
  runId : Value
  agentName : Str

/-- Whether a message is a `run` frame. -/
def isRun (limits : Json.Limits) (raw : Str) : Bool :=
  match Json.loads limits raw with
  | .ok (.dict fields) => (Dict.get fields (str "type")).asStr? = some (str "run")
  | _ => false

/-- The `run` frame which a message holds. -/
def runFrame? (limits : Json.Limits) (raw : Str) : Option RunFrame :=
  match Json.loads limits raw with
  | .ok (.dict fields) =>
      if (Dict.get fields (str "type")).asStr? = some (str "run") then
        (fields.lookup (str "runId")).bind fun runId =>
          (fields.lookup (str "agentName")).bind fun agentName =>
            agentName.asStr?.map fun agentName => ⟨runId, agentName⟩
      else none
  | _ => none

/-- What `runtime.deliver` returns. -/
inductive Delivered where
  | verdict (accepted : Bool)
  | refusal (reason : Str)

/-- What `_offer` makes of it. -/
def Delivered.answer : Delivered → RuntimeAnswer
  | verdict accepted => .verdict accepted
  | refusal reason => .refusal reason

/-- An offer which has been answered. -/
structure Offer where
  runId : Value
  /-- `runtime.deliver` has started a task for the run. -/
  started : Bool

/-- Who puts a frame on the queue. -/
inductive Origin where
  /-- The read loop, for the offer with this position. -/
  | verdict (offer : Nat)
  /-- The task which that offer has started. -/
  | run (offer : Nat)
  | other
  deriving DecidableEq

/-- A provider with the offers it has read. -/
structure Offers where
  provider : SoukProvider
  /-- The offers answered so far, over all connections. -/
  answered : List Offer
  /-- The `run` frame for which the read loop awaits `runtime.deliver`. -/
  delivering : Option (Str × RunFrame)
  /-- History: the `runId` of every `run` frame read. -/
  read : List Value
  /-- History: every frame put on the queue, with who put it there. -/
  log : List (Origin × OutboundFrame)

namespace Offers

/-- A provider which has not been offered anything. -/
def fresh : Offers := ⟨.fresh, [], none, [], []⟩

/-- What can happen to a provider and its offers. -/
inductive Action where
  /-- The read loop reads a `run` frame.  `invalid` is the text of the `ValidationError` with which
  `DeliveredRun.model_validate` refuses the envelope, if it does. -/
  | read (raw : Str) (invalid : Option Str)
  /-- `runtime.deliver` returns, having started a task for the run or not. -/
  | delivered (result : Delivered) (started : Bool)
  /-- The task of a run reports an event. -/
  | report (offer : Nat) (yielded : Event)
  | finish (offer : Nat)
  /-- Anything else: another frame, the writer, a question, the ends of a connection. -/
  | link (action : SoukProvider.Action)

/-- Whether something other than an offer and its run can happen.  While it awaits
`runtime.deliver` the read loop neither reads nor ends. -/
def permits (limits : Json.Limits) (offers : Offers) : SoukProvider.Action → Bool
  | .reportEvent .. | .finishRun .. => false
  | .receive raw _ => offers.delivering.isNone && !isRun limits raw
  | .disconnect => offers.delivering.isNone
  | .threadMessages .. | .connect | .writer _ => true

/-- An action of the provider, on record with its origin. -/
def perform (limits : Json.Limits) (agents : List Str) (offers : Offers) (origin : Origin)
    (action : SoukProvider.Action) : Option Offers :=
  (SoukProvider.step limits agents offers.provider action).map fun provider =>
    { offers with
      provider
      log := offers.log ++ (SoukProvider.puts limits agents action).toList.map (origin, ·) }

/-- The end of `_offer`, with an ack. -/
def reply (limits : Json.Limits) (agents : List Str) (offers : Offers) (raw : Str)
    (frame : RunFrame) (answer : RuntimeAnswer) (started : Bool) : Option Offers :=
  (offers.perform limits agents (.verdict offers.answered.length) (.receive raw answer)).map
    fun next =>
      { next with answered := next.answered ++ [⟨frame.runId, started⟩], delivering := none }

/-- The `runId` under which the task of an offer reports, if there is one. -/
def running (offers : Offers) (index : Nat) : Option Str :=
  (offers.answered[index]?).bind fun offer => if offer.started then offer.runId.asStr? else none

/-- One step of a provider and its offers. -/
def step (limits : Json.Limits) (agents : List Str) (offers : Offers) : Action → Option Offers
  | .read raw invalid =>
      match offers.delivering, runFrame? limits raw with
      | none, some frame =>
          if frame.agentName ∉ agents then
            -- A bare decline: the runtime is not asked.
            { offers with read := offers.read ++ [frame.runId] }.reply limits agents raw frame
              (.verdict false) false
          else
            match invalid, offers.provider.link.writer with
            | some text, _ =>
                { offers with read := offers.read ++ [frame.runId] }.reply limits agents raw frame
                  (.invalid text) false
            | none, .absent => none
            | none, _ =>
                some { offers with
                  read := offers.read ++ [frame.runId]
                  delivering := some (raw, frame) }
      | _, _ => none
  | .delivered result started =>
      offers.delivering.bind fun delivery =>
        offers.reply limits agents delivery.1 delivery.2 result.answer started
  | .report index yielded =>
      (offers.running index).bind fun runId =>
        offers.perform limits agents (.run index) (.reportEvent runId yielded)
  | .finish index =>
      (offers.running index).bind fun runId =>
        offers.perform limits agents (.run index) (.finishRun runId)
  | .link action =>
      if offers.permits limits action then offers.perform limits agents .other action else none

/-- The provider and its offers as a machine. -/
def machine (limits : Json.Limits) (agents : List Str) : Machine Offers Action where
  step := step limits agents

variable {limits : Json.Limits} {agents : List Str} {offers next final : Offers}
  {action : Action} {origin : Origin} {linkAction : SoukProvider.Action} {raw : Str}
  {frame : RunFrame}

/-! ## What the read loop puts on the queue -/

/-- The fields a `run` frame is read from. -/
theorem fields_of_runFrame (held : runFrame? limits raw = some frame) :
    ∃ fields, Json.loads limits raw = .ok (.dict fields) ∧
      (Dict.get fields (str "type")).asStr? = some (str "run") ∧
      fields.lookup (str "runId") = some frame.runId ∧
      fields.lookup (str "agentName") = some (.str frame.agentName) := by
  simp only [runFrame?] at held
  split at held
  · rename_i fields loaded
    split at held
    · rename_i kind
      obtain ⟨runId, identified, held⟩ := Option.bind_eq_some_iff.mp held
      obtain ⟨agentName, named, held⟩ := Option.bind_eq_some_iff.mp held
      obtain ⟨name, text, rfl⟩ := Option.map_eq_some_iff.mp held
      cases agentName with
      | str other =>
          obtain rfl := Option.some.inj text
          exact ⟨fields, loaded, kind, identified, named⟩
      | null | bool | int | float | list | dict => cases text
    · cases held
  · cases held

/-- An offer which the runtime answers gets an ack under its own `runId`. -/
theorem readFrame_runFrame {answer : RuntimeAnswer} (held : runFrame? limits raw = some frame)
    (answered : ∀ error, answer ≠ .raised error) :
    ∃ accepted reason,
      readFrame limits agents raw answer = .ok (some (.ack frame.runId accepted reason)) := by
  obtain ⟨fields, loaded, kind, identified, named⟩ := fields_of_runFrame held
  have offered : ∃ accepted reason,
      offer agents fields answer = .ok (.ack frame.runId accepted reason) := by
    simp only [offer, identified, named, Option.getD_some]
    split
    · exact ⟨_, _, rfl⟩
    · cases answer with
      | raised error => exact absurd rfl (answered error)
      | invalid | verdict | refusal => exact ⟨_, _, rfl⟩
  obtain ⟨accepted, reason, offered⟩ := offered
  refine ⟨accepted, reason, bind_eq_ok.mpr ⟨_, loaded, bind_eq_ok.mpr ⟨_, rfl, ?_⟩⟩⟩
  dsimp only
  rw [if_pos kind]
  exact bind_eq_ok.mpr ⟨_, offered, rfl⟩

/-- Every other message leaves the queue alone. -/
theorem puts_receive_of_not_run {answer : RuntimeAnswer} (other : isRun limits raw = false) :
    SoukProvider.puts limits agents (.receive raw answer) = none := by
  cases read : readFrame limits agents raw answer with
  | error => simp [SoukProvider.puts, read]
  | ok ack =>
      cases ack with
      | none => simp [SoukProvider.puts, read]
      | some ack =>
          obtain ⟨fields, loads, run, _⟩ := readFrame_eq_ok_some read
          simp [isRun, loads, run] at other

theorem reply_eq {answer : RuntimeAnswer} {started : Bool}
    (serving : offers.provider.link.Serving) (held : runFrame? limits raw = some frame)
    (answered : ∀ error, answer ≠ .raised error) :
    ∃ accepted reason, offers.reply limits agents raw frame answer started = some
      { offers with
        provider := offers.provider.put (.ack frame.runId accepted reason)
        answered := offers.answered ++ [⟨frame.runId, started⟩]
        delivering := none
        log := offers.log ++
          [(.verdict offers.answered.length, .ack frame.runId accepted reason)] } := by
  obtain ⟨accepted, reason, read⟩ :=
    @readFrame_runFrame limits agents raw frame answer held answered
  refine ⟨accepted, reason, ?_⟩
  rw [reply, perform, SoukProvider.step_receive serving, read]
  simp [SoukProvider.puts, read]

theorem perform_eq_some (performed : offers.perform limits agents origin linkAction = some next) :
    ∃ provider, SoukProvider.step limits agents offers.provider linkAction = some provider ∧
      next = { offers with
        provider
        log := offers.log ++
          (SoukProvider.puts limits agents linkAction).toList.map (origin, ·) } := by
  obtain ⟨provider, taken, rfl⟩ := Option.map_eq_some_iff.mp performed
  exact ⟨provider, taken, rfl⟩

/-! ## The record of the queue -/

/-- What the record says of the queue and of the offers answered. -/
structure Recorded (offers : Offers) : Prop where
  enqueued : offers.log.map Prod.snd = offers.provider.enqueued
  /-- One ack for each offer, in the order of the offers, and no other ack. -/
  acks : offers.provider.enqueued.filterMap OutboundFrame.acked? = offers.answered.map Offer.runId
  /-- The ack for an offer is ahead of everything its run reports. -/
  verdict : ∀ index offer, offers.answered[index]? = some offer → ∃ accepted reason,
    OpensWith (fun entry => entry.1 = .verdict index) (fun entry => entry.1 = .run index)
      (.verdict index, .ack offer.runId accepted reason) offers.log
  /-- Events and finishes are reported by runs which offers have started. -/
  runs : ∀ origin frame runId, (origin, frame) ∈ offers.log → frame.reports? = some runId →
    ∃ index offer, origin = .run index ∧ offers.answered[index]? = some offer ∧
      offer.started = true ∧ offer.runId = .str runId
  /-- No offer is on record before it is answered. -/
  known : ∀ origin frame, (origin, frame) ∈ offers.log → ∀ index,
    origin = .verdict index ∨ origin = .run index → index < offers.answered.length

theorem recorded_fresh : Recorded fresh where
  enqueued := rfl
  acks := rfl
  verdict := by simp [fresh]
  runs := by simp [fresh]
  known := by simp [fresh]

/-- What the read loop has read and awaits is not on the record. -/
theorem Recorded.reads {read : List Value} {delivering : Option (Str × RunFrame)}
    (recorded : Recorded offers) : Recorded { offers with read, delivering } where
  enqueued := recorded.enqueued
  acks := recorded.acks
  verdict := recorded.verdict
  runs := recorded.runs
  known := recorded.known

/-- An ack for one more offer. -/
theorem Recorded.reply {runId : Value} {started accepted : Bool} {reason : Option Str}
    {read : List Value} (recorded : Recorded offers) :
    Recorded
      { provider := offers.provider.put (.ack runId accepted reason)
        answered := offers.answered ++ [⟨runId, started⟩]
        delivering := none
        read
        log := offers.log ++ [(.verdict offers.answered.length, .ack runId accepted reason)] } where
  enqueued := by simp [recorded.enqueued, SoukProvider.put]
  acks := by simp [recorded.acks, SoukProvider.put, OutboundFrame.acked?]
  verdict := by
    intro index offer found
    rcases getElem?_concat_eq_some.mp found with old | ⟨rfl, rfl⟩
    · obtain ⟨accepted, reason, opened⟩ := recorded.verdict index offer old
      refine ⟨accepted, reason, opened.append ?_⟩
      intro entry member same
      obtain rfl := List.mem_singleton.mp member
      have inside := (List.getElem?_eq_some_iff.mp old).1
      obtain rfl := Origin.verdict.inj same
      exact absurd inside (lt_irrefl _)
    · refine ⟨accepted, reason, opensWith_concat ?_⟩
      rintro ⟨origin, frame⟩ member
      constructor
      · intro same
        exact absurd (recorded.known origin frame member _ (Or.inl same)) (lt_irrefl _)
      · intro same
        exact absurd (recorded.known origin frame member _ (Or.inr same)) (lt_irrefl _)
  runs := by
    intro origin frame runId member reports
    rcases List.mem_append.mp member with old | new
    · obtain ⟨index, offer, own, found, started⟩ := recorded.runs origin frame runId old reports
      exact ⟨index, offer, own, getElem?_append_of_eq_some found, started⟩
    · obtain ⟨rfl, rfl⟩ := Prod.mk.inj (List.mem_singleton.mp new)
      cases reports
  known := by
    intro origin frame member index own
    rw [List.length_append, List.length_singleton]
    rcases List.mem_append.mp member with old | new
    · have before := recorded.known origin frame old index own
      omega
    · obtain ⟨rfl, rfl⟩ := Prod.mk.inj (List.mem_singleton.mp new)
      rcases own with same | impossible
      · have equal := Origin.verdict.inj same
        omega
      · cases impossible

/-- Whatever is not an ack leaves the offers as they are. -/
theorem Recorded.perform (recorded : Recorded offers)
    (foreign : ∀ index, origin ≠ .verdict index)
    (unacked : ∀ frame ∈ SoukProvider.puts limits agents linkAction, frame.acked? = none)
    (runs : ∀ frame ∈ SoukProvider.puts limits agents linkAction, ∀ runId,
      frame.reports? = some runId → ∃ index offer, origin = .run index ∧
        offers.answered[index]? = some offer ∧ offer.started = true ∧ offer.runId = .str runId)
    (known : ∀ index, origin = .run index → index < offers.answered.length)
    (performed : offers.perform limits agents origin linkAction = some next) : Recorded next := by
  obtain ⟨provider, taken, rfl⟩ := perform_eq_some performed
  have enqueued := SoukProvider.step_enqueued taken
  exact {
    enqueued := by simp [enqueued, recorded.enqueued, Function.comp_def]
    acks := by
      have none_acked : (SoukProvider.puts limits agents linkAction).toList.filterMap
          OutboundFrame.acked? = [] := by
        apply List.filterMap_eq_nil_iff.mpr
        intro frame member
        exact unacked frame (Option.mem_toList.mp member)
      rw [enqueued, List.filterMap_append, none_acked, List.append_nil, recorded.acks]
    verdict := by
      intro index offer found
      obtain ⟨accepted, reason, opened⟩ := recorded.verdict index offer found
      refine ⟨accepted, reason, opened.append ?_⟩
      intro entry member same
      obtain ⟨frame, _, rfl⟩ := List.mem_map.mp member
      exact foreign index same
    runs := by
      intro reporter frame runId member reports
      rcases List.mem_append.mp member with old | new
      · exact recorded.runs reporter frame runId old reports
      · obtain ⟨put, puts, same⟩ := List.mem_map.mp new
        obtain ⟨rfl, rfl⟩ := Prod.mk.inj same
        exact runs put (Option.mem_toList.mp puts) runId reports
    known := by
      intro reporter frame member index own
      rcases List.mem_append.mp member with old | new
      · exact recorded.known reporter frame old index own
      · obtain ⟨put, _, same⟩ := List.mem_map.mp new
        obtain ⟨rfl, rfl⟩ := Prod.mk.inj same
        rcases own with same | same
        · exact absurd same (foreign index)
        · exact known index same }

/-! ## Every run of the provider -/

/-- The invariant: the record, the frames read, and the delivery under way. -/
structure Sound (limits : Json.Limits) (offers : Offers) : Prop where
  recorded : Recorded offers
  read : offers.read = offers.answered.map Offer.runId ++
    offers.delivering.toList.map fun delivery => delivery.2.runId
  delivering : ∀ raw frame, offers.delivering = some (raw, frame) →
    offers.provider.link.Serving ∧ runFrame? limits raw = some frame

theorem sound_fresh : Sound limits fresh where
  recorded := recorded_fresh
  read := rfl
  delivering := by simp [fresh]

/-- A task reports under the `runId` of the offer which has started it. -/
theorem running_eq_some {index : Nat} {runId : Str} (running : offers.running index = some runId) :
    ∃ offer, offers.answered[index]? = some offer ∧ offer.started = true ∧
      offer.runId = .str runId := by
  obtain ⟨offer, found, running⟩ := Option.bind_eq_some_iff.mp running
  split at running
  · rename_i started
    refine ⟨offer, found, started, ?_⟩
    cases own : offer.runId with
    | str text =>
        rw [own] at running
        obtain rfl := Option.some.inj running
        rfl
    | null | bool | int | float | list | dict =>
        rw [own] at running
        cases running
  · cases running

theorem Sound.perform (sound : Sound limits offers) (recorded : Recorded next)
    (stays : offers.delivering ≠ none → SoukProvider.leaves limits agents linkAction = false)
    (performed : offers.perform limits agents origin linkAction = some next) :
    Sound limits next := by
  obtain ⟨provider, taken, rfl⟩ := perform_eq_some performed
  refine ⟨recorded, sound.read, ?_⟩
  intro raw frame delivering
  obtain ⟨serving, held⟩ := sound.delivering raw frame delivering
  have delivers : offers.delivering ≠ none := by
    rw [show offers.delivering = some (raw, frame) from delivering]
    simp
  exact ⟨SoukProvider.serving_of_stays (stays delivers) taken serving, held⟩

/-- What the task of a run puts on the queue is not an ack, and goes under its `runId`. -/
theorem Sound.report {index : Nat} {runId : Str} (sound : Sound limits offers)
    (running : offers.running index = some runId)
    (reports : ∀ frame ∈ SoukProvider.puts limits agents linkAction,
      frame.reports? = some runId ∧ frame.acked? = none)
    (stays : SoukProvider.leaves limits agents linkAction = false)
    (performed : offers.perform limits agents (.run index) linkAction = some next) :
    Sound limits next := by
  obtain ⟨offer, found, started, own⟩ := running_eq_some running
  refine sound.perform ?_ (fun _ => stays) performed
  refine sound.recorded.perform (by simp) (fun frame put => (reports frame put).2) ?_ ?_ performed
  · intro frame put reported same
    obtain rfl := Option.some.inj ((reports frame put).1.symm.trans same)
    exact ⟨index, offer, rfl, found, started, own⟩
  · intro reporter same
    obtain rfl := Origin.run.inj same
    exact (List.getElem?_eq_some_iff.mp found).1

theorem Sound.reply {answer : RuntimeAnswer} {started : Bool} (recorded : Recorded offers)
    (read : offers.read = offers.answered.map Offer.runId ++ [frame.runId])
    (held : runFrame? limits raw = some frame) (answered : ∀ error, answer ≠ .raised error)
    (replied : offers.reply limits agents raw frame answer started = some next) :
    Sound limits next := by
  have serving : offers.provider.link.Serving := by
    obtain ⟨after, performed, _⟩ := Option.map_eq_some_iff.mp replied
    obtain ⟨provider, taken, _⟩ := perform_eq_some performed
    exact SoukProvider.serving_of_step (Or.inr ⟨raw, answer, rfl⟩) taken
  obtain ⟨accepted, reason, equal⟩ :=
    @reply_eq limits agents offers raw frame answer started serving held answered
  obtain rfl := Option.some.inj (equal.symm.trans replied)
  exact ⟨recorded.reply, by simp [read], by simp⟩

theorem Sound.step (sound : Sound limits offers)
    (taken : Offers.step limits agents offers action = some next) : Sound limits next := by
  cases action with
  | read raw invalid =>
      simp only [Offers.step] at taken
      split at taken
      · rename_i frame idle held
        have read : offers.read ++ [frame.runId] =
            offers.answered.map Offer.runId ++ [frame.runId] := by simp [sound.read, idle]
        split at taken
        · exact Sound.reply sound.recorded.reads read held (by simp) taken
        · split at taken
          · exact Sound.reply sound.recorded.reads read held (by simp) taken
          · cases taken
          · rename_i serving
            obtain rfl := Option.some.inj taken
            refine ⟨sound.recorded.reads, by simp [read], ?_⟩
            intro delivered other same
            obtain ⟨rfl, rfl⟩ := Prod.mk.inj (Option.some.inj same)
            exact ⟨serving, held⟩
      · cases taken
  | delivered result started =>
      obtain ⟨⟨raw, frame⟩, delivering, replied⟩ := Option.bind_eq_some_iff.mp taken
      obtain ⟨_, held⟩ := sound.delivering raw frame delivering
      refine Sound.reply sound.recorded ?_ held ?_ replied
      · simp [sound.read, delivering]
      · cases result <;> simp [Delivered.answer]
  | report index yielded =>
      obtain ⟨runId, running, performed⟩ := Option.bind_eq_some_iff.mp taken
      refine sound.report running ?_ rfl performed
      intro frame put
      cases dumped : dumpEvent yielded with
      | ok object =>
          simp only [SoukProvider.puts, dumped] at put
          obtain rfl := Option.some.inj put
          exact ⟨rfl, rfl⟩
      | error => simp [SoukProvider.puts, dumped] at put
  | finish index =>
      obtain ⟨runId, running, performed⟩ := Option.bind_eq_some_iff.mp taken
      refine sound.report running ?_ rfl performed
      intro frame put
      obtain rfl := Option.some.inj put
      exact ⟨rfl, rfl⟩
  | link linkAction =>
      simp only [Offers.step] at taken
      split at taken
      · rename_i permitted
        have apart : ∀ frame ∈ SoukProvider.puts limits agents linkAction,
            frame.acked? = none ∧ frame.reports? = none := by
          intro frame put
          cases linkAction with
          | reportEvent | finishRun => cases permitted
          | threadMessages =>
              obtain rfl := Option.some.inj put
              exact ⟨rfl, rfl⟩
          | receive raw answer =>
              have other : isRun limits raw = false := by
                simp only [permits, Bool.and_eq_true, Bool.not_eq_true'] at permitted
                exact permitted.2
              rw [puts_receive_of_not_run other] at put
              cases put
          | connect | writer | disconnect => cases put
        have stays : offers.delivering ≠ none →
            SoukProvider.leaves limits agents linkAction = false := by
          intro delivering
          have awake : offers.delivering.isNone = false := by
            rw [Option.isNone_eq_false_iff, Option.isSome_iff_ne_none]
            exact delivering
          cases linkAction with
          | receive | disconnect => simp [permits, awake] at permitted
          | reportEvent | finishRun | threadMessages | connect | writer => rfl
        refine sound.perform ?_ stays taken
        refine sound.recorded.perform (by simp) (fun frame put => (apart frame put).1) ?_ (by simp)
          taken
        intro frame put runId reports
        rw [(apart frame put).2] at reports
        cases reports
      · cases taken

/-- What the offers of a provider and the frames on its queue come to. -/
structure Ordered (limits : Json.Limits) (agents : List Str) (offers : Offers) : Prop where
  enqueued : offers.log.map Prod.snd = offers.provider.enqueued
  /-- The acks are those of the `run` frames read, one each and in order; only the frame with which
  the read loop awaits the runtime has none yet. -/
  acks : offers.read = offers.provider.enqueued.filterMap OutboundFrame.acked? ++
    offers.delivering.toList.map fun delivery => delivery.2.runId
  /-- It gets its ack as soon as the runtime returns, whatever the verdict. -/
  returns : ∀ raw frame, offers.delivering = some (raw, frame) → ∀ result started,
    ∃ next accepted reason,
      step limits agents offers (.delivered result started) = some next ∧
        next.delivering = none ∧
        next.answered = offers.answered ++ [⟨frame.runId, started⟩] ∧
        next.log = offers.log ++
          [(.verdict offers.answered.length, .ack frame.runId accepted reason)]
  /-- An offer has one verdict, ahead of everything its run reports. -/
  verdict : ∀ index offer, offers.answered[index]? = some offer → ∃ accepted reason,
    OpensWith (fun entry => entry.1 = .verdict index) (fun entry => entry.1 = .run index)
      (.verdict index, .ack offer.runId accepted reason) offers.log
  /-- Every event and every finish is reported by the run which an offer has started. -/
  runs : ∀ origin frame runId, (origin, frame) ∈ offers.log → frame.reports? = some runId →
    ∃ index offer, origin = .run index ∧ offers.answered[index]? = some offer ∧
      offer.started = true ∧ offer.runId = .str runId

/-- In every run each `run` frame gets one verdict, and its run reports behind it. -/
theorem offers_ordered {actions : List Action}
    (execution : (machine limits agents).run fresh actions = some final) :
    Ordered limits agents final := by
  have preserved : ∀ {state next : Offers} {action : Action}, Sound limits state →
      (machine limits agents).step state action = some next → Sound limits next :=
    fun sound taken => sound.step taken
  have sound : Sound limits final := Machine.run_invariant preserved sound_fresh execution
  exact {
    enqueued := sound.recorded.enqueued
    acks := by rw [sound.recorded.acks, sound.read]
    returns := by
      intro raw frame delivering result started
      obtain ⟨serving, held⟩ := sound.delivering raw frame delivering
      have answered : ∀ error, result.answer ≠ .raised error := by
        cases result <;> simp [Delivered.answer]
      obtain ⟨accepted, reason, replied⟩ :=
        @reply_eq limits agents final raw frame result.answer started serving held answered
      have stepped : step limits agents final (.delivered result started) =
          final.reply limits agents raw frame result.answer started := by
        rw [step, delivering, Option.bind_some]
      exact ⟨_, accepted, reason, stepped.trans replied, rfl, rfl, rfl⟩
    verdict := sound.recorded.verdict
    runs := sound.recorded.runs }

/-! An offer whose run reports while another is being offered. -/

/-- `a` is hosted and started; `b` is not, and `a` reports between the two offers. -/
def twoOffers : List Action :=
  [.link .connect,
    .read (str "\x7b\"type\":\"run\",\"runId\":\"r1\",\"agentName\":\"a\"\x7d") none,
    .delivered (.verdict true) true, .report 0 (.plain .none),
    .read (str "\x7b\"type\":\"run\",\"runId\":\"r2\",\"agentName\":\"b\"\x7d") none,
    .finish 0]

def afterTwoOffers : Offers where
  provider := ⟨⟨[.ack (.str (str "r1")) true none, .event (str "r1") .none,
      .ack (.str (str "r2")) false none, .finish (str "r1")], .getting, true, [],
    [.ack (.str (str "r1")) true none, .event (str "r1") .none,
      .ack (.str (str "r2")) false none, .finish (str "r1")]⟩, [],
    [.ack (.str (str "r1")) true none, .event (str "r1") .none,
      .ack (.str (str "r2")) false none, .finish (str "r1")]⟩
  answered := [⟨.str (str "r1"), true⟩, ⟨.str (str "r2"), false⟩]
  delivering := none
  read := [.str (str "r1"), .str (str "r2")]
  log := [(.verdict 0, .ack (.str (str "r1")) true none), (.run 0, .event (str "r1") .none),
    (.verdict 1, .ack (.str (str "r2")) false none), (.run 0, .finish (str "r1"))]

theorem twoOffers_ordered : Ordered Json.defaultLimits [str "a"] afterTwoOffers :=
  @offers_ordered Json.defaultLimits [str "a"] afterTwoOffers twoOffers rfl

end Offers
end Souk.AgentSdk
