import Souk.AgentSdk.Delivery
import Souk.Library.Reconnection
import Souk.ProviderSession.Frames

/-!
# A provider and its connections

A provider with every connection it opens, and the gateway's handler at the other end of each.  The
queue outlives the connections; a handler may still read what an earlier connection carried while a
later one is served.  Each handler keeps a record of what it has told core and of the records of
core which it has seen.
-/

namespace Souk.ProviderSession

open Souk.Python
open Souk.Sdk
open Souk.Server (RawMessage Record)
open Souk.Server.WsProvider (Contract ProviderLink)
open Souk.AgentSdk (OutboundFrame Queries SoukProvider)

/-! ## The handler -/

/-- The handler of one connection. -/
structure Handler where
  link : ProviderLink
  /-- History: what it has told core. -/
  told : List Report
  /-- History: the records which core has had, the present one last. -/
  records : List Record

/-- What a step of the handler tells core. -/
def told (contract : Contract) (limits : Json.Limits) : Server.WsProvider.Action → Option Report
  | .receive message _ => tells contract limits message
  | _ => none

/-- The record a step brings. -/
def brings : Server.WsProvider.Action → Option Record
  | .recordChanges record => some record
  | _ => none

namespace Handler

def step (contract : Contract) (limits : Json.Limits) (handler : Handler)
    (action : Server.WsProvider.Action) : Option Handler :=
  (ProviderLink.step contract limits handler.link action).map fun link =>
    { link
      told := handler.told ++ (ProviderSession.told contract limits action).toList
      records := handler.records ++ (brings action).toList }

/-- The messages which the handler reads. -/
def hears : Server.WsProvider.Action → Option RawMessage
  | .receive .disconnect _ => none
  | .receive message _ => some message
  | _ => none

/-- What has been written on a link stays written. -/
theorem wire_grows {contract : Contract} {limits : Json.Limits} {handler next : Handler}
    {action : Server.WsProvider.Action}
    (taken : handler.step contract limits action = some next) :
    handler.link.wire <+: next.link.wire := by
  obtain ⟨link, stepped, rfl⟩ := Option.map_eq_some_iff.mp taken
  cases ProviderLink.moves_of_step stepped with
  | wrote => exact List.prefix_append _ _
  | left | received | called | answered | sent | queried | raised | silenced | aside =>
      exact List.prefix_rfl

/-- The handler as a party of its connection. -/
def party (contract : Contract) (limits : Json.Limits) :
    Party Handler Server.WsProvider.Action Server.WsProvider.OutboundFrame RawMessage where
  machine := ⟨step contract limits⟩
  sent handler := handler.link.wire
  hears := hears
  grows := wire_grows

/-- A handler which has been told nothing and asked nothing. -/
structure Fresh (handler : Handler) : Prop where
  told : handler.told = []
  records : handler.records = [handler.link.record]
  queries : handler.link.socket.queries = []
  unanswered : ∀ queryId answer,
    .queryResult queryId answer ∉ handler.link.wire ++ handler.link.socket.outbound

end Handler

/-! ## The provider -/

/-- The frame an action has the writer take to its socket. -/
def takes (limits : Json.Limits) (provider : SoukProvider) :
    SoukProvider.Action → Option OutboundFrame
  | .writer .get =>
      match provider.link.writer, provider.link.outbound with
      | .getting, frame :: _ => if OutboundFrame.serializes limits frame then some frame else none
      | _, _ => none
  | _ => none

/-- The provider with its questions as the caller of its connections. -/
def caller (limits : Json.Limits) (agents : List Str) :
    Caller Queries Queries.Action OutboundFrame Str where
  machine := Queries.machine limits agents
  opens
    | .link .connect => true
    | _ => false
  takes queries
    | .link action => takes limits queries.provider action
    | _ => none
  hears
    | .link (.receive raw _) => some raw
    | _ => none

/-- A provider with its connections. -/
abbrev Session := Reconnecting Queries Handler OutboundFrame Server.WsProvider.OutboundFrame

/-- What can happen to a session. -/
abbrev Action := Reconnecting.Action Queries.Action Server.WsProvider.Action Handler OutboundFrame
  Server.WsProvider.OutboundFrame

/-- A provider and its connections as a machine. -/
noncomputable def machine (contract : Contract) (encoder : Json.Encoder) (limits : Json.Limits)
    (agents : List Str) : Machine Session Action :=
  Reconnecting.machine (caller limits agents) (Handler.party contract limits)
    (ReachesGateway encoder limits) (ReachesProvider encoder limits) Handler.Fresh

/-- A provider which has not yet been connected. -/
def unconnected : Session := ⟨.fresh, []⟩

/-! ## What a step does to the provider -/

/-- What the provider does between the opening of two connections. -/
inductive Turn (limits : Json.Limits) (provider : SoukProvider) :
    Option OutboundFrame → SoukProvider → Prop
  | puts (frame : OutboundFrame) : Turn limits provider none (provider.put frame)
  | rests : Turn limits provider none provider
  | leaves : Turn limits provider none provider.leave
  | writes {writerStep : WriterStep} {link : Link OutboundFrame}
      (advanced : provider.link.advance (OutboundFrame.serializes limits) writerStep = some link) :
      Turn limits provider (takes limits provider (.writer writerStep)) { provider with link }

theorem turn_of_step {limits : Json.Limits} {agents : List Str} {provider next : SoukProvider}
    {action : SoukProvider.Action} (other : action ≠ .connect)
    (taken : SoukProvider.step limits agents provider action = some next) :
    Turn limits provider (takes limits provider action) next := by
  cases action with
  | connect => exact absurd rfl other
  | reportEvent runId yielded =>
      cases dumped : AgentSdk.dumpEvent yielded with
      | ok object =>
          simp only [SoukProvider.step, dumped, Option.some.injEq] at taken
          subst taken
          exact .puts _
      | error error =>
          simp only [SoukProvider.step, dumped, Option.some.injEq] at taken
          subst taken
          exact .rests
  | finishRun | threadMessages =>
      obtain rfl := Option.some.inj taken
      exact .puts _
  | receive raw answer =>
      rw [SoukProvider.step_receive (SoukProvider.serving_of_step (.inr ⟨raw, answer, rfl⟩) taken)]
        at taken
      split at taken
      · obtain rfl := Option.some.inj taken
        exact .puts _
      · obtain rfl := Option.some.inj taken
        exact .rests
      · obtain rfl := Option.some.inj taken
        exact .leaves
  | writer writerStep =>
      obtain ⟨link, advanced, rfl⟩ := Option.map_eq_some_iff.mp taken
      exact .writes advanced
  | disconnect =>
      have serving := SoukProvider.serving_of_step (.inl rfl) taken
      simp only [SoukProvider.step] at taken
      split at taken
      · cases taken
      · obtain rfl := Option.some.inj taken
        exact .leaves

/-- A step of the provider with its questions is a turn of the provider. -/
theorem turn_of_queries {limits : Json.Limits} {agents : List Str} {queries next : Queries}
    {action : Queries.Action} (stays : (caller limits agents).opens action = false)
    (taken : (caller limits agents).machine.step queries action = some next) :
    Turn limits queries.provider ((caller limits agents).takes queries action) next.provider := by
  cases action with
  | link action =>
      have other : action ≠ .connect := by
        rintro rfl
        cases stays
      simp only [caller, Queries.machine, Queries.step] at taken
      split at taken
      · obtain ⟨provider, stepped, rfl⟩ := Option.map_eq_some_iff.mp taken
        exact turn_of_step other stepped
      · cases taken
  | expire index | cancelCall index =>
      obtain ⟨call, found, rfl⟩ := Option.map_eq_some_iff.mp taken
      exact .rests
  | wake index =>
      obtain ⟨call, found, woken⟩ := Option.bind_eq_some_iff.mp taken
      obtain ⟨outcome, wakes, rfl⟩ := Option.map_eq_some_iff.mp woken
      exact .rests

/-! ## The lines -/

/-- The lines of a provider: what has been sent has been on them, and they hold with the queue
behind them what was enqueued, in order. -/
structure Carried (provider : SoukProvider) (lines : List OutboundFrame) : Prop where
  sent : (provider.delivered ++ provider.link.writer.hand.toList).Sublist lines
  ordered : (lines ++ provider.link.outbound).Sublist provider.enqueued
  between : provider.link.writer = .absent → provider.link.sent = []

namespace Carried

variable {limits : Json.Limits} {provider next : SoukProvider} {lines : List OutboundFrame}

theorem fresh : Carried .fresh [] where
  sent := .slnil
  ordered := .slnil
  between := fun _ => rfl

theorem connect (carried : Carried provider lines) (absent : provider.link.writer = .absent) :
    Carried { provider with link := provider.link.start } lines where
  sent := by
    have sent := carried.sent
    rwa [SoukProvider.delivered, carried.between absent, absent] at sent
  ordered := carried.ordered
  between := fun _ => rfl

/-- The writer's steps move frames from the queue to the line in order, or drop them. -/
theorem writes {writerStep : WriterStep} {link : Link OutboundFrame}
    (carried : Carried provider lines)
    (advanced : provider.link.advance (OutboundFrame.serializes limits) writerStep = some link) :
    Carried { provider with link }
      (lines ++ (takes limits provider (.writer writerStep)).toList) := by
  have sent := carried.sent
  have ordered := carried.ordered
  have serving := Link.advance_serving advanced
  have between : link.writer = .absent → link.sent = [] := fun absent => absurd absent serving
  obtain ⟨lost, advances, -⟩ := Link.advance_cases advanced
  cases advances with
  | @takes frame rest getting waiting encodes =>
      have taken : takes limits provider (.writer .get) = some frame := by
        simp only [takes, getting, waiting, encodes, if_true]
      have idle : provider.link.writer.hand = none := by
        rw [getting]
        rfl
      rw [taken]
      refine ⟨?_, ?_, between⟩
      · rw [idle, Option.toList_none, List.append_nil] at sent
        exact sent.append (List.Sublist.refl [frame])
      · rw [Option.toList_some, List.append_assoc]
        rwa [waiting] at ordered
  | @refuses frame rest getting waiting refused =>
      have taken : takes limits provider (.writer .get) = none := by
        simp only [takes, getting, waiting, refused, Bool.false_eq_true, if_false]
      rw [taken, Option.toList_none, List.append_nil]
      rw [getting] at sent
      rw [waiting] at ordered
      exact ⟨sent, ((List.sublist_cons_self frame rest).append_left _).trans ordered, between⟩
  | @returns frame sending accepts =>
      have taken : takes limits provider (.writer .sendReturns) = none := rfl
      rw [taken, Option.toList_none, List.append_nil]
      rw [sending] at sent
      refine ⟨?_, ordered, between⟩
      have idle : (Writer.getting : Writer OutboundFrame).hand = none := rfl
      rwa [SoukProvider.delivered, ← List.append_assoc, idle, Option.toList_none, List.append_nil]
  | @raises frame sending =>
      have taken : takes limits provider (.writer .sendRaises) = none := rfl
      rw [taken, Option.toList_none, List.append_nil]
      exact ⟨((List.nil_sublist _).append_left _).trans sent, ordered, between⟩
  | closes =>
      have taken : takes limits provider (.writer .socketCloses) = none := rfl
      rw [taken, Option.toList_none, List.append_nil]
      exact ⟨sent, ordered, between⟩

theorem turn {taken : Option OutboundFrame} (carried : Carried provider lines)
    (turn : Turn limits provider taken next) : Carried next (lines ++ taken.toList) := by
  cases turn with
  | puts frame =>
      rw [Option.toList_none, List.append_nil]
      refine ⟨carried.sent, ?_, carried.between⟩
      have longer := carried.ordered.append (List.Sublist.refl [frame])
      rwa [List.append_assoc] at longer
  | rests =>
      rw [Option.toList_none, List.append_nil]
      exact carried
  | leaves =>
      rw [Option.toList_none, List.append_nil]
      have dropped : provider.leave.delivered = provider.delivered := by
        simp [SoukProvider.delivered, SoukProvider.leave, Link.stop]
      refine ⟨?_, carried.ordered, fun _ => rfl⟩
      rw [dropped]
      exact ((List.nil_sublist _).append_left _).trans carried.sent
  | writes advanced => exact carried.writes advanced

end Carried

/-- Only a served connection is written on. -/
theorem serving_of_takes {limits : Json.Limits} {provider : SoukProvider}
    {action : SoukProvider.Action} {frame : OutboundFrame}
    (taken : takes limits provider action = some frame) : provider.link.Serving := by
  intro absent
  unfold takes at taken
  split at taken
  · simp [absent] at taken
  · cases taken

theorem Turn.serving {limits : Json.Limits} {provider next : SoukProvider}
    {taken : Option OutboundFrame} (turn : Turn limits provider taken next)
    (serving : next.link.Serving) : provider.link.Serving := by
  cases turn with
  | puts | rests => exact serving
  | leaves => exact absurd rfl serving
  | writes advanced =>
      obtain ⟨lost, advances, -⟩ := Link.advance_cases advanced
      intro absent
      cases advances with
      | takes getting | refuses getting => exact absurd (absent.symm.trans getting) (by simp)
      | returns sending | raises sending => exact absurd (absent.symm.trans sending) (by simp)
      | closes served => exact served absent

/-! ## Sessions -/

/-- What holds of a provider and its lines in every state of a session. -/
structure Connected (session : Session) : Prop where
  carried : Carried session.caller.provider session.lines
  opened : session.caller.provider.link.Serving → session.connections ≠ []

section Session

variable {contract : Contract} {encoder : Json.Encoder} {limits : Json.Limits}
  {agents : List Str} {session next : Session} {action : Action}

theorem connected_unconnected : Connected unconnected where
  carried := .fresh
  opened := fun serving => absurd rfl serving

/-- The opening of a connection is the start of a writer. -/
theorem connected_opens {queries after : Queries} {action : Queries.Action}
    (opens : (caller limits agents).opens action = true)
    (taken : (caller limits agents).machine.step queries action = some after) :
    queries.provider.link.writer = .absent ∧
      after.provider = { queries.provider with link := queries.provider.link.start } := by
  cases action with
  | link action =>
      cases action with
      | connect =>
          simp only [caller, Queries.machine, Queries.step] at taken
          split at taken
          · obtain ⟨provider, stepped, rfl⟩ := Option.map_eq_some_iff.mp taken
            simp only [SoukProvider.step] at stepped
            split at stepped
            · rename_i absent
              exact ⟨absent, (Option.some.inj stepped).symm⟩
            · cases stepped
          · cases taken
      | reportEvent | finishRun | threadMessages | receive | writer | disconnect => cases opens
  | expire | cancelCall | wake => cases opens

theorem Connected.step (connected : Connected session)
    (moves : session.Moves (caller limits agents) (Handler.party contract limits)
      (ReachesGateway encoder limits) (ReachesProvider encoder limits) Handler.Fresh action next) :
    Connected next := by
  cases moves with
  | @opened connection _ after opens opened taken =>
      obtain ⟨absent, provider⟩ := connected_opens opens taken
      have lines : (Reconnecting.mk after (connection :: session.connections)).lines =
          session.lines := by
        simp [Reconnecting.lines, opened.line]
      refine ⟨?_, fun _ => List.cons_ne_nil _ _⟩
      rw [lines, provider]
      exact connected.carried.connect absent
  | @acted action after stays quiet taken =>
      have turn := turn_of_queries stays taken
      refine ⟨?_, fun serving => ?_⟩
      · rw [Reconnecting.lines_carry]
        · exact connected.carried.turn turn
        · intro frame among
          refine connected.opened ?_
          cases action with
          | link action => exact serving_of_takes (Option.mem_def.mp among)
          | expire | cancelCall | wake => cases among
      · exact Reconnecting.carry_ne_nil (connected.opened (turn.serving serving))
  | @heard action after message entry stays hearing awaited carried taken =>
      have silent : (caller limits agents).takes session.caller action = none := by
        cases action with
        | link action =>
            cases action with
            | receive raw answer => rfl
            | reportEvent | finishRun | threadMessages | connect | writer | disconnect =>
                cases hearing
        | expire | cancelCall | wake => cases hearing
      have turn := turn_of_queries stays taken
      rw [silent] at turn
      refine ⟨?_, fun serving => ?_⟩
      · rw [Reconnecting.lines_listen]
        simpa using connected.carried.turn turn
      · exact Reconnecting.listen_ne_nil (connected.opened (turn.serving serving))
  | served found moves =>
      refine ⟨?_, fun serving empty => ?_⟩
      · rw [Reconnecting.lines_served found]
        exact connected.carried
      · exact connected.opened serving (List.set_eq_nil_iff _ _ |>.mp empty)

end Session

end Souk.ProviderSession
