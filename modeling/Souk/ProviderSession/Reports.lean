import Souk.ProviderSession.Session

/-!
# Reports over reconnections

Core is told, on each connection without a gap from its first frame on, the reports in the order in
which the agents made them.  Taken connection by connection they keep this order, and none is told
twice; in time an old handler may still tell core of what it has read.
-/

namespace Souk.ProviderSession

open Souk.Python
open Souk.Server (RawMessage)
open Souk.Server.WsProvider (Contract CoreReplies ProviderSocket)
open Souk.AgentSdk (OutboundFrame SoukProvider)

variable {contract : Contract} {encoder : Json.Encoder} {limits : Json.Limits}
  {agents : List Str} {session next : Session} {action : Action}

/-- The reports which core has been told, connection by connection. -/
def reports (session : Session) : List Report :=
  session.connections.reverse.flatMap fun connection => connection.server.told

/-- A handler has told core what it has heard. -/
def Reported (contract : Contract) (encoder : Json.Encoder)
    (connection : Exchange Handler OutboundFrame Server.WsProvider.OutboundFrame) : Prop :=
  connection.server.told = connection.heard.filterMap (report? contract encoder)

theorem kept_reported : Reconnecting.Kept (caller limits agents) (Handler.party contract limits)
    (ReachesGateway encoder limits) Handler.Fresh (Reported contract encoder) where
  opened connection opened := by
    rw [Reported, opened.heard, opened.fresh.told, List.filterMap_nil]
  carried connection entry reported := reported
  read connection entry reported awaited := reported
  served connection action handler heard reported moves := by
    have stepped : connection.server.step contract limits action = some handler := moves.taken
    obtain ⟨link, _, rfl⟩ := Option.map_eq_some_iff.mp stepped
    rw [Reported] at reported
    cases moves with
    | acts quiet =>
        have silent : told contract limits action = none := by
          cases action with
          | receive message core =>
              cases message with
              | disconnect => rfl
              | text | bytes => cases quiet
          | _ => rfl
        rw [Reported, silent, reported, Option.toList_none, List.append_nil]
    | @hears message frame hearing awaited reaches =>
        have tells : told contract limits action = report? contract encoder frame := by
          cases action with
          | receive heard core =>
              cases heard with
              | disconnect => cases hearing
              | text | bytes =>
                  obtain rfl := Option.some.inj hearing
                  exact tells_of_reaches reaches
          | _ => cases hearing
        rw [Reported, tells, reported, List.filterMap_append, List.filterMap_cons,
          List.filterMap_nil]
        cases report? contract encoder frame <;> rfl

/-- What every state of a session keeps. -/
structure Reporting (contract : Contract) (encoder : Json.Encoder) (limits : Json.Limits)
    (session : Session) : Prop where
  connected : Connected session
  sound : ∀ connection ∈ session.connections,
    Reconnecting.Sound (Handler.party contract limits) connection
  reported : ∀ connection ∈ session.connections, Reported contract encoder connection

theorem Reporting.step (reporting : Reporting contract encoder limits session)
    (taken : (machine contract encoder limits agents).step session action = some next) :
    Reporting contract encoder limits next := by
  have moves := Reconnecting.moves_of_step taken
  exact ⟨reporting.connected.step moves, Reconnecting.kept_sound.step reporting.sound moves,
    kept_reported.step reporting.reported moves⟩

theorem reporting_unconnected : Reporting contract encoder limits unconnected where
  connected := connected_unconnected
  sound := List.forall_mem_nil _
  reported := List.forall_mem_nil _

/-! ## What core is told -/

/-- What core has been told of a provider. -/
structure Told (contract : Contract) (encoder : Json.Encoder) (limits : Json.Limits)
    (session : Session) : Prop where
  /-- What a message has core told is all that its core matters to: a read loop does the same
  whichever of two cores it has which answer that alike. -/
  heeds : ∀ (left right : CoreReplies) (socket : ProviderSocket) (message : RawMessage),
    (∀ report ∈ tells contract limits message, Agree left right report) →
      socket.receive contract limits left message = socket.receive contract limits right message
  /-- On each connection, from its first frame on and without a gap. -/
  gapless : ∀ connection ∈ session.connections,
    connection.server.told <+: connection.line.filterMap (report? contract encoder)
  /-- Taken connection by connection, in order and nothing twice. -/
  inOrder : (reports session).Sublist
    (session.caller.provider.enqueued.filterMap (report? contract encoder))
  /-- And all of it, once nothing waits, no line has been cut and no frame lost. -/
  whole : session.caller.provider.NothingLost → session.caller.provider.link.outbound = [] →
    (∀ connection ∈ session.connections, connection.heard = connection.line) →
    reports session = session.caller.provider.enqueued.filterMap (report? contract encoder)

/-- A question which is lost takes no report with it. -/
theorem reports_of_filter (frames : List OutboundFrame) :
    (frames.filter OutboundFrame.outlivesConnection).filterMap (report? contract encoder) =
      frames.filterMap (report? contract encoder) := by
  rw [List.filterMap_filter]
  refine List.filterMap_congr fun frame _ => ?_
  cases frame with
  | query queryId threadId limit =>
      rw [report?_query]
      rfl
  | _ => rfl

namespace Reporting

theorem reports_eq (reporting : Reporting contract encoder limits session) :
    reports session = (session.connections.reverse.flatMap Exchange.heard).filterMap
      (report? contract encoder) := by
  rw [reports, List.filterMap_flatMap]
  refine List.flatMap_congr fun connection among => ?_
  exact reporting.reported connection (List.mem_reverse.mp among)

theorem heard_sublist (reporting : Reporting contract encoder limits session) :
    (session.connections.reverse.flatMap Exchange.heard).Sublist session.lines := by
  refine List.Sublist.flatMap_right _ fun connection among => ?_
  exact (reporting.sound connection (List.mem_reverse.mp among)).heard.sublist

theorem lines_sublist (reporting : Reporting contract encoder limits session) :
    session.lines.Sublist session.caller.provider.enqueued :=
  (List.sublist_append_left _ _).trans reporting.connected.carried.ordered

/-- Where nothing waits and nothing is lost, the lines have carried every frame but questions. -/
theorem lines_whole (reporting : Reporting contract encoder limits session)
    (nothingLost : session.caller.provider.NothingLost)
    (empty : session.caller.provider.link.outbound = []) :
    session.lines.filter OutboundFrame.outlivesConnection =
      session.caller.provider.enqueued.filter OutboundFrame.outlivesConnection := by
  apply List.Sublist.antisymm
  · exact reporting.lines_sublist.filter _
  · have accounted : (session.caller.provider.delivered ++
        session.caller.provider.link.writer.hand.toList).filter OutboundFrame.outlivesConnection =
        session.caller.provider.enqueued.filter OutboundFrame.outlivesConnection := by
      rwa [SoukProvider.NothingLost, SoukProvider.accounted, empty, List.append_nil]
        at nothingLost
    rw [← accounted]
    exact reporting.connected.carried.sent.filter _

theorem toldOf (reporting : Reporting contract encoder limits session) :
    Told contract encoder limits session where
  heeds _ _ _ _ agree := receive_congr agree
  gapless := by
    intro connection among
    have reported := reporting.reported connection among
    rw [Reported] at reported
    rw [reported]
    exact (reporting.sound connection among).heard.filterMap _
  inOrder := by
    rw [reporting.reports_eq]
    exact (reporting.heard_sublist.trans reporting.lines_sublist).filterMap _
  whole := by
    intro nothingLost empty heard
    have lines : session.connections.reverse.flatMap Exchange.heard = session.lines :=
      List.flatMap_congr fun connection among => heard connection (List.mem_reverse.mp among)
    rw [reporting.reports_eq, lines, ← reports_of_filter, reporting.lines_whole nothingLost empty,
      reports_of_filter]

end Reporting

/-- Core is told what the agents report, once and, taken connection by connection, in the order in
which they report it, over any number of connections and whatever the interleaving of the provider,
its writers and the handlers. -/
theorem told_of_run {actions : List Action}
    (execution : (machine contract encoder limits agents).run unconnected actions =
      some session) : Told contract encoder limits session :=
  (Machine.run_invariant Reporting.step reporting_unconnected execution).toldOf

/-! A finish, up to where core is told of it. -/

/-- The frame `{"type": "finish", "runId": "r"}`. -/
def finishFrame : Str := "\x7b\"type\": \"finish\", \"runId\": \"r\"\x7d"

/-- A core which knows the thread `t` of the agent `a` of the key `k`, with one message. -/
def oneThread : Server.Record where
  getThread threadId := if threadId = str "t" then some ⟨"k", "a"⟩ else none
  partiesOf _ := none
  getThreadMessages _ := [.str "hello"]
  listsAgent _ _ := true

/-- The link of that key when its welcome has been written. -/
def welcomedLink : Server.WsProvider.ProviderLink :=
  { Server.WsProvider.ProviderLink.opened "k" "f" "s" oneThread with
    socket := ⟨"k", [], [], [], []⟩
    wire := [.welcome "f" "s"] }

/-- A connection which that key has just opened. -/
def opening : Exchange Handler OutboundFrame Server.WsProvider.OutboundFrame :=
  ⟨⟨welcomedLink, [], [oneThread]⟩, [], [], [.welcome "f" "s"]⟩

theorem opened_opening : Reconnecting.Opened
    (Handler.party Server.WsProvider.plainContract Json.defaultLimits) Handler.Fresh opening where
  line := rfl
  heard := rfl
  read := List.prefix_rfl
  fresh := ⟨rfl, rfl, rfl, by simp [opening, welcomedLink]⟩

/-- A run is reported as finished. -/
def finishRun : List Action :=
  [.opens opening (.link .connect), .caller (.link (.finishRun "r")),
    .caller (.link (.writer .get)),
    .server 0 (.receive (.text finishFrame) Server.WsProvider.plainCore)]

theorem finishRun_told : ∃ session,
    (machine Server.WsProvider.plainContract Json.floatless Json.defaultLimits []).run unconnected
      finishRun = some session ∧
    reports session = [.finish (.str "r")] ∧
    Told Server.WsProvider.plainContract Json.floatless Json.defaultLimits session := by
  have reaches : ReachesGateway Json.floatless Json.defaultLimits (.finish "r")
      (.text finishFrame) := ⟨_, rfl, rfl⟩
  obtain ⟨session, execution, told⟩ : ∃ session,
      (machine Server.WsProvider.plainContract Json.floatless Json.defaultLimits []).run
        unconnected finishRun = some session ∧ reports session = [.finish (.str "r")] := by
    exact ⟨_, Reconnecting.run_cons_of_moves (.opened rfl opened_opening rfl) <|
      Reconnecting.run_cons_of_moves (.acted rfl rfl rfl) <|
      Reconnecting.run_cons_of_moves (.acted rfl rfl rfl) <|
      Reconnecting.run_cons_of_moves (.served rfl (.hears rfl rfl reaches rfl)) rfl, rfl⟩
  exact ⟨session, execution, told, told_of_run execution⟩

end Souk.ProviderSession
