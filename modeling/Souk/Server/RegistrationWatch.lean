import Souk.Server.ProviderOrder
import Souk.Server.ProviderRosters

/-!
# The registration watcher

The watcher closes a link of which core lists no agent any more.  It takes the names of the link and
looks them up one after the other, while the read loop and core go on: a pass which has found
nothing so far may be looking for names which are not the link's any more, or have come back behind
it.
-/

namespace Souk.Server.WsProvider

open Souk.Python

/-- The names which a pass that has found nothing is yet to look up. -/
def Watcher.unread : Watcher → Option (List Str)
  | .asking (name :: names) false => some (name :: names)
  | .answered false names false => some names
  | _ => none

namespace ProviderLink

/-- Core lists the agent of this link. -/
def lists (link : ProviderLink) (name : Str) : Bool :=
  link.record.listsAgent link.socket.publicKey name

/-- The link has names, and core lists none of them. -/
def Lost (link : ProviderLink) : Prop :=
  link.registeredNames ≠ [] ∧ ∀ name ∈ link.registeredNames, link.lists name = false

/-- The step enqueues a close only on a link which has lost every name. -/
def ClosesOnlyLost (contract : Contract) (limits : Json.Limits) (link : ProviderLink)
    (action : Action) : Prop :=
  ∀ next code reason, step contract limits link action = some next →
    next.socket.outbound = link.socket.outbound ++ [.close code reason] → link.Lost

/-- The link has names, and core lists none of them but among those the pass is yet to look up. -/
def Covered (link : ProviderLink) (names : List Str) : Prop :=
  link.registeredNames ≠ [] ∧
    ∀ name ∈ link.registeredNames, link.lists name = true → name ∈ names

/-- While a pass has found nothing, the names of the link do not run out, and none becomes listed or
registered which is listed and registered then and which the pass does not look up any more. -/
def Steady (link : ProviderLink) : Action → Prop
  | .recordChanges record =>
      ∀ names, link.watcher.unread = some names → ∀ name ∈ link.registeredNames,
        record.listsAgent link.socket.publicKey name = true → name ∈ names
  | .answer core =>
      ∀ names call, link.watcher.unread = some names → link.loop = .awaiting call →
        let registered := (link.socket.tables.after core call).registeredNames
        registered ≠ [] ∧ ∀ name ∈ registered, link.lists name = true → name ∈ names
  | _ => True

/-- Between two passes, or as long as a pass has all names before it which core lists. -/
def InPass (link : ProviderLink) : Prop :=
  ∀ names, link.watcher.unread = some names → link.Covered names

/-! ## What a step does to the watcher -/

section Steps

variable {contract : Contract} {limits : Json.Limits} {link next : ProviderLink} {action : Action}

/-- The frames behind the first ones are not one close. -/
def Unclosed (before after : List OutboundFrame) : Prop :=
  ∀ code reason, after ≠ before ++ [.close code reason]

theorem unclosed_same (frames : List OutboundFrame) : Unclosed frames frames := by
  intro code reason same
  exact absurd (List.self_eq_append_right.mp same) (List.cons_ne_nil _ _)

theorem unclosed_shorter (frame : OutboundFrame) (rest : List OutboundFrame) :
    Unclosed (frame :: rest) rest := by
  intro code reason same
  have lengths := congrArg List.length same
  simp at lengths
  omega

theorem unclosed_send (frames : List OutboundFrame) {frame : OutboundFrame}
    (opened : ∀ code reason, frame ≠ .close code reason) : Unclosed frames (frames ++ [frame]) := by
  intro code reason same
  exact opened code reason (List.singleton_inj.mp (List.append_cancel_left same))

theorem unclosed_of_grows {socket grown : ProviderSocket}
    (grows : ProviderSocket.Grows socket grown) : Unclosed socket.outbound grown.outbound := by
  obtain ⟨replies, outbound, reply⟩ := grows.outbound
  intro code reason same
  rw [outbound] at same
  obtain rfl := List.append_cancel_left same
  have isReply := reply _ (List.mem_singleton_self _)
  cases isReply

theorem unclosed_runQuery (index : Nat) (task : QueryTask) :
    Unclosed link.socket.outbound (link.runQuery index task).socket.outbound := by
  cases answered : (task.advance link.record link.socket.publicKey).2 with
  | none =>
      simpa [runQuery, answered, ProviderSocket.setQuery] using unclosed_same _
  | some frame =>
      have outbound : (link.runQuery index task).socket.outbound =
          link.socket.outbound ++ [frame] := by
        simp [runQuery, answered, ProviderSocket.setQuery, ProviderSocket.send]
      rw [outbound]
      apply unclosed_send
      rintro code reason rfl
      obtain refusal | ⟨query, thread, messages, _, same⟩ := QueryTask.advance_frame answered
      · cases refusal
      · cases same

/-- The watcher moves by itself and closes by itself, and the record changes by itself. -/
structure Beside (link next : ProviderLink) : Prop where
  record : next.record = link.record
  watcher : next.watcher = link.watcher ∨ next.watcher = .ended
  outbound : Unclosed link.socket.outbound next.socket.outbound

/-- Nothing but the watcher enqueues a close. -/
theorem open_of_adds {frame : OutboundFrame} (adds : Adds link action frame)
    (watches : action ≠ .watch) (code : Nat) (reason : String) : frame ≠ .close code reason := by
  rintro rfl
  cases adds with
  | reply impossible | refusal impossible => cases impossible
  | close => exact watches rfl

theorem beside_of_step (taken : step contract limits link action = some next)
    (watches : action ≠ .watch) (changes : ∀ record, action ≠ .recordChanges record) :
    Beside link next := by
  cases moves_of_step taken with
  | left => exact ⟨rfl, .inr rfl, unclosed_same _⟩
  | received _ received | called _ received =>
      exact ⟨rfl, .inl rfl, unclosed_of_grows (ProviderSocket.grows_receive received)⟩
  | answered _ resumed =>
      exact ⟨rfl, .inl rfl, unclosed_of_grows (ProviderSocket.grows_resume resumed)⟩
  | sent _ adds _ same =>
      exact ⟨rfl, .inl (same watches), unclosed_send _ (open_of_adds adds watches)⟩
  | @queried index task => exact ⟨rfl, .inl rfl, unclosed_runQuery index task⟩
  | raised => exact ⟨rfl, .inl rfl, unclosed_same _⟩
  | wrote _ outbound | silenced _ outbound =>
      exact ⟨rfl, .inl rfl, outbound ▸ unclosed_shorter _ _⟩
  | aside _ _ _ _ watcher record =>
      exact ⟨record changes, watcher watches, unclosed_same _⟩

theorem registeredNames_during (tables : RosterTables) (call : Option CoreCall) :
    (tables.during call).registeredNames = tables.registeredNames := by
  unfold RosterTables.during
  split <;> rfl

/-- The names of the link change when core answers the read loop, and then alone. -/
theorem registeredNames_of_step (taken : step contract limits link action = some next) :
    next.registeredNames = link.registeredNames ∨
      ∃ core call, action = .answer core ∧ link.loop = .awaiting call ∧
        next.registeredNames = (link.socket.tables.after core call).registeredNames := by
  cases moves_of_step taken with
  | left | raised | wrote | sent | silenced | aside => exact .inl rfl
  | queried =>
      exact .inl (congrArg RosterTables.registeredNames (aside_runQuery _ _).1)
  | @received _ _ socket _ received =>
      have tables := congrArg RosterTables.registeredNames (ProviderSocket.tables_receive received)
      exact .inl (tables.trans (registeredNames_during _ _))
  | @called _ _ socket call _ received =>
      have tables := congrArg RosterTables.registeredNames (ProviderSocket.tables_receive received)
      exact .inl (tables.trans (registeredNames_during _ _))
  | answered awaiting resumed =>
      have tables := congrArg RosterTables.registeredNames (ProviderSocket.tables_resume resumed)
      exact .inr ⟨_, _, rfl, awaiting, tables⟩

theorem lists_of_step (taken : step contract limits link action = some next)
    (record : next.record = link.record) (name : Str) : next.lists name = link.lists name := by
  rw [lists, lists, record, (step_effect taken).publicKey]

/-- What the watcher does, as far as a pass which has found nothing is concerned. -/
inductive Watches (link next : ProviderLink) : Prop
  | idle (idle : next.watcher.unread = none)
      (outbound : next.socket.outbound = link.socket.outbound)
  | wakes (unread : next.watcher.unread = some (sortedNames link.registeredNames))
      (names : link.registeredNames ≠ []) (outbound : next.socket.outbound = link.socket.outbound)
  | reads (name : Str) (names : List Str) (unread : link.watcher.unread = some (name :: names))
      (after : next.watcher.unread = some names) (absent : link.lists name = false)
      (outbound : next.socket.outbound = link.socket.outbound)
  | resumes (name : Str) (names : List Str) (unread : link.watcher.unread = some (name :: names))
      (after : next.watcher.unread = some (name :: names))
      (outbound : next.socket.outbound = link.socket.outbound)
  | closes (unread : link.watcher.unread = some []) (after : next.watcher.unread = none)

theorem perm_sortedNames (names : List Str) : (sortedNames names).Perm names :=
  List.perm_insertionSort _ names

theorem watches_of_watch (taken : link.watch = some next) : Watches link next := by
  simp only [watch] at taken
  split at taken
  · rename_i sleeping
    split at taken
    · obtain rfl := Option.some.inj taken
      exact .idle (by rw [sleeping]; rfl) rfl
    · rename_i filled
      obtain rfl := Option.some.inj taken
      obtain ⟨name, names, sorted⟩ := List.exists_cons_of_ne_nil filled
      refine .wakes (by rw [sorted]; rfl) ?_ rfl
      intro none
      rw [none] at filled
      exact filled rfl
  · rename_i name names found asking
    obtain rfl := Option.some.inj taken
    cases found with
    | true => exact .idle (by simp [Watcher.unread]) rfl
    | false =>
        cases listed : link.lists name with
        | true =>
            rw [lists] at listed
            exact .idle (by rw [listed]; rfl) rfl
        | false =>
            refine .reads name names (by rw [asking]; rfl) ?_ listed rfl
            rw [lists] at listed
            rw [listed]
            rfl
  · rename_i listed names found answered
    cases outcome : found || listed with
    | true =>
        rw [outcome] at taken
        cases names <;> obtain rfl := Option.some.inj taken <;> exact .idle rfl rfl
    | false =>
        obtain ⟨rfl, rfl⟩ := Bool.or_eq_false_iff.mp outcome
        cases names with
        | nil =>
            obtain rfl := Option.some.inj taken
            exact .closes (by rw [answered]; rfl) rfl
        | cons name names =>
            obtain rfl := Option.some.inj taken
            exact .resumes name names (by rw [answered]; rfl) rfl rfl
  · cases taken
  · cases taken

/-- A close is enqueued at the end of a pass which has found nothing. -/
theorem unread_of_close {code : Nat} {reason : String}
    (taken : step contract limits link action = some next)
    (closed : next.socket.outbound = link.socket.outbound ++ [.close code reason]) :
    link.watcher.unread = some [] := by
  by_cases watching : action = .watch
  · subst watching
    have unmoved : next.socket.outbound ≠ link.socket.outbound := by
      intro same
      exact unclosed_same _ code reason (same.symm.trans closed)
    cases watches_of_watch taken with
    | idle _ outbound | wakes _ _ outbound | reads _ _ _ _ _ outbound | resumes _ _ _ _ outbound =>
        exact absurd outbound unmoved
    | closes unread => exact unread
  · by_cases changing : ∃ record, action = .recordChanges record
    · obtain ⟨record, rfl⟩ := changing
      obtain rfl := Option.some.inj taken
      exact absurd closed (unclosed_same _ code reason)
    · have beside := beside_of_step taken watching fun record same => changing ⟨record, same⟩
      exact absurd closed (beside.outbound code reason)

theorem record_of_watch (taken : link.watch = some next) : next.record = link.record := by
  simp only [watch] at taken
  repeat' split at taken
  all_goals cases taken
  all_goals rfl

theorem Covered.congr {names : List Str} (covered : link.Covered names)
    (registered : next.registeredNames = link.registeredNames)
    (lists : ∀ name, next.lists name = link.lists name) : next.Covered names := by
  rw [Covered, registered]
  exact ⟨covered.1, fun name member listed => covered.2 name member (lists name ▸ listed)⟩

/-- A pass starts with all names of the link, and leaves behind those which core does not list. -/
theorem InPass.watch (inPass : link.InPass) (taken : link.watch = some next)
    (registered : next.registeredNames = link.registeredNames)
    (lists : ∀ name, next.lists name = link.lists name) : next.InPass := by
  intro others unread
  cases watches_of_watch taken with
  | idle idle | closes _ idle =>
      rw [idle] at unread
      cases unread
  | wakes after filled =>
      obtain rfl := Option.some.inj (after.symm.trans unread)
      have covered : link.Covered (sortedNames link.registeredNames) :=
        ⟨filled, fun name member _ => (perm_sortedNames _).mem_iff.mpr member⟩
      exact covered.congr registered lists
  | reads read names before after absent =>
      obtain rfl := Option.some.inj (after.symm.trans unread)
      have covered : link.Covered names := by
        refine ⟨(inPass _ before).1, fun name member listed => ?_⟩
        obtain rfl | later := List.mem_cons.mp ((inPass _ before).2 name member listed)
        · rw [absent] at listed
          cases listed
        · exact later
      exact covered.congr registered lists
  | resumes name names before after =>
      obtain rfl := Option.some.inj (after.symm.trans unread)
      exact (inPass _ before).congr registered lists

/-- A steady step keeps the names which core lists before the pass. -/
theorem InPass.step (inPass : link.InPass) (steady : link.Steady action)
    (taken : step contract limits link action = some next) : next.InPass := by
  have registered := registeredNames_of_step taken
  by_cases watching : action = .watch
  · subst watching
    have same : next.registeredNames = link.registeredNames := by
      obtain same | ⟨_, _, impossible, _⟩ := registered
      · exact same
      · cases impossible
    exact inPass.watch taken same (lists_of_step taken (record_of_watch taken))
  by_cases changing : ∃ record, action = .recordChanges record
  · obtain ⟨record, rfl⟩ := changing
    obtain rfl := Option.some.inj taken
    intro names unread
    exact ⟨(inPass names unread).1, steady names unread⟩
  have beside := beside_of_step taken watching fun record same => changing ⟨record, same⟩
  have lists := lists_of_step taken beside.record
  intro names unread
  obtain watcher | ended := beside.watcher
  · rw [watcher] at unread
    obtain same | ⟨core, call, rfl, awaiting, after⟩ := registered
    · exact (inPass names unread).congr same lists
    · obtain ⟨filled, covered⟩ := steady names call unread awaiting
      rw [Covered, after]
      exact ⟨filled, fun name member listed => covered name member (lists name ▸ listed)⟩
  · rw [ended] at unread
    cases unread

end Steps

/-! ## Runs -/

section Runs

variable {contract : Contract} {limits : Json.Limits} {link next : ProviderLink} {action : Action}

theorem closesOnlyLost_of_inPass (inPass : link.InPass) :
    link.ClosesOnlyLost contract limits action := by
  intro next code reason taken closed
  obtain ⟨filled, covered⟩ := inPass [] (unread_of_close taken closed)
  refine ⟨filled, fun name member => ?_⟩
  rw [← Bool.not_eq_true]
  exact fun listed => List.not_mem_nil (covered name member listed)

/-- In every run whose steps are steady, the watcher closes only a link which has lost every
name. -/
theorem closesOnlyLost_of_steady (contract : Contract) (limits : Json.Limits)
    (publicKey funduqPublicKey answer : Str) (record : Record) {actions : List Action}
    (steady : (machine contract limits).Along Steady
      (opened publicKey funduqPublicKey answer record) actions) :
    (machine contract limits).Along (ClosesOnlyLost contract limits)
      (opened publicKey funduqPublicKey answer record) actions := by
  have start : (opened publicKey funduqPublicKey answer record).InPass := nofun
  exact @Machine.along_of_along _ _ _ Steady (ClosesOnlyLost contract limits) InPass
    (fun inPass good taken => inPass.step good taken)
    (fun inPass _ => closesOnlyLost_of_inPass inPass) _ _ start steady

theorem watcher_of_unread {names : List Str} (unread : link.watcher.unread = some names) :
    link.watcher = .answered false names false ∨
      names ≠ [] ∧ link.watcher = .asking names false := by
  unfold Watcher.unread at unread
  split at unread
  · rename_i asking
    obtain rfl := Option.some.inj unread
    exact .inr ⟨List.cons_ne_nil _ _, asking⟩
  · rename_i answered
    obtain rfl := Option.some.inj unread
    exact .inl answered
  · cases unread

/-- The watcher runs, or core lists nothing which it did not list. -/
def Forgets (link : ProviderLink) : Action → Prop
  | .watch => True
  | .recordChanges record =>
      ∀ name, record.listsAgent link.socket.publicKey name = true → link.lists name = true
  | _ => False

/-- With the watcher and a forgetful core alone, the link is closed before it has lost every
name. -/
def ClosesWrongly (contract : Contract) (limits : Json.Limits) (link : ProviderLink) : Prop :=
  ∃ late, (machine contract limits).Along Forgets link late ∧
    ¬(machine contract limits).Along (ClosesOnlyLost contract limits) link late

theorem ClosesWrongly.of_step (wrong : next.ClosesWrongly contract limits)
    (forgets : link.Forgets action) (taken : step contract limits link action = some next) :
    link.ClosesWrongly contract limits := by
  obtain ⟨late, forgetful, wrong⟩ := wrong
  refine ⟨action :: late, ⟨forgets, fun other same => ?_⟩, fun along => wrong (along.2 next taken)⟩
  obtain rfl := Option.some.inj (taken.symm.trans same)
  exact forgetful

/-- A pass which finds nothing ends in a close. -/
theorem closesWrongly_of_absent {names : List Str} (unread : link.watcher.unread = some names)
    (absent : ∀ name ∈ names, link.lists name = false) (kept : ¬link.Lost) :
    link.ClosesWrongly contract limits := by
  induction names generalizing link with
  | nil =>
      obtain answered | ⟨filled, _⟩ := watcher_of_unread unread
      · have taken : step contract limits link .watch = some { link with
            watcher := .ended
            socket := link.socket.send
              (.close 1008 "funduq no longer lists these agents; re-register") } := by
          simp [step, watch, answered]
        exact ⟨[.watch], ⟨trivial, fun _ _ => trivial⟩, fun along => kept (along.1 _ _ _ taken rfl)⟩
      · exact absurd rfl filled
  | cons name names induction =>
      -- From its await on, the pass drops the name.
      have asks {asking : ProviderLink} (watcher : asking.watcher = .asking (name :: names) false)
          (absent : ∀ other ∈ name :: names, asking.lists other = false) (kept : ¬asking.Lost) :
          asking.ClosesWrongly contract limits := by
        have unlisted := absent name List.mem_cons_self
        rw [lists] at unlisted
        have taken : step contract limits asking .watch =
            some { asking with watcher := .answered false names false } := by
          simp [step, watch, watcher, unlisted]
        have later : ClosesWrongly contract limits
            { asking with watcher := .answered false names false } :=
          induction rfl (fun other member => absent other (List.mem_cons_of_mem name member)) kept
        exact @ClosesWrongly.of_step _ _ _ _ .watch later trivial taken
      obtain answered | ⟨_, asking⟩ := watcher_of_unread unread
      · have taken : step contract limits link .watch =
            some { link with watcher := .asking (name :: names) false } := by
          simp [step, watch, answered]
        have later : ClosesWrongly contract limits
            { link with watcher := .asking (name :: names) false } := asks rfl absent kept
        exact @ClosesWrongly.of_step _ _ _ _ .watch later trivial taken
      · exact asks asking absent kept

/-- A link which core lists by a name behind the pass, or which has no names, may be closed
wrongly. -/
theorem closesWrongly_of_stray {names : List Str} (unread : link.watcher.unread = some names)
    (stray : link.registeredNames ≠ [] →
      ∃ name ∈ link.registeredNames, link.lists name = true ∧ name ∉ names) :
    link.ClosesWrongly contract limits := by
  -- Core forgets the names which are yet to be looked up.
  let record : Record :=
    { link.record with
      listsAgent := fun key name => link.record.listsAgent key name && name ∉ names }
  have taken : step contract limits link (.recordChanges record) = some { link with record } := rfl
  have forgets : link.Forgets (.recordChanges record) := by
    intro name listed
    simp only [record, Bool.and_eq_true] at listed
    exact listed.1
  have later : ClosesWrongly contract limits { link with record } := by
    refine closesWrongly_of_absent unread (fun name member => by simp [lists, record, member]) ?_
    rintro ⟨filled, lost⟩
    obtain ⟨name, member, listed, behind⟩ := stray filled
    have unlisted := lost name member
    rw [lists] at listed
    simp [lists, record, behind, listed] at unlisted
  exact later.of_step forgets taken

theorem tables_after_of_error {core : CoreReplies} {call : CoreCall} {socket : ProviderSocket}
    {raised : Raised} (failed : socket.resume core (some call) = .error raised) :
    socket.tables.after core call = socket.tables := by
  cases call with
  | registerAgents agents providerName => cases failed
  | deleteAgent name =>
      rw [RosterTables.after]
      cases deleted : core.deleteAgent name with
      | ok =>
          simp [ProviderSocket.resume, ProviderSocket.onDeleted, deleted] at failed
      | error error => rfl

/-- The condition is the weakest: behind the first step which is not steady, a run may close the
link wrongly. -/
theorem closesWrongly_of_not_steady (inPass : link.InPass) (unsteady : ¬link.Steady action)
    (taken : step contract limits link action = some next) :
    next.ClosesWrongly contract limits := by
  cases action with
  | recordChanges record =>
      obtain rfl := Option.some.inj taken
      simp only [Steady, not_forall] at unsteady
      obtain ⟨names, unread, name, member, listed, stray⟩ := unsteady
      exact closesWrongly_of_stray unread fun _ => ⟨name, member, listed, stray⟩
  | answer core =>
      simp only [Steady, not_forall] at unsteady
      obtain ⟨names, call, unread, awaiting, unsteady⟩ := unsteady
      have sameLists := fun record => lists_of_step taken record
      simp only [step, awaiting] at taken
      cases resumed : link.socket.resume core (some call) with
      | ok socket =>
          rw [resumed] at taken
          obtain rfl := Option.some.inj taken
          have tables : socket.registeredNames =
              (link.socket.tables.after core call).registeredNames :=
            congrArg RosterTables.registeredNames (ProviderSocket.tables_resume resumed)
          rw [← tables] at unsteady
          refine closesWrongly_of_stray unread fun filled => ?_
          by_contra behind
          refine unsteady ⟨filled, fun name member listed => ?_⟩
          by_contra stray
          exact behind ⟨name, member, (sameLists rfl name).trans listed, stray⟩
      | error raised =>
          rw [tables_after_of_error resumed] at unsteady
          exact absurd (inPass names unread) unsteady
  | receive | cancelHandler | goLive | goOffline | deliver | cancelRun | query | queryRaises | watch
    | watchRaises | write | writeFails => exact absurd trivial unsteady

end Runs

/-! A link whose agent core has lost is closed, unless it has come back before the close. -/

/-- The provider registers, core does not list it, and the watcher looks it up. -/
def lookingUp : List Action :=
  [.receive (.text registerFrame) plainCore, .answer plainCore, .watch, .watch]

/-- The provider registers once more, and core lists it. -/
def registeringAgain : List Action :=
  [.receive (.text registerFrame) plainCore,
    .recordChanges { emptyRecord with listsAgent := fun _ name => name = str "a" },
    .answer plainCore]

def afterLookingUp : ProviderLink :=
  ((machine plainContract Json.defaultLimits).run linkOpened lookingUp).getD linkOpened

def afterRegisteringAgain : ProviderLink :=
  ((machine plainContract Json.defaultLimits).run afterLookingUp registeringAgain).getD
    afterLookingUp

theorem run_lookingUp :
    (machine plainContract Json.defaultLimits).run linkOpened lookingUp = some afterLookingUp :=
  (rfl)

theorem run_registeringAgain :
    (machine plainContract Json.defaultLimits).run afterLookingUp registeringAgain =
      some afterRegisteringAgain := (rfl)

theorem steady_lookingUp :
    (machine plainContract Json.defaultLimits).Along Steady linkOpened (lookingUp ++ [.watch]) := by
  refine ⟨trivial, fun _ received => ⟨?_, fun _ answered => ?_⟩⟩
  · obtain rfl := Option.some.inj received
    nofun
  · exact ⟨trivial, fun _ _ => ⟨trivial, fun _ _ => ⟨trivial, fun _ _ => trivial⟩⟩⟩

/-- A link which stays lost is closed, and rightly so. -/
theorem lookingUp_closesOnlyLost :
    (machine plainContract Json.defaultLimits).Along
        (ClosesOnlyLost plainContract Json.defaultLimits) linkOpened (lookingUp ++ [.watch]) ∧
      afterLookingUp.watcher.unread = some [] :=
  ⟨closesOnlyLost_of_steady _ _ _ _ _ _ steady_lookingUp, (rfl)⟩

/-- A link which has just registered again, and which core lists, is closed. -/
theorem registeringAgain_not_closesOnlyLost :
    ¬(machine plainContract Json.defaultLimits).Along
      (ClosesOnlyLost plainContract Json.defaultLimits) linkOpened
      (lookingUp ++ (registeringAgain ++ [.watch])) := by
  intro along
  have closing := (along.of_append run_lookingUp).of_append run_registeringAgain
  obtain ⟨_, lost⟩ := closing.1 _ _ _ rfl rfl
  have unlisted := lost (str "a") List.mem_cons_self
  cases unlisted

end ProviderLink
end Souk.Server.WsProvider
