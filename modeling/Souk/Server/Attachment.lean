import Souk.Library.Records
import Souk.Server.Handlers

/-!
# Attaches and detaches

Every attach which returned is undone by one detach of the same link object, the teardown of a
replaced socket leaves core alone, and core holds the connection attached last for as long as its
read loop runs.
-/

namespace Souk.Server
namespace Gateway

variable {Chunk : Type}

/-- The calls one socket's handler has made. -/
def callsOf (calls : List Call) (socket : Nat) : List Call :=
  calls.filter fun call => call.socket = socket

/-- The detaches which carry one link object. -/
def detachesOf (calls : List Call) (link : LinkObject) : List Call :=
  calls.filter fun call => call.kind = .detach ∧ call.link.identity = link.identity

/-- The attach of a role which took effect last. -/
def latest (calls : List Call) (role : Role) : Option Call :=
  (calls.filter fun call => call.kind = .attach ∧ call.link.role = role).getLast?

/-- What every state of the gateway shows. -/
structure Orderly (gateway : Gateway Chunk) : Prop where
  /-- A handler which has ended has undone the attach which returned to it, once. -/
  undone : ∀ {socket : Nat} {handler : Handler Chunk} {link : LinkObject},
    gateway.handlers[socket]? = some handler → handler.point = .ended →
      ⟨.attachReturned, socket, link⟩ ∈ gateway.calls →
        detachesOf gateway.calls link = [⟨.detach, socket, link⟩]
  /-- A handler hands core the object it constructed, and no other. -/
  own : ∀ call ∈ gateway.calls, gateway.owners[call.link.identity]? = some call.socket
  /-- It detaches only what its own attach returned for. -/
  returned : ∀ {socket : Nat} {link : LinkObject}, ⟨.detach, socket, link⟩ ∈ gateway.calls →
    ⟨.attachReturned, socket, link⟩ ∈ gateway.calls
  /-- Core holds the connection attached last while its read loop has not ended. -/
  held : ∀ {role : Role} {call : Call} {handler : Handler Chunk},
    latest gateway.calls role = some call → gateway.handlers[call.socket]? = some handler →
      handler.point.live = true → gateway.serves role = some call.link.identity

/-- A later attach has replaced the connection which a socket attached. -/
def Replaced (gateway : Gateway Chunk) (socket : Nat) (link : LinkObject) : Prop :=
  ⟨.attach, socket, link⟩ ∈ gateway.calls ∧
    latest gateway.calls link.role ≠ some ⟨.attach, socket, link⟩

/-- No step of a replaced socket's handler changes what core holds. -/
def SparesReplacement (environment : Environment Chunk) (gateway : Gateway Chunk) : Action → Prop
  | .accept _ => True
  | .handler socket event => ∀ next link, Replaced gateway socket link →
      step environment gateway (.handler socket event) = some next → next.serves = gateway.serves

/-! ## The calls of one handler -/

section Calls

variable {calls : List Call} {socket : Nat}

theorem mem_callsOf {call : Call} :
    call ∈ callsOf calls socket ↔ call ∈ calls ∧ call.socket = socket := by
  rw [callsOf, List.mem_filter, decide_eq_true_iff]

theorem mem_latest {role : Role} {call : Call} (last : latest calls role = some call) :
    call ∈ calls ∧ call.kind = .attach ∧ call.link.role = role := by
  have member := List.mem_of_getLast? last
  rw [List.mem_filter, decide_eq_true_iff] at member
  exact member

theorem effect_calls_socket {effect : Effect} {call : Call}
    (member : call ∈ effect.calls socket) : call.socket = socket := by
  cases effect with
  | call kind link =>
      obtain rfl := List.mem_singleton.mp member
      rfl
  | silent | construct => cases member

theorem callsOf_append_self (effect : Effect) :
    callsOf (calls ++ effect.calls socket) socket =
      callsOf calls socket ++ effect.calls socket := by
  rw [callsOf, List.filter_append, callsOf]
  congr 1
  apply List.filter_eq_self.mpr
  intro call member
  rw [decide_eq_true_iff]
  exact effect_calls_socket member

theorem callsOf_append_other {other : Nat} (different : other ≠ socket) (effect : Effect) :
    callsOf (calls ++ effect.calls socket) other = callsOf calls other := by
  rw [callsOf, List.filter_append, callsOf, List.append_right_eq_self]
  apply List.filter_eq_nil_iff.mpr
  intro call member
  rw [decide_eq_true_iff, effect_calls_socket member]
  exact different.symm

/-- Where a handler stands tells the calls it has made. -/
def Accounts (socket : Nat) : Point Chunk → List Call → Prop
  | .opening, calls | .attaching _, calls => calls = []
  | .attached link, calls => calls = [⟨.attach, socket, link⟩]
  | .serving link _, calls => calls = [⟨.attach, socket, link⟩, ⟨.attachReturned, socket, link⟩]
  | .tearingDown link, calls =>
      calls = [⟨.attach, socket, link⟩, ⟨.attachReturned, socket, link⟩, ⟨.detach, socket, link⟩]
  | .closing _, calls => calls = [] ∨ ∃ link, calls = [⟨.attach, socket, link⟩]
  | .ended, calls => calls = [] ∨ (∃ link, calls = [⟨.attach, socket, link⟩]) ∨
      ∃ link, calls =
        [⟨.attach, socket, link⟩, ⟨.attachReturned, socket, link⟩, ⟨.detach, socket, link⟩]

/-- A step of a handler is accounted for by the calls it makes. -/
theorem Accounts.moved {relay : Relay} {fresh : Nat} {point next : Point Chunk} {effect : Effect}
    (accounts : Accounts socket point calls) (moves : point.Moves relay fresh next effect) :
    Accounts socket next (calls ++ effect.calls socket) := by
  cases moves with
  | construct publicKey => simpa [Accounts, Effect.calls] using accounts
  | attach link | attachReturned link session | serve link session | detach link session =>
      rw [Accounts] at accounts
      simp [Accounts, Effect.calls, accounts]
  | close early reason =>
      have unchanged : calls ++ Effect.calls socket .silent = calls := List.append_nil calls
      rw [unchanged]
      cases point with
      | opening | attaching link => exact .inl accounts
      | attached link => exact .inr ⟨link, accounts⟩
      | closing | serving | tearingDown | ended => cases early
  | leave outside =>
      have unchanged : calls ++ Effect.calls socket .silent = calls := List.append_nil calls
      rw [unchanged]
      cases point with
      | opening | attaching link => exact .inl accounts
      | attached link => exact .inr (.inl ⟨link, accounts⟩)
      | closing =>
          obtain silent | attached := accounts
          · exact .inl silent
          · exact .inr (.inl attached)
      | serving link session => exact absurd rfl (outside link session)
      | tearingDown link => exact .inr (.inr ⟨link, accounts⟩)
      | ended => exact accounts

end Calls

/-! ## What core holds -/

/-- The calls made and what core holds agree. -/
structure Agrees (calls : List Call) (serves : Role → Option Nat) : Prop where
  latest_of_held : ∀ {role : Role} {identity : Nat}, serves role = some identity →
    ∃ call, latest calls role = some call ∧ call.link.identity = identity
  held_of_latest : ∀ {role : Role} {call : Call}, latest calls role = some call →
    (∀ other ∈ calls, other.kind = .detach → other.link.identity ≠ call.link.identity) →
      serves role = some call.link.identity

section Agrees

variable {calls : List Call} {serves : Role → Option Nat}

theorem latest_append_attach (socket : Nat) (link : LinkObject) :
    latest (calls ++ [⟨.attach, socket, link⟩]) link.role = some ⟨.attach, socket, link⟩ := by
  simp [latest]

theorem latest_append_attach_other {link : LinkObject} {role : Role} (other : role ≠ link.role)
    (socket : Nat) : latest (calls ++ [⟨.attach, socket, link⟩]) role = latest calls role := by
  simp [latest, other.symm]

theorem latest_append_call (kind : CallKind) (other : kind ≠ .attach) (socket : Nat)
    (link : LinkObject) (role : Role) :
    latest (calls ++ [⟨kind, socket, link⟩]) role = latest calls role := by
  simp [latest, other]

theorem Agrees.attach (agrees : Agrees calls serves) (socket : Nat) (link : LinkObject) :
    Agrees (calls ++ [⟨.attach, socket, link⟩])
      (Function.update serves link.role (some link.identity)) where
  latest_of_held := by
    intro role identity held
    by_cases same : role = link.role
    · subst same
      rw [Function.update_self] at held
      exact ⟨_, latest_append_attach socket link, Option.some.inj held⟩
    · rw [Function.update_of_ne same] at held
      rw [latest_append_attach_other same]
      exact agrees.latest_of_held held
  held_of_latest := by
    intro role call last attached
    by_cases same : role = link.role
    · subst same
      rw [latest_append_attach] at last
      obtain rfl := Option.some.inj last
      exact Function.update_self ..
    · rw [latest_append_attach_other same] at last
      rw [Function.update_of_ne same]
      exact agrees.held_of_latest last fun other member =>
        attached other (List.mem_append_left _ member)

theorem Agrees.attachReturned (agrees : Agrees calls serves) (socket : Nat) (link : LinkObject) :
    Agrees (calls ++ [⟨.attachReturned, socket, link⟩]) serves where
  latest_of_held := by
    intro role identity held
    rw [latest_append_call .attachReturned nofun]
    exact agrees.latest_of_held held
  held_of_latest := by
    intro role call last attached
    rw [latest_append_call .attachReturned nofun] at last
    exact agrees.held_of_latest last fun other member =>
      attached other (List.mem_append_left _ member)

/-- A compare-and-remove of a connection leaves every other one in its place. -/
theorem Agrees.detach (agrees : Agrees calls serves) (socket : Nat) (link : LinkObject) :
    Agrees (calls ++ [⟨.detach, socket, link⟩])
      (Effect.onCore serves (.call .detach link)) where
  latest_of_held := by
    intro role identity held
    rw [latest_append_call .detach nofun]
    rw [Effect.onCore] at held
    split at held
    · by_cases same : role = link.role
      · subst same
        rw [Function.update_self] at held
        cases held
      · rw [Function.update_of_ne same] at held
        exact agrees.latest_of_held held
    · exact agrees.latest_of_held held
  held_of_latest := by
    intro role call last attached
    rw [latest_append_call .detach nofun] at last
    have held := agrees.held_of_latest last fun other member =>
      attached other (List.mem_append_left _ member)
    rw [Effect.onCore]
    split
    · rename_i removed
      have different : role ≠ link.role := by
        rintro rfl
        have same : link.identity = call.link.identity :=
          Option.some.inj (removed.symm.trans held)
        exact attached ⟨.detach, socket, link⟩ (List.mem_append_right _ (List.mem_singleton_self _))
          rfl same
      rw [Function.update_of_ne different]
      exact held
    · exact held

theorem Agrees.moved (agrees : Agrees calls serves) (socket : Nat) (effect : Effect) :
    Agrees (calls ++ effect.calls socket) (effect.onCore serves) := by
  cases effect with
  | silent | construct => simpa [Effect.calls, Effect.onCore] using agrees
  | call kind link =>
      cases kind with
      | attach => exact agrees.attach socket link
      | attachReturned => exact agrees.attachReturned socket link
      | detach => exact agrees.detach socket link

end Agrees

/-! ## The invariant -/

/-- What every step keeps. -/
structure Invariant (gateway : Gateway Chunk) : Prop where
  accounts : ∀ {socket : Nat} {handler : Handler Chunk}, gateway.handlers[socket]? = some handler →
    Accounts socket handler.point (callsOf gateway.calls socket)
  /-- Every call was made by a socket which has opened. -/
  opened : ∀ call ∈ gateway.calls, call.socket < gateway.handlers.length
  own : ∀ call ∈ gateway.calls, gateway.owners[call.link.identity]? = some call.socket
  constructed : ∀ {socket : Nat} {handler : Handler Chunk} {link : LinkObject},
    gateway.handlers[socket]? = some handler → handler.point = .attaching link →
      gateway.owners[link.identity]? = some socket
  agrees : Agrees gateway.calls gateway.serves

namespace Invariant

variable {gateway : Gateway Chunk}

theorem initial : Invariant (initial : Gateway Chunk) where
  accounts := nofun
  opened := nofun
  own := nofun
  constructed := nofun
  agrees := ⟨nofun, nofun⟩

theorem accept (invariant : Invariant gateway) (relay : Relay) :
    Invariant { gateway with handlers := gateway.handlers ++ [⟨relay, .opening⟩] } where
  accounts := by
    intro socket handler found
    obtain old | ⟨rfl, rfl⟩ := getElem?_concat_eq_some.mp found
    · exact invariant.accounts old
    · apply List.filter_eq_nil_iff.mpr
      intro call member
      have := invariant.opened call member
      rw [decide_eq_true_iff]
      omega
  opened := by
    intro call member
    have := invariant.opened call member
    rw [List.length_append]
    omega
  own := invariant.own
  constructed := by
    intro socket handler link found attaching
    obtain old | ⟨rfl, rfl⟩ := getElem?_concat_eq_some.mp found
    · exact invariant.constructed old attaching
    · cases attaching
  agrees := invariant.agrees

/-- The object a handler names to core in a step is the one it constructed. -/
theorem names_own (invariant : Invariant gateway) {socket : Nat} {handler : Handler Chunk}
    (found : gateway.handlers[socket]? = some handler) {fresh : Nat} {point : Point Chunk}
    {kind : CallKind} {link : LinkObject}
    (moves : handler.point.Moves handler.relay fresh point (.call kind link)) :
    gateway.owners[link.identity]? = some socket := by
  have accounts := invariant.accounts found
  have of_attach (attached : ⟨.attach, socket, link⟩ ∈ callsOf gateway.calls socket) :
      gateway.owners[link.identity]? = some socket :=
    invariant.own _ (mem_callsOf.mp attached).1
  generalize stands : handler.point = stand at moves accounts
  cases moves with
  | attach => exact invariant.constructed found stands
  | attachReturned | detach =>
      apply of_attach
      rw [Accounts] at accounts
      simp [accounts]

theorem moved (invariant : Invariant gateway) {socket : Nat} {handler : Handler Chunk}
    (found : gateway.handlers[socket]? = some handler) {point : Point Chunk} {effect : Effect}
    (moves : handler.point.Moves handler.relay gateway.owners.length point effect) :
    Invariant (gateway.moved socket { handler with point } effect) where
  accounts := by
    intro other now standing
    rw [Gateway.moved] at standing ⊢
    obtain ⟨rfl, rfl⟩ | ⟨elsewhere, before⟩ := (getElem?_set_eq_some found).mp standing
    · rw [callsOf_append_self]
      exact (invariant.accounts found).moved moves
    · rw [callsOf_append_other elsewhere]
      exact invariant.accounts before
  opened := by
    intro call member
    rw [Gateway.moved, List.length_set]
    obtain old | new := List.mem_append.mp member
    · exact invariant.opened call old
    · rw [effect_calls_socket new]
      exact (List.getElem?_eq_some_iff.mp found).1
  own := by
    intro call member
    obtain old | new := List.mem_append.mp member
    · exact getElem?_append_of_eq_some (invariant.own call old)
    · cases effect with
      | silent | construct => cases new
      | call kind link =>
          obtain rfl := List.mem_singleton.mp new
          exact getElem?_append_of_eq_some (invariant.names_own found moves)
  constructed := by
    intro other now link standing attaching
    rw [Gateway.moved] at standing ⊢
    obtain ⟨rfl, rfl⟩ | ⟨_, before⟩ := (getElem?_set_eq_some found).mp standing
    · dsimp only at attaching
      subst attaching
      generalize handler.point = stand at moves
      cases moves with
      | construct publicKey => exact List.getElem?_concat_length
    · exact getElem?_append_of_eq_some (invariant.constructed before attaching)
  agrees := invariant.agrees.moved socket effect

theorem step {environment : Environment Chunk} {next : Gateway Chunk} {action : Action}
    (invariant : Invariant gateway) (taken : step environment gateway action = some next) :
    Invariant next := by
  obtain ⟨relay, -, rfl⟩ | ⟨socket, event, handler, point, effect, -, found, moves, rfl⟩ :=
    step_cases taken
  · exact invariant.accept relay
  · exact invariant.moved found moves

/-- A link object is named to core by the handler which constructed it. -/
theorem callsOf_of_identity (invariant : Invariant gateway) {socket : Nat} {link : LinkObject}
    (own : gateway.owners[link.identity]? = some socket) {call : Call}
    (member : call ∈ gateway.calls) (same : call.link.identity = link.identity) :
    call ∈ callsOf gateway.calls socket := by
  refine mem_callsOf.mpr ⟨member, ?_⟩
  have owner := invariant.own call member
  rw [same, own] at owner
  exact (Option.some.inj owner).symm

theorem detachesOf_eq (invariant : Invariant gateway) {socket : Nat} {link : LinkObject}
    (own : gateway.owners[link.identity]? = some socket) :
    detachesOf gateway.calls link = detachesOf (callsOf gateway.calls socket) link := by
  rw [detachesOf, detachesOf, callsOf, List.filter_filter]
  apply List.filter_congr
  intro call member
  by_cases detaches : call.kind = .detach ∧ call.link.identity = link.identity
  · have mine := invariant.callsOf_of_identity own member detaches.2
    simp [detaches, (mem_callsOf.mp mine).2]
  · simp [detaches]

theorem undone (invariant : Invariant gateway) {socket : Nat} {handler : Handler Chunk}
    {link : LinkObject} (found : gateway.handlers[socket]? = some handler)
    (ended : handler.point = .ended) (made : ⟨.attachReturned, socket, link⟩ ∈ gateway.calls) :
    detachesOf gateway.calls link = [⟨.detach, socket, link⟩] := by
  have mine : ⟨.attachReturned, socket, link⟩ ∈ callsOf gateway.calls socket :=
    mem_callsOf.mpr ⟨made, rfl⟩
  have accounts := invariant.accounts found
  rw [invariant.detachesOf_eq (invariant.own _ made)]
  rw [ended] at accounts
  obtain calls | ⟨other, calls⟩ | ⟨other, calls⟩ := accounts
  · rw [calls] at mine
    cases mine
  · simp [calls] at mine
  · obtain rfl : link = other := by simpa [calls] using mine
    simp [calls, detachesOf]

theorem returned (invariant : Invariant gateway) {socket : Nat} {link : LinkObject}
    (detached : ⟨.detach, socket, link⟩ ∈ gateway.calls) :
    ⟨.attachReturned, socket, link⟩ ∈ gateway.calls := by
  have mine : ⟨.detach, socket, link⟩ ∈ callsOf gateway.calls socket :=
    mem_callsOf.mpr ⟨detached, rfl⟩
  have opened : socket < gateway.handlers.length := invariant.opened _ detached
  have accounts := invariant.accounts (List.getElem?_eq_getElem opened)
  suffices ⟨.attachReturned, socket, link⟩ ∈ callsOf gateway.calls socket from
    (mem_callsOf.mp this).1
  generalize gateway.handlers[socket].point = point at accounts
  cases point with
  | opening | attaching other | attached other | serving other session =>
      rw [Accounts] at accounts
      simp [accounts] at mine
  | tearingDown other =>
      rw [Accounts] at accounts
      simpa [accounts] using mine
  | closing =>
      obtain calls | ⟨other, calls⟩ := accounts <;> simp [calls] at mine
  | ended =>
      obtain calls | ⟨other, calls⟩ | ⟨other, calls⟩ := accounts
      · simp [calls] at mine
      · simp [calls] at mine
      · simpa [calls] using mine

/-- While its attach or its read loop runs, a handler has not detached. -/
theorem live_not_detached (invariant : Invariant gateway) {socket : Nat} {handler : Handler Chunk}
    (found : gateway.handlers[socket]? = some handler) (live : handler.point.live = true)
    {call : Call} (member : call ∈ callsOf gateway.calls socket) : call.kind ≠ .detach := by
  have accounts := invariant.accounts found
  generalize handler.point = point at accounts live
  cases point with
  | attached link =>
      rw [Accounts] at accounts
      simp_all
  | serving link session =>
      rw [Accounts] at accounts
      rw [accounts] at member
      obtain rfl | rfl :
          call = ⟨.attach, socket, link⟩ ∨ call = ⟨.attachReturned, socket, link⟩ := by
        simpa using member
      · nofun
      · nofun
  | opening | attaching | closing | tearingDown | ended => cases live

theorem held (invariant : Invariant gateway) {role : Role} {call : Call} {handler : Handler Chunk}
    (last : latest gateway.calls role = some call)
    (found : gateway.handlers[call.socket]? = some handler) (live : handler.point.live = true) :
    gateway.serves role = some call.link.identity := by
  refine invariant.agrees.held_of_latest last fun other member detach same => ?_
  have own := invariant.own call (mem_latest last).1
  have mine := invariant.callsOf_of_identity own member same
  exact invariant.live_not_detached found live mine detach

theorem orderly (invariant : Invariant gateway) : Orderly gateway where
  undone := invariant.undone
  own := invariant.own
  returned := invariant.returned
  held := invariant.held

/-- A detach which removes something removes what its own handler attached last. -/
theorem spares (invariant : Invariant gateway) (environment : Environment Chunk)
    (action : Action) : SparesReplacement environment gateway action := by
  cases action with
  | accept relay => trivial
  | handler socket event =>
      intro next link ⟨attached, replaced⟩ taken
      obtain ⟨relay, impossible, -⟩ | ⟨_, _, handler, point, effect, same, found, moves, rfl⟩ :=
        step_cases taken
      · cases impossible
      cases same
      have mine : ⟨.attach, socket, link⟩ ∈ callsOf gateway.calls socket :=
        mem_callsOf.mpr ⟨attached, rfl⟩
      have accounts := invariant.accounts found
      generalize handler.point = stand at moves accounts
      cases moves with
      | construct | attachReturned | serve | close | leave => rfl
      | attach =>
          rw [Accounts] at accounts
          simp [accounts] at mine
      | detach other session =>
          rw [Accounts] at accounts
          obtain rfl : link = other := by simpa [accounts] using mine
          have kept : gateway.serves link.role ≠ some link.identity := by
            intro held
            obtain ⟨call, last, same⟩ := invariant.agrees.latest_of_held held
            obtain ⟨member, attach, -⟩ := mem_latest last
            have made := invariant.callsOf_of_identity (invariant.own _ attached) member same
            rw [accounts] at made
            obtain rfl | rfl := by simpa using made
            · exact replaced last
            · cases attach
          exact if_neg kept

end Invariant

/-- However sockets of any keys open, attach, serve, fail and end: an attach which returned has been
undone exactly once when its handler has ended, no handler detaches another's connection, the
teardown of a replaced socket changes nothing which core holds, and the connection attached last is
held while its read loop has not ended. -/
theorem attaches_orderly (environment : Environment Chunk) (actions : List Action) :
    (machine environment).Throughout Orderly initial actions ∧
      (machine environment).Along (SparesReplacement environment) initial actions := by
  constructor
  · exact Machine.throughout_of_invariant Invariant.step Invariant.orderly Invariant.initial
  · exact Machine.along_of_invariant Invariant.step
      (fun invariant action => invariant.spares environment action) Invariant.initial

end Gateway
end Souk.Server
