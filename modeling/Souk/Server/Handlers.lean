import Souk.Server.Hello
import Souk.Server.ProviderLink
import Souk.Server.WsKyok

/-!
# The handlers of the two relays

Any number of `/ws/provider` and `/ws/kyok` sockets, each with its handler from `accept` to its
teardown.  Core holds at most one connection for each role of a key: an attach replaces the one it
holds, a detach removes it only if it is the very connection given.
-/

namespace Souk.Server

open Souk.Python
open WsProvider (ProviderLink)

/-- The two relays. -/
inductive Relay where
  | provider
  | llmProvider
  deriving DecidableEq

/-- What core holds one connection for. -/
structure Role where
  relay : Relay
  publicKey : Str
  deriving DecidableEq

/-- The `SocketProvider` or `SocketLLMProvider` a handler constructs, with the object's identity. -/
structure LinkObject where
  role : Role
  identity : Nat
  deriving DecidableEq

/-- A connection from its welcome on. -/
inductive Session (Chunk : Type) where
  | provider (link : ProviderLink)
  | llmProvider (connection : WsKyok.Connection Chunk)

/-- What can happen to a connection from its welcome on. -/
inductive SessionAction where
  | provider (action : WsProvider.Action)
  | llmProvider (action : WsKyok.Action)

/-- The code outside this repository which the handlers call, and the process they run in. -/
structure Environment (Chunk : Type) where
  limits : Json.Limits
  contract : WsProvider.Contract
  connect : ConnectModel
  validateChunk : Dict → Option Chunk
  /-- `funduq.identity_public_key`. -/
  funduqPublicKey : Str

variable {Chunk : Type}

namespace Session

/-- What follows the return of the attach, up to the first `receive`. -/
def opened (environment : Environment Chunk) (link : LinkObject) (answer : Str) (record : Record) :
    Session Chunk :=
  match link.role.relay with
  | .provider =>
      .provider (.opened link.role.publicKey environment.funduqPublicKey answer record)
  | .llmProvider => .llmProvider (.opened environment.funduqPublicKey answer)

/-- The read loop has not ended. -/
def reading : Session Chunk → Bool
  | .provider link =>
      match link.loop with
      | .ended => false
      | _ => true
  | .llmProvider connection => connection.reading

/-- One step of a connection. -/
def step (environment : Environment Chunk) : Session Chunk → SessionAction → Option (Session Chunk)
  | .provider link, .provider action =>
      (ProviderLink.step environment.contract environment.limits link action).map .provider
  | .llmProvider connection, .llmProvider action =>
      (WsKyok.step environment.validateChunk environment.limits connection action).map .llmProvider
  | _, _ => none

end Session

/-- Where a handler stands. -/
inductive Point (Chunk : Type) where
  /-- In `accept` or `receive_hello`. -/
  | opening
  /-- In `websocket.close`, with code 1008 and this reason. -/
  | closing (reason : Message)
  /-- In the attach, before core has taken the connection. -/
  | attaching (link : LinkObject)
  /-- In the attach, after core has taken the connection. -/
  | attached (link : LinkObject)
  /-- In the read loop. -/
  | serving (link : LinkObject) (session : Session Chunk)
  /-- In the `finally`, after the detach. -/
  | tearingDown (link : LinkObject)
  | ended

/-- What can happen to a handler. -/
inductive Event where
  /-- `receive_hello` gets a message. -/
  | hello (message : RawMessage)
  | helloTimeout
  /-- Core takes the connection. -/
  | attach
  | attachReturns (answer : Str) (record : Record)
  /-- The attach raises `InvalidRegistration` or `ValueError`. -/
  | attachRefused (error : CoreError)
  | session (action : SessionAction)
  /-- The await raises: an exception of core or of the socket, or a cancellation.  In the read loop
  these are actions of the session. -/
  | raises
  /-- What the handler awaits last is done. -/
  | finishes

/-- The calls of core which a handler makes. -/
inductive CallKind where
  /-- The attach takes effect. -/
  | attach
  | attachReturned
  | detach
  deriving DecidableEq

/-- What a step of a handler does outside itself. -/
inductive Effect where
  | silent
  | construct
  | call (kind : CallKind) (link : LinkObject)

namespace Point

/-- `_hello_error` of either relay. -/
def helloError (environment : Environment Chunk) (hello : Dict) : Relay → Option Message
  | .provider => WsProvider.helloError environment.connect hello
  | .llmProvider => WsKyok.helloError hello

/-- The handler from the first message to the attach. -/
def onHello (environment : Environment Chunk) (relay : Relay) (fresh : Nat) (message : RawMessage) :
    Point Chunk × Effect :=
  match receiveHello environment.limits message with
  | .ok (.hello hello) =>
      match helloError environment hello relay with
      | some problem => (.closing problem, .silent)
      | none => (.attaching ⟨⟨relay, helloField hello "publicKey"⟩, fresh⟩, .construct)
  | .ok (.refused reason) => (.closing { format := reason }, .silent)
  | .ok .gone => (.ended, .silent)
  | .error _ => (.ended, .silent)

/-- One step of a handler; the `finally` detaches before it awaits anything. -/
def step (environment : Environment Chunk) (relay : Relay) (fresh : Nat) :
    Point Chunk → Event → Option (Point Chunk × Effect)
  | .opening, .hello message => some (onHello environment relay fresh message)
  | .opening, .helloTimeout => some (.closing { format := noHello }, .silent)
  | .attaching link, .attach => some (.attached link, .call .attach link)
  | .attached link, .attachReturns answer record =>
      some (.serving link (.opened environment link answer record), .call .attachReturned link)
  | .attaching _, .attachRefused error | .attached _, .attachRefused error =>
      some (.closing { format := "%s", values := [.str error.text] }, .silent)
  | .serving link session, .session action =>
      (session.step environment action).map fun session =>
        if session.reading then (.serving link session, .silent)
        else (.tearingDown link, .call .detach link)
  | .serving _ _, .raises | .ended, .raises => none
  | _, .raises => some (.ended, .silent)
  | .closing _, .finishes | .tearingDown _, .finishes => some (.ended, .silent)
  | _, _ => none

/-- The read loop of the handler's connection has not ended. -/
def live : Point Chunk → Bool
  | .attached _ | .serving _ _ => true
  | _ => false

/-- The attach has not returned. -/
def beforeWelcome : Point Chunk → Bool
  | .opening | .attaching _ | .attached _ => true
  | _ => false

/-- The steps of a handler, as far as core sees them. -/
inductive Moves (relay : Relay) (fresh : Nat) : Point Chunk → Point Chunk → Effect → Prop
  | construct (publicKey : Str) :
      Moves relay fresh .opening (.attaching ⟨⟨relay, publicKey⟩, fresh⟩) .construct
  | attach (link : LinkObject) :
      Moves relay fresh (.attaching link) (.attached link) (.call .attach link)
  | attachReturned (link : LinkObject) (session : Session Chunk) :
      Moves relay fresh (.attached link) (.serving link session) (.call .attachReturned link)
  | serve (link : LinkObject) (session next : Session Chunk) :
      Moves relay fresh (.serving link session) (.serving link next) .silent
  | detach (link : LinkObject) (session : Session Chunk) :
      Moves relay fresh (.serving link session) (.tearingDown link) (.call .detach link)
  | close {point : Point Chunk} (early : point.beforeWelcome = true) (reason : Message) :
      Moves relay fresh point (.closing reason) .silent
  | leave {point : Point Chunk} (outside : ∀ link session, point ≠ .serving link session) :
      Moves relay fresh point .ended .silent

variable {environment : Environment Chunk} {relay : Relay} {fresh : Nat}

theorem onHello_moves (message : RawMessage) :
    Moves relay fresh (.opening : Point Chunk) (onHello environment relay fresh message).1
      (onHello environment relay fresh message).2 := by
  unfold onHello
  split
  · split
    · exact .close rfl _
    · exact .construct _
  · exact .close rfl _
  · exact .leave nofun
  · exact .leave nofun

/-- Everything a handler can do. -/
theorem step_moves {point next : Point Chunk} {event : Event} {effect : Effect}
    (taken : point.step environment relay fresh event = some (next, effect)) :
    Moves relay fresh point next effect := by
  cases point with
  | opening =>
      cases event with
      | hello message =>
          have moves := @onHello_moves _ environment relay fresh message
          rw [Option.some.inj taken] at moves
          exact moves
      | helloTimeout => cases taken; exact .close rfl _
      | raises => cases taken; exact .leave nofun
      | attach | attachReturns | attachRefused | session | finishes => cases taken
  | closing reason =>
      cases event with
      | raises | finishes => cases taken; exact .leave nofun
      | hello | helloTimeout | attach | attachReturns | attachRefused | session => cases taken
  | attaching link =>
      cases event with
      | attach => cases taken; exact .attach link
      | attachRefused error => cases taken; exact .close rfl _
      | raises => cases taken; exact .leave nofun
      | hello | helloTimeout | attachReturns | session | finishes => cases taken
  | attached link =>
      cases event with
      | attachReturns answer record => cases taken; exact .attachReturned link _
      | attachRefused error => cases taken; exact .close rfl _
      | raises => cases taken; exact .leave nofun
      | hello | helloTimeout | attach | session | finishes => cases taken
  | serving link session =>
      cases event with
      | session action =>
          obtain ⟨after, _, outcome⟩ := Option.map_eq_some_iff.mp taken
          split at outcome <;> cases outcome
          · exact .serve link session after
          · exact .detach link session
      | hello | helloTimeout | attach | attachReturns | attachRefused | raises | finishes =>
          cases taken
  | tearingDown link =>
      cases event with
      | raises | finishes => cases taken; exact .leave nofun
      | hello | helloTimeout | attach | attachReturns | attachRefused | session => cases taken
  | ended => cases event <;> cases taken

end Point

/-- One call of core by the handler of a socket. -/
structure Call where
  kind : CallKind
  socket : Nat
  link : LinkObject
  deriving DecidableEq

/-- One socket's handler. -/
structure Handler (Chunk : Type) where
  relay : Relay
  point : Point Chunk

/-- The handlers and what core holds.  `owners` and `calls` are history variables. -/
structure Gateway (Chunk : Type) where
  /-- The handler of each socket, in the order of their opening. -/
  handlers : List (Handler Chunk)
  /-- For each link object, the socket whose handler constructed it. -/
  owners : List Nat
  /-- The identity of the connection core holds for a role. -/
  serves : Role → Option Nat
  /-- The calls of core, oldest first. -/
  calls : List Call

namespace Effect

/-- What core holds afterwards: an attach replaces, a detach compares and removes. -/
def onCore (serves : Role → Option Nat) : Effect → Role → Option Nat
  | .call .attach link => Function.update serves link.role (some link.identity)
  | .call .detach link =>
      if serves link.role = some link.identity then Function.update serves link.role none
      else serves
  | _ => serves

/-- The calls it adds to the history. -/
def calls (socket : Nat) : Effect → List Call
  | .call kind link => [⟨kind, socket, link⟩]
  | _ => []

/-- The owners it adds to the history. -/
def owners (socket : Nat) : Effect → List Nat
  | .construct => [socket]
  | _ => []

end Effect

namespace Gateway

/-- Before the first socket opens. -/
def initial : Gateway Chunk where
  handlers := []
  owners := []
  serves := fun _ => none
  calls := []

/-- What can happen to the gateway. -/
inductive Action where
  | accept (relay : Relay)
  | handler (socket : Nat) (event : Event)

/-- A handler has made a step. -/
def moved (gateway : Gateway Chunk) (socket : Nat) (handler : Handler Chunk) (effect : Effect) :
    Gateway Chunk where
  handlers := gateway.handlers.set socket handler
  owners := gateway.owners ++ effect.owners socket
  serves := effect.onCore gateway.serves
  calls := gateway.calls ++ effect.calls socket

/-- One step of the gateway. -/
def step (environment : Environment Chunk) (gateway : Gateway Chunk) :
    Action → Option (Gateway Chunk)
  | .accept relay => some { gateway with handlers := gateway.handlers ++ [⟨relay, .opening⟩] }
  | .handler socket event => do
      let handler ← gateway.handlers[socket]?
      let (point, effect) ←
        handler.point.step environment handler.relay gateway.owners.length event
      some (gateway.moved socket { handler with point } effect)

/-- The gateway as a machine. -/
def machine (environment : Environment Chunk) : Machine (Gateway Chunk) Action where
  step := step environment

/-- Everything the gateway can do. -/
theorem step_cases {environment : Environment Chunk} {gateway next : Gateway Chunk}
    {action : Action} (taken : step environment gateway action = some next) :
    (∃ relay, action = .accept relay ∧
        next = { gateway with handlers := gateway.handlers ++ [⟨relay, .opening⟩] }) ∨
      ∃ socket event handler point effect, action = .handler socket event ∧
        gateway.handlers[socket]? = some handler ∧
        handler.point.Moves handler.relay gateway.owners.length point effect ∧
        next = gateway.moved socket { handler with point } effect := by
  cases action with
  | accept relay => exact .inl ⟨relay, rfl, (Option.some.inj taken).symm⟩
  | handler socket event =>
      obtain ⟨handler, found, rest⟩ := Option.bind_eq_some_iff.mp taken
      obtain ⟨⟨point, effect⟩, stepped, outcome⟩ := Option.bind_eq_some_iff.mp rest
      exact .inr ⟨socket, event, handler, point, effect, rfl, found, Point.step_moves stepped,
        (Option.some.inj outcome).symm⟩

end Gateway
end Souk.Server
