import Souk.Library.Program
import Souk.Python.JsonDecoder

/-!
# The client's half of the handshake

What the three clients of the wire have in common: the calls each makes on its way to an open link,
the payloads both sides sign, and what a client may do when.  The server is the surroundings of the
client's program, and nothing is assumed of it.
-/

namespace Souk.Sdk

open Souk.Python

/-- `provider_connect_payload`. -/
def providerConnectPayload (funduqPublicKey ticket providerNonce : Str) : Str :=
  str "funduq-connect-provider:" ++ funduqPublicKey ++ str ":" ++ ticket ++ str ":" ++ providerNonce

/-- `funduq_connect_payload`. -/
def funduqConnectPayload (ticket providerNonce : Str) : Str :=
  str "funduq-connect-funduq:" ++ ticket ++ str ":" ++ providerNonce

/-- `HANDSHAKE_VERSION`. -/
def handshakeVersion : Int := 4

/-- `isinstance(answer, str) and verify_signature(…)`, where the argument is the verification. -/
def answerVerifies (verifySignature : Str → Except Raised Bool) : Value → Except Raised Bool
  | .str answer => verifySignature answer
  | _ => .ok false

theorem answerVerifies_eq_true {verifySignature : Str → Except Raised Bool} {value : Value} :
    answerVerifies verifySignature value = .ok true ↔
      ∃ answer, value = .str answer ∧ verifySignature answer = .ok true := by
  cases value with
  | str answer => simp [answerVerifies]
  | null | bool | int | float | list | dict => simp [answerVerifies]

/-- The calls of a client on its way to an open link. -/
inductive WireCall where
  /-- `POST /tickets`. -/
  | postTickets (publicKey : Str)
  | dial
  | newNonce
  | send (frame : Dict)
  | receive

/-- What `httpx` makes of the answer to a `POST`: its status, and what `response.json()` returns. -/
structure HttpResponse where
  status : Nat
  json : Except Raised Value

/-- `raise_for_status` does not raise. -/
def HttpResponse.isSuccess (response : HttpResponse) : Bool :=
  200 ≤ response.status ∧ response.status < 300

/-- What each call is answered with, where `/tickets` answers a `Response`. -/
abbrev WireAnswer (Response : Type) : WireCall → Type
  | .postTickets _ => Response
  | .dial | .send _ => Unit
  | .newNonce | .receive => Str

/-- With what a connection attempt ends when it fails. -/
inductive ConnectError where
  | raised (error : Raised)
  /-- The status of `/tickets` is no success. -/
  | status (code : Nat)
  | failed (message : Message)
  /-- `SoukIdentityMismatch`, `WrongFunduq`. -/
  | wrongFunduq (message : Message)

/-- The code of a client up to its open link. -/
abbrev ClientProgram (Response : Type) := Program ConnectError (WireAnswer Response)

/-- What has happened to a client. -/
abbrev WireEvent (Response : Type) := CallEvent (WireAnswer Response)

variable {Response : Type}

/-! ## The calls -/

section Calls

/-- `POST /tickets`. -/
def postTickets (publicKey : Str) : ClientProgram Response Response :=
  Program.ask (WireCall.postTickets publicKey)

/-- Open the socket. -/
def dial : ClientProgram Response Unit := Program.ask WireCall.dial

/-- `new_nonce()`. -/
def newNonce : ClientProgram Response Str := Program.ask WireCall.newNonce

/-- `ws.send(json.dumps(frame))`. -/
def send (frame : Dict) : ClientProgram Response Unit := Program.ask (WireCall.send frame)

/-- `ws.recv()`. -/
def receive : ClientProgram Response Str := Program.ask WireCall.receive

variable {Allowed : List (WireEvent Response) → WireCall → Prop} {past : List (WireEvent Response)}

@[simp]
theorem safe_postTickets {publicKey : Str} {post : Response → List (WireEvent Response) → Prop} :
    (postTickets publicKey).Safe Allowed post past ↔ Allowed past (.postTickets publicKey) ∧
      ∀ answer, post answer (past ++ [⟨.postTickets publicKey, some answer⟩]) :=
  Program.safe_ask (WireCall.postTickets publicKey)

@[simp]
theorem safe_dial {post : Unit → List (WireEvent Response) → Prop} :
    dial.Safe Allowed post past ↔
      Allowed past .dial ∧ ∀ answer, post answer (past ++ [⟨.dial, some answer⟩]) :=
  Program.safe_ask WireCall.dial

@[simp]
theorem safe_newNonce {post : Str → List (WireEvent Response) → Prop} :
    newNonce.Safe Allowed post past ↔
      Allowed past .newNonce ∧ ∀ nonce, post nonce (past ++ [⟨.newNonce, some nonce⟩]) :=
  Program.safe_ask WireCall.newNonce

@[simp]
theorem safe_send {frame : Dict} {post : Unit → List (WireEvent Response) → Prop} :
    (send frame).Safe Allowed post past ↔
      Allowed past (.send frame) ∧
        ∀ answer, post answer (past ++ [⟨.send frame, some answer⟩]) :=
  Program.safe_ask (WireCall.send frame)

@[simp]
theorem safe_receive {post : Str → List (WireEvent Response) → Prop} :
    receive.Safe Allowed post past ↔
      Allowed past .receive ∧
        ∀ message, post message (past ++ [⟨.receive, some message⟩]) :=
  Program.safe_ask WireCall.receive

end Calls

/-- `_handshake` of the two Python clients: the hello, and a welcome whose answer must verify. -/
def exchangeHello (limits : Json.Limits) (sign : Str → Except Raised Str)
    (verifySignature : Str → Str → Except Raised Bool) (providerPayload funduqPayload : Str → Str)
    (hello : (nonce proof : Str) → Dict) (unproved : Dict → Message) :
    ClientProgram HttpResponse Unit := do
  let nonce ← newNonce
  let proof ← .ofExcept .raised (sign (providerPayload nonce))
  send (hello nonce proof)
  let raw ← receive
  let welcome ← .ofExcept .raised (Json.loads limits raw)
  let kind ← .ofExcept .raised (welcome.getAttr "type")
  if !kind.eq (.str "welcome") then
    .raise (.failed { format := "expected welcome, got %r", values := [welcome] })
  let answer ← .ofExcept .raised (welcome.getAttr "answer")
  let verified ← .ofExcept .raised
    (answerVerifies (verifySignature · (funduqPayload nonce)) answer)
  if !verified then .raise (.wrongFunduq (unproved (welcome.asDict?.getD [])))

/-- The message is a welcome with this answer. -/
def welcomes (limits : Json.Limits) (message answer : Str) : Prop :=
  ∃ welcome, Json.loads limits message = .ok (.dict welcome) ∧
    Dict.get welcome "type" = .str "welcome" ∧ Dict.get welcome "answer" = .str answer

/-- The event sent a frame. -/
def sends (event : WireEvent Response) : Bool :=
  match event.call with
  | .send _ => true
  | _ => false

/-! ## What a client may do -/

/-- What one client goes by. -/
structure HandshakeTerms (Response : Type) where
  publicKey : Str
  /-- The ticket and the key which an answer of `/tickets` presents. -/
  presents : Response → Option (Value × Value)
  /-- No key is pinned, or this is the one. -/
  Trusts : Value → Prop
  /-- A value as it is written into a payload. -/
  text : Value → Str
  /-- The proof is this client's signature over the payload. -/
  Signed : (payload proof : Str) → Prop
  /-- The message is a welcome whose answer verifies under the key, over the payload. -/
  Proves : (key : Value) → (payload message : Str) → Prop

/-- What one connection ties together. -/
structure Attempt (Response : Type) where
  response : Response
  ticket : Value
  key : Value
  nonce : Str
  hello : Dict

namespace Attempt

/-- The hello answers to the key and the ticket which `/tickets` presented and to the nonce. -/
structure Sound (terms : HandshakeTerms Response) (attempt : Attempt Response) : Prop where
  presented : terms.presents attempt.response = some (attempt.ticket, attempt.key)
  trusted : terms.Trusts attempt.key
  type : Dict.get attempt.hello "type" = .str "hello"
  publicKey : Dict.get attempt.hello "publicKey" = .str terms.publicKey
  ticket : Dict.get attempt.hello "ticket" = attempt.ticket
  nonce : Dict.get attempt.hello "nonce" = .str attempt.nonce
  proof : ∃ proof, Dict.get attempt.hello "proof" = .str proof ∧
    terms.Signed
      (providerConnectPayload (terms.text attempt.key) (terms.text attempt.ticket) attempt.nonce)
      proof

/-- What has happened when the nonce is drawn. -/
def opening (terms : HandshakeTerms Response) (attempt : Attempt Response) :
    List (WireEvent Response) :=
  [⟨.postTickets terms.publicKey, some attempt.response⟩, ⟨.dial, some ()⟩,
    ⟨.newNonce, some attempt.nonce⟩]

/-- What has happened when the first message is received. -/
def answered (terms : HandshakeTerms Response) (attempt : Attempt Response) (message : Str) :
    List (WireEvent Response) :=
  attempt.opening terms ++ [⟨.send attempt.hello, some ()⟩, ⟨.receive, some message⟩]

end Attempt

/-- The connection began with a sound hello, and then received a welcome which proves the same key
over the same ticket and nonce. -/
def Verified (terms : HandshakeTerms Response) (past : List (WireEvent Response)) : Prop :=
  ∃ attempt message, Attempt.Sound terms attempt ∧
    terms.Proves attempt.key (funduqConnectPayload (terms.text attempt.ticket) attempt.nonce)
      message ∧
    attempt.answered terms message <+: past

/-- A call which the handshake permits after what has happened. -/
structure Permitted (terms : HandshakeTerms Response) (past : List (WireEvent Response))
    (call : WireCall) : Prop where
  /-- Nothing follows an answer of `/tickets` which does not present a trusted key. -/
  pinned : ∀ {publicKey : Str} {response : Response} {rest : List (WireEvent Response)},
    past = ⟨.postTickets publicKey, some response⟩ :: rest →
      ∃ ticket key, terms.presents response = some (ticket, key) ∧ terms.Trusts key
  /-- The first frame is a sound hello. -/
  hello : ∀ {frame : Dict}, call = .send frame → past.all (fun event => !sends event) →
    ∃ attempt, Attempt.Sound terms attempt ∧ attempt.hello = frame ∧
      past = attempt.opening terms
  /-- Any other frame follows a verified welcome. -/
  later : ∀ {frame : Dict}, call = .send frame → past.any sends → Verified terms past
  /-- Nothing follows the first message unless it is a verified welcome. -/
  welcomed : ∀ {message : Str}, ⟨.receive, some message⟩ ∈ past → Verified terms past

section Permitted

variable {terms : HandshakeTerms Response} {past : List (WireEvent Response)} {call : WireCall}

theorem Verified.append (verified : Verified terms past) (event : WireEvent Response) :
    Verified terms (past ++ [event]) := by
  obtain ⟨attempt, message, sound, proves, begins⟩ := verified
  exact ⟨attempt, message, sound, proves, begins.trans (List.prefix_append past [event])⟩

/-- After a verified welcome everything is permitted. -/
theorem Verified.permitted (verified : Verified terms past) (call : WireCall) :
    Permitted terms past call where
  pinned := by
    obtain ⟨attempt, message, sound, -, rest, rfl⟩ := verified
    intro publicKey response others same
    obtain ⟨first, -⟩ := List.cons.inj same
    injection first with _ posted
    obtain rfl := Option.some.inj posted
    exact ⟨attempt.ticket, attempt.key, sound.presented, sound.trusted⟩
  hello := by
    obtain ⟨attempt, message, sound, -, rest, rfl⟩ := verified
    intro frame _ silent
    simp [Attempt.answered, sends] at silent
  later := fun _ _ => verified
  welcomed := fun _ => verified

/-- `/tickets` has presented this ticket and this key, and the key is trusted. -/
def Presented (terms : HandshakeTerms Response) (ticket key : Value)
    (past : List (WireEvent Response)) : Prop :=
  ∃ response, past = [⟨.postTickets terms.publicKey, some response⟩] ∧
    terms.presents response = some (ticket, key) ∧ terms.Trusts key

theorem permitted_postTickets (publicKey : Str) :
    Permitted terms [] (.postTickets publicKey) where
  pinned := nofun
  hello := nofun
  later := nofun
  welcomed := nofun

/-- Before the first frame only the trust in the presented key matters. -/
theorem Presented.permitted {ticket key : Value} (presented : Presented terms ticket key past)
    {later : List (WireEvent Response)} (silent : ∀ frame, call ≠ .send frame)
    (unheard : ∀ message, (⟨.receive, some message⟩ : WireEvent Response) ∉ later) :
    Permitted terms (past ++ later) call where
  pinned := by
    obtain ⟨response, rfl, presents, trusts⟩ := presented
    intro publicKey other rest same
    obtain ⟨first, -⟩ := List.cons.inj same
    injection first with _ posted
    obtain rfl := Option.some.inj posted
    exact ⟨ticket, key, presents, trusts⟩
  hello := fun same => absurd same (silent _)
  later := fun same => absurd same (silent _)
  welcomed := by
    obtain ⟨response, rfl, -, -⟩ := presented
    intro message heard
    obtain posted | heard := List.mem_cons.mp heard
    · cases posted
    · exact absurd heard (unheard message)

namespace Attempt

variable {attempt : Attempt Response}

theorem Sound.presented_opening (sound : attempt.Sound terms) :
    Presented terms attempt.ticket attempt.key
      [⟨.postTickets terms.publicKey, some attempt.response⟩] :=
  ⟨attempt.response, rfl, sound.presented, sound.trusted⟩

theorem Sound.permitted_hello (sound : attempt.Sound terms) :
    Permitted terms (attempt.opening terms) (.send attempt.hello) where
  pinned := by
    have before : Permitted terms (attempt.opening terms) .dial :=
      sound.presented_opening.permitted (by simp) (by simp)
    intro publicKey response rest same
    exact before.pinned same
  hello := by
    intro frame same _
    exact ⟨attempt, sound, WireCall.send.inj same, rfl⟩
  later := by
    intro frame _ spoken
    simp [opening, sends] at spoken
  welcomed := by
    intro message heard
    simp [opening] at heard

theorem Sound.permitted_receive (sound : attempt.Sound terms) :
    Permitted terms (attempt.opening terms ++ [⟨.send attempt.hello, some ()⟩]) .receive :=
  sound.presented_opening.permitted (by simp) (by simp)

/-- The welcome which proves a sound attempt verifies the connection. -/
theorem Sound.verified (sound : attempt.Sound terms) {message : Str}
    (proves : terms.Proves attempt.key
      (funduqConnectPayload (terms.text attempt.ticket) attempt.nonce) message) :
    Verified terms (attempt.answered terms message) :=
  ⟨attempt, message, sound, proves, List.prefix_rfl⟩

end Attempt

/-- The handshake of a Python client whose hello is sound and whose verification is the one which
proves its peer. -/
theorem exchangeHello_safe {terms : HandshakeTerms HttpResponse} {limits : Json.Limits}
    {sign : Str → Except Raised Str} {verifySignature : Str → Str → Except Raised Bool}
    {providerPayload funduqPayload : Str → Str} {hello : Str → Str → Dict}
    {unproved : Dict → Message} {ticket key : Value} {past : List (WireEvent HttpResponse)}
    (presented : Presented terms ticket key past)
    (answered : funduqPayload = funduqConnectPayload (terms.text ticket))
    (sound : ∀ response nonce proof, terms.presents response = some (ticket, key) →
      terms.Trusts key → sign (providerPayload nonce) = .ok proof →
        Attempt.Sound terms ⟨response, ticket, key, nonce, hello nonce proof⟩)
    (proves : ∀ payload message answer, welcomes limits message answer →
      verifySignature answer payload = .ok true → terms.Proves key payload message) :
    (exchangeHello limits sign verifySignature providerPayload funduqPayload hello unproved).Safe
      (Permitted terms) (fun _ => Verified terms) (past ++ [⟨.dial, some ()⟩]) := by
  subst answered
  simp only [exchangeHello, Program.safe_bind, safe_newNonce, Program.safe_ofExcept, safe_send,
    safe_receive, Program.safe_ite, Program.safe_raise]
  refine ⟨presented.permitted (by simp) (by simp), fun nonce proof signed => ?_⟩
  obtain ⟨response, rfl, presents, trusts⟩ := presented
  have attempt := sound response nonce proof presents trusts signed
  refine ⟨attempt.permitted_hello, fun _ => ⟨attempt.permitted_receive, ?_⟩⟩
  intro message welcome parsed kind gotKind
  refine ⟨fun _ => trivial, fun isWelcome answer gotAnswer verified verifies => ?_⟩
  refine ⟨fun _ => trivial, fun proved => attempt.verified ?_⟩
  obtain ⟨fields, rfl, rfl⟩ := Value.getAttr_eq_ok.mp gotKind
  obtain ⟨_, same, rfl⟩ := Value.getAttr_eq_ok.mp gotAnswer
  obtain rfl := Value.dict.inj same
  rw [Bool.not_eq_true', Bool.not_eq_false, Value.eq_str_iff] at isWelcome
  rw [Bool.not_eq_true', Bool.not_eq_false] at proved
  subst proved
  obtain ⟨text, isText, holds⟩ := answerVerifies_eq_true.mp verifies
  exact proves _ message text ⟨fields, parsed, isWelcome, isText⟩ holds

/-- A client which fetches its ticket and shakes hands as the handshake permits may do anything
afterwards. -/
theorem safe_connection {Ticket α : Type} {fetchTicket : ClientProgram Response Ticket}
    {ticket key : Ticket → Value} {handshake : Ticket → ClientProgram Response Unit}
    (fetches : fetchTicket.Safe (Permitted terms)
      (fun fetched => Presented terms (ticket fetched) (key fetched)) [])
    (shakes : ∀ fetched past, Presented terms (ticket fetched) (key fetched) past →
      (handshake fetched).Safe (Permitted terms) (fun _ => Verified terms)
        (past ++ [⟨.dial, some ()⟩]))
    (rest : Ticket → ClientProgram Response α) :
    (do
      let fetched ← fetchTicket
      dial
      handshake fetched
      rest fetched : ClientProgram Response α).Safe (Permitted terms) (fun _ _ => True) [] := by
  rw [Program.safe_bind]
  refine fetches.weaken fun fetched past presented => ?_
  rw [Program.safe_bind, safe_dial]
  refine ⟨?_, fun answer => ?_⟩
  · have permitted : Permitted terms (past ++ []) .dial := presented.permitted (by simp) (by simp)
    rwa [List.append_nil] at permitted
  · rw [Program.safe_bind]
    refine (shakes fetched past presented).weaken fun _ past verified => ?_
    have lasts : ∀ past event, Verified terms past → Verified terms (past ++ [event]) :=
      fun _ event verified => verified.append event
    have allows : ∀ past call, Verified terms past → Permitted terms past call :=
      fun _ call verified => verified.permitted call
    exact Program.safe_of_lasting lasts allows (rest fetched) verified

end Permitted

end Souk.Sdk
