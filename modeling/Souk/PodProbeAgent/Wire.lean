import Souk.Sdk.Handshake

/-!
# The pod probe up to its open link

`fetchTicket`, `handshake`, `register` and the order in which `connectOnce` calls them.  The probe
compares keys as bytes and carries them as the hex text which `/tickets` answered.
-/

namespace Souk.PodProbeAgent

open Souk.Python
open Souk.Sdk

/-- The value of a hex digit. -/
def hexDigit (digit : CodePoint) : Option UInt8 :=
  let code := digit.val
  if 48 ≤ code ∧ code ≤ 57 then some (UInt8.ofNat (code - 48))
  else if 97 ≤ code ∧ code ≤ 102 then some (UInt8.ofNat (code - 87))
  else if 65 ≤ code ∧ code ≤ 70 then some (UInt8.ofNat (code - 55))
  else none

/-- `hex.DecodeString`. -/
def hexDecode : Str → Option (List UInt8)
  | [] => some []
  | [_] => none
  | high :: low :: rest => do
      let high ← hexDigit high
      let low ← hexDigit low
      let bytes ← hexDecode rest
      return (16 * high + low) :: bytes

/-- The hex digit of a value below sixteen. -/
def hexChar (value : Nat) : CodePoint :=
  if value < 10 then Fin.ofNat 0x110000 (48 + value) else Fin.ofNat 0x110000 (87 + value)

/-- `hex.EncodeToString`. -/
def hexEncode (bytes : List UInt8) : Str :=
  bytes.flatMap fun byte => [hexChar (byte.toNat / 16), hexChar (byte.toNat % 16)]

/-- `ed25519.PublicKeySize`. -/
def publicKeySize : Nat := 32

/-- What `POST /tickets` answers. -/
structure HttpAnswer where
  statusCode : Nat
  body : List UInt8

/-- The fields of a `/tickets` answer which the probe reads. -/
structure TicketAnswer where
  ticket : Str
  funduqPublicKey : Str

/-- The fields of the first message which the probe reads. -/
structure Welcome where
  type : Str
  funduqPublicKey : Str
  answer : Str

/-- The fields of the answer to a registration which the probe reads. -/
structure Registered where
  type : Str
  names : List Str
  message : Str

/-- One probe: the fields of its `SoukConn`, its pin, and what it reaches for outside this
repository. -/
structure SoukConn where
  publicHex : Str
  /-- `cfg.soukPubKey`. -/
  pinned : Option (List UInt8)
  agentNames : List Str
  providerName : Str
  maxRuns : Int
  /-- `Identity.Sign`: the hex Ed25519 signature over a payload. -/
  sign : Str → Str
  /-- `ed25519.Verify(key, payload, signature)`. -/
  verify : List UInt8 → Str → List UInt8 → Bool
  /-- `json.Unmarshal` into the three structures above. -/
  unmarshalTicket : List UInt8 → Option TicketAnswer
  unmarshalWelcome : Str → Option Welcome
  unmarshalRegistered : Str → Option Registered

namespace SoukConn

variable (conn : SoukConn)

/-- An error with this text. -/
def fail {α : Type} (format : String) (values : List Value) : ClientProgram HttpAnswer α :=
  .raise (.failed { format, values })

/-- `fetchTicket` -/
def fetchTicket : ClientProgram HttpAnswer (Str × Str) := do
  let response ← postTickets conn.publicHex
  if response.statusCode ≠ 200 ∧ response.statusCode ≠ 201 then
    .raise (.status response.statusCode)
  match conn.unmarshalTicket response.body with
  | none => fail "ticket response did not parse" []
  | some answer =>
      if answer.ticket = [] then fail "POST /tickets answered without a ticket" []
      match hexDecode answer.funduqPublicKey with
      | none => fail "POST /tickets presented no valid funduqPublicKey" []
      | some presented =>
          if presented.length ≠ publicKeySize then
            fail "POST /tickets presented no valid funduqPublicKey" []
          match conn.pinned with
          | none => return (answer.ticket, answer.funduqPublicKey)
          | some pinned =>
              if pinned ≠ presented then
                fail "souk is %.16s…, not the pinned %.16s… — refusing to sign a proof for it"
                  [.str answer.funduqPublicKey, .str (hexEncode pinned)]
              return (answer.ticket, answer.funduqPublicKey)

/-- The `helloFrame`. -/
def hello (ticket nonce proof : Str) : Dict :=
  [("type", .str "hello"), ("version", .int handshakeVersion),
    ("publicKey", .str conn.publicHex), ("ticket", .str ticket), ("nonce", .str nonce),
    ("proof", .str proof), ("maxConcurrentRuns", .int conn.maxRuns)]

/-- `handshake` -/
def handshake (ticket funduqKey : Str) : ClientProgram HttpAnswer Unit := do
  let providerNonce ← newNonce
  let proof := conn.sign (providerConnectPayload funduqKey ticket providerNonce)
  send (conn.hello ticket providerNonce proof)
  let raw ← receive
  match conn.unmarshalWelcome raw with
  | none => fail "read welcome" []
  | some welcome =>
      if welcome.type ≠ str "welcome" then
        fail "expected welcome, got %q" [.str welcome.type]
      match hexDecode funduqKey, hexDecode welcome.answer with
      | none, _ => fail "funduq public key from /tickets is not a valid ed25519 key" []
      | some key, sig =>
          if key.length ≠ publicKeySize then
            fail "funduq public key from /tickets is not a valid ed25519 key" []
          match sig with
          | none => fail "welcome answer is not hex" []
          | some sig =>
              if !conn.verify key (funduqConnectPayload ticket providerNonce) sig then
                fail ("souk answered the handshake but did not prove possession of %.16s… " ++
                    "(it presented %.16s…)")
                  [.str funduqKey, .str welcome.funduqPublicKey]

/-- What the probe says of its agents. -/
def description : String :=
  "Read-only state probe living inside a pod: reports file build/modify times, directory " ++
    "listings, bounded file reads, process and env facts. Cannot write, exec, or change anything."

/-- `agentRecords` -/
def agentRecords (names : List Str) : List Value :=
  names.map fun name =>
    .dict [("description", .str description), ("name", .str name),
      ("takesInterjections", .bool false)]

/-- The `register` frame. -/
def registerFrame : Dict :=
  if conn.providerName = [] then
    [("agents", .list (agentRecords conn.agentNames)), ("type", .str "register")]
  else
    [("agents", .list (agentRecords conn.agentNames)), ("providerName", .str conn.providerName),
      ("type", .str "register")]

/-- `register` -/
def register : ClientProgram HttpAnswer Unit := do
  send conn.registerFrame
  let raw ← receive
  match conn.unmarshalRegistered raw with
  | none => fail "read registered" []
  | some answer =>
      if answer.type = str "registered" then return
      else if answer.type = str "error" then
        fail "souk refused this registration: %s" [.str answer.message]
      else fail "expected registered, got %q" [.str answer.type]

/-- `connectOnce`, where `serve` is its frame loop with the goroutines it starts. -/
def connectOnce {α : Type} (serve : ClientProgram HttpAnswer α) :
    ClientProgram HttpAnswer α := do
  let (ticket, funduqKey) ← conn.fetchTicket
  dial
  conn.handshake ticket funduqKey
  conn.register
  serve

/-! ## The handshake is kept to -/

/-- The ticket and the key in an answer of `/tickets`. -/
def presented (response : HttpAnswer) : Option (Value × Value) := do
  let answer ← conn.unmarshalTicket response.body
  let key ← hexDecode answer.funduqPublicKey
  if (response.statusCode = 200 ∨ response.statusCode = 201) ∧ answer.ticket ≠ [] ∧
      key.length = publicKeySize then
    return (.str answer.ticket, .str answer.funduqPublicKey)
  else none

/-- What the probe goes by. -/
def terms : HandshakeTerms HttpAnswer where
  publicKey := conn.publicHex
  presents := conn.presented
  Trusts key := ∀ pinned, conn.pinned = some pinned →
    ∃ text, key = .str text ∧ hexDecode text = some pinned
  text value := value.asStr?.getD []
  Signed payload proof := conn.sign payload = proof
  Proves key payload message := ∃ text bytes welcome sig, key = .str text ∧
    hexDecode text = some bytes ∧ conn.unmarshalWelcome message = some welcome ∧
    welcome.type = str "welcome" ∧ hexDecode welcome.answer = some sig ∧
    conn.verify bytes payload sig = true

variable {conn}

theorem fetchTicket_safe :
    conn.fetchTicket.Safe (Permitted conn.terms)
      (fun fetched => Presented conn.terms (.str fetched.1) (.str fetched.2)) [] := by
  simp only [fetchTicket, fail, Program.safe_bind, safe_postTickets, Program.safe_ite,
    Program.safe_raise]
  refine ⟨permitted_postTickets conn.publicHex, fun response => ⟨fun _ => trivial, ?_⟩⟩
  intro success
  have accepted : response.statusCode = 200 ∨ response.statusCode = 201 := by omega
  split
  · trivial
  · rename_i answer parsed
    rw [Program.safe_ite]
    refine ⟨fun _ => trivial, fun ticketed => ?_⟩
    split
    · trivial
    · rename_i key decoded
      rw [Program.safe_ite]
      refine ⟨fun _ => trivial, fun sized => ?_⟩
      have presents : conn.presented response =
          some (.str answer.ticket, .str answer.funduqPublicKey) := by
        simp [presented, parsed, decoded, accepted, ticketed, not_not.mp sized]
      split
      · rename_i unpinned
        refine ⟨response, rfl, presents, fun pinned impossible => ?_⟩
        rw [unpinned] at impossible
        cases impossible
      · rename_i pinned pin
        rw [Program.safe_ite]
        refine ⟨fun _ => trivial, fun same => ⟨response, rfl, presents, fun other otherPin => ?_⟩⟩
        obtain rfl := Option.some.inj (pin.symm.trans otherPin)
        exact ⟨answer.funduqPublicKey, rfl, by rw [decoded, not_not.mp same]⟩

theorem handshake_safe {ticket funduqKey : Str} {past : List (WireEvent HttpAnswer)}
    (presented : Presented conn.terms (.str ticket) (.str funduqKey) past) :
    (conn.handshake ticket funduqKey).Safe (Permitted conn.terms)
      (fun _ => Verified conn.terms) (past ++ [⟨.dial, some ()⟩]) := by
  simp only [handshake, fail, Program.safe_bind, safe_newNonce, safe_send, safe_receive]
  refine ⟨presented.permitted (by simp) (by simp), fun nonce => ?_⟩
  obtain ⟨response, rfl, presents, trusts⟩ := presented
  have sound : Attempt.Sound conn.terms
      ⟨response, .str ticket, .str funduqKey, nonce,
        conn.hello ticket nonce (conn.sign (providerConnectPayload funduqKey ticket nonce))⟩ :=
    { presented := presents
      trusted := trusts
      type := rfl
      publicKey := rfl
      ticket := rfl
      nonce := rfl
      proof := ⟨_, rfl, rfl⟩ }
  refine ⟨sound.permitted_hello, fun _ => ⟨sound.permitted_receive, fun message => ?_⟩⟩
  split
  · trivial
  · rename_i welcome parsed
    rw [Program.safe_ite]
    refine ⟨fun _ => trivial, fun isWelcome => ?_⟩
    split
    · trivial
    · rename_i key decoded
      rw [Program.safe_ite]
      refine ⟨fun _ => trivial, fun _ => ?_⟩
      split
      · trivial
      · rename_i sig answer
        rw [Program.safe_ite]
        refine ⟨fun _ => trivial, fun verifies => sound.verified ?_⟩
        rw [Bool.not_eq_true', Bool.not_eq_false] at verifies
        exact ⟨funduqKey, key, welcome, sig, rfl, decoded, parsed, not_not.mp isWelcome, answer,
          verifies⟩

/-- The probe keeps to the handshake, whatever its frame loop does. -/
theorem connectOnce_safe {α : Type} (serve : ClientProgram HttpAnswer α) :
    (conn.connectOnce serve).Safe (Permitted conn.terms) (fun _ _ => True) [] :=
  safe_connection fetchTicket_safe (fun _ _ presented => handshake_safe presented) _

/-- A server which plays its part gets the hello and the registration. -/
example :
    let conn : SoukConn :=
      { publicHex := str "aa", pinned := none, agentNames := [str "probe"], providerName := [],
        maxRuns := 1, sign := id, verify := fun _ _ _ => true,
        unmarshalTicket := fun _ => some ⟨str "ticket", List.replicate 64 (codePoint '0')⟩,
        unmarshalWelcome := fun _ => some ⟨str "welcome", [], []⟩,
        unmarshalRegistered := fun _ => some ⟨str "registered", [], []⟩ }
    let honest : Program.Surroundings (WireAnswer HttpAnswer) := fun _ call =>
      match call with
      | .postTickets _ => some ⟨200, []⟩
      | .dial | .send _ => some ()
      | .newNonce | .receive => some []
    ((conn.connectOnce (pure ())).run honest []).1.countP sends = 2 := by
  decide

end SoukConn
end Souk.PodProbeAgent
