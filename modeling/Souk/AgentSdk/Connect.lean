import Souk.Sdk.Handshake

/-!
# `SoukProvider` up to its open link

`_fetch_ticket`, `_handshake`, `_register` and the order in which `_run_connection` calls them.
-/

namespace Souk.AgentSdk

open Souk.Python
open Souk.Sdk

/-- The settings of a provider and what it reaches for outside this repository. -/
structure ProviderSettings where
  limits : Json.Limits
  soukHttpUrl : Str
  /-- `self.souk_public_key`. -/
  soukPublicKey : Option Str
  publicKey : Str
  /-- The identity's Ed25519 signature over a payload, in hex. -/
  sign : Str → Except Raised Str
  /-- `verify_signature(public_key, signature, payload)`. -/
  verifySignature : Str → Str → Str → Except Raised Bool
  maxConcurrentRuns : Option Int
  providerName : Option Str
  /-- The dumped registrations of `self.agents`. -/
  agents : List Value

namespace ProviderSettings

variable (settings : ProviderSettings)

/-- `_fetch_ticket` -/
def fetchTicket : ClientProgram HttpResponse (Str × Str) := do
  let response ← postTickets settings.publicKey
  if !response.isSuccess then .raise (.status response.status)
  let data ← .ofExcept .raised response.json
  let ticket ← .ofExcept .raised (data.getAttr "ticket")
  let funduqKey ← .ofExcept .raised (data.getAttr "funduqPublicKey")
  match ticket.nonEmptyStr?, funduqKey.nonEmptyStr? with
  | none, _ =>
      .raise (.failed
        { format := "%s/tickets answered without a ticket: %r"
          values := [.str settings.soukHttpUrl, data] })
  | some _, none =>
      .raise (.failed
        { format := "%s/tickets presented no funduqPublicKey — souk's identity key is required, " ++
            "so this is not a working souk"
          values := [.str settings.soukHttpUrl] })
  | some ticket, some funduqKey =>
      match settings.soukPublicKey with
      | none => pure (ticket, funduqKey)
      | some pinned =>
          if funduqKey ≠ pinned then
            .raise (.wrongFunduq
              { format := "%s is souk %.16s…, not the %.16s… this provider was told to trust"
                values := [.str settings.soukHttpUrl, .str funduqKey, .str pinned] })
          else pure (ticket, funduqKey)

/-- The `hello` frame. -/
def hello (ticket nonce proof : Str) : Dict :=
  [("type", .str "hello"), ("version", .int handshakeVersion),
    ("publicKey", .str settings.publicKey), ("ticket", .str ticket), ("nonce", .str nonce),
    ("maxConcurrentRuns", settings.maxConcurrentRuns.elim .null .int), ("proof", .str proof)]

/-- `_handshake` -/
def handshake (ticket funduqKey : Str) : ClientProgram HttpResponse Unit :=
  exchangeHello settings.limits settings.sign (settings.verifySignature funduqKey)
    (providerConnectPayload funduqKey ticket) (funduqConnectPayload ticket)
    (settings.hello ticket) fun welcome =>
      { format := "%s answered the handshake but did not prove possession of %.16s… " ++
          "(it presented %.16s…)"
        values := [.str settings.soukHttpUrl, .str funduqKey, Dict.get welcome "funduqPublicKey"] }

/-- The `register` frame. -/
def registerFrame : Dict :=
  match settings.providerName with
  | none => [("type", .str "register"), ("agents", .list settings.agents)]
  | some name =>
      [("type", .str "register"), ("agents", .list settings.agents), ("providerName", .str name)]

/-- `_register` -/
def register : ClientProgram HttpResponse Unit := do
  send settings.registerFrame
  let raw ← receive
  let answer ← .ofExcept .raised (Json.loads settings.limits raw)
  let kind ← .ofExcept .raised (answer.getAttr "type")
  let fields := answer.asDict?.getD []
  if kind.eq (.str "error") then
    .raise (.failed
      { format := "souk refused this registration: %r", values := [Dict.get fields "message"] })
  if !kind.eq (.str "registered") then
    .raise (.failed { format := "expected registered, got %r", values := [answer] })
  let _ ← .ofExcept .raised ((Dict.get fields "names").orElse (.list [])).len

/-- `_run_connection`, where `serve` is its frame loop with the tasks it starts. -/
def runConnection {α : Type} (serve : ClientProgram HttpResponse α) :
    ClientProgram HttpResponse α := do
  let (ticket, funduqKey) ← settings.fetchTicket
  dial
  settings.handshake ticket funduqKey
  settings.register
  serve

/-! ## The handshake is kept to -/

/-- The ticket and the key in an answer of `/tickets`. -/
def presented (response : HttpResponse) : Option (Value × Value) :=
  match response.isSuccess, response.json with
  | true, .ok (.dict data) => do
      let ticket ← (Dict.get data "ticket").nonEmptyStr?
      let funduqKey ← (Dict.get data "funduqPublicKey").nonEmptyStr?
      return (.str ticket, .str funduqKey)
  | _, _ => none

/-- What a `SoukProvider` goes by. -/
def terms : HandshakeTerms HttpResponse where
  publicKey := settings.publicKey
  presents := presented
  Trusts key := ∀ pinned, settings.soukPublicKey = some pinned → key = .str pinned
  text value := value.asStr?.getD []
  Signed payload proof := settings.sign payload = .ok proof
  Proves key payload message := ∃ funduqKey answer, key = .str funduqKey ∧
    welcomes settings.limits message answer ∧
    settings.verifySignature funduqKey answer payload = .ok true

variable {settings}

theorem fetchTicket_safe :
    settings.fetchTicket.Safe (Permitted settings.terms)
      (fun fetched => Presented settings.terms (.str fetched.1) (.str fetched.2)) [] := by
  simp only [fetchTicket, Program.safe_bind, safe_postTickets, Program.safe_ofExcept,
    Program.safe_ite, Program.safe_raise]
  refine ⟨permitted_postTickets settings.publicKey, fun response => ⟨fun _ => trivial, ?_⟩⟩
  intro success data json ticket gotTicket funduqKey gotKey
  obtain ⟨fields, rfl, rfl⟩ := Value.getAttr_eq_ok.mp gotTicket
  obtain ⟨_, same, rfl⟩ := Value.getAttr_eq_ok.mp gotKey
  obtain rfl := Value.dict.inj same
  split
  · trivial
  · trivial
  · rename_i ticket funduqKey foundTicket foundKey
    have presents : presented response = some (.str ticket, .str funduqKey) := by
      rw [Bool.not_eq_true', Bool.not_eq_false] at success
      simp [presented, success, json, foundTicket, foundKey]
    split
    · rename_i unpinned
      refine ⟨response, rfl, presents, fun pinned impossible => ?_⟩
      rw [unpinned] at impossible
      cases impossible
    · rename_i pinned pin
      rw [Program.safe_ite]
      refine ⟨fun _ => trivial, fun same => ⟨response, rfl, presents, fun other otherPin => ?_⟩⟩
      obtain rfl := Option.some.inj (pin.symm.trans otherPin)
      rw [not_not.mp same]

theorem handshake_safe {ticket funduqKey : Str} {past : List (WireEvent HttpResponse)}
    (presented : Presented settings.terms (.str ticket) (.str funduqKey) past) :
    (settings.handshake ticket funduqKey).Safe (Permitted settings.terms)
      (fun _ => Verified settings.terms) (past ++ [⟨.dial, some ()⟩]) := by
  refine exchangeHello_safe presented rfl (fun response nonce proof presents trusts signed => ?_)
    (fun payload message answer welcome verifies => ⟨funduqKey, answer, rfl, welcome, verifies⟩)
  exact
    { presented := presents
      trusted := trusts
      type := rfl
      publicKey := rfl
      ticket := rfl
      nonce := rfl
      proof := ⟨proof, rfl, signed⟩ }

/-- A `SoukProvider` keeps to the handshake, whatever its frame loop does. -/
theorem runConnection_safe {α : Type} (serve : ClientProgram HttpResponse α) :
    (settings.runConnection serve).Safe (Permitted settings.terms) (fun _ _ => True) [] :=
  safe_connection fetchTicket_safe (fun _ _ presented => handshake_safe presented) _

end ProviderSettings
end Souk.AgentSdk
