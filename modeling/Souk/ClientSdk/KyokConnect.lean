import Souk.Sdk.Handshake

/-!
# `KyokBridge` up to its open link

`_fetch_ticket`, `_handshake`, `_register_on_link` and the order in which `_serve_connection` calls
them.  Ticket and key are used as `/tickets` answers them, whatever JSON they are.
-/

namespace Souk.ClientSdk

open Souk.Python
open Souk.Sdk

/-- The settings of a bridge and what it reaches for outside this repository. -/
structure BridgeSettings where
  limits : Json.Limits
  offering : Str
  /-- `self.funduq_public_key`. -/
  funduqPublicKey : Option Str
  publicKey : Str
  /-- The identity's Ed25519 signature over a payload, in hex. -/
  sign : Str → Except Raised Str
  /-- `verify_signature(public_key, signature, payload)`. -/
  verifySignature : Value → Str → Str → Except Raised Bool
  /-- `str(value)` of a value which is not a string. -/
  display : Value → Str

namespace BridgeSettings

variable (settings : BridgeSettings)

/-- A value as an f-string writes it. -/
def text : Value → Str
  | .str text => text
  | value => settings.display value

/-- `_fetch_ticket` -/
def fetchTicket : ClientProgram HttpResponse (Value × Value) := do
  let response ← postTickets settings.publicKey
  if !response.isSuccess then .raise (.status response.status)
  let data ← .ofExcept .raised response.json
  let funduqKey ← .ofExcept .raised (data.item "funduqPublicKey")
  match settings.funduqPublicKey with
  | none => pure ()
  | some pinned =>
      if !funduqKey.eq (.str pinned) then
        .raise (.wrongFunduq
          { format := "ticket endpoint presented funduq key %s, but this bridge pinned %s"
            values := [funduqKey, .str pinned] })
  let ticket ← .ofExcept .raised (data.item "ticket")
  return (ticket, funduqKey)

/-- The `hello` frame. -/
def hello (ticket : Value) (nonce proof : Str) : Dict :=
  [("type", .str "hello"), ("version", .int handshakeVersion),
    ("publicKey", .str settings.publicKey), ("ticket", ticket), ("nonce", .str nonce),
    ("proof", .str proof)]

/-- `_handshake` -/
def handshake (ticket funduqKey : Value) : ClientProgram HttpResponse Unit :=
  exchangeHello settings.limits settings.sign (settings.verifySignature funduqKey)
    (providerConnectPayload (settings.text funduqKey) (settings.text ticket))
    (funduqConnectPayload (settings.text ticket)) (settings.hello ticket) fun _ =>
      { format := "the funduq answering this link-open did not prove the key it presented at " ++
          "ticket time" }

/-- The `register` frame. -/
def registerFrame : Dict :=
  [("type", .str "register"), ("models", .list [.str settings.offering])]

/-- `_register_on_link` -/
def registerOnLink : ClientProgram HttpResponse Unit := do
  send settings.registerFrame
  let raw ← receive
  let reply ← .ofExcept .raised (Json.loads settings.limits raw)
  let kind ← .ofExcept .raised (reply.getAttr "type")
  let fields := reply.asDict?.getD []
  if kind.eq (.str "error") then
    .raise (.failed
      { format := "souk refused the registration: %r", values := [Dict.get fields "message"] })
  let unexpected : ConnectError := .failed
    { format := "expected registered [%r], got %r", values := [.str settings.offering, reply] }
  if !kind.eq (.str "registered") then .raise unexpected
  let names := (fields.lookup (str "names")).getD (.list [])
  let listed ← .ofExcept .raised (Value.contains settings.offering names)
  if !listed then .raise unexpected

/-- `_serve_connection`, where `serve` is its frame loop with the tasks it starts. -/
def serveConnection {α : Type} (serve : ClientProgram HttpResponse α) :
    ClientProgram HttpResponse α := do
  let (ticket, funduqKey) ← settings.fetchTicket
  dial
  settings.handshake ticket funduqKey
  settings.registerOnLink
  serve

/-! ## The handshake is kept to -/

/-- The ticket and the key in an answer of `/tickets`. -/
def presented (response : HttpResponse) : Option (Value × Value) :=
  match response.isSuccess, response.json with
  | true, .ok (.dict data) => do
      let ticket ← data.lookup (str "ticket")
      let funduqKey ← data.lookup (str "funduqPublicKey")
      return (ticket, funduqKey)
  | _, _ => none

/-- What a `KyokBridge` goes by. -/
def terms : HandshakeTerms HttpResponse where
  publicKey := settings.publicKey
  presents := presented
  Trusts key := ∀ pinned, settings.funduqPublicKey = some pinned → key = .str pinned
  text := settings.text
  Signed payload proof := settings.sign payload = .ok proof
  Proves key payload message := ∃ answer, welcomes settings.limits message answer ∧
    settings.verifySignature key answer payload = .ok true

variable {settings}

theorem fetchTicket_safe :
    settings.fetchTicket.Safe (Permitted settings.terms)
      (fun fetched => Presented settings.terms fetched.1 fetched.2) [] := by
  simp only [fetchTicket, Program.safe_bind, safe_postTickets, Program.safe_ofExcept,
    Program.safe_ite, Program.safe_raise]
  refine ⟨permitted_postTickets settings.publicKey, fun response => ⟨fun _ => trivial, ?_⟩⟩
  intro success data json funduqKey gotKey
  rw [Bool.not_eq_true', Bool.not_eq_false] at success
  obtain ⟨fields, rfl, foundKey⟩ := Value.item_eq_ok.mp gotKey
  have completes (trusts : settings.terms.Trusts funduqKey) :
      (do
        let ticket ← .ofExcept .raised ((Value.dict fields).item (str "ticket"))
        return (ticket, funduqKey) : ClientProgram HttpResponse (Value × Value)).Safe
          (Permitted settings.terms)
          (fun fetched => Presented settings.terms fetched.1 fetched.2)
          [⟨.postTickets settings.publicKey, some response⟩] := by
    rw [Program.safe_bind, Program.safe_ofExcept]
    intro ticket gotTicket
    obtain ⟨_, same, foundTicket⟩ := Value.item_eq_ok.mp gotTicket
    obtain rfl := Value.dict.inj same
    refine ⟨response, rfl, ?_, trusts⟩
    simp [terms, presented, success, json, foundKey, foundTicket]
  split
  · rename_i unpinned
    refine completes fun pinned impossible => ?_
    rw [unpinned] at impossible
    cases impossible
  · rename_i pinned pin
    rw [Program.safe_ite]
    refine ⟨fun _ => trivial, fun same => completes fun other otherPin => ?_⟩
    obtain rfl := Option.some.inj (pin.symm.trans otherPin)
    rwa [Bool.not_eq_true', Bool.not_eq_false, Value.eq_str_iff] at same

theorem handshake_safe {ticket funduqKey : Value} {past : List (WireEvent HttpResponse)}
    (presented : Presented settings.terms ticket funduqKey past) :
    (settings.handshake ticket funduqKey).Safe (Permitted settings.terms)
      (fun _ => Verified settings.terms) (past ++ [⟨.dial, some ()⟩]) := by
  refine exchangeHello_safe presented rfl (fun response nonce proof presents trusts signed => ?_)
    (fun payload message answer welcome verifies => ⟨answer, welcome, verifies⟩)
  exact
    { presented := presents
      trusted := trusts
      type := rfl
      publicKey := rfl
      ticket := rfl
      nonce := rfl
      proof := ⟨proof, rfl, signed⟩ }

/-- A `KyokBridge` keeps to the handshake, whatever its frame loop does. -/
theorem serveConnection_safe {α : Type} (serve : ClientProgram HttpResponse α) :
    (settings.serveConnection serve).Safe (Permitted settings.terms) (fun _ _ => True) [] :=
  safe_connection fetchTicket_safe (fun _ _ presented => handshake_safe presented) _

end BridgeSettings
end Souk.ClientSdk
