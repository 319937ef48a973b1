import Souk.Server.WsCommon

/-!
# The hello of the two relays

The server half of the handshake after `accept`: the first frame must be a hello, and each relay
says in its own words what is missing from it.
-/

namespace Souk.Server

open Souk.Python

/-- `WIRE_VERSION`. -/
def wireVersion : Int := 4

/-- What `receive_hello` makes of the first message. -/
inductive HelloReceived where
  | hello (fields : Dict)
  /-- It closes the socket with this reason. -/
  | refused (reason : String)
  /-- The peer has gone. -/
  | gone

/-- `receive_hello`, once its timeout has not passed. -/
def receiveHello (limits : Json.Limits) : RawMessage → Except Raised HelloReceived
  | .disconnect => .ok .gone
  | message => do
      match ← parseFrame limits message with
      | some hello =>
          if (Dict.get hello "type").eq (.str "hello") then return .hello hello
          else return .refused "first frame must be hello"
      | none => return .refused "first frame must be hello"

/-- The reason with which `receive_hello` closes a silent socket. -/
def noHello : String := "no hello frame"

/-- The complaint about a version which is not this one; a hello without one gets `unversioned`. -/
def versionError (unversioned : String) (hello : Dict) : Option Message :=
  let version := Dict.get hello "version"
  if version.eq (.int wireVersion) then none
  else
    match version with
    | .null => some { format := unversioned }
    | version =>
        some { format := "unsupported wire version %r; this souk speaks v4", values := [version] }

/-- The fields a hello needs, each with the complaint about its absence. -/
def helloFields : List (String × String) :=
  [("publicKey", "hello needs a publicKey"),
    ("ticket", "hello needs a ticket — POST /tickets issues one"),
    ("nonce", "hello needs a nonce"),
    ("proof", "hello needs a proof signed over the ticket")]

/-- The complaint about the first field which is not a non-empty string. -/
def fieldError (hello : Dict) : Option Message :=
  helloFields.findSome? fun (field, complaint) =>
    match (Dict.get hello field).nonEmptyStr? with
    | none => some { format := complaint }
    | some _ => none

/-- `funduq_contract.Connect`: the `maxConcurrentRuns` the model holds, or the text of its
`ValidationError`. -/
structure ConnectModel where
  validate : (publicKey ticket providerNonce proof : Str) → (maxConcurrentRuns : Value) →
    Except Str (Option Int)

/-- A field of a hello in which it is known to be a string. -/
def helloField (hello : Dict) (field : String) : Str :=
  ((Dict.get hello field).asStr?).getD []

namespace WsProvider

/-- `_hello_error` of the provider relay. -/
def helloError (connect : ConnectModel) (hello : Dict) : Option Message :=
  versionError
      "hello has no version: this souk speaks wire v4, the ticket handshake. Upgrade souk-agent-sdk."
      hello <|>
    fieldError hello <|>
    match connect.validate (helloField hello "publicKey") (helloField hello "ticket")
        (helloField hello "nonce") (helloField hello "proof")
        (Dict.get hello "maxConcurrentRuns") with
    | .ok _ => none
    | .error reason =>
        some { format := "hello is not a valid connect: %s", values := [.str reason] }

end WsProvider

namespace WsKyok

/-- `_hello_error` of the LLM provider relay. -/
def helloError (hello : Dict) : Option Message :=
  versionError "hello has no version: this souk speaks wire v4, the ticket handshake" hello <|>
    fieldError hello

end WsKyok

end Souk.Server
