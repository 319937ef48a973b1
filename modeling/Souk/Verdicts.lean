import Souk.AgentSdk.Client
import Souk.Python.JsonWire
import Souk.Server.WsProvider

/-!
# The verdict on an offer

The provider spells what its runtime answers as an `ack` frame, with a boolean and perhaps a reason,
and the gateway reads one of three verdicts back.  A refusal is told from a decline by the truth of
its reason alone.
-/

namespace Souk

open Souk.Python
open Souk.AgentSdk (RuntimeAnswer offer)
open Souk.Server
open Souk.Server.WsProvider (Contract CoreReplies OfferAnswer ProviderSocket VerdictName)

/-- An iteration of the gateway's read loop calls `answer_offer` with these arguments, and does
nothing besides. -/
def AnswersOffer (contract : Contract) (limits : Json.Limits) (text : Str) (runId : Value)
    (answer : OfferAnswer) : Prop :=
  ∀ (core : CoreReplies) (socket : ProviderSocket),
    socket.iteration contract limits core (.text text) =
      match core.answerOffer runId answer with
      | .ok () => .ok socket
      | .error error => .error error.raised

/-- What a runtime can answer: its refusals are instances of the contract's model. -/
def Answerable (contract : Contract) : RuntimeAnswer → Prop
  | .verdict _ => True
  | .refusal reason => contract.admitsReason reason = true
  | .invalid text =>
      contract.admitsReason (str "frame does not validate as a DeliveredRun: " ++ text) = true
  | .raised _ => False

/-- A core whose `answer_offer` raises at this answer. -/
def raisingCore (raising : OfferAnswer) : CoreReplies :=
  { WsProvider.plainCore with
    answerOffer := fun _ answer => if answer = raising then .error (.value []) else .ok () }

/-! ## The frame on the wire -/

section Hears

variable {contract : Contract} {limits : Json.Limits} {encoder : Json.Encoder}

/-- A message gives one answer: a core which raises at the one does not raise at another. -/
theorem AnswersOffer.unique {text : Str} {runId other : Value} {answer heard : OfferAnswer}
    (answers : AnswersOffer contract limits text runId answer)
    (hears : AnswersOffer contract limits text other heard) : answer = heard := by
  by_contra differ
  have passed := answers (raisingCore heard) (.opened [] [] [])
  have raised := hears (raisingCore heard) (.opened [] [] [])
  simp only [raisingCore, if_neg differ] at passed
  simp only [raisingCore, if_true] at raised
  cases passed.symm.trans raised

end Hears

/-! ## The verdict on a frame -/

section Frames

variable {contract : Contract} {limits : Json.Limits} {encoder : Json.Encoder} {agents : List Str}
  {frame : Dict} {name runId : Str}

end Frames

/-- The frame `{"type": "run", "runId": "r1", "agentName": "a"}`. -/
def runFrame : Dict := [("type", .str "run"), ("runId", .str "r1"), ("agentName", .str "a")]

end Souk
