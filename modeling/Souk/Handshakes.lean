import Souk.AgentSdk.Connect
import Souk.ClientSdk.KyokConnect
import Souk.PodProbeAgent.Wire

/-!
# The three clients against any server

`SoukProvider`, `KyokBridge` and the pod probe, whatever `/tickets` answers, whatever frames the
server sends and in whichever order, and wherever a call fails.
-/

namespace Souk

open Sdk

/-- In all surroundings a client makes only the calls which the handshake permits. -/
def KeepsHandshake {Response α : Type} (terms : HandshakeTerms Response)
    (client : ClientProgram Response α) : Prop :=
  ∀ surroundings, Program.Guarded (Permitted terms) [] (client.run surroundings []).1

/-- Each client sends a hello only for a key it may trust, signs in it that key, its ticket and the
nonce of this connection, and sends anything else only after a welcome which proved the same key
over the same ticket and nonce; otherwise it does nothing more. -/
theorem handshakes_kept :
    (∀ (settings : AgentSdk.ProviderSettings) {α : Type} (serve : ClientProgram HttpResponse α),
      KeepsHandshake settings.terms (settings.runConnection serve)) ∧
    (∀ (settings : ClientSdk.BridgeSettings) {α : Type} (serve : ClientProgram HttpResponse α),
      KeepsHandshake settings.terms (settings.serveConnection serve)) ∧
    (∀ (conn : PodProbeAgent.SoukConn) {α : Type}
        (serve : ClientProgram PodProbeAgent.HttpAnswer α),
      KeepsHandshake conn.terms (conn.connectOnce serve)) := by
  refine ⟨fun settings _ serve => ?_, fun settings _ serve => ?_, fun conn _ serve => ?_⟩
  · exact (AgentSdk.ProviderSettings.runConnection_safe serve).guarded
  · exact (ClientSdk.BridgeSettings.serveConnection_safe serve).guarded
  · exact (PodProbeAgent.SoukConn.connectOnce_safe serve).guarded

end Souk
