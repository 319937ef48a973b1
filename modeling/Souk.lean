import Souk.AgentSdk.Delivery
import Souk.AgentSdk.OfferOrder
import Souk.AgentSdk.QueryRetries
import Souk.ClientSdk.Completions
import Souk.ClientSdk.RunAsks
import Souk.Directory.CallChain
import Souk.Directory.Replies
import Souk.Directory.Stability
import Souk.Handshakes
import Souk.KyokGrants
import Souk.KyokRelay.Outcome
import Souk.NameResolution
import Souk.OpenaiCompatAgent.StreamLaw
import Souk.PodProbeAgent.Brain
import Souk.PodProbeAgent.Reconnect
import Souk.PodProbeAgent.RunCancels
import Souk.PodProbeAgent.RunStreams
import Souk.ProviderSession.Questions
import Souk.PydanticAiAgent.FinalState
import Souk.PydanticAiAgent.History
import Souk.PydanticAiAgent.RunStreams
import Souk.ResolvePayloads
import Souk.Sdk.Serialization
import Souk.Server.AgentNames
import Souk.Server.ApiAgui
import Souk.Server.Attachment
import Souk.Server.BadProofs
import Souk.Server.Capacity
import Souk.Server.HiddenThreads
import Souk.Server.MalformedQueries
import Souk.Server.Market
import Souk.Server.ProviderQueries
import Souk.Server.RegistrationWatch
import Souk.Server.Teardown
import Souk.Server.WsKyokTable
import Souk.Stalls
import Souk.Verdicts
