import Souk.ClientSdk.Client
import Souk.Server.McpDocent

/-!
# `SoukClient.resolve`

A name into an address, over the rows of the roster.
-/

namespace Souk.ClientSdk

open Souk.Python
open Souk.Server (AgentRosterEntry)

/-- One agent, addressable; the `provider` is the fingerprint. -/
structure Agent where
  provider : Str
  name : Str
  providerKey : Str := []
  description : Str := []
  online : Bool := false
  providerName : Option Str := none

namespace Agent

/-- The agent of a roster row. -/
def ofRow (row : AgentRosterEntry) : Agent where
  provider := row.fingerprint
  name := row.name
  providerKey := row.providerKey
  description := row.description
  online := row.online
  providerName := row.providerName

/-- `agent.path` -/
def path (agent : Agent) : Str := agent.provider ++ str "/" ++ agent.name

end Agent

/-- `provider_name or 'unnamed'` -/
def stallName (providerName : Option Str) : Str :=
  if providerName.getD [] = [] then "unnamed" else providerName.getD []

/-- What `resolve` raises. -/
inductive ResolveError where
  | agentNotFound (name : Str) (provider : Option Str)
  | ambiguousAgentName (name : Str) (candidates : List Agent)

/-- The text of the exception. -/
def ResolveError.text : ResolveError → Str
  | .agentNotFound name provider =>
      str "no listed agent named '" ++ name ++ str "'" ++
        if provider.getD [] = [] then []
        else str " under provider '" ++ provider.getD [] ++ str "'"
  | .ambiguousAgentName name candidates =>
      Json.decimal candidates.length ++ str " providers offer '" ++ name ++ str "': " ++
        (str ", ").intercalate (candidates.map fun candidate =>
          stallName candidate.providerName ++ str " (" ++ candidate.provider ++ str ")") ++
        str ". Pass provider= to say which one."

namespace SoukClient

/-- `roster`, over the rows which the souk answers. -/
def roster (rows : List AgentRosterEntry) : List Agent := rows.map .ofRow

/-- `resolve`, over the rows which the souk answers. -/
def resolve (rows : List AgentRosterEntry) (name : Str) (provider : Option Str) :
    Except ResolveError Agent :=
  let candidates := (roster rows).filter fun agent => agent.name = name ∧
    ∀ given ∈ provider, given = agent.provider ∨ given = agent.providerKey
  match candidates with
  | [] => .error (.agentNotFound name provider)
  | [agent] => .ok agent
  | candidates => .error (.ambiguousAgentName name candidates)

end SoukClient

end Souk.ClientSdk
