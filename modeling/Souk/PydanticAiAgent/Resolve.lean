import Souk.ClientSdk.Resolve

/-!
# The address of a sub-agent

A configured sub-agent is looked up in the roster when it is first called, unless its
configuration holds a complete URL.
-/

namespace Souk.PydanticAiAgent

open Souk.Python
open Souk.Server (AgentRosterEntry a2aPath)
open Souk.ClientSdk (stallName)

/-- One delegation edge; what is not configured is the empty string. -/
structure SubAgentConfig where
  name : Str
  agent : Str := []
  provider : Str := []
  a2aUrl : Str := []

/-- Where a sub-agent is, and who it is. -/
structure Address where
  url : Str
  provider : Option Str := none
  providerKey : Option Str := none
  agentName : Option Str := none

/-- What `resolve_address` raises, by the `raise` it comes from. -/
inductive SubAgentUnresolvable where
  | notListed (wanted provider : Str)
  | offeredBySeveral (wanted : Str) (candidates : List AgentRosterEntry)

/-- The text of the exception. -/
def SubAgentUnresolvable.text : SubAgentUnresolvable → Str
  | .notListed wanted provider =>
      str "no agent named '" ++ wanted ++ str "'" ++
        (if provider = [] then [] else str " under provider '" ++ provider ++ str "'") ++
        str " is listed on this souk — it may not have registered yet"
  | .offeredBySeveral wanted candidates =>
      str "'" ++ wanted ++ str "' is offered by " ++ Json.decimal candidates.length ++
        str " providers: " ++
        (str ", ").intercalate (candidates.map fun row =>
          stallName row.providerName ++ str " (" ++ row.fingerprint ++ str ")") ++
        str ". Set `provider:` on this sub_agent to say which one is meant."

/-- `_address_from_url`: the pair is read back out of `…/a2a/{provider}/{name}/rpc`. -/
def addressFromUrl (url : Str) : Address :=
  let parts := (url.rdropWhile (· = codePoint '/')).splitOn (codePoint '/')
  match parts.reverse with
  | last :: name :: provider :: route :: _ =>
      if last = str "rpc" ∧ route = str "a2a" then
        { url, provider := some provider, agentName := some name }
      else { url }
  | _ => { url }

/-- `sub.agent or sub.name` -/
def SubAgentConfig.wanted (sub : SubAgentConfig) : Str :=
  if sub.agent = [] then sub.name else sub.agent

/-- `resolve_address`, over the rows which the souk answers. -/
def resolveAddress (sub : SubAgentConfig) (soukHttpUrl : Str) (rows : List AgentRosterEntry) :
    Except SubAgentUnresolvable Address :=
  if sub.a2aUrl ≠ [] then .ok (addressFromUrl sub.a2aUrl)
  else
    let base := soukHttpUrl.rdropWhile (· = codePoint '/')
    let candidates := rows.filter fun row => row.name = sub.wanted ∧
      (sub.provider = [] ∨ sub.provider = row.providerKey ∨ sub.provider = row.fingerprint)
    match candidates with
    | [] => .error (.notListed sub.wanted sub.provider)
    | [row] => .ok
        { url := base ++ a2aPath row.fingerprint row.name
          provider := some row.fingerprint
          providerKey := some row.providerKey
          agentName := some row.name }
    | candidates => .error (.offeredBySeveral sub.wanted candidates)

end Souk.PydanticAiAgent
