import Souk.Python.JsonText

/-!
# The roster and the docent

What the core lists, the row of it which `GET /agents` answers, and the tool of the MCP docent
which finds one agent by its name.  A provider may be named by its key or by the fingerprint of it;
how a fingerprint is derived is the core's affair and a parameter here.
-/

namespace Souk.Server

open Souk.Python

/-- An agent as the core lists it.  Times are microseconds since the epoch, in UTC. -/
structure AgentSummary where
  providerKey : Str
  name : Str
  description : Str := []
  skills : List Dict := []
  joinedAt : Int
  lastSeenAt : Int
  online : Bool
  providerName : Option Str := none

/-- One roster row on the wire. -/
structure AgentRosterEntry where
  providerKey : Str
  fingerprint : Str
  name : Str
  description : Str := []
  skills : List Dict := []
  joinedAt : Int
  lastSeenAt : Int
  online : Bool
  providerName : Option Str := none

/-- The row of an agent, with the fingerprint filled in beside the key. -/
def rosterEntry (providerFingerprint : Str → Str) (summary : AgentSummary) : AgentRosterEntry where
  providerKey := summary.providerKey
  fingerprint := providerFingerprint summary.providerKey
  name := summary.name
  description := summary.description
  skills := summary.skills
  joinedAt := summary.joinedAt
  lastSeenAt := summary.lastSeenAt
  online := summary.online
  providerName := summary.providerName

/-- `GET /agents`, for what the core lists. -/
def roster (providerFingerprint : Str → Str) (listed : List AgentSummary) :
    List AgentRosterEntry :=
  listed.map (rosterEntry providerFingerprint)

/-- The path at which an agent is called over A2A, below the address of its souk. -/
def a2aPath (fingerprint name : Str) : Str :=
  str "/a2a/" ++ fingerprint ++ str "/" ++ name ++ str "/rpc"

/-- `_seen_ago` -/
def seenAgo (now lastSeenAt : Int) : Str :=
  let seconds := ((now - lastSeenAt).tdiv 1000000).toNat
  if seconds < 90 then Json.decimal seconds ++ str "s ago"
  else if seconds < 5400 then Json.decimal (seconds / 60) ++ str "m ago"
  else if seconds < 172800 then Json.decimal (seconds / 3600) ++ str "h ago"
  else Json.decimal (seconds / 86400) ++ str "d ago"

/-- What the docent is created with, and what it takes from the libraries below it. -/
structure Docent where
  publicBaseUrl : Str
  /-- `provider_fingerprint` of the core. -/
  providerFingerprint : Str → Str
  /-- `datetime.isoformat` -/
  isoformat : Int → Str
  /-- `AGENT_CARD_WELL_KNOWN_PATH` of the A2A package. -/
  agentCardPath : Str

namespace Docent

/-- `describe_agent` -/
def describeAgent (docent : Docent) (now : Int) (agent : AgentSummary) : Dict :=
  let base := docent.publicBaseUrl.rdropWhile (· = codePoint '/')
  let fingerprint := docent.providerFingerprint agent.providerKey
  [("provider_key", .str agent.providerKey),
    ("name", .str agent.name),
    ("description", .str agent.description),
    ("skills", .list (agent.skills.map .dict)),
    ("online", .bool agent.online),
    ("last_seen", .str (seenAgo now agent.lastSeenAt)),
    ("listed_since", .str (docent.isoformat agent.joinedAt)),
    ("provider", .dict [("public_key", .str agent.providerKey),
      ("fingerprint", .str fingerprint),
      ("storefront_name", agent.providerName.elim .null .str)]),
    ("a2a_endpoint", .str (base ++ a2aPath fingerprint agent.name)),
    ("agent_card_url", .str (base ++ str "/a2a/" ++ fingerprint ++ str "/" ++ agent.name ++
      docent.agentCardPath))]

/-- `describe_agent_tool`, for what the core lists when it is called; an omitted provider is the
empty string. -/
def describeAgentTool (docent : Docent) (now : Int) (agents : List AgentSummary)
    (name provider : Str) : Dict :=
  if provider ≠ [] then
    let exact := agents.filter fun agent => agent.name = name ∧
      (provider = agent.providerKey ∨ provider = docent.providerFingerprint agent.providerKey)
    match exact with
    | first :: _ => docent.describeAgent now first
    | [] => [("found", .bool false),
        ("asked_for", .dict [("name", .str name), ("provider", .str provider)]),
        ("hint", .str ("No stall with that key offers that name — " ++
          "browse_souk lists who is here."))]
  else
    let byName := agents.filter fun agent => agent.name = name
    match byName with
    | [] => [("found", .bool false), ("asked_for", .str name),
        ("hint", .str "No listed agent by that name — browse_souk shows who is here.")]
    | [agent] => docent.describeAgent now agent
    | candidates => [("found", .bool false), ("asked_for", .str name),
        ("reason", .str "ambiguous_name"),
        ("hint", .str ("Several stalls offer this name. Ask again with the provider " ++
          "fingerprint of the one you meant.")),
        ("candidates", .list (candidates.map fun agent =>
          .dict (docent.describeAgent now agent)))]

end Docent

end Souk.Server
