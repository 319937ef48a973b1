import Souk.PydanticAiAgent.Resolve

/-!
# Three ways from a name to an agent

A caller's client, an agent with sub-agents and the docent each look a name up for themselves.
Beside them stands the rule they share: which listed agents a name can mean, and what is to be said
when they are none, one or several.
-/

namespace Souk

open Souk.Python
open Souk.Server (AgentSummary Docent roster rosterEntry a2aPath)
open Souk.ClientSdk (Agent ResolveError SoukClient)
open Souk.PydanticAiAgent (Address SubAgentConfig SubAgentUnresolvable resolveAddress)

/-- The pairs on a roster are distinct, and neither a fingerprint nor a key is the fingerprint of
somebody else. -/
structure Distinguishable (providerFingerprint : Str → Str) (listed : List AgentSummary) :
    Prop where
  pairs : (listed.map fun agent => (agent.providerKey, agent.name)).Nodup
  fingerprints : ∀ left ∈ listed, ∀ right ∈ listed,
    providerFingerprint left.providerKey = providerFingerprint right.providerKey →
      left.providerKey = right.providerKey
  keys : ∀ left ∈ listed, ∀ right ∈ listed,
    providerFingerprint left.providerKey = right.providerKey →
      left.providerKey = right.providerKey

/-- The agents which a name can mean: those of that name, under the provider if one is given. -/
def meant (providerFingerprint : Str → Str) (listed : List AgentSummary) (name : Str)
    (provider : Option Str) : List AgentSummary :=
  listed.filter fun agent => agent.name = name ∧ ∀ given ∈ provider,
    given = providerFingerprint agent.providerKey ∨ given = agent.providerKey

/-- The three hand out one agent: its key, its name and the same place below their base URLs. -/
structure HandedOut (docent : Docent) (soukHttpUrl : Str) (row : AgentSummary) (agent : Agent)
    (address : Address) (described : Dict) : Prop where
  agent_pair : (agent.providerKey, agent.name) = (row.providerKey, row.name)
  agent_provider : agent.provider = docent.providerFingerprint row.providerKey
  address_pair : (address.providerKey, address.agentName) = (some row.providerKey, some row.name)
  address_provider : address.provider = some (docent.providerFingerprint row.providerKey)
  address_url : address.url = soukHttpUrl.rdropWhile (· = codePoint '/') ++
    a2aPath (docent.providerFingerprint row.providerKey) row.name
  described_pair : (described.lookup (str "provider_key"), described.lookup (str "name")) =
    (some (.str row.providerKey), some (.str row.name))
  described_endpoint : described.lookup (str "a2a_endpoint") =
    some (.str (docent.publicBaseUrl.rdropWhile (· = codePoint '/') ++
      a2aPath (docent.providerFingerprint row.providerKey) row.name))
  described_found : described.lookup (str "found") = none

/-- The docent says that it found nothing, and whether that is for a shared name. -/
structure NothingFound (ambiguous : Bool) (described : Dict) : Prop where
  found : described.lookup (str "found") = some (.bool false)
  reason : described.lookup (str "reason") =
    if ambiguous then some (.str "ambiguous_name") else none

/-- The outcomes of the client, of the resolver and of the docent are those of the agents a name
can mean. -/
inductive Agreement (docent : Docent) (soukHttpUrl : Str) : List AgentSummary →
    Except ResolveError Agent → Except SubAgentUnresolvable Address → Dict → Prop
  | found {row : AgentSummary} {agent : Agent} {address : Address} {described : Dict}
      (same : HandedOut docent soukHttpUrl row agent address described) :
      Agreement docent soukHttpUrl [row] (.ok agent) (.ok address) described
  | notFound {name wanted under : Str} {provider : Option Str} {described : Dict}
      (nothing : NothingFound false described) :
      Agreement docent soukHttpUrl [] (.error (.agentNotFound name provider))
        (.error (.notListed wanted under)) described
  | ambiguous {rows : List AgentSummary} {name wanted : Str} {described : Dict}
      (several : 2 ≤ rows.length) (nothing : NothingFound true described) :
      Agreement docent soukHttpUrl rows
        (.error (.ambiguousAgentName name
          (SoukClient.roster (roster docent.providerFingerprint rows))))
        (.error (.offeredBySeveral wanted (roster docent.providerFingerprint rows))) described

/-! ## What each of them filters -/

section Candidates

variable {providerFingerprint : Str → Str} {listed : List AgentSummary} {name : Str}

theorem clientCandidates_eq (provider : Option Str) :
    ((SoukClient.roster (roster providerFingerprint listed)).filter fun agent =>
      agent.name = name ∧ ∀ given ∈ provider,
        given = agent.provider ∨ given = agent.providerKey) =
      SoukClient.roster (roster providerFingerprint
        (meant providerFingerprint listed name provider)) := by
  rw [SoukClient.roster, roster, List.map_map, List.filter_map, meant, SoukClient.roster, roster,
    List.map_map]
  rfl

theorem resolverCandidates_eq {provider : Option Str} {sub : SubAgentConfig}
    (given : provider ≠ some []) (under : sub.provider = provider.getD [])
    (wanted : sub.wanted = name) :
    ((roster providerFingerprint listed).filter fun row => row.name = sub.wanted ∧
      (sub.provider = [] ∨ sub.provider = row.providerKey ∨ sub.provider = row.fingerprint)) =
      roster providerFingerprint (meant providerFingerprint listed name provider) := by
  rw [roster, List.filter_map, meant, roster, wanted, under]
  congr 1
  refine List.filter_congr fun agent _ => decide_eq_decide.mpr (and_congr Iff.rfl ?_)
  cases provider with
  | none => simp
  | some text =>
      have filled : text ≠ [] := fun empty => given (congrArg some empty)
      simp [filled, rosterEntry, or_comm]

theorem exact_eq (provider : Str) :
    (listed.filter fun agent => agent.name = name ∧
      (provider = agent.providerKey ∨ provider = providerFingerprint agent.providerKey)) =
      meant providerFingerprint listed name (some provider) := by
  refine List.filter_congr fun agent _ => decide_eq_decide.mpr (and_congr Iff.rfl ?_)
  simp [or_comm]

theorem byName_eq :
    (listed.filter fun agent => agent.name = name) =
      meant providerFingerprint listed name none :=
  List.filter_congr fun agent _ => by simp

theorem mem_meant {provider : Option Str} {agent : AgentSummary} :
    agent ∈ meant providerFingerprint listed name provider ↔
      agent ∈ listed ∧ agent.name = name ∧ ∀ given ∈ provider,
        given = providerFingerprint agent.providerKey ∨ given = agent.providerKey := by
  rw [meant, List.mem_filter, decide_eq_true_iff]

/-- A provider's key and its fingerprint name one key among the listed agents. -/
theorem Distinguishable.same_key (distinguishable : Distinguishable providerFingerprint listed)
    {left right : AgentSummary} (left_listed : left ∈ listed) (right_listed : right ∈ listed)
    {given : Str}
    (names_left : given = providerFingerprint left.providerKey ∨ given = left.providerKey)
    (names_right : given = providerFingerprint right.providerKey ∨ given = right.providerKey) :
    left.providerKey = right.providerKey := by
  rcases names_left with by_fingerprint | by_key <;>
    rcases names_right with other_fingerprint | other_key
  · exact distinguishable.fingerprints left left_listed right right_listed
      (by_fingerprint.symm.trans other_fingerprint)
  · exact distinguishable.keys left left_listed right right_listed
      (by_fingerprint.symm.trans other_key)
  · exact (distinguishable.keys right right_listed left left_listed
      (other_fingerprint.symm.trans by_key)).symm
  · exact by_key.symm.trans other_key

/-- Under a provider, a name means one agent at most. -/
theorem Distinguishable.length_meant_le_one
    (distinguishable : Distinguishable providerFingerprint listed) (provider : Str) :
    (meant providerFingerprint listed name (some provider)).length ≤ 1 := by
  have distinct : ((meant providerFingerprint listed name (some provider)).map fun agent =>
      (agent.providerKey, agent.name)).Nodup :=
    distinguishable.pairs.sublist (List.filter_sublist.map _)
  match shape : meant providerFingerprint listed name (some provider) with
  | [] => exact Nat.zero_le 1
  | [row] => exact le_rfl
  | first :: second :: rest =>
      have first_meant := mem_meant.mp (shape ▸ List.mem_cons_self :
        first ∈ meant providerFingerprint listed name (some provider))
      have second_meant := mem_meant.mp (shape ▸ List.mem_cons_of_mem first List.mem_cons_self :
        second ∈ meant providerFingerprint listed name (some provider))
      have same : first.providerKey = second.providerKey :=
        distinguishable.same_key first_meant.1 second_meant.1 (first_meant.2.2 provider rfl)
          (second_meant.2.2 provider rfl)
      rw [shape, List.map_cons, List.map_cons, List.nodup_cons] at distinct
      refine absurd ?_ distinct.1
      rw [same, first_meant.2.1, second_meant.2.1]
      exact List.mem_cons_self

end Candidates

/-! ## What each of them answers -/

section Answers

variable {docent : Docent} {listed : List AgentSummary} {name : Str} {provider : Option Str}
  {sub : SubAgentConfig} {soukHttpUrl : Str} {now : Int}

/-- The docent's answer is decided by the agents the name can mean. -/
theorem describeAgentTool_of_meant_nil (given : provider ≠ some [])
    (none_meant : meant docent.providerFingerprint listed name provider = []) :
    NothingFound false (docent.describeAgentTool now listed name (provider.getD [])) := by
  cases provider with
  | none =>
      rw [Docent.describeAgentTool, Option.getD_none, if_neg (by simp),
        @byName_eq docent.providerFingerprint, none_meant]
      exact ⟨rfl, rfl⟩
  | some text =>
      have filled : text ≠ [] := fun empty => given (congrArg some empty)
      rw [Docent.describeAgentTool, Option.getD_some, if_pos filled, exact_eq, none_meant]
      exact ⟨rfl, rfl⟩

theorem describeAgentTool_of_meant_one (given : provider ≠ some []) {row : AgentSummary}
    (one_meant : meant docent.providerFingerprint listed name provider = [row]) :
    docent.describeAgentTool now listed name (provider.getD []) =
      docent.describeAgent now row := by
  cases provider with
  | none =>
      rw [Docent.describeAgentTool, Option.getD_none, if_neg (by simp),
        @byName_eq docent.providerFingerprint, one_meant]
  | some text =>
      have filled : text ≠ [] := fun empty => given (congrArg some empty)
      rw [Docent.describeAgentTool, Option.getD_some, if_pos filled, exact_eq, one_meant]

/-- Only where no provider is given can the docent meet several agents of the name. -/
theorem describeAgentTool_of_meant_several
    (distinguishable : Distinguishable docent.providerFingerprint listed)
    (several : 2 ≤ (meant docent.providerFingerprint listed name provider).length) :
    NothingFound true (docent.describeAgentTool now listed name (provider.getD [])) := by
  cases provider with
  | none =>
      rw [Docent.describeAgentTool, Option.getD_none, if_neg (by simp),
        @byName_eq docent.providerFingerprint]
      match shape : meant docent.providerFingerprint listed name none with
      | [] | [_] => simp [shape] at several
      | _ :: _ :: _ => exact ⟨rfl, rfl⟩
  | some text =>
      have single := @Distinguishable.length_meant_le_one _ _ name distinguishable text
      omega

theorem handedOut_row (row : AgentSummary) :
    HandedOut docent soukHttpUrl row
      (Agent.ofRow (rosterEntry docent.providerFingerprint row))
      { url := soukHttpUrl.rdropWhile (· = codePoint '/') ++
          a2aPath (docent.providerFingerprint row.providerKey) row.name
        provider := some (docent.providerFingerprint row.providerKey)
        providerKey := some row.providerKey
        agentName := some row.name }
      (docent.describeAgent now row) :=
  ⟨rfl, rfl, rfl, rfl, rfl, rfl, rfl, rfl⟩

/-- A caller, an agent with sub-agents and the docent agree on what a name means: on the same
agent, on there being none, or on there being several, in which case nobody picks one. -/
theorem resolutions_agree
    (distinguishable : Distinguishable docent.providerFingerprint listed)
    (given : provider ≠ some []) (lookedUp : sub.a2aUrl = []) (wanted : sub.wanted = name)
    (under : sub.provider = provider.getD []) :
    Agreement docent soukHttpUrl (meant docent.providerFingerprint listed name provider)
      (SoukClient.resolve (roster docent.providerFingerprint listed) name provider)
      (resolveAddress sub soukHttpUrl (roster docent.providerFingerprint listed))
      (docent.describeAgentTool now listed name (provider.getD [])) := by
  rw [SoukClient.resolve, clientCandidates_eq, resolveAddress, if_neg (not_not.mpr lookedUp),
    resolverCandidates_eq given under wanted]
  match shape : meant docent.providerFingerprint listed name provider with
  | [] => exact .notFound (describeAgentTool_of_meant_nil given shape)
  | [row] =>
      rw [describeAgentTool_of_meant_one given shape]
      exact .found (handedOut_row row)
  | first :: second :: rest =>
      have several : 2 ≤ (meant docent.providerFingerprint listed name provider).length := by
        simp [shape]
      exact .ambiguous (shape ▸ several)
        (describeAgentTool_of_meant_several distinguishable several)

end Answers

/-- A docent of a market with two stalls, by the fingerprints of their keys. -/
def twoStallDocent : Docent where
  publicBaseUrl := "https://souk.example/"
  providerFingerprint key := if key = str "3f3f3f3f" then "23f9abf1e8f2b564" else "153c081749d9321a"
  isoformat _ := "1970-01-01T00:00:00+00:00"
  agentCardPath := "/.well-known/agent-card.json"

/-- Both stalls offer a translator. -/
def twoTranslators : List AgentSummary :=
  [⟨"3f3f3f3f", "translator", [], [], 0, 0, true, none⟩,
    ⟨"b7b7b7b7", "translator", [], [], 0, 0, true, none⟩]

theorem twoTranslators_distinguishable :
    Distinguishable twoStallDocent.providerFingerprint twoTranslators :=
  ⟨by decide, by decide, by decide⟩

theorem resolutions_agree_twoTranslators :
    Agreement twoStallDocent "http://souk:8000" twoTranslators
      (SoukClient.resolve (roster twoStallDocent.providerFingerprint twoTranslators)
        "translator" none)
      (resolveAddress ⟨"translator", [], [], []⟩ "http://souk:8000"
        (roster twoStallDocent.providerFingerprint twoTranslators))
      (twoStallDocent.describeAgentTool 0 twoTranslators "translator" []) ∧
    Agreement twoStallDocent "http://souk:8000" (twoTranslators.drop 1)
      (SoukClient.resolve (roster twoStallDocent.providerFingerprint twoTranslators)
        "translator" (some "153c081749d9321a"))
      (resolveAddress ⟨"translator", [], "153c081749d9321a", []⟩ "http://souk:8000"
        (roster twoStallDocent.providerFingerprint twoTranslators))
      (twoStallDocent.describeAgentTool 0 twoTranslators "translator" "153c081749d9321a") :=
  ⟨@resolutions_agree twoStallDocent twoTranslators "translator" none
      ⟨"translator", [], [], []⟩ "http://souk:8000" 0 twoTranslators_distinguishable (by decide)
      rfl rfl rfl,
    @resolutions_agree twoStallDocent twoTranslators "translator" (some "153c081749d9321a")
      ⟨"translator", [], "153c081749d9321a", []⟩ "http://souk:8000" 0
      twoTranslators_distinguishable (by decide) rfl rfl rfl⟩

end Souk
