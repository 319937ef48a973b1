import Souk.Library.Grouping
import Souk.Server.McpDocent

/-!
# The docent's market

The roster, grouped by who keeps each stall.  The counts of the market are taken over the roster and
those of a stall over its members, so that their agreement is the partition of the roster by the
provider keys.  Every agent is described at a moment of its own.
-/

namespace Souk.Server

open Souk.Python

namespace Docent

/-- `describe_stall`; the clock is read once for every agent. -/
def describeStall (docent : Docent) (clock : Nat → Int) (publicKey : Str)
    (agents : List AgentSummary) : Dict :=
  let named := agents.findSome? fun agent => agent.providerName.filter fun name => name ≠ []
  [("provider_key", .str publicKey),
    ("storefront_name", named.elim .null .str),
    ("agent_count", .int agents.length),
    ("online_count", .int (agents.countP fun agent => agent.online)),
    ("offers", .list (agents.map fun agent => .str agent.name)),
    ("agents", .list (agents.mapIdx fun reading agent =>
      .dict (docent.describeAgent (clock reading) agent)))]

/-- The stalls of a market, described one after the other. -/
def describeStalls (docent : Docent) (clock : Nat → Int) :
    List (Str × List AgentSummary) → List Dict
  | [] => []
  | (key, members) :: stalls =>
      docent.describeStall clock key members ::
        docent.describeStalls (fun reading => clock (members.length + reading)) stalls

/-- `describe_market` -/
def describeMarket (docent : Docent) (clock : Nat → Int) (agents : List AgentSummary) : Dict :=
  let stalls := Grouping.groupBy AgentSummary.providerKey agents
  [("agent_count", .int agents.length),
    ("online_count", .int (agents.countP fun agent => agent.online)),
    ("provider_count", .int stalls.length),
    ("providers", .list ((docent.describeStalls clock stalls).map .dict))]

end Docent

/-- A stall of the answer tells of one provider and of some agents, in their order. -/
structure TellsOf (docent : Docent) (stall : Str × List AgentSummary) (told : Dict) : Prop where
  providerKey : told.get "provider_key" = .str stall.1
  agentCount : told.get "agent_count" = .int stall.2.length
  onlineCount : told.get "online_count" = .int (stall.2.countP fun agent => agent.online)
  offers : told.get "offers" = .list (stall.2.map fun agent => .str agent.name)
  agents : ∃ shown, told.get "agents" = .list shown ∧
    List.Forall₂ (fun agent description => ∃ now, description =
      .dict (docent.describeAgent now agent)) stall.2 shown

/-- A count of the market is the sum of the same count over the stalls it shows. -/
def SumsUp (field : Str) (told : List Dict) (market : Dict) : Prop :=
  ∃ counts : List Nat,
    told.map (fun stall => stall.get field) = counts.map (fun count => .int count) ∧
      market.get field = .int counts.sum

/-- The market shows these stalls, and they are a partition of the roster. -/
structure IsPartition (docent : Docent) (agents : List AgentSummary)
    (stalls : List (Str × List AgentSummary)) (told : List Dict) (market : Dict) : Prop where
  providers : market.get "providers" = .list (told.map .dict)
  shown : List.Forall₂ (TellsOf docent) stalls told
  distinct : (stalls.map Prod.fst).Nodup
  /-- Every agent appears in one stall, as often as in the roster. -/
  once : (stalls.flatMap Prod.snd).Perm agents
  /-- A stall has the agents of its own provider key, in the order of the roster. -/
  own : ∀ stall ∈ stalls, stall.2 = agents.filter fun agent => agent.providerKey = stall.1
  occupied : ∀ stall ∈ stalls, stall.2 ≠ []
  /-- The stalls are in the order of their first agents. -/
  ordered : (stalls.map Prod.fst).Pairwise fun key later =>
    (agents.findIdx fun agent => agent.providerKey = key) <
      agents.findIdx fun agent => agent.providerKey = later
  agentCount : SumsUp "agent_count" told market
  onlineCount : SumsUp "online_count" told market
  providerCount : market.get "provider_count" = .int told.length

section Stalls

variable {docent : Docent} {clock : Nat → Int}

theorem tellsOf_describeStall (key : Str) (members : List AgentSummary) :
    TellsOf docent (key, members) (docent.describeStall clock key members) where
  providerKey := rfl
  agentCount := rfl
  onlineCount := rfl
  offers := rfl
  agents := by
    refine ⟨_, rfl, List.forall₂_iff_get.mpr ⟨List.length_mapIdx.symm, fun index _ _ => ?_⟩⟩
    exact ⟨clock index, by simp⟩

theorem forall₂_describeStalls (stalls : List (Str × List AgentSummary)) :
    List.Forall₂ (TellsOf docent) stalls (docent.describeStalls clock stalls) := by
  induction stalls generalizing clock with
  | nil => exact .nil
  | cons stall stalls induction => exact .cons (tellsOf_describeStall stall.1 stall.2) induction

/-- A count which every stall tells of itself sums up to what is counted over all members. -/
theorem sumsUp_of_forall₂ {field : Str} {count : List AgentSummary → Nat} {market : Dict}
    {stalls : List (Str × List AgentSummary)} {told : List Dict}
    (shown : List.Forall₂ (TellsOf docent) stalls told)
    (counts : ∀ stall told, TellsOf docent stall told → told.get field = .int (count stall.2))
    (total : market.get field = .int (stalls.map fun stall => count stall.2).sum) :
    SumsUp field told market := by
  refine ⟨stalls.map fun stall => count stall.2, ?_, total⟩
  clear total
  induction shown with
  | nil => rfl
  | cons tells _ induction =>
      rw [List.map_cons, List.map_cons, List.map_cons, counts _ _ tells, induction]

end Stalls

/-- The market is a partition of the roster, and its totals are the sums over the stalls. -/
theorem describeMarket_isPartition (docent : Docent) (clock : Nat → Int)
    (agents : List AgentSummary) :
    ∃ stalls told, IsPartition docent agents stalls told (docent.describeMarket clock agents) := by
  have grouping := Grouping.isGrouping_groupBy AgentSummary.providerKey agents
  have shown := @forall₂_describeStalls docent clock
    (Grouping.groupBy AgentSummary.providerKey agents)
  refine ⟨_, _, rfl, shown, grouping.nodup_keys, grouping.perm, grouping.members, ?_,
    grouping.ordered, ?_, ?_, ?_⟩
  · intro stall member empty
    have listed := (grouping.mem_keys stall.1).mp (List.mem_map_of_mem member)
    obtain ⟨agent, among, own⟩ := List.mem_map.mp listed
    rw [grouping.members stall member] at empty
    exact List.filter_eq_nil_iff.mp empty agent among (decide_eq_true own)
  · refine sumsUp_of_forall₂ shown (fun _ _ tells => tells.agentCount) ?_
    rw [grouping.sum_length]
    rfl
  · refine sumsUp_of_forall₂ shown (fun _ _ tells => tells.onlineCount) ?_
    rw [grouping.sum_countP]
    rfl
  · rw [← shown.length_eq]
    rfl

end Souk.Server
