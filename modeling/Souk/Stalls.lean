import Souk.Directory.Index
import Souk.Server.Market

/-!
# Two views of one market

The docent and the front page group the same roster by its providers, one in the order in which the
providers are listed, the other in that of their names.
-/

namespace Souk

open Souk.Python Souk.Server
open Souk.Directory (JsString ProviderGroup groupByProvider addAgent)

/-- A string in UTF-16, as `JSON.parse` leaves it. -/
def utf16 (text : Str) : JsString :=
  text.flatMap fun point =>
    if point.val < 0x10000 then [UInt16.ofNat point.val]
    else [UInt16.ofNat (0xD800 + (point.val - 0x10000) / 0x400),
      UInt16.ofNat (0xDC00 + (point.val - 0x10000) % 0x400)]

/-- A row of the roster as the page reads it. -/
def pageRow (row : AgentRosterEntry) : Directory.AgentRosterEntry where
  providerKey := utf16 row.providerKey
  fingerprint := utf16 row.fingerprint
  name := utf16 row.name
  description := some (utf16 row.description)
  online := row.online
  providerName := row.providerName.map utf16

/-- What `fetchAgents` of the page returns, for what the core lists. -/
def fetchAgents (providerFingerprint : Str → Str) (listed : List AgentSummary) :
    List Directory.AgentRosterEntry :=
  (roster providerFingerprint listed).map pageRow

/-- A stall of the docent and a stall of the page are one. -/
structure SameStall (told : Dict) (group : ProviderGroup) : Prop where
  providerKey : ∃ key, told.get "provider_key" = .str key ∧ group.providerKey = utf16 key
  agentCount : told.get "agent_count" = .int group.agents.length
  onlineCount : told.get "online_count" = .int (group.agents.countP fun agent => agent.online)
  offers : ∃ names : List Str, told.get "offers" = .list (names.map .str) ∧
    group.agents.map (·.name) = names.map utf16
  /-- Both have the storefront's name, or neither has one. -/
  named : ∃ name : Option Str, told.get "storefront_name" = name.elim .null .str ∧
    group.providerName.filter (· ≠ []) = name.map utf16

/-- The page and the docent show the same stalls. -/
def SameStalls (told : List Dict) (groups : List ProviderGroup) : Prop :=
  ∃ pairs : List (Dict × ProviderGroup), pairs.map Prod.fst = told ∧
    (pairs.map Prod.snd).Perm groups ∧ ∀ pair ∈ pairs, SameStall pair.1 pair.2

/-- What the core lists: keys in hexadecimal, and one name for each provider. -/
structure Registry (listed : List AgentSummary) : Prop where
  keys : ∀ agent ∈ listed, ∀ point ∈ agent.providerKey, point.val < 0x80
  names : ∀ a ∈ listed, ∀ b ∈ listed, a.providerKey = b.providerKey →
    a.providerName = b.providerName

/-! ## Keys -/

theorem utf16_of_ascii {text : Str} (ascii : ∀ point ∈ text, point.val < 0x80) :
    utf16 text = text.map fun point => UInt16.ofNat point.val := by
  induction text with
  | nil => rfl
  | cons point text induction =>
      obtain ⟨first, rest⟩ := List.forall_mem_cons.mp ascii
      have below : point.val < 0x10000 := by omega
      rw [utf16, List.flatMap_cons, if_pos below, ← utf16, induction rest]
      rfl

/-- Keys in hexadecimal remain apart. -/
theorem utf16_inj {text other : Str} (ascii : ∀ point ∈ text, point.val < 0x80)
    (other_ascii : ∀ point ∈ other, point.val < 0x80) :
    utf16 text = utf16 other ↔ text = other := by
  refine ⟨fun same => ?_, congrArg utf16⟩
  rw [utf16_of_ascii ascii, utf16_of_ascii other_ascii] at same
  have lengths := congrArg List.length same
  rw [List.length_map, List.length_map] at lengths
  refine List.ext_getElem lengths fun index inside other_inside => ?_
  have units := congrArg (·[index]?) same
  have small := ascii _ (List.getElem_mem inside)
  have other_small := other_ascii _ (List.getElem_mem other_inside)
  simp only [List.getElem?_map, List.getElem?_eq_getElem inside,
    List.getElem?_eq_getElem other_inside, Option.map_some, Option.some_inj] at units
  have values := congrArg UInt16.toNat units
  simp only [UInt16.toNat_ofNat'] at values
  apply Fin.ext
  omega

/-! ## Groups -/

section Groups

variable {providerFingerprint : Str → Str}

/-- The group the page makes of the agents of a provider. -/
def groupOf (providerFingerprint : Str → Str) (stall : Str × List AgentSummary) :
    ProviderGroup where
  providerKey := utf16 stall.1
  fingerprint := utf16 (providerFingerprint stall.1)
  providerName := stall.2.head?.bind fun agent => agent.providerName.map utf16
  agents := fetchAgents providerFingerprint stall.2

theorem fetchAgents_concat (listed : List AgentSummary) (agent : AgentSummary) :
    fetchAgents providerFingerprint (listed ++ [agent]) =
      fetchAgents providerFingerprint listed ++
        [pageRow (rosterEntry providerFingerprint agent)] := by
  rw [fetchAgents, roster, List.map_append, List.map_append]
  rfl

/-- The page files an agent where the docent does. -/
theorem addAgent_groupOf {stalls : List (Str × List AgentSummary)} {agent : AgentSummary}
    (ascii : ∀ point ∈ agent.providerKey, point.val < 0x80)
    (keys : ∀ stall ∈ stalls, ∀ point ∈ stall.1, point.val < 0x80)
    (occupied : ∀ stall ∈ stalls, stall.2 ≠ []) :
    addAgent (stalls.map (groupOf providerFingerprint))
        (pageRow (rosterEntry providerFingerprint agent)) =
      (Grouping.file stalls agent.providerKey agent).map (groupOf providerFingerprint) := by
  induction stalls with
  | nil =>
      rw [Grouping.file, List.map_nil, addAgent, List.map_singleton]
      rfl
  | cons stall stalls induction =>
      obtain ⟨key, members⟩ := stall
      obtain ⟨first_keys, keys⟩ := List.forall_mem_cons.mp keys
      obtain ⟨first_occupied, occupied⟩ := List.forall_mem_cons.mp occupied
      have same : (groupOf providerFingerprint (key, members)).providerKey =
          (pageRow (rosterEntry providerFingerprint agent)).providerKey ↔
            key = agent.providerKey := utf16_inj first_keys ascii
      rw [List.map_cons, addAgent, Grouping.file]
      by_cases own : key = agent.providerKey
      · rw [if_pos (same.mpr own), if_pos own, List.map_cons]
        refine congrArg (· :: _) ?_
        obtain ⟨head, rest, rfl⟩ := List.exists_cons_of_ne_nil first_occupied
        rw [groupOf, groupOf, fetchAgents_concat]
        rfl
      · rw [if_neg fun equal => own (same.mp equal), if_neg own, List.map_cons,
          induction keys occupied]

/-- Every group has been opened by an item with its key. -/
theorem exists_of_grouping {listed : List AgentSummary} {stall : Str × List AgentSummary}
    (among : stall ∈ Grouping.groupBy AgentSummary.providerKey listed) :
    ∃ agent ∈ listed, agent.providerKey = stall.1 := by
  have grouping := Grouping.isGrouping_groupBy AgentSummary.providerKey listed
  exact List.mem_map.mp ((grouping.mem_keys stall.1).mp (List.mem_map_of_mem among))

/-- What holds of the key of every item holds of the key of every group. -/
theorem forall_key_of_grouping {listed : List AgentSummary} {Holds : Str → Prop}
    (holds : ∀ agent ∈ listed, Holds agent.providerKey) :
    ∀ stall ∈ Grouping.groupBy AgentSummary.providerKey listed, Holds stall.1 := by
  intro stall among
  obtain ⟨agent, member, own⟩ := exists_of_grouping among
  rw [← own]
  exact holds agent member

theorem occupied_of_grouping (listed : List AgentSummary) :
    ∀ stall ∈ Grouping.groupBy AgentSummary.providerKey listed, stall.2 ≠ [] := by
  intro stall among empty
  have grouping := Grouping.isGrouping_groupBy AgentSummary.providerKey listed
  obtain ⟨agent, member, own⟩ := exists_of_grouping among
  rw [grouping.members stall among] at empty
  exact List.filter_eq_nil_iff.mp empty agent member (decide_eq_true own)

/-- Before it sorts them the page has the groups of the docent. -/
theorem foldl_addAgent {listed : List AgentSummary}
    (keys : ∀ agent ∈ listed, ∀ point ∈ agent.providerKey, point.val < 0x80) :
    (fetchAgents providerFingerprint listed).foldl addAgent [] =
      (Grouping.groupBy AgentSummary.providerKey listed).map (groupOf providerFingerprint) := by
  induction listed using List.reverseRecOn with
  | nil => rfl
  | append_singleton listed agent induction =>
      have earlier : ∀ other ∈ listed, ∀ point ∈ other.providerKey, point.val < 0x80 :=
        fun other among => keys other (List.mem_append_left _ among)
      have own := keys agent (List.mem_append_right _ List.mem_cons_self)
      have filed := @forall_key_of_grouping listed
        (fun key => ∀ point ∈ key, point.val < 0x80) earlier
      rw [fetchAgents_concat, List.foldl_concat, induction earlier,
        addAgent_groupOf own filed (occupied_of_grouping listed), Grouping.groupBy,
        Grouping.groupBy, List.foldl_concat]

end Groups

/-! ## Stalls -/

section Stalls

variable {docent : Docent} {clock : Nat → Int} {listed : List AgentSummary}

/-- Where all members have one name the first non-empty one is that of the first member. -/
theorem findSome?_providerName {members : List AgentSummary} {name : Option Str}
    (occupied : members ≠ []) (names : ∀ agent ∈ members, agent.providerName = name) :
    (members.findSome? fun agent => agent.providerName.filter fun name => name ≠ []) =
      name.filter fun name => name ≠ [] := by
  obtain ⟨first, rest, rfl⟩ := List.exists_cons_of_ne_nil occupied
  rw [List.findSome?_cons, names first List.mem_cons_self]
  cases filtered : name.filter fun name => name ≠ [] with
  | some found => rfl
  | none =>
      refine List.findSome?_eq_none_iff.mpr fun agent among => ?_
      rw [names agent (List.mem_cons_of_mem first among), filtered]

theorem utf16_eq_nil (text : Str) : utf16 text = [] ↔ text = [] := by
  cases text with
  | nil => exact iff_of_true rfl rfl
  | cons point text =>
      refine iff_of_false (fun empty => ?_) (List.cons_ne_nil _ _)
      rw [utf16, List.flatMap_cons] at empty
      split at empty <;> cases empty

theorem filter_map_utf16 (name : Option Str) :
    (name.map utf16).filter (· ≠ []) = (name.filter fun name => name ≠ []).map utf16 := by
  cases name with
  | none => rfl
  | some name =>
      rw [Option.map_some, Option.filter_some, Option.filter_some]
      by_cases empty : name = [] <;> simp [empty, utf16_eq_nil]

theorem sameStall_describeStall {key : Str} {members : List AgentSummary}
    (occupied : members ≠ [])
    (names : ∀ a ∈ members, ∀ b ∈ members, a.providerName = b.providerName) :
    SameStall (docent.describeStall clock key members)
      (groupOf docent.providerFingerprint (key, members)) := by
  obtain ⟨first, rest, rfl⟩ := List.exists_cons_of_ne_nil occupied
  have length : (fetchAgents docent.providerFingerprint (first :: rest)).length =
      (first :: rest).length := by
    rw [fetchAgents, roster, List.length_map, List.length_map]
  refine ⟨⟨key, rfl, rfl⟩, ?_, ?_, ⟨(first :: rest).map AgentSummary.name, ?_, ?_⟩,
    ⟨first.providerName.filter fun name => name ≠ [], ?_, ?_⟩⟩
  · change Value.int _ = Value.int (fetchAgents docent.providerFingerprint (first :: rest)).length
    rw [length]
  · change Value.int _ = Value.int
      ((fetchAgents docent.providerFingerprint (first :: rest)).countP fun agent => agent.online)
    rw [fetchAgents, roster, List.countP_map, List.countP_map]
    rfl
  · rw [List.map_map]
    rfl
  · change (fetchAgents docent.providerFingerprint (first :: rest)).map (·.name) = _
    rw [fetchAgents, roster, List.map_map, List.map_map, List.map_map]
    rfl
  · have one : ∀ agent ∈ first :: rest, agent.providerName = first.providerName :=
      fun agent among => names agent among first List.mem_cons_self
    rw [← findSome?_providerName occupied one]
    rfl
  · exact filter_map_utf16 first.providerName

theorem forall₂_sameStall {stalls : List (Str × List AgentSummary)}
    (occupied : ∀ stall ∈ stalls, stall.2 ≠ [])
    (names : ∀ stall ∈ stalls, ∀ a ∈ stall.2, ∀ b ∈ stall.2, a.providerName = b.providerName) :
    List.Forall₂ SameStall (docent.describeStalls clock stalls)
      (stalls.map (groupOf docent.providerFingerprint)) := by
  induction stalls generalizing clock with
  | nil => exact .nil
  | cons stall stalls induction =>
      obtain ⟨first_occupied, occupied⟩ := List.forall_mem_cons.mp occupied
      obtain ⟨first_names, names⟩ := List.forall_mem_cons.mp names
      exact .cons (sameStall_describeStall first_occupied first_names) (induction occupied names)

end Stalls

/-- For every registry, whatever order the page sorts by: the page and the docent show the same
stalls, with the same agents in the same order, the same counts and the same name. -/
theorem sameStalls (localeCompare : JsString → JsString → Ordering) (docent : Docent)
    (clock : Nat → Int) {listed : List AgentSummary} (registry : Registry listed) :
    ∃ told, (docent.describeMarket clock listed).get "providers" = .list (told.map .dict) ∧
      SameStalls told
        (groupByProvider localeCompare (fetchAgents docent.providerFingerprint listed)) := by
  have grouping := Grouping.isGrouping_groupBy AgentSummary.providerKey listed
  have names : ∀ stall ∈ Grouping.groupBy AgentSummary.providerKey listed,
      ∀ a ∈ stall.2, ∀ b ∈ stall.2, a.providerName = b.providerName := by
    intro stall among a a_among b b_among
    rw [grouping.members stall among, List.mem_filter, decide_eq_true_iff] at a_among b_among
    exact registry.names a a_among.1 b b_among.1 (a_among.2.trans b_among.2.symm)
  have same := @forall₂_sameStall docent clock _ (occupied_of_grouping listed) names
  refine ⟨_, rfl, _, List.map_fst_zip same.length_eq.le, ?_, ?_⟩
  · rw [List.map_snd_zip same.length_eq.ge, ← foldl_addAgent registry.keys]
    exact Directory.groupByProvider_perm.symm
  · intro pair among
    exact List.forall₂_zip same among

/-- A provider with two agents and another with one, whose stall has no name. -/
def twoProviders : List AgentSummary :=
  [{ providerKey := "0b", name := "scribe", joinedAt := 0, lastSeenAt := 0, online := true
     providerName := some "Paper" },
    { providerKey := "0a", name := "echo", joinedAt := 0, lastSeenAt := 0, online := true },
    { providerKey := "0b", name := "letters", joinedAt := 0, lastSeenAt := 0, online := false
      providerName := some "Paper" }]

theorem val_lt_of_ascii {text : String}
    (ascii : (text.toList.all fun char => char.toNat < 0x80) = true) :
    ∀ point ∈ str text, point.val < 0x80 := by
  intro point among
  obtain ⟨char, listed, rfl⟩ := List.mem_map.mp among
  exact of_decide_eq_true (List.all_eq_true.mp ascii char listed)

theorem registry_twoProviders : Registry twoProviders := by
  constructor
  · intro agent among
    simp only [twoProviders, List.mem_cons, List.not_mem_nil, or_false] at among
    rcases among with rfl | rfl | rfl <;> exact val_lt_of_ascii rfl
  · intro a a_among b b_among same
    simp only [twoProviders, List.mem_cons, List.not_mem_nil, or_false] at a_among b_among
    rcases a_among with rfl | rfl | rfl <;> rcases b_among with rfl | rfl | rfl <;>
      first | rfl | exact absurd same (by decide)

/-- A docent whose fingerprints are the keys. -/
def keyDocent : Docent := ⟨[], id, fun _ => [], []⟩

theorem sameStalls_twoProviders :
    ∃ told, (keyDocent.describeMarket (fun _ => 0) twoProviders).get "providers" =
        .list (told.map .dict) ∧
      SameStalls told (groupByProvider Directory.codeUnitOrder
        (fetchAgents keyDocent.providerFingerprint twoProviders)) :=
  sameStalls Directory.codeUnitOrder keyDocent (fun _ => 0) registry_twoProviders

end Souk
