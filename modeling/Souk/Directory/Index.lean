import Souk.Directory.Stability
import Souk.Library.Grouping

/-!
# The front page

The front page files the agents of the roster under their providers and puts the stalls with a name
first, in the order of their names, the others after them, in the order of their keys.  What is
typed into its search box takes agents away and leaves the stalls where they are.
-/

namespace Souk.Directory

/-- A row of the roster, as far as the page sorts and searches it. -/
structure AgentRosterEntry where
  providerKey : JsString
  fingerprint : JsString
  name : JsString
  description : Option JsString
  online : Bool
  providerName : Option JsString
  deriving DecidableEq

/-- What a stall is sorted by: the key of its provider and the name of its storefront. -/
abbrev Storefront := JsString × Option JsString

namespace Storefront

/-- `!!providerName` -/
def named (storefront : Storefront) : Bool := storefront.2.getD [] ≠ []

/-- `providerName || providerKey` -/
def title (storefront : Storefront) : JsString :=
  if storefront.named then storefront.2.getD [] else storefront.1

end Storefront

structure ProviderGroup where
  providerKey : JsString
  fingerprint : JsString
  providerName : Option JsString
  agents : List AgentRosterEntry
  deriving DecidableEq

def ProviderGroup.storefront (group : ProviderGroup) : Storefront :=
  (group.providerKey, group.providerName)

def AgentRosterEntry.storefront (agent : AgentRosterEntry) : Storefront :=
  (agent.providerKey, agent.providerName)

/-- One round of the loop of `groupByProvider`, over the groups in the order of the `Map`. -/
def addAgent : List ProviderGroup → AgentRosterEntry → List ProviderGroup
  | [], agent => [⟨agent.providerKey, agent.fingerprint, agent.providerName, [agent]⟩]
  | group :: groups, agent =>
      if group.providerKey = agent.providerKey then
        { group with agents := group.agents ++ [agent] } :: groups
      else group :: addAgent groups agent

section Page

variable (localeCompare : JsString → JsString → Ordering)

/-- The order of two stalls. -/
def compareStorefronts (a b : Storefront) : Ordering :=
  if a.named ≠ b.named then (if a.named then .lt else .gt)
  else localeCompare a.title b.title

/-- `groupByProvider`; the sort is stable. -/
def groupByProvider (agents : List AgentRosterEntry) : List ProviderGroup :=
  (agents.foldl addAgent []).mergeSort fun a b =>
    compareStorefronts localeCompare a.storefront b.storefront ≠ .gt

variable (toLowerCase trim : JsString → JsString)

/-- The agents `applyFilter` leaves. -/
def filtered (allAgents : List AgentRosterEntry) (search : JsString) : List AgentRosterEntry :=
  let query := toLowerCase (trim search)
  if query = [] then allAgents
  else allAgents.filter fun agent =>
    query <:+: toLowerCase agent.name ∨ query <:+: toLowerCase (agent.description.getD [])

/-- What the page shows below its search box. -/
inductive Shown where
  /-- This souk has no agents listed yet. -/
  | noneListed
  /-- No agents match. -/
  | noneMatch
  | stalls (groups : List ProviderGroup)

/-- `render`, after `applyFilter` -/
def render (allAgents agents : List AgentRosterEntry) : Shown :=
  if agents = [] then (if allAgents = [] then .noneListed else .noneMatch)
  else .stalls (groupByProvider localeCompare agents)

/-- `applyFilter` -/
def applyFilter (allAgents : List AgentRosterEntry) (search : JsString) : Shown :=
  render localeCompare allAgents (filtered toLowerCase trim allAgents search)

end Page

/-! ## What the page shows -/

/-- All rows of a provider give it one name. -/
def Consistent (agents : List AgentRosterEntry) : Prop :=
  ∀ a ∈ agents, ∀ b ∈ agents, a.providerKey = b.providerKey → a.providerName = b.providerName

section Specification

variable (localeCompare : JsString → JsString → Ordering)

/-- No two providers are at the same place in the order of the stalls. -/
def ToldApart (agents : List AgentRosterEntry) : Prop :=
  ∀ a ∈ agents, ∀ b ∈ agents, a.providerKey ≠ b.providerKey →
    compareStorefronts localeCompare a.storefront b.storefront ≠ .eq

/-- Some stalls are those of the providers of some agents. -/
structure StallsOf (agents : List AgentRosterEntry) (groups : List ProviderGroup) : Prop where
  distinct : (groups.map ProviderGroup.providerKey).Nodup
  own : ∀ group ∈ groups,
    group.agents = agents.filter fun agent => agent.providerKey = group.providerKey
  /-- The name of the stall is that of its first agent. -/
  headed : ∀ group ∈ groups, ∃ first, group.agents.head? = some first ∧
    group.fingerprint = first.fingerprint ∧ group.providerName = first.providerName
  once : (groups.flatMap ProviderGroup.agents).Perm agents
  sorted : groups.Pairwise fun before after =>
    compareStorefronts localeCompare before.storefront after.storefront ≠ .gt
  /-- A stall with a name stands in front of every stall without one. -/
  namedFirst : groups.Pairwise fun before after =>
    after.providerName.getD [] ≠ [] → before.providerName.getD [] ≠ []

/-- The stalls which are shown. -/
def Shown.groups : Shown → List ProviderGroup
  | noneListed | noneMatch => []
  | stalls groups => groups

/-- The front page of a roster. -/
structure FrontPage (agents : List AgentRosterEntry) : Prop where
  stalls : StallsOf localeCompare agents (groupByProvider localeCompare agents)
  /-- What is typed leaves the stalls of the agents which match. -/
  searched : ∀ toLowerCase trim search,
    StallsOf localeCompare (filtered toLowerCase trim agents search)
      (applyFilter localeCompare toLowerCase trim agents search).groups
  /-- Nothing to show is put down to the search only where something is listed. -/
  empty : ∀ toLowerCase trim search,
    (applyFilter localeCompare toLowerCase trim agents search = .noneListed ↔ agents = []) ∧
      (applyFilter localeCompare toLowerCase trim agents search = .noneMatch ↔
        agents ≠ [] ∧ filtered toLowerCase trim agents search = [])
  /-- Typing takes stalls away, and moves and renames none. -/
  typed : Consistent agents → ToldApart localeCompare agents → ∀ toLowerCase trim search,
    ((applyFilter localeCompare toLowerCase trim agents search).groups.map
      ProviderGroup.storefront).Sublist
        ((groupByProvider localeCompare agents).map ProviderGroup.storefront)
  /-- The order of the roster does not count. -/
  reloaded : Consistent agents → ToldApart localeCompare agents → ∀ shuffled,
    shuffled.Perm agents →
      (groupByProvider localeCompare shuffled).map ProviderGroup.storefront =
        (groupByProvider localeCompare agents).map ProviderGroup.storefront

end Specification

/-! ## The groups -/

section Groups

variable {groups : List ProviderGroup} {agents : List AgentRosterEntry} {agent : AgentRosterEntry}

/-- A group as an entry of a dictionary. -/
def ProviderGroup.filed (group : ProviderGroup) : JsString × List AgentRosterEntry :=
  (group.providerKey, group.agents)

theorem map_filed_addAgent : (addAgent groups agent).map ProviderGroup.filed =
    Grouping.file (groups.map ProviderGroup.filed) agent.providerKey agent := by
  induction groups with
  | nil => rfl
  | cons group groups induction =>
      rw [addAgent, List.map_cons, ProviderGroup.filed, Grouping.file]
      split
      · rfl
      · rw [List.map_cons, induction]
        rfl

/-- The groups of the page are those of the agents by their provider keys. -/
theorem map_filed_foldl : ((agents.foldl addAgent []).map ProviderGroup.filed) =
    Grouping.groupBy AgentRosterEntry.providerKey agents := by
  induction agents using List.reverseRecOn with
  | nil => rfl
  | append_singleton agents agent induction =>
      rw [List.foldl_concat, map_filed_addAgent, induction, Grouping.groupBy, Grouping.groupBy,
        List.foldl_concat]

/-- A group has the names of its first agent. -/
def ProviderGroup.Headed (group : ProviderGroup) : Prop :=
  ∃ first, group.agents.head? = some first ∧ group.fingerprint = first.fingerprint ∧
    group.providerName = first.providerName

theorem headed_addAgent (headed : ∀ group ∈ groups, group.Headed) :
    ∀ group ∈ addAgent groups agent, group.Headed := by
  induction groups with
  | nil =>
      intro group among
      obtain rfl := List.mem_singleton.mp among
      exact ⟨agent, rfl, rfl, rfl⟩
  | cons group groups induction =>
      obtain ⟨first, rest⟩ := List.forall_mem_cons.mp headed
      rw [addAgent]
      split
      · refine List.forall_mem_cons.mpr ⟨?_, rest⟩
        obtain ⟨head, heads, fingerprint, name⟩ := first
        refine ⟨head, ?_, fingerprint, name⟩
        rw [List.head?_append, heads]
        rfl
      · exact List.forall_mem_cons.mpr ⟨first, induction rest⟩

theorem headed_foldl : ∀ group ∈ agents.foldl addAgent [], group.Headed := by
  induction agents using List.reverseRecOn with
  | nil => exact fun group among => absurd among List.not_mem_nil
  | append_singleton agents agent induction =>
      rw [List.foldl_concat]
      exact headed_addAgent induction

end Groups

/-! ## The order of the stalls -/

section Order

variable {localeCompare : JsString → JsString → Ordering}

theorem compareStorefronts_of_same {a b : Storefront} (same : a.named = b.named) :
    compareStorefronts localeCompare a b = localeCompare a.title b.title :=
  if_neg (not_not.mpr same)

/-- A stall with a name stands before one without. -/
theorem compareStorefronts_of_ne {a b : Storefront} (different : a.named ≠ b.named) :
    compareStorefronts localeCompare a b = if a.named then .lt else .gt :=
  if_pos different

variable [Std.TransCmp localeCompare]

instance : Std.OrientedCmp (compareStorefronts localeCompare) where
  eq_swap {a b} := by
    by_cases same : a.named = b.named
    · rw [compareStorefronts_of_same same, compareStorefronts_of_same same.symm]
      exact Std.OrientedCmp.eq_swap
    · rw [compareStorefronts_of_ne same, compareStorefronts_of_ne (Ne.symm same)]
      cases first : a.named <;> cases second : b.named <;> simp_all

instance : Std.TransCmp (compareStorefronts localeCompare) where
  isLE_trans {a b c} left right := by
    by_cases near : a.named = b.named
    · by_cases far : b.named = c.named
      · rw [compareStorefronts_of_same near] at left
        rw [compareStorefronts_of_same far] at right
        rw [compareStorefronts_of_same (near.trans far)]
        exact Std.TransCmp.isLE_trans left right
      · rw [compareStorefronts_of_ne far, ← near] at right
        rw [compareStorefronts_of_ne (near ▸ far)]
        exact right
    · rw [compareStorefronts_of_ne near] at left
      cases first : a.named with
      | false => simp [first] at left
      | true =>
          have second : b.named = false := by
            rw [first] at near
            simpa using Ne.symm near
          by_cases far : b.named = c.named
          · rw [compareStorefronts_of_ne (far ▸ near), first]
            rfl
          · rw [compareStorefronts_of_ne far, second] at right
            simp at right

end Order

/-- What is sorted by a key is in the order of the key. -/
theorem pairwise_mergeSort_compare {Item Key : Type*} {order : Key → Key → Ordering}
    [Std.TransCmp order] (key : Item → Key) (items : List Item) :
    (items.mergeSort fun a b => order (key a) (key b) ≠ .gt).Pairwise
      fun a b => order (key a) (key b) ≠ .gt := by
  have sorted : (items.mergeSort fun a b => order (key a) (key b) ≠ .gt).Pairwise
      fun a b => decide (order (key a) (key b) ≠ .gt) = true := by
    apply List.pairwise_mergeSort
    · intro a b c
      simp only [decide_eq_true_iff, ne_eq, Ordering.ne_gt_iff_isLE]
      exact Std.TransCmp.isLE_trans
    · intro a b
      rw [Bool.or_eq_true, decide_eq_true_iff, decide_eq_true_iff]
      by_cases above : order (key a) (key b) = .gt
      · right
        rw [Std.OrientedCmp.lt_of_gt above]
        decide
      · exact .inl above
  exact sorted.imp fun le => of_decide_eq_true le

section Sorted

variable {localeCompare : JsString → JsString → Ordering} {agents : List AgentRosterEntry}

theorem groupByProvider_perm :
    (groupByProvider localeCompare agents).Perm (agents.foldl addAgent []) :=
  List.mergeSort_perm _ _

theorem map_filed_groupByProvider :
    ((groupByProvider localeCompare agents).map ProviderGroup.filed).Perm
      (Grouping.groupBy AgentRosterEntry.providerKey agents) := by
  rw [← map_filed_foldl]
  exact groupByProvider_perm.map _

theorem map_providerKey_eq (groups : List ProviderGroup) :
    groups.map ProviderGroup.providerKey = (groups.map ProviderGroup.filed).map Prod.fst := by
  rw [List.map_map]
  rfl

theorem flatMap_agents_eq (groups : List ProviderGroup) :
    groups.flatMap ProviderGroup.agents = (groups.map ProviderGroup.filed).flatMap Prod.snd := by
  rw [List.flatMap_map]
  rfl

theorem Consistent.subset {some : List AgentRosterEntry} (consistent : Consistent agents)
    (within : some ⊆ agents) : Consistent some :=
  fun a first b second same => consistent a (within first) b (within second) same

theorem ToldApart.subset {some : List AgentRosterEntry} (apart : ToldApart localeCompare agents)
    (within : some ⊆ agents) : ToldApart localeCompare some :=
  fun a first b second differ => apart a (within first) b (within second) differ

/-- What is shown are the stalls of the agents which are left. -/
theorem groups_applyFilter (toLowerCase trim : JsString → JsString) (search : JsString) :
    (applyFilter localeCompare toLowerCase trim agents search).groups =
      groupByProvider localeCompare (filtered toLowerCase trim agents search) := by
  rw [applyFilter, render]
  split
  · rename_i none
    rw [none]
    split <;> exact (List.mergeSort_nil).symm
  · rfl

theorem filtered_nil (toLowerCase trim : JsString → JsString) (search : JsString) :
    filtered toLowerCase trim [] search = [] := by
  rw [filtered]
  split <;> rfl

variable [Std.TransCmp localeCompare]

/-- The stalls are the partition of the agents by their providers, in the order of the page. -/
theorem stallsOf_groupByProvider :
    StallsOf localeCompare agents (groupByProvider localeCompare agents) := by
  have grouping := Grouping.isGrouping_groupBy AgentRosterEntry.providerKey agents
  have filed := @map_filed_groupByProvider localeCompare agents
  have sorted : (groupByProvider localeCompare agents).Pairwise fun before after =>
      compareStorefronts localeCompare before.storefront after.storefront ≠ .gt :=
    pairwise_mergeSort_compare ProviderGroup.storefront _
  refine ⟨?_, ?_, ?_, ?_, sorted, ?_⟩
  · rw [map_providerKey_eq]
    exact ((filed.map Prod.fst).nodup_iff).mpr grouping.nodup_keys
  · intro group among
    have listed := filed.mem_iff.mp (List.mem_map_of_mem among)
    exact grouping.members group.filed listed
  · intro group among
    exact headed_foldl group (groupByProvider_perm.mem_iff.mp among)
  · rw [flatMap_agents_eq]
    exact (filed.flatMap_right Prod.snd).trans grouping.perm
  · refine sorted.imp fun {before after} le named => ?_
    by_contra nameless
    have unnamed : before.storefront.named = false := decide_eq_false (not_not.mpr nameless)
    have second : after.storefront.named = true := decide_eq_true named
    have different : before.storefront.named ≠ after.storefront.named := by
      rw [unnamed, second]
      exact Bool.false_ne_true
    rw [compareStorefronts_of_ne different, unnamed] at le
    exact le rfl

/-- The agent whose name a stall of the page has is one of its provider. -/
theorem first_of_mem {group : ProviderGroup}
    (among : group ∈ groupByProvider localeCompare agents) :
    ∃ first ∈ agents, first.providerKey = group.providerKey ∧
      group.providerName = first.providerName := by
  have stalls := @stallsOf_groupByProvider localeCompare agents _
  obtain ⟨first, heads, _, name⟩ := stalls.headed group among
  have member : first ∈ group.agents := List.mem_of_head? heads
  rw [stalls.own group among, List.mem_filter, decide_eq_true_iff] at member
  exact ⟨first, member.1, member.2, name⟩

/-- A stall of the page and an agent of it have one storefront, if the rows agree. -/
theorem storefront_of_mem (consistent : Consistent agents) {group : ProviderGroup}
    (among : group ∈ groupByProvider localeCompare agents) {agent : AgentRosterEntry}
    (listed : agent ∈ agents) (own : agent.providerKey = group.providerKey) :
    group.storefront = agent.storefront := by
  obtain ⟨first, member, key, name⟩ := first_of_mem among
  have same : first.providerName = agent.providerName :=
    consistent first member agent listed (key.trans own.symm)
  exact Prod.ext own.symm (name.trans same)

/-- A stall of the page is the storefront of an agent. -/
theorem mem_storefronts (consistent : Consistent agents) {storefront : Storefront} :
    storefront ∈ (groupByProvider localeCompare agents).map ProviderGroup.storefront ↔
      storefront ∈ agents.map AgentRosterEntry.storefront := by
  have stalls := @stallsOf_groupByProvider localeCompare agents _
  rw [List.mem_map, List.mem_map]
  constructor
  · rintro ⟨group, among, rfl⟩
    obtain ⟨first, member, key, _⟩ := first_of_mem among
    exact ⟨first, member, (storefront_of_mem consistent among member key).symm⟩
  · rintro ⟨agent, listed, rfl⟩
    obtain ⟨group, among, shows⟩ := List.mem_flatMap.mp (stalls.once.mem_iff.mpr listed)
    rw [stalls.own group among, List.mem_filter, decide_eq_true_iff] at shows
    exact ⟨group, among, storefront_of_mem consistent among listed shows.2⟩

/-- Where no two providers sort alike, the stalls are in a strict order. -/
theorem strictly_sorted (consistent : Consistent agents)
    (apart : ToldApart localeCompare agents) :
    ((groupByProvider localeCompare agents).map ProviderGroup.storefront).Pairwise
      fun before after => compareStorefronts localeCompare before after = .lt := by
  have stalls := @stallsOf_groupByProvider localeCompare agents _
  have keys := List.pairwise_map.mp stalls.distinct
  rw [List.pairwise_map]
  refine (stalls.sorted.and keys).imp_of_mem fun {before after} first second sorted => ?_
  have listed : ∀ group ∈ groupByProvider localeCompare agents,
      ∃ agent ∈ agents, agent.storefront = group.storefront := fun group among =>
    List.mem_map.mp ((mem_storefronts consistent).mp (List.mem_map_of_mem among))
  obtain ⟨a, a_listed, a_storefront⟩ := listed before first
  obtain ⟨b, b_listed, b_storefront⟩ := listed after second
  have different : a.providerKey ≠ b.providerKey := by
    have a_key : a.providerKey = before.providerKey := congrArg Prod.fst a_storefront
    have b_key : b.providerKey = after.providerKey := congrArg Prod.fst b_storefront
    rw [a_key, b_key]
    exact sorted.2
  have separate := apart a a_listed b b_listed different
  rw [a_storefront, b_storefront] at separate
  cases outcome : compareStorefronts localeCompare before.storefront after.storefront with
  | lt => rfl
  | eq => exact absurd outcome separate
  | gt => exact absurd outcome sorted.1

/-- Of some of the agents the page shows some of the stalls, in the same order. -/
theorem storefronts_sublist {some : List AgentRosterEntry} (consistent : Consistent agents)
    (apart : ToldApart localeCompare agents) (within : some ⊆ agents) :
    ((groupByProvider localeCompare some).map ProviderGroup.storefront).Sublist
      ((groupByProvider localeCompare agents).map ProviderGroup.storefront) := by
  have fewer := strictly_sorted (consistent.subset within) (apart.subset within)
  have all := strictly_sorted consistent apart
  have distinct : ((groupByProvider localeCompare some).map ProviderGroup.storefront).Nodup := by
    refine fewer.imp fun {before after} less same => ?_
    have equal : compareStorefronts localeCompare after after = .eq := Std.ReflCmp.compare_self
    rw [same, equal] at less
    cases less
  have contained : (groupByProvider localeCompare some).map ProviderGroup.storefront ⊆
      (groupByProvider localeCompare agents).map ProviderGroup.storefront := by
    intro storefront among
    rw [mem_storefronts (consistent.subset within)] at among
    rw [mem_storefronts consistent]
    exact List.map_subset _ within among
  have strict : Std.Antisymm fun before after : Storefront =>
      compareStorefronts localeCompare before after = .lt := by
    refine ⟨fun before after less greater => ?_⟩
    rw [Std.OrientedCmp.gt_of_lt less] at greater
    cases greater
  exact List.sublist_of_subperm_of_pairwise (List.subperm_of_subset distinct contained) fewer all

theorem filtered_subset (toLowerCase trim : JsString → JsString) (search : JsString) :
    filtered toLowerCase trim agents search ⊆ agents := by
  rw [filtered]
  split
  · exact List.Subset.refl _
  · exact List.filter_subset_self _

/-- For every roster the front page shows each agent once, in the stall of its provider; unless two
providers sort alike, neither what is typed nor the order of the roster moves a stall. -/
theorem frontPage (agents : List AgentRosterEntry) : FrontPage localeCompare agents where
  stalls := stallsOf_groupByProvider
  searched toLowerCase trim search := by
    rw [groups_applyFilter]
    exact stallsOf_groupByProvider
  empty toLowerCase trim search := by
    rw [applyFilter, render]
    by_cases none : agents = []
    · simp [none, filtered_nil]
    · by_cases left : filtered toLowerCase trim agents search = [] <;> simp [none, left]
  typed consistent apart toLowerCase trim search := by
    rw [groups_applyFilter]
    exact storefronts_sublist consistent apart (filtered_subset toLowerCase trim search)
  reloaded consistent apart shuffled perm := by
    have forth := storefronts_sublist consistent apart perm.subset
    have back := storefronts_sublist (consistent.subset perm.subset) (apart.subset perm.subset)
      perm.symm.subset
    exact forth.antisymm back

end Sorted

/-- Two stalls with names, one of them with two agents, and one without. -/
def stallRows : List AgentRosterEntry :=
  [⟨jsString "0c", jsString "0c", jsString "echo", none, true, none⟩,
    ⟨jsString "0b", jsString "0b", jsString "scribe", none, false, some (jsString "Paper")⟩,
    ⟨jsString "0a", jsString "0a", jsString "guide", none, true, some (jsString "Maps")⟩,
    ⟨jsString "0b", jsString "0b", jsString "letters", none, true, some (jsString "Paper")⟩]

theorem frontPage_stallRows : FrontPage codeUnitOrder stallRows ∧ Consistent stallRows ∧
    ToldApart codeUnitOrder stallRows := by
  refine ⟨frontPage stallRows, ?_, ?_⟩
  · unfold Consistent
    decide +kernel
  · unfold ToldApart
    decide +kernel

end Souk.Directory
