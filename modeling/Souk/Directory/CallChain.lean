import Souk.Directory.Layout
import Souk.Library.RoseTree

/-!
# The call chain of a reply

Under a reply stand the delegations which led to it: one row for each way from the thread to a call
which made no further one, and a label which counts the rows.
-/

namespace Souk.Directory

/-- What a node of the tree tells of its call; the root is no call and has no time. -/
structure Thread where
  providerKey : JsString
  agentName : JsString
  createdAt : Option JsString

abbrev ThreadTreeNode := RoseTree Thread

def routesToLeaves : ThreadTreeNode → List (List ThreadTreeNode)
  | .node thread children =>
      if children.length = 0 then [[.node thread children]]
      else children.flatMap fun child =>
        (routesToLeaves child).map fun path => .node thread children :: path

/-- `SIMULTANEOUS_MS` -/
def simultaneousMs : Int := 250

section Times

variable (dateParse : JsString → Option Int)

/-- When a call was made, if that is known: `Date.parse` yields no time for a text it cannot read,
and is not asked about an empty one. -/
def timeOf (node : ThreadTreeNode) : Option Int :=
  match node.value.createdAt with
  | some text => if text = [] then none else dateParse text
  | none => none

def startedTogether (node : ThreadTreeNode) : Bool :=
  let times := node.children.filterMap (timeOf dateParse)
  if times.length < 2 then false
  else
    match times.max?, times.min? with
    | some latest, some earliest => latest - earliest ≤ simultaneousMs
    | _, _ => false

/-- One stop of a row. -/
structure Stop where
  link : Bool
  root : Bool
  title : JsString
  name : JsString
  stall : Option JsString

/-- The line above the rows. -/
inductive Label where
  | oneChain
  | sentAtOnce (count : Nat)
  | chains (count : Nat)

/-- The text of the line. -/
def Label.text : Label → String
  | .oneChain => "call chain for this reply"
  | .sentAtOnce count => "call chains for this reply · " ++ toString count ++ " sent at once"
  | .chains count => "call chains for this reply · " ++ toString count

/-- What becomes of the container. -/
inductive CallChain where
  | untouched
  | cleared
  | drawn (label : Label) (rows : List (List Stop))

/-- The stops of a route, after the stop before them: the stall is named where the walk crosses
into another one, if that has a name. -/
def renderRoute (stallNameByKey : JsString → Option JsString) :
    Option ThreadTreeNode → List ThreadTreeNode → List Stop
  | _, [] => []
  | none, node :: stops =>
      ⟨false, true, node.value.providerKey, node.value.agentName, none⟩ ::
        renderRoute stallNameByKey (some node) stops
  | some before, node :: stops =>
      let crossed := node.value.providerKey ≠ before.value.providerKey
      let stall := (stallNameByKey node.value.providerKey).filter (· ≠ [])
      ⟨true, false, node.value.providerKey, node.value.agentName,
        if crossed then stall else none⟩ ::
        renderRoute stallNameByKey (some node) stops

/-- `renderCallChain`, with the tree it fetches, if the souk answers. -/
def renderCallChain (stallNameByKey : JsString → Option JsString) :
    Option ThreadTreeNode → CallChain
  | none => .untouched
  | some root =>
      if root.children.length = 0 then .cleared
      else
        let routes := routesToLeaves root
        let fannedOut := startedTogether dateParse root
        let label :=
          if routes.length = 1 then .oneChain
          else if fannedOut then .sentAtOnce routes.length
          else .chains routes.length
        .drawn label (routes.map (renderRoute stallNameByKey none))

end Times

/-! ## The rows -/

/-- The rows are the ways to the leaves. -/
theorem routesToLeaves_eq (root : ThreadTreeNode) :
    routesToLeaves root = root.leafAddresses.map root.along := by
  induction root using RoseTree.induct with
  | node thread children induction =>
      rw [routesToLeaves]
      by_cases childless : children.length = 0
      · obtain rfl := List.eq_nil_of_length_eq_zero childless
        rfl
      · have parent : children ≠ [] := fun none => childless (List.length_eq_zero_iff.mpr none)
        rw [if_neg childless, @RoseTree.map_along_leafAddresses _ (.node thread children) parent]
        exact List.flatMap_congr fun child among => by rw [induction child among]

/-- The rows of a tree are the ways from the root to its leaves, from left to right; every step of
one is a call, and every call is a step of one. -/
structure DrawsCalls (root : ThreadTreeNode) (routes : List (List ThreadTreeNode)) : Prop where
  ways : routes = root.leafAddresses.map root.along
  leaves : ∀ address, address ∈ root.leafAddresses ↔ root.IsLeafAt address
  ordered : root.leafAddresses.Pairwise (· < ·)
  spans : ∀ address leaf, root.subtree? address = some leaf →
    (root.along address).head? = some root ∧ (root.along address).getLast? = some leaf
  sound : ∀ route ∈ routes, route.IsChain fun caller callee => callee ∈ caller.children
  complete : ∀ address index caller callee, root.subtree? address = some caller →
    caller.children[index]? = some callee →
    ∃ leaf ∈ root.leafAddresses, address ++ [index] <+: leaf ∧
      [caller, callee] <:+: root.along leaf

theorem routesToLeaves_drawsCalls (root : ThreadTreeNode) :
    DrawsCalls root (routesToLeaves root) where
  ways := routesToLeaves_eq root
  leaves _ := RoseTree.mem_leafAddresses
  ordered := root.pairwise_leafAddresses
  spans address leaf found := by
    obtain ⟨later, way⟩ := root.exists_along_eq_cons address
    exact ⟨by rw [way, List.head?_cons], RoseTree.getLast?_along found⟩
  sound route among := by
    rw [routesToLeaves_eq] at among
    obtain ⟨address, _, rfl⟩ := List.mem_map.mp among
    exact root.isChain_along address
  complete address index caller callee found called := by
    obtain ⟨leaf, stands, through, step⟩ := RoseTree.exists_leaf_through found called
    exact ⟨leaf, RoseTree.mem_leafAddresses.mpr stands, through, step⟩

/-! ## The label -/

theorem space_not_mem_repr (count : Nat) : ' ' ∉ (Nat.repr count).toList := by
  intro among
  rw [Nat.toList_repr] at among
  exact absurd (Nat.isDigit_of_mem_toDigits (by decide) (by decide) among) (by decide)

/-- The words which all labels but the first begin with. -/
def chainsWords : String := "call chains for this reply · "

theorem oneChain_text_ne (rest : String) : Label.oneChain.text ≠ chainsWords ++ rest := by
  intro same
  have lengths := congrArg String.length same
  rw [String.length_append] at lengths
  have short : Label.oneChain.text.length = 25 := rfl
  have long : chainsWords.length = 29 := rfl
  omega

theorem sentAtOnce_text_ne (count other : Nat) :
    (Label.sentAtOnce count).text ≠ (Label.chains other).text := by
  intro same
  have chars : ((chainsWords ++ Nat.repr count) ++ " sent at once").toList =
      (chainsWords ++ Nat.repr other).toList := congrArg String.toList same
  simp only [String.toList_append, List.append_assoc, List.append_cancel_left_eq] at chars
  have space : ' ' ∈ " sent at once".toList := by decide
  have among := List.mem_append_right (Nat.repr count).toList space
  rw [chars] at among
  exact space_not_mem_repr other among

theorem counted_text_injective {count other : Nat} {rest : String}
    (same : (chainsWords ++ Nat.repr count) ++ rest = (chainsWords ++ Nat.repr other) ++ rest) :
    count = other := by
  have chars := congrArg String.toList same
  simp only [String.toList_append] at chars
  have counts := List.append_cancel_left (List.append_cancel_right chars)
  exact Nat.repr_inj.mp (String.toList_inj.mp counts)

/-- The text tells the label: the words after a count are not part of it. -/
theorem Label.text_injective : Function.Injective Label.text := by
  intro first second same
  cases first with
  | oneChain =>
      cases second with
      | oneChain => rfl
      | sentAtOnce other =>
          exact absurd (same.trans String.append_assoc) (oneChain_text_ne _)
      | chains other => exact absurd same (oneChain_text_ne _)
  | sentAtOnce count =>
      cases second with
      | oneChain => exact absurd (same.symm.trans String.append_assoc) (oneChain_text_ne _)
      | sentAtOnce other => exact congrArg _ (counted_text_injective same)
      | chains other => exact absurd same (sentAtOnce_text_ne count other)
  | chains count =>
      cases second with
      | oneChain => exact absurd same.symm (oneChain_text_ne _)
      | sentAtOnce other => exact absurd same.symm (sentAtOnce_text_ne other count)
      | chains other =>
          exact congrArg _ (counted_text_injective (congrArg (· ++ "") same))

section Label

variable {dateParse : JsString → Option Int}

/-- At least two of the calls of a thread have a time, and those which have one are close. -/
theorem startedTogether_iff {node : ThreadTreeNode} :
    startedTogether dateParse node = true ↔
      2 ≤ (node.children.filterMap (timeOf dateParse)).length ∧
        ∀ earlier ∈ node.children.filterMap (timeOf dateParse),
          ∀ later ∈ node.children.filterMap (timeOf dateParse),
            later - earlier ≤ simultaneousMs := by
  unfold startedTogether
  dsimp only
  generalize node.children.filterMap (timeOf dateParse) = times
  by_cases few : times.length < 2
  · rw [if_pos few]
    exact iff_of_false Bool.false_ne_true fun enough => absurd enough.1 (by omega)
  · have nonempty : times ≠ [] := by
      rintro rfl
      exact few (by decide)
    obtain ⟨latest, greatest⟩ := Option.isSome_iff_exists.mp (List.isSome_max?_of_ne_nil nonempty)
    obtain ⟨earliest, least⟩ := Option.isSome_iff_exists.mp (List.isSome_min?_of_ne_nil nonempty)
    obtain ⟨latest_mem, above⟩ := List.max?_eq_some_iff.mp greatest
    obtain ⟨earliest_mem, below⟩ := List.min?_eq_some_iff.mp least
    rw [if_neg few, greatest, least]
    simp only [decide_eq_true_eq]
    constructor
    · intro close
      refine ⟨by omega, fun earlier first later second => ?_⟩
      have bounded := below earlier first
      have bounding := above later second
      omega
    · exact fun close => close.2 earliest earliest_mem latest latest_mem

/-- A label which counts calls as sent at once does not promise more than it may: the root made so
many calls, and all of them have times which are close. -/
def LabelTruthful (dateParse : JsString → Option Int) (stallNameByKey : JsString → Option JsString)
    (root : ThreadTreeNode) : Prop :=
  ∀ count rows,
    renderCallChain dateParse stallNameByKey (some root) = .drawn (.sentAtOnce count) rows →
      root.children.length = count ∧
        ∃ times : List Int, root.children.map (timeOf dateParse) = times.map some ∧
          ∀ earlier ∈ times, ∀ later ∈ times, later - earlier ≤ simultaneousMs

theorem length_routesToLeaves {root : ThreadTreeNode} (parent : root.children ≠ []) :
    (routesToLeaves root).length = (RoseTree.leafAddressesFrom 0 root.children).length := by
  rw [routesToLeaves_eq, List.length_map]
  obtain ⟨thread, children⟩ := root
  cases children with
  | nil => exact absurd rfl parent
  | cons child siblings =>
      rw [RoseTree.leafAddresses]
      rfl

/-- There is a row for every call of the root, and no other row precisely when none of them
branches. -/
theorem length_routesToLeaves_eq_iff {root : ThreadTreeNode} (parent : root.children ≠ []) :
    root.children.length = (routesToLeaves root).length ↔
      ∀ child ∈ root.children, child.Unbranched := by
  rw [length_routesToLeaves parent, eq_comm, RoseTree.length_leafAddressesFrom_eq_iff]
  exact forall₂_congr fun child _ => RoseTree.length_leafAddresses_eq_one_iff

theorem two_le_of_startedTogether {root : ThreadTreeNode}
    (together : startedTogether dateParse root = true) : 2 ≤ root.children.length :=
  (startedTogether_iff.mp together).1.trans (List.length_filterMap_le _ _)

theorem children_ne_nil_of_startedTogether {root : ThreadTreeNode}
    (together : startedTogether dateParse root = true) : root.children ≠ [] := by
  intro childless
  have calls := two_le_of_startedTogether together
  rw [childless] at calls
  exact absurd calls (by decide)

/-- If all calls have times, those which are compared are those of all calls. -/
theorem map_timeOf_of_isSome {children : List ThreadTreeNode}
    (known : ∀ child ∈ children, (timeOf dateParse child).isSome) :
    children.map (timeOf dateParse) = (children.filterMap (timeOf dateParse)).map some := by
  induction children with
  | nil => rfl
  | cons child children induction =>
      obtain ⟨first, rest⟩ := List.forall_mem_cons.mp known
      obtain ⟨time, recorded⟩ := Option.isSome_iff_exists.mp first
      rw [List.map_cons, List.filterMap_cons_some recorded, List.map_cons, recorded, induction rest]

/-- The label counts the rows as sent at once precisely when the calls started together. -/
theorem renderCallChain_sentAtOnce_iff {stallNameByKey : JsString → Option JsString}
    {root : ThreadTreeNode} {count : Nat} :
    (∃ rows, renderCallChain dateParse stallNameByKey (some root) =
        .drawn (.sentAtOnce count) rows) ↔
      startedTogether dateParse root = true ∧ count = (routesToLeaves root).length := by
  rw [renderCallChain]
  constructor
  · rintro ⟨rows, drawn⟩
    split at drawn
    · cases drawn
    · obtain ⟨label, _⟩ := CallChain.drawn.inj drawn
      split at label
      · cases label
      · split at label
        · rename_i together
          exact ⟨together, (Label.sentAtOnce.inj label).symm⟩
        · cases label
  · rintro ⟨together, rfl⟩
    have parent := children_ne_nil_of_startedTogether together
    have calls := two_le_of_startedTogether together
    have rows := RoseTree.length_le_leafAddressesFrom 0 root.children
    rw [← length_routesToLeaves parent] at rows
    have several : (routesToLeaves root).length ≠ 1 := by omega
    rw [if_neg (fun childless => parent (List.eq_nil_of_length_eq_zero childless))]
    simp only [if_neg several, together, if_true]
    exact ⟨_, rfl⟩

/-- The label is truthful precisely when, if the calls which have times started together, all calls
have times and none of them branches. -/
theorem labelTruthful_iff (dateParse : JsString → Option Int)
    (stallNameByKey : JsString → Option JsString) (root : ThreadTreeNode) :
    LabelTruthful dateParse stallNameByKey root ↔
      (startedTogether dateParse root = true →
        ∀ child ∈ root.children, (timeOf dateParse child).isSome ∧ child.Unbranched) := by
  constructor
  · intro truthful together child among
    have parent : root.children ≠ [] := List.ne_nil_of_mem among
    obtain ⟨rows, drawn⟩ := (@renderCallChain_sentAtOnce_iff dateParse stallNameByKey root _).mpr
      ⟨together, rfl⟩
    obtain ⟨counted, times, recorded, _⟩ := truthful _ rows drawn
    refine ⟨?_, (length_routesToLeaves_eq_iff parent).mp counted child among⟩
    have known := List.mem_map_of_mem (f := timeOf dateParse) among
    rw [recorded] at known
    obtain ⟨time, _, same⟩ := List.mem_map.mp known
    rw [← same]
    rfl
  · intro honest count rows drawn
    obtain ⟨together, rfl⟩ := renderCallChain_sentAtOnce_iff.mp ⟨rows, drawn⟩
    have parent := children_ne_nil_of_startedTogether together
    have each := honest together
    refine ⟨(length_routesToLeaves_eq_iff parent).mpr fun child among => (each child among).2,
      root.children.filterMap (timeOf dateParse), ?_, (startedTogether_iff.mp together).2⟩
    exact map_timeOf_of_isSome fun child among => (each child among).1

end Label

/-! A thread which asks two agents at once, one of which asks two more. -/

/-- The time at which all of these calls were made. -/
def noon : JsString := jsString "2026-01-01T12:00:00.000Z"

/-- `Date.parse`, of this time. -/
def parseNoon (text : JsString) : Option Int := if text = noon then some 1767268800000 else none

/-- A call at noon. -/
def calledAtNoon (agentName : String) (children : List ThreadTreeNode) : ThreadTreeNode :=
  .node ⟨jsString "k", jsString agentName, some noon⟩ children

/-- The thread. -/
def fannedOutTwice : ThreadTreeNode :=
  .node ⟨jsString "k", jsString "guide", none⟩
    [calledAtNoon "translator" [],
      calledAtNoon "summarizer" [calledAtNoon "translator" [], calledAtNoon "scribe" []]]

/-- It made two calls and is said to have sent three at once. -/
theorem fannedOutTwice_untruthful :
    (∃ rows, renderCallChain parseNoon (fun _ => none) (some fannedOutTwice) =
        .drawn (.sentAtOnce 3) rows) ∧
      ¬LabelTruthful parseNoon (fun _ => none) fannedOutTwice := by
  have drawn : ∃ rows, renderCallChain parseNoon (fun _ => none) (some fannedOutTwice) =
      .drawn (.sentAtOnce 3) rows := by
    refine renderCallChain_sentAtOnce_iff.mpr ⟨rfl, ?_⟩
    simp [fannedOutTwice, calledAtNoon, routesToLeaves]
  refine ⟨drawn, fun truthful => ?_⟩
  obtain ⟨rows, drawn⟩ := drawn
  exact absurd (truthful 3 rows drawn).1 (by decide)

end Souk.Directory
