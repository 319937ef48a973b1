import Mathlib

/-!
# Trees with any number of children

A node of a tree is found by its address, the positions of the children on the way to it.  The
addresses of the leaves, in lexicographic order, are the leaves from left to right; the nodes along
an address are those at its beginnings.
-/

namespace Souk

/-- A value at every node, and the children in their order. -/
inductive RoseTree (Value : Type*) where
  | node (value : Value) (children : List (RoseTree Value))

namespace RoseTree

variable {Value : Type*}

def value : RoseTree Value → Value
  | .node value _ => value

def children : RoseTree Value → List (RoseTree Value)
  | .node _ children => children

/-- What holds of a tree whenever it holds of its children holds of every tree. -/
@[elab_as_elim]
theorem induct {motive : RoseTree Value → Prop}
    (node : ∀ value children, (∀ child ∈ children, motive child) → motive (.node value children)) :
    ∀ tree, motive tree
  | .node value children => node value children fun child _ => induct node child

/-- The node at an address. -/
def subtree? (tree : RoseTree Value) : List Nat → Option (RoseTree Value)
  | [] => some tree
  | index :: address => tree.children[index]?.bind fun child => child.subtree? address

mutual

/-- The addresses of the leaves, from left to right. -/
def leafAddresses : RoseTree Value → List (List Nat)
  | .node _ [] => [[]]
  | .node _ (child :: children) => leafAddressesFrom 0 (child :: children)

/-- The addresses of the leaves of some children, the first of which stands at a position. -/
def leafAddressesFrom : Nat → List (RoseTree Value) → List (List Nat)
  | _, [] => []
  | index, child :: children =>
      child.leafAddresses.map (index :: ·) ++ leafAddressesFrom (index + 1) children

end

/-- The nodes on the way to an address, from the root. -/
def along (tree : RoseTree Value) (address : List Nat) : List (RoseTree Value) :=
  address.inits.filterMap tree.subtree?

/-- A leaf stands at an address. -/
def IsLeafAt (tree : RoseTree Value) (address : List Nat) : Prop :=
  ∃ leaf, tree.subtree? address = some leaf ∧ leaf.children = []

/-! ## Addresses -/

theorem along_nil (tree : RoseTree Value) : tree.along [] = [tree] := rfl

theorem along_cons {tree child : RoseTree Value} {index : Nat}
    (found : tree.children[index]? = some child) (address : List Nat) :
    tree.along (index :: address) = tree :: child.along address := by
  have below : tree.subtree? ∘ (index :: ·) = child.subtree? := by
    funext rest
    rw [Function.comp_apply, subtree?, found, Option.bind_some]
  have root : tree.subtree? [] = some tree := rfl
  rw [along, List.inits_cons, List.filterMap_cons_some root, List.filterMap_map, below, along]

/-- A way off the tree ends at its root. -/
theorem along_cons_of_none {tree : RoseTree Value} {index : Nat}
    (missing : tree.children[index]? = none) (address : List Nat) :
    tree.along (index :: address) = [tree] := by
  have below : tree.subtree? ∘ (index :: ·) = fun _ => none := by
    funext rest
    rw [Function.comp_apply, subtree?, missing, Option.bind_none]
  have root : tree.subtree? [] = some tree := rfl
  rw [along, List.inits_cons, List.filterMap_cons_some root, List.filterMap_map, below]
  simp

theorem exists_along_eq_cons (tree : RoseTree Value) (address : List Nat) :
    ∃ later, tree.along address = tree :: later := by
  cases address with
  | nil => exact ⟨[], rfl⟩
  | cons index address =>
      cases found : tree.children[index]? with
      | none => exact ⟨[], along_cons_of_none found address⟩
      | some child => exact ⟨_, along_cons found address⟩

theorem subtree?_append (tree : RoseTree Value) (address rest : List Nat) :
    tree.subtree? (address ++ rest) =
      (tree.subtree? address).bind fun node => node.subtree? rest := by
  induction address generalizing tree with
  | nil => rfl
  | cons index address induction =>
      rw [List.cons_append, subtree?, subtree?]
      cases tree.children[index]? with
      | none => rfl
      | some child => exact induction child

/-- The way to a node goes on as a way from that node. -/
theorem along_append {tree node : RoseTree Value} {address : List Nat}
    (found : tree.subtree? address = some node) (rest : List Nat) :
    ∃ before, tree.along (address ++ rest) = before ++ node.along rest := by
  induction address generalizing tree with
  | nil =>
      obtain rfl := Option.some.inj found
      exact ⟨[], rfl⟩
  | cons index address induction =>
      obtain ⟨child, here, below⟩ := Option.bind_eq_some_iff.mp found
      obtain ⟨before, way⟩ := induction below
      exact ⟨tree :: before, by rw [List.cons_append, along_cons here, way, List.cons_append]⟩

/-- A way to an address which is on the tree ends there. -/
theorem getLast?_along {tree node : RoseTree Value} {address : List Nat}
    (found : tree.subtree? address = some node) : (tree.along address).getLast? = some node := by
  obtain ⟨before, way⟩ := along_append found []
  rw [List.append_nil] at way
  rw [way, along_nil, List.getLast?_concat]

/-- Each node on a way is a child of the one before it. -/
theorem isChain_along (tree : RoseTree Value) (address : List Nat) :
    (tree.along address).IsChain fun parent child => child ∈ parent.children := by
  induction address generalizing tree with
  | nil => exact .singleton _
  | cons index address induction =>
      cases found : tree.children[index]? with
      | none =>
          rw [along_cons_of_none found]
          exact .singleton _
      | some child =>
          obtain ⟨later, way⟩ := child.exists_along_eq_cons address
          have rest := induction child
          rw [along_cons found, way]
          rw [way] at rest
          exact .cons_cons (List.mem_of_getElem? found) rest

/-! ## Leaves -/

theorem isLeafAt_nil {tree : RoseTree Value} : tree.IsLeafAt [] ↔ tree.children = [] := by
  constructor
  · rintro ⟨_, ⟨rfl⟩, childless⟩
    exact childless
  · exact fun childless => ⟨tree, rfl, childless⟩

theorem isLeafAt_cons {tree : RoseTree Value} {index : Nat} {address : List Nat} :
    tree.IsLeafAt (index :: address) ↔
      ∃ child, tree.children[index]? = some child ∧ child.IsLeafAt address := by
  constructor
  · rintro ⟨leaf, found, childless⟩
    obtain ⟨child, here, below⟩ := Option.bind_eq_some_iff.mp found
    exact ⟨child, here, leaf, below, childless⟩
  · rintro ⟨child, here, leaf, below, childless⟩
    exact ⟨leaf, Option.bind_eq_some_iff.mpr ⟨child, here, below⟩, childless⟩

theorem mem_leafAddressesFrom {start : Nat} {children : List (RoseTree Value)}
    {address : List Nat} :
    address ∈ leafAddressesFrom start children ↔
      ∃ index child rest, children[index]? = some child ∧ address = (start + index) :: rest ∧
        rest ∈ child.leafAddresses := by
  induction children generalizing start with
  | nil => simp [leafAddressesFrom]
  | cons child children induction =>
      rw [leafAddressesFrom, List.mem_append, List.mem_map, induction]
      constructor
      · rintro (⟨rest, leaf, rfl⟩ | ⟨index, other, rest, found, rfl, leaf⟩)
        · exact ⟨0, child, rest, rfl, rfl, leaf⟩
        · exact ⟨index + 1, other, rest, found, by rw [Nat.add_assoc, Nat.add_comm 1], leaf⟩
      · rintro ⟨index, other, rest, found, rfl, leaf⟩
        cases index with
        | zero =>
            obtain rfl := Option.some.inj found
            exact .inl ⟨rest, leaf, rfl⟩
        | succ index =>
            exact .inr ⟨index, other, rest, found, by rw [Nat.add_assoc, Nat.add_comm 1], leaf⟩

/-- The addresses of the leaves are those at which a leaf stands. -/
theorem mem_leafAddresses {tree : RoseTree Value} {address : List Nat} :
    address ∈ tree.leafAddresses ↔ tree.IsLeafAt address := by
  induction tree using induct generalizing address with
  | node value children induction =>
      cases children with
      | nil =>
          rw [leafAddresses, List.mem_singleton]
          cases address with
          | nil => exact iff_of_true rfl (isLeafAt_nil.mpr rfl)
          | cons index rest =>
              rw [isLeafAt_cons]
              simp [children]
      | cons child siblings =>
          rw [leafAddresses, mem_leafAddressesFrom]
          cases address with
          | nil =>
              rw [isLeafAt_nil]
              simp [children]
          | cons index rest =>
              rw [isLeafAt_cons]
              constructor
              · rintro ⟨_, other, _, found, ⟨rfl⟩, leaf⟩
                rw [Nat.zero_add]
                exact ⟨other, found, (induction other (List.mem_of_getElem? found)).mp leaf⟩
              · rintro ⟨other, found, leaf⟩
                exact ⟨index, other, rest, found, by rw [Nat.zero_add],
                  (induction other (List.mem_of_getElem? found)).mpr leaf⟩

theorem pairwise_leafAddressesFrom {start : Nat} {children : List (RoseTree Value)}
    (ordered : ∀ child ∈ children, child.leafAddresses.Pairwise (· < ·)) :
    (leafAddressesFrom start children).Pairwise (· < ·) := by
  induction children generalizing start with
  | nil => exact .nil
  | cons child children induction =>
      obtain ⟨first, others⟩ := List.forall_mem_cons.mp ordered
      rw [leafAddressesFrom, List.pairwise_append]
      refine ⟨first.map _ fun _ _ smaller => .cons smaller, induction others, ?_⟩
      intro left inFirst right inOthers
      obtain ⟨rest, _, rfl⟩ := List.mem_map.mp inFirst
      obtain ⟨index, other, later, _, rfl, _⟩ := mem_leafAddressesFrom.mp inOthers
      exact .rel (by omega)

theorem pairwise_leafAddresses (tree : RoseTree Value) :
    tree.leafAddresses.Pairwise (· < ·) := by
  induction tree using induct with
  | node value children induction =>
      cases children with
      | nil => exact List.pairwise_singleton _ _
      | cons child children => exact pairwise_leafAddressesFrom induction

theorem map_along_leafAddressesFrom {tree : RoseTree Value} {before after : List (RoseTree Value)}
    (split : tree.children = before ++ after) :
    (leafAddressesFrom before.length after).map tree.along =
      after.flatMap fun child => (child.leafAddresses.map child.along).map (tree :: ·) := by
  induction after generalizing before with
  | nil => rfl
  | cons child after induction =>
      have here : tree.children[before.length]? = some child := by
        rw [split, List.getElem?_append_right le_rfl, Nat.sub_self, List.getElem?_cons_zero]
      have others := @induction (before ++ [child]) (by rw [split, List.append_assoc]; rfl)
      rw [List.length_append, List.length_singleton] at others
      rw [leafAddressesFrom, List.map_append, others, List.flatMap_cons, List.map_map, List.map_map]
      exact congrArg (· ++ _) (List.map_congr_left fun address _ => along_cons here address)

/-- The ways to the leaves, child by child. -/
theorem map_along_leafAddresses {tree : RoseTree Value} (parent : tree.children ≠ []) :
    tree.leafAddresses.map tree.along =
      tree.children.flatMap fun child => (child.leafAddresses.map child.along).map (tree :: ·) := by
  obtain ⟨value, children⟩ := tree
  cases children with
  | nil => exact absurd rfl parent
  | cons child siblings => exact @map_along_leafAddressesFrom _ (.node value _) [] _ rfl

/-- There is a leaf on every tree. -/
theorem exists_isLeafAt (tree : RoseTree Value) : ∃ address, tree.IsLeafAt address := by
  induction tree using induct with
  | node value children induction =>
      cases children with
      | nil => exact ⟨[], _, rfl, rfl⟩
      | cons child children =>
          obtain ⟨address, leaf⟩ := induction child List.mem_cons_self
          exact ⟨0 :: address, leaf⟩

/-- Below every node there is a leaf. -/
theorem exists_isLeafAt_append {tree node : RoseTree Value} {address : List Nat}
    (found : tree.subtree? address = some node) : ∃ rest, tree.IsLeafAt (address ++ rest) := by
  obtain ⟨rest, leaf, below, childless⟩ := node.exists_isLeafAt
  refine ⟨rest, leaf, ?_, childless⟩
  rw [subtree?_append, found, Option.bind_some, below]

/-- From every node to every child of it there is a way to a leaf. -/
theorem exists_leaf_through {tree parent child : RoseTree Value} {address : List Nat} {index : Nat}
    (found : tree.subtree? address = some parent) (edge : parent.children[index]? = some child) :
    ∃ leaf, tree.IsLeafAt leaf ∧ address ++ [index] <+: leaf ∧
      [parent, child] <:+: tree.along leaf := by
  have below : tree.subtree? (address ++ [index]) = some child := by
    rw [subtree?_append, found, Option.bind_some]
    exact Option.bind_eq_some_iff.mpr ⟨child, edge, rfl⟩
  obtain ⟨rest, leaf⟩ := exists_isLeafAt_append below
  refine ⟨_, leaf, ⟨rest, rfl⟩, ?_⟩
  obtain ⟨before, way⟩ := along_append found (index :: rest)
  obtain ⟨later, onward⟩ := child.exists_along_eq_cons rest
  refine ⟨before, later, ?_⟩
  rw [List.append_assoc, List.append_assoc, List.singleton_append, way, along_cons edge, onward]
  rfl

/-! ## Trees with one leaf -/

/-- No node of a tree has two children. -/
def Unbranched (tree : RoseTree Value) : Prop :=
  ∀ address node, tree.subtree? address = some node → node.children.length ≤ 1

theorem unbranched_node {value : Value} {children : List (RoseTree Value)} :
    (node value children).Unbranched ↔
      children.length ≤ 1 ∧ ∀ child ∈ children, child.Unbranched := by
  constructor
  · intro unbranched
    refine ⟨unbranched [] _ rfl, fun child among address node found => ?_⟩
    obtain ⟨index, inside, rfl⟩ := List.getElem_of_mem among
    apply unbranched (index :: address)
    exact Option.bind_eq_some_iff.mpr ⟨_, List.getElem?_eq_getElem inside, found⟩
  · rintro ⟨few, below⟩ address node found
    cases address with
    | nil =>
        obtain rfl := Option.some.inj found
        exact few
    | cons index address =>
        obtain ⟨child, here, found⟩ := Option.bind_eq_some_iff.mp found
        exact below child (List.mem_of_getElem? here) address node found

theorem length_leafAddresses_pos (tree : RoseTree Value) : 0 < tree.leafAddresses.length := by
  obtain ⟨address, leaf⟩ := tree.exists_isLeafAt
  exact List.length_pos_of_mem (mem_leafAddresses.mpr leaf)

theorem length_leafAddressesFrom_cons (start : Nat) (child : RoseTree Value)
    (children : List (RoseTree Value)) :
    (leafAddressesFrom start (child :: children)).length =
      child.leafAddresses.length + (leafAddressesFrom (start + 1) children).length := by
  rw [leafAddressesFrom, List.length_append, List.length_map]

theorem length_le_leafAddressesFrom (start : Nat) (children : List (RoseTree Value)) :
    children.length ≤ (leafAddressesFrom start children).length := by
  induction children generalizing start with
  | nil => exact Nat.zero_le _
  | cons child children induction =>
      have one := child.length_leafAddresses_pos
      have others := induction (start + 1)
      rw [length_leafAddressesFrom_cons, List.length_cons]
      omega

/-- Some trees have as many leaves as there are trees precisely when each has one. -/
theorem length_leafAddressesFrom_eq_iff {start : Nat} {children : List (RoseTree Value)} :
    (leafAddressesFrom start children).length = children.length ↔
      ∀ child ∈ children, child.leafAddresses.length = 1 := by
  induction children generalizing start with
  | nil => simp [leafAddressesFrom]
  | cons child children induction =>
      have one := child.length_leafAddresses_pos
      have others := length_le_leafAddressesFrom (start + 1) children
      rw [length_leafAddressesFrom_cons, List.length_cons, List.forall_mem_cons,
        ← @induction (start + 1)]
      omega

/-- A tree has one leaf precisely when it does not branch. -/
theorem length_leafAddresses_eq_one_iff {tree : RoseTree Value} :
    tree.leafAddresses.length = 1 ↔ tree.Unbranched := by
  induction tree using induct with
  | node value children induction =>
      rw [unbranched_node]
      cases children with
      | nil => simp [leafAddresses]
      | cons child siblings =>
          have leaves := length_le_leafAddressesFrom 0 (child :: siblings)
          have only := @length_leafAddressesFrom_eq_iff _ 0 (child :: siblings)
          have below : (∀ other ∈ child :: siblings, other.Unbranched) ↔
              ∀ other ∈ child :: siblings, other.leafAddresses.length = 1 :=
            forall₂_congr fun other among => (induction other among).symm
          have nonempty : 0 < (child :: siblings).length := Nat.succ_pos _
          rw [leafAddresses, below, ← only]
          omega

end RoseTree

end Souk
