import AeroRisk.Rbtree.Invariants

/-!
# Pointer safety of the insertion

The nodes of a tree are the ones its pointers lead to from the root.  Their
child and parent links agree, and no round of the rebalancing loop follows a
nil pointer.
-/

namespace AeroRisk.Rbtree

open AeroRisk.Library
open AeroRisk.Library.RedBlackTree
open AeroRisk.Library.RedBlackTree.Tree

variable {Key Value : Type}

/-! ## Links -/

/-- The addresses of the nodes a tree consists of. -/
inductive RBTree.Reaches (tree : RBTree Key Value) : Address → Prop where
  | root {address : Address} (isRoot : tree.root = some address) :
      Reaches tree address
  | child
      {parent address : Address}
      {node : Node Key Value}
      (side : Side)
      (reached : Reaches tree parent)
      (present : tree.nodes parent = some node)
      (isChild : node.child side = some address) :
      Reaches tree address

/-- Child and parent links of the nodes of a tree agree. -/
structure RBTree.LinksAgree (tree : RBTree Key Value) : Prop where
  present : ∀ x, tree.Reaches x → ∃ node, tree.nodes x = some node
  agree :
    ∀ x y above below, tree.Reaches x → tree.Reaches y →
      tree.nodes x = some above → tree.nodes y = some below →
        (above.left = some y ∨ above.right = some y ↔
          below.parent = some x)
  closed :
    ∀ x y below, tree.Reaches y → tree.nodes y = some below →
      below.parent = some x → tree.Reaches x
  onlyRoot :
    ∀ y below, tree.Reaches y → tree.nodes y = some below →
      (below.parent = none ↔ tree.root = some y)

section Places

variable {tree : RBTree Key Value}
variable {shape : Shape Key Value}
variable {trail : Trail Key Value}
variable {size : Nat}
variable {address : Address}

/-- A node of a shape has a place in it. -/
theorem exists_place (member : address ∈ addresses shape) :
    ∃ trail color left cell right,
      plug trail (.node color left cell right) = shape ∧
        cell.address = address := by
  suffices places :
      ∀ (trail : Trail Key Value),
        ∃ trail' color left cell right,
          plug trail' (.node color left cell right) = plug trail shape ∧
            cell.address = address from places []
  intro trail
  induction shape generalizing trail with
  | nil => exact absurd member List.not_mem_nil
  | node color left cell right leftHypothesis rightHypothesis =>
      rcases (@mem_addresses_join _ _ .left color left right cell
        address).1 member with inLeft | rfl | inRight
      · exact leftHypothesis inLeft (⟨.left, color, cell, right⟩ :: trail)
      · exact ⟨trail, color, left, cell, right, rfl, rfl⟩
      · exact rightHypothesis inRight (⟨.right, color, cell, left⟩ :: trail)

/-- The root of a focus belongs to the whole tree. -/
theorem mem_of_plug {focus : Shape Key Value}
    (isRoot : rootPointer focus = some address) :
    address ∈ addresses (plug trail focus) :=
  mem_addresses_plug.2 (.inl (mem_of_rootPointer isRoot))

/-- The root of a focus is the root of the tree or a child. -/
theorem Laid.reaches {focus : Shape Key Value}
    (laid : Laid tree size trail focus)
    (isRoot : rootPointer focus = some address) : tree.Reaches address := by
  induction trail generalizing focus address with
  | nil => exact .root (laid.trailHeld.trans isRoot)
  | cons step rest inductionHypothesis =>
      have above :=
        inductionHypothesis laid.up (rootPointer_join _ _ _ _ _)
      refine .child step.side above laid.above_present ?_
      rw [nodeOf_child, isRoot]

/-- The nodes of a tree are those of its shape. -/
theorem Laid.reaches_iff (laid : Laid tree size [] shape) :
    tree.Reaches address ↔ address ∈ addresses shape := by
  constructor
  · intro reached
    induction reached with
    | root isRoot =>
        exact mem_of_rootPointer (laid.trailHeld.symm.trans isRoot)
    | child side reached present isChild inductionHypothesis =>
        rcases exists_place inductionHypothesis with
          ⟨trail, color, left, cell, right, rfl, rfl⟩
        rcases exists_join side color left right cell with
          ⟨near, far, isJoin⟩
        rw [isJoin] at laid ⊢
        have placed := laid_plug.2 laid
        rw [placed.present, Option.some.injEq] at present
        subst present
        rw [nodeOf_child] at isChild
        exact @mem_of_plug _ _ (⟨side, color, cell, far⟩ :: trail) _ near
          isChild
  · intro member
    rcases exists_place member with
      ⟨trail, color, left, cell, right, rfl, rfl⟩
    exact (laid_plug.2 laid).reaches rfl

/-- A node of the tree has a place, seen from either side. -/
theorem Laid.exists_position (laid : Laid tree size [] shape)
    (reached : tree.Reaches address) (side : Side) :
    ∃ trail color near cell far,
      Laid tree size trail (join side color near cell far) ∧
        cell.address = address := by
  rcases exists_place (laid.reaches_iff.1 reached) with
    ⟨trail, color, left, cell, right, rfl, sameAddress⟩
  rcases exists_join side color left right cell with ⟨near, far, isJoin⟩
  rw [isJoin] at laid
  exact ⟨trail, color, near, cell, far, laid_plug.2 laid, sameAddress⟩

/-- The parent link of a node leads to the node above its place. -/
theorem Laid.exists_above {node : Node Key Value}
    (laid : Laid tree size [] shape) (reached : tree.Reaches address)
    (isNode : tree.nodes address = some node) :
    ∃ trail focus,
      Laid tree size trail focus ∧ rootPointer focus = some address ∧
        node.parent = abovePointer trail := by
  rcases laid.exists_position reached .left with
    ⟨trail, color, near, cell, far, atPlace, rfl⟩
  rw [atPlace.present, Option.some.injEq] at isNode
  subst isNode
  exact ⟨trail, _, atPlace, rfl, nodeOf_parent _ _ _ _ _ _⟩

/-- A child has its parent link to the node whose child it is. -/
theorem Laid.parent_of_child {parent : Address}
    {above below : Node Key Value}
    (laid : Laid tree size [] shape) (side : Side)
    (reached : tree.Reaches parent)
    (isAbove : tree.nodes parent = some above)
    (isBelow : tree.nodes address = some below)
    (isChild : above.child side = some address) :
    below.parent = some parent := by
  rcases laid.exists_position reached side with
    ⟨trail, color, near, cell, far, atPlace, rfl⟩
  rw [atPlace.present, Option.some.injEq] at isAbove
  subst isAbove
  rw [nodeOf_child] at isChild
  cases near with
  | nil => cases isChild
  | node nearColor nearLeft nearCell nearRight =>
      cases isChild
      rw [atPlace.down.focusHeld.1, Option.some.injEq] at isBelow
      subst isBelow
      rfl

/-- A node with a parent link is a child of the node it leads to. -/
theorem Laid.child_of_parent {parent : Address}
    {above below : Node Key Value}
    (laid : Laid tree size [] shape) (reached : tree.Reaches address)
    (isAbove : tree.nodes parent = some above)
    (isBelow : tree.nodes address = some below)
    (isParent : below.parent = some parent) :
    above.left = some address ∨ above.right = some address := by
  rcases laid.exists_above reached isBelow with
    ⟨trail, focus, atPlace, isRoot, sameParent⟩
  rw [isParent] at sameParent
  cases trail with
  | nil => cases sameParent
  | cons step rest =>
      cases sameParent
      rw [atPlace.above_present, Option.some.injEq, isRoot] at isAbove
      subst isAbove
      rcases step with ⟨_ | _, _, _, _⟩
      · exact .inl rfl
      · exact .inr rfl

/-- The links of a shape in the heap agree. -/
theorem Laid.linksAgree (laid : Laid tree size [] shape) :
    tree.LinksAgree := by
  constructor
  case present =>
    intro x reached
    rcases laid.exists_position reached .left with
      ⟨trail, color, near, cell, far, atPlace, rfl⟩
    exact ⟨_, atPlace.present⟩
  case agree =>
    intro x y above below reachedAbove reachedBelow isAbove isBelow
    constructor
    · rintro (isLeft | isRight)
      · exact
          laid.parent_of_child .left reachedAbove isAbove isBelow isLeft
      · exact
          laid.parent_of_child .right reachedAbove isAbove isBelow isRight
    · exact laid.child_of_parent reachedBelow isAbove isBelow
  case closed =>
    intro x y below reached isBelow isParent
    rcases laid.exists_above reached isBelow with
      ⟨trail, focus, atPlace, isRoot, sameParent⟩
    rw [isParent] at sameParent
    cases trail with
    | nil => cases sameParent
    | cons step rest =>
        cases sameParent
        exact atPlace.up.reaches (rootPointer_join _ _ _ _ _)
  case onlyRoot =>
    intro y below reached isBelow
    constructor
    · intro noParent
      rcases laid.exists_above reached isBelow with
        ⟨trail, focus, atPlace, isRoot, sameParent⟩
      rw [noParent] at sameParent
      cases trail with
      | nil => exact atPlace.trailHeld.trans isRoot
      | cons step rest => cases sameParent
    · intro isTreeRoot
      rw [laid.trailHeld] at isTreeRoot
      cases shape with
      | nil => cases isTreeRoot
      | node color left cell right =>
          cases isTreeRoot
          rw [laid.focusHeld.1, Option.some.injEq] at isBelow
          subst isBelow
          rfl

end Places

/-! ## The rebalancing loop -/

/-- The states in which the rounds of `fixInsert` begin in an insertion. -/
def RBTree.insertRounds [LinearOrder Key] (tree : RBTree Key Value)
    (key : Key) (value : Option Value) :
    List (RBTree Key Value × Pointer) :=
  let node := some tree.allocated
  let tree := tree.allocate (newNode key value)
  match FallibleLoop.run (tree.descendRound key) (tree.allocated + 1)
      (none, tree.root) with
  | some (.absent parent) =>
      match tree.attach key parent node with
      | some tree =>
          FallibleLoop.trace fixRound (tree.allocated + 1) (tree, node)
      | none => []
  | _ => []

/--
A round begins at a node.  When the parent of the node is red there is a
grandparent, and the round follows no nil pointer.
-/
structure RoundSafe (state : RBTree Key Value × Pointer) : Prop where
  node : ∃ node, state.1.load state.2 = some node
  grandparent :
    ∀ node parent, state.1.load state.2 = some node →
      state.1.load node.parent = some parent → parent.color = .red →
        ∃ grandparent, state.1.load parent.parent = some grandparent
  succeeds : ∃ outcome, RBTree.fixRound state = some outcome

/-- There is a node, with a child to rotate up. -/
def RBTree.HasPivot (tree : RBTree Key Value) (side : Side)
    (node : Pointer) : Prop :=
  ∃ current pivot pivotNode,
    tree.load node = some current ∧
      current.child side.opposite = some pivot ∧
        tree.nodes pivot = some pivotNode

theorem RBTree.hasPivot_of_rotate {tree tree' : RBTree Key Value}
    {side : Side} {node : Pointer}
    (rotated : tree.rotate side node = some tree') :
    tree.HasPivot side node := by
  cases loaded : tree.load node with
  | none => simp [RBTree.rotate, loaded] at rotated
  | some current =>
      cases pivotLoaded : tree.load (current.child side.opposite) with
      | none =>
          simp [RBTree.rotate, RBTree.raisePivot, loaded,
            pivotLoaded] at rotated
      | some pivotNode =>
          rcases Option.bind_eq_some_iff.mp pivotLoaded with
            ⟨pivot, isPivot, isNode⟩
          exact ⟨current, pivot, pivotNode, loaded, isPivot, isNode⟩

/-- What is unsettled before a round lets the round be safe. -/
theorem Unsettled.roundSafe {size index : Nat}
    {cells : List (Cell Key Value)} {state : RBTree Key Value × Pointer}
    (unsettled : Unsettled size cells index state) : RoundSafe state := by
  have delivered := fixRound_delivers index state unsettled
  rcases state with ⟨tree, node⟩
  rcases unsettled with
    ⟨trail, focus, height, rfl, rfl, laid, balanced, fits, sameCells⟩
  rcases balanced.exists_join_of_red .left with ⟨near, cell, far, rfl, _, _⟩
  have loaded := RBTree.load_eq laid.present
  rw [rootPointer_join] at delivered ⊢
  constructor
  case node => exact ⟨_, loaded⟩
  case grandparent =>
    intro node parent isNode isParent isRed
    rw [loaded, Option.some.injEq] at isNode
    subst isNode
    rw [nodeOf_parent] at isParent
    cases trail with
    | nil => cases isParent
    | cons step rest =>
        rw [abovePointer, RBTree.load_eq laid.above_present,
          Option.some.injEq] at isParent
        subst isParent
        rcases step with ⟨parentSide, parentColor, above, sibling⟩
        rw [nodeOf_color] at isRed
        cases isRed
        rcases fits.exists_grandparent with
          ⟨_, side, grandparent, uncle, uncleColor, rest, rfl, _⟩
        rw [nodeOf_parent]
        exact ⟨_, RBTree.load_eq laid.up.above_present⟩
  case succeeds =>
    generalize RBTree.fixRound (tree, some cell.address) = outcome at delivered
    cases delivered with
    | again => exact ⟨_, rfl⟩
    | leave => exact ⟨_, rfl⟩

section Runs

variable [LinearOrder Key]
variable {tree : RBTree Key Value}
variable {shape : Shape Key Value}

/-- Every round of an insertion into a sound tree is safe. -/
theorem Sound.roundSafe (sound : Sound tree shape) (key : Key)
    (value : Option Value) :
    ∀ state ∈ tree.insertRounds key value, RoundSafe state := by
  have fresh : tree.allocated ∉ addresses shape := fun member =>
    Nat.lt_irrefl _ (sound.laid.allocated tree.allocated member)
  have allocated : Sound (tree.allocate (RBTree.newNode key value)) shape :=
    { sound with laid := sound.laid.allocate _ }
  have present :
      (tree.allocate (RBTree.newNode key value)).nodes tree.allocated = some
        (nodeOf .left .red none ⟨tree.allocated, key, value⟩ none none) :=
    RBTree.nodes_put_self
  intro state member
  rcases descend_spec allocated.laid allocated.sorted key with
    ⟨place, descended, located⟩
  rw [RBTree.insertRounds, descended] at member
  cases located with
  | found trail color left right cell whole sameKey =>
      exact absurd member List.not_mem_nil
  | absent trail whole guided =>
      subst whole
      rcases allocated.attach guided present fresh (Nat.lt_succ_self _) with
        ⟨attached, height, hung, grown, leafBalanced, fits⟩
      simp only [hung] at member
      rcases FallibleLoop.exists_of_mem_trace fixRound_delivers
          ⟨trail, _, height, rfl, rfl, grown, leafBalanced, fits, rfl⟩
          member with
        ⟨index, unsettled⟩
      exact unsettled.roundSafe

/--
Insertions always succeed.  The child and parent links of the tree they lead
to agree, and the next insertion returns: its loops end and its rounds follow
no nil pointer.  The child a rotation moves up is there, since the rotation
fails without it.
-/
theorem insertions_safe (calls : List (Key × Option Value)) :
    (∃ tree, insertAll calls = some tree ∧ tree.LinksAgree ∧
        ∀ (key : Key) (value : Option Value),
          (∃ tree', tree.insert key value = some tree') ∧
            ∀ state ∈ tree.insertRounds key value, RoundSafe state) ∧
      ∀ (tree : RBTree Key Value) (side : Side) (node : Pointer),
        ¬ tree.HasPivot side node → tree.rotate side node = none := by
  rcases insertAll_sound calls with ⟨tree, shape, inserted, sound, _⟩
  refine
    ⟨⟨tree, inserted, sound.laid.linksAgree, fun key value => ⟨?_, ?_⟩⟩, ?_⟩
  · rcases sound.insert key value with ⟨tree', _, executed, _⟩
    exact ⟨tree', executed⟩
  · exact sound.roundSafe key value
  · intro tree side node noPivot
    rw [Option.eq_none_iff_forall_ne_some]
    intro tree' rotated
    exact noPivot (RBTree.hasPivot_of_rotate rotated)

end Runs

end AeroRisk.Rbtree
