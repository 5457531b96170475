import AeroRisk.Rbtree.Layout

/-!
# Rotations in the heap

A rotation at the root of the focus turns the shape there and leaves the trail
and the rest of the heap as they are, whatever the side and whatever lies above.
-/

namespace AeroRisk.Rbtree

open AeroRisk.Library.RedBlackTree
open AeroRisk.Library.RedBlackTree.Tree (inorder join inorder_rotate)

variable {Key Value : Type}
variable {tree : RBTree Key Value}
variable {size : Nat}
variable {trail : Trail Key Value}

/-! ## What a change leaves alone -/

/-- Only touched addresses of the heap change. -/
structure Outside (touched : Address → Prop)
    (tree tree' : RBTree Key Value) : Prop where
  nodes :
    ∀ address, ¬ touched address →
      tree'.nodes address = tree.nodes address
  size : tree'.size = tree.size
  allocated : tree'.allocated = tree.allocated

namespace Outside

variable {touched wider : Address → Prop}
variable {tree' tree'' : RBTree Key Value}
variable {parent hole root : Pointer}
variable {shape : Shape Key Value}

theorem refl (touched : Address → Prop) (tree : RBTree Key Value) :
    Outside touched tree tree where
  nodes := fun _ _ => rfl
  size := rfl
  allocated := rfl

theorem put (address : Address) (node : Node Key Value) :
    Outside (fun other => other = address) tree (tree.put address node) where
  nodes := fun _ different => RBTree.nodes_put_of_ne different
  size := rfl
  allocated := rfl

theorem weaken (outside : Outside touched tree tree')
    (included : ∀ address, touched address → wider address) :
    Outside wider tree tree' where
  nodes := fun address untouched =>
    outside.nodes address fun isTouched =>
      untouched (included address isTouched)
  size := outside.size
  allocated := outside.allocated

theorem trans (outside : Outside touched tree tree')
    (later : Outside touched tree' tree'') :
    Outside touched tree tree'' where
  nodes := fun address untouched =>
    (later.nodes address untouched).trans (outside.nodes address untouched)
  size := later.size.trans outside.size
  allocated := later.allocated.trans outside.allocated

/-- A shape without touched nodes is still held. -/
theorem holds (outside : Outside touched tree tree')
    (held : Holds tree.nodes parent shape)
    (untouched : ∀ address ∈ addresses shape, ¬ touched address) :
    Holds tree'.nodes parent shape :=
  held.congr fun address member =>
    outside.nodes address (untouched address member)

theorem holdsTrail (outside : Outside touched tree tree')
    (held : HoldsTrail tree.nodes root hole trail)
    (untouched : ∀ address, OnTrail address trail → ¬ touched address) :
    HoldsTrail tree'.nodes root hole trail :=
  held.congr fun address onTrail =>
    outside.nodes address (untouched address onTrail)

end Outside

/-- A write through a pointer changes the node it leads to. -/
theorem store_spec
    {address : Address}
    {node : Node Key Value}
    (present : tree.nodes address = some node)
    (change : Node Key Value → Node Key Value) :
    ∃ tree', tree.store (some address) change = some tree' ∧
      tree'.nodes address = some (change node) ∧
      tree'.root = tree.root ∧
      Outside (fun other => other = address) tree tree' :=
  ⟨_, RBTree.store_eq present change, RBTree.nodes_put_self,
    RBTree.root_put, .put _ _⟩

/-! ## The parts of a rotation -/

theorem mem_of_rootPointer {shape : Shape Key Value} {address : Address}
    (isRoot : rootPointer shape = some address) :
    address ∈ addresses shape := by
  cases shape with
  | nil => cases isRoot
  | node color left cell right =>
      cases isRoot
      simp [addresses, inorder]

/-- The nearest ancestor takes another child on the way. -/
theorem HoldsTrail.putAbove
    {focus : Shape Key Value}
    {step : Step (Cell Key Value)}
    {root hole : Pointer}
    (held : HoldsTrail tree.nodes root hole (step :: trail))
    (distinct : (addresses (plug (step :: trail) focus)).Nodup)
    (hole' : Pointer) :
    HoldsTrail
      (tree.put step.entry.address
        (nodeOf step.side step.color hole' step.entry
          (rootPointer step.sibling) (abovePointer trail))).nodes
      root hole' (step :: trail) := by
  rcases held with ⟨_, siblingHeld, restHeld⟩
  rcases @nodup_of_plug _ _ _ trail distinct with ⟨closed, offTrail⟩
  rcases nodup_addresses_join.1 closed with ⟨_, notSibling, _⟩
  have entryOffTrail := offTrail step.entry.address
    root_mem_addresses
  have onlyEntry := @Outside.put _ _ tree step.entry.address
    (nodeOf step.side step.color hole' step.entry
      (rootPointer step.sibling) (abovePointer trail))
  refine ⟨RBTree.nodes_put_self, ?_, ?_⟩
  · exact onlyEntry.holds siblingHeld fun other member =>
      ne_of_mem_of_not_mem member notSibling
  · refine onlyEntry.holdsTrail restHeld fun other onRest same => ?_
    exact entryOffTrail (same ▸ onRest)

/-- The child which changes its parent is held below the new one. -/
theorem adopt_spec
    {inner : Shape Key Value}
    {parent : Pointer}
    (held : Holds tree.nodes parent inner)
    (distinct : (addresses inner).Nodup)
    (node : Pointer) :
    ∃ tree', tree.adopt (rootPointer inner) node = some tree' ∧
      Holds tree'.nodes node inner ∧
      tree'.root = tree.root ∧
      Outside (· ∈ addresses inner) tree tree' := by
  cases inner with
  | nil => exact ⟨tree, rfl, trivial, rfl, .refl _ _⟩
  | node color left cell right =>
      rcases held with ⟨present, leftHeld, rightHeld⟩
      rcases (@nodup_addresses_join _ _ .left _ _ _ _).1 distinct with
        ⟨notLeft, notRight, _⟩
      have onlyRoot := @Outside.put _ _ tree cell.address
        ((nodeOf .left color (rootPointer left) cell (rootPointer right)
          parent).setParent node)
      refine ⟨_, RBTree.store_eq present _, ⟨?_, ?_, ?_⟩, rfl, ?_⟩
      · rw [RBTree.nodes_put_self, nodeOf_setParent]
      · exact onlyRoot.holds leftHeld fun address member =>
          ne_of_mem_of_not_mem member notLeft
      · exact onlyRoot.holds rightHeld fun address member =>
          ne_of_mem_of_not_mem member notRight
      · exact onlyRoot.weaken fun address isRoot =>
          isRoot ▸ mem_of_rootPointer rfl

/-- The hole of the trail takes the pivot in place of the rotated node. -/
theorem relink_spec
    {focus : Shape Key Value}
    {address : Address}
    {node : Node Key Value}
    (distinct : (addresses (plug trail focus)).Nodup)
    (isRoot : rootPointer focus = some address)
    (present : tree.nodes address = some node)
    (isAbove : node.parent = abovePointer trail)
    (held : HoldsTrail tree.nodes tree.root (some address) trail)
    (side : Side)
    (pivot : Pointer) :
    ∃ tree', tree.relink side (some address) pivot = some tree' ∧
      HoldsTrail tree'.nodes tree'.root pivot trail ∧
      Outside (OnTrail · trail) tree tree' := by
  cases trail with
  | nil =>
      refine ⟨{ tree with root := pivot }, ?_, rfl, fun _ _ => rfl, rfl, rfl⟩
      simp [RBTree.relink, RBTree.load_eq present, isAbove, abovePointer]
  | cons step rest =>
      have abovePresent := held.1
      rcases @nodup_of_plug _ _ _ rest distinct with ⟨closed, _⟩
      rcases nodup_addresses_join.1 closed with ⟨_, _, _, _, disjoint⟩
      have notSiblingRoot :
          some address ≠ rootPointer step.sibling := fun isSibling =>
        disjoint (mem_of_rootPointer isRoot)
          (mem_of_rootPointer isSibling.symm)
      have relinked :
          tree.relink side (some address) pivot =
            some (tree.put step.entry.address
              (nodeOf step.side step.color pivot step.entry
                (rootPointer step.sibling) (abovePointer rest))) := by
        by_cases sameSide : side = step.side
        · subst sameSide
          simp [RBTree.relink, RBTree.load_eq present, isAbove, abovePointer,
            RBTree.load_eq abovePresent, RBTree.store_eq abovePresent]
        · have isOpposite := Side.eq_opposite_of_ne sameSide
          subst isOpposite
          simp [RBTree.relink, RBTree.load_eq present, isAbove, abovePointer,
            RBTree.load_eq abovePresent, RBTree.store_eq abovePresent,
            notSiblingRoot]
      refine ⟨_, relinked, held.putAbove distinct pivot, ?_⟩
      exact (Outside.put _ _).weaken fun other same =>
        onTrail_cons.2 (.inl same)

/-! ## The whole rotation -/

section Rotate

variable {side : Side}
variable {color color' : Color}
variable {outer inner rest : Shape Key Value}
variable {cell pivot : Cell Key Value}

/-- The addresses that a rotation may write to. -/
def Turned (cell pivot : Cell Key Value) (inner : Shape Key Value)
    (trail : Trail Key Value) (address : Address) : Prop :=
  address = cell.address ∨ address = pivot.address ∨
    address ∈ addresses inner ∨ OnTrail address trail

/-- The nodes which a rotation links anew are apart from each other. -/
structure TurnsApart (cell pivot : Cell Key Value)
    (inner : Shape Key Value) (trail : Trail Key Value) : Prop where
  pivot_ne : pivot.address ≠ cell.address
  cell_inner : cell.address ∉ addresses inner
  pivot_inner : pivot.address ∉ addresses inner
  inner_nodup : (addresses inner).Nodup
  cell_trail : ¬ OnTrail cell.address trail
  pivot_trail : ¬ OnTrail pivot.address trail
  inner_trail : ∀ address ∈ addresses inner, ¬ OnTrail address trail

theorem Laid.turnsApart
    (laid : Laid tree size trail
      (join side color outer cell (join side color' inner pivot rest))) :
    TurnsApart cell pivot inner trail := by
  rcases laid.apart with ⟨focusDistinct, offTrail⟩
  rcases nodup_addresses_join.1 focusDistinct with
    ⟨_, notFar, _, farDistinct, _⟩
  rcases nodup_addresses_join.1 farDistinct with
    ⟨pivotNotInner, _, innerDistinct, _⟩
  have farOffTrail := fun address member =>
    offTrail address (far_mem_addresses member)
  exact {
    pivot_ne := fun same =>
      notFar (same ▸ root_mem_addresses)
    cell_inner := fun member => notFar (near_mem_addresses member)
    pivot_inner := pivotNotInner
    inner_nodup := innerDistinct
    cell_trail := offTrail _ root_mem_addresses
    pivot_trail := farOffTrail _ root_mem_addresses
    inner_trail := fun address member =>
      farOffTrail address (near_mem_addresses member)
  }

/-- The heap after the pivot has been raised. -/
theorem raisePivot_spec {outerRoot restRoot : Pointer}
    (apart : TurnsApart cell pivot inner trail)
    (nodePresent :
      tree.nodes cell.address = some
        (nodeOf side color outerRoot cell (some pivot.address)
          (abovePointer trail)))
    (pivotPresent :
      tree.nodes pivot.address = some
        (nodeOf side color' (rootPointer inner) pivot restRoot
          (some cell.address)))
    (innerHeld : Holds tree.nodes (some pivot.address) inner) :
    ∃ tree',
      tree.raisePivot side (some cell.address) (some pivot.address) =
          some tree' ∧
        tree'.nodes pivot.address = some
          (nodeOf side color' (rootPointer inner) pivot restRoot
            (abovePointer trail)) ∧
        tree'.nodes cell.address = some
          (nodeOf side color outerRoot cell (rootPointer inner)
            (abovePointer trail)) ∧
        Holds tree'.nodes (some cell.address) inner ∧
        tree'.root = tree.root ∧
        Outside (fun address => address = cell.address ∨
          address = pivot.address ∨ address ∈ addresses inner) tree tree' := by
  rcases store_spec nodePresent
      (·.setChild (rootPointer inner) side.opposite) with
    ⟨movedTree, moved, cellMoved, movedRoot, movedOutside⟩
  rw [nodeOf_setChild_opposite] at cellMoved
  have pivotMoved :=
    (movedOutside.nodes _ apart.pivot_ne).trans pivotPresent
  have innerMoved := movedOutside.holds innerHeld fun address member =>
    ne_of_mem_of_not_mem member apart.cell_inner
  rcases adopt_spec innerMoved apart.inner_nodup (some cell.address) with
    ⟨adoptedTree, adopted, innerAdopted, adoptedRoot, adoptedOutside⟩
  have cellAdopted :=
    (adoptedOutside.nodes _ apart.cell_inner).trans cellMoved
  have pivotAdopted :=
    (adoptedOutside.nodes _ apart.pivot_inner).trans pivotMoved
  rcases store_spec pivotAdopted (·.setParent (abovePointer trail)) with
    ⟨raisedTree, raised, pivotRaised, raisedRoot, raisedOutside⟩
  rw [nodeOf_setParent] at pivotRaised
  refine ⟨raisedTree, ?_, pivotRaised, ?_, ?_, ?_, ?_⟩
  · simp [RBTree.raisePivot, RBTree.load_eq pivotPresent, moved,
      RBTree.load_eq pivotMoved, adopted, RBTree.load_eq cellAdopted, raised]
  · exact (raisedOutside.nodes _ apart.pivot_ne.symm).trans cellAdopted
  · exact raisedOutside.holds innerAdopted fun address member =>
      ne_of_mem_of_not_mem member apart.pivot_inner
  · rw [raisedRoot, adoptedRoot, movedRoot]
  · apply (movedOutside.weaken fun _ => .inl).trans
    apply (adoptedOutside.weaken fun _ member => .inr (.inr member)).trans
    exact raisedOutside.weaken fun _ same => .inr (.inl same)

/-- The heap after a rotation. -/
theorem rotate_spec {outerRoot restRoot : Pointer}
    (apart : TurnsApart cell pivot inner trail)
    (nodePresent :
      tree.nodes cell.address = some
        (nodeOf side color outerRoot cell (some pivot.address)
          (abovePointer trail)))
    (pivotPresent :
      tree.nodes pivot.address = some
        (nodeOf side color' (rootPointer inner) pivot restRoot
          (some cell.address)))
    (innerHeld : Holds tree.nodes (some pivot.address) inner)
    {focus : Shape Key Value}
    (distinct : (addresses (plug trail focus)).Nodup)
    (isRoot : rootPointer focus = some cell.address)
    (trailHeld :
      HoldsTrail tree.nodes tree.root (some cell.address) trail) :
    ∃ tree', tree.rotate side (some cell.address) = some tree' ∧
      tree'.nodes pivot.address = some
        (nodeOf side color' (some cell.address) pivot restRoot
          (abovePointer trail)) ∧
      tree'.nodes cell.address = some
        (nodeOf side color outerRoot cell (rootPointer inner)
          (some pivot.address)) ∧
      Holds tree'.nodes (some cell.address) inner ∧
      HoldsTrail tree'.nodes tree'.root (some pivot.address) trail ∧
      Outside (Turned cell pivot inner trail) tree tree' := by
  rcases raisePivot_spec apart nodePresent pivotPresent innerHeld with
    ⟨raisedTree, raised, pivotRaised, cellRaised, innerRaised, raisedRoot,
      raisedOutside⟩
  have trailRaised :
      HoldsTrail raisedTree.nodes raisedTree.root (some cell.address)
        trail := by
    rw [raisedRoot]
    refine raisedOutside.holdsTrail trailHeld
      fun address onTrail touched => ?_
    rcases touched with rfl | rfl | member
    · exact apart.cell_trail onTrail
    · exact apart.pivot_trail onTrail
    · exact apart.inner_trail address member onTrail
  rcases relink_spec distinct isRoot cellRaised
      (nodeOf_parent _ _ _ _ _ _) trailRaised side (some pivot.address) with
    ⟨relinkedTree, relinked, trailRelinked, relinkedOutside⟩
  -- the node goes below the pivot, which has its place by now
  have cellRelinked :=
    (relinkedOutside.nodes _ apart.cell_trail).trans cellRaised
  have pivotRelinked :=
    (relinkedOutside.nodes _ apart.pivot_trail).trans pivotRaised
  have innerRelinked :=
    relinkedOutside.holds innerRaised apart.inner_trail
  rcases store_spec pivotRelinked
      (·.setChild (some cell.address) side) with
    ⟨hungTree, hung, pivotHung, hungRoot, hungOutside⟩
  rw [nodeOf_setChild] at pivotHung
  have cellHung :=
    (hungOutside.nodes _ apart.pivot_ne.symm).trans cellRelinked
  rcases store_spec cellHung (·.setParent (some pivot.address)) with
    ⟨loweredTree, lowered, cellLowered, loweredRoot, loweredOutside⟩
  rw [nodeOf_setParent] at cellLowered
  have afterRelink :
      Outside (fun address =>
          address = cell.address ∨ address = pivot.address)
        relinkedTree loweredTree :=
    (hungOutside.weaken fun _ => .inr).trans
      (loweredOutside.weaken fun _ => .inl)
  refine ⟨loweredTree, ?_, ?_, cellLowered, ?_, ?_, ?_⟩
  · simp [RBTree.rotate, RBTree.load_eq nodePresent, raised, relinked, hung,
      lowered]
  · exact (loweredOutside.nodes _ apart.pivot_ne).trans pivotHung
  · refine afterRelink.holds innerRelinked fun address member touched => ?_
    rcases touched with rfl | rfl
    · exact apart.cell_inner member
    · exact apart.pivot_inner member
  · rw [loweredRoot, hungRoot]
    refine afterRelink.holdsTrail trailRelinked
      fun address onTrail touched => ?_
    rcases touched with rfl | rfl
    · exact apart.cell_trail onTrail
    · exact apart.pivot_trail onTrail
  · apply (raisedOutside.weaken fun _ => Or.imp_right (Or.imp_right .inl)).trans
    apply (relinkedOutside.weaken fun _ onTrail =>
      .inr (.inr (.inr onTrail))).trans
    exact afterRelink.weaken fun _ => Or.imp_right .inl

/-- A rotation turns the focus and leaves the rest of the tree in place. -/
theorem Laid.rotate
    (laid : Laid tree size trail
      (join side color outer cell (join side color' inner pivot rest))) :
    ∃ tree', tree.rotate side (some cell.address) = some tree' ∧
      Laid tree' size trail
        (join side color' (join side color outer cell inner) pivot rest) := by
  have apart := laid.turnsApart
  rcases holds_join.1 laid.focusHeld with ⟨nodePresent, outerHeld, farHeld⟩
  rcases holds_join.1 farHeld with ⟨pivotPresent, innerHeld, restHeld⟩
  rw [rootPointer_join] at nodePresent
  have trailHeld := laid.trailHeld
  rw [rootPointer_join] at trailHeld
  rcases rotate_spec apart nodePresent pivotPresent innerHeld laid.distinct
      (rootPointer_join _ _ _ _ _) trailHeld with
    ⟨tree', executed, pivotTurned, cellTurned, innerTurned, trailTurned,
      outside⟩
  rcases laid.apart with ⟨focusDistinct, offTrail⟩
  rcases nodup_addresses_join.1 focusDistinct with
    ⟨notOuter, notFar, _, farDistinct, disjoint⟩
  rcases nodup_addresses_join.1 farDistinct with
    ⟨_, pivotNotRest, _, _, innerDisjoint⟩
  refine ⟨tree', executed, laid.refocus ?_ ?_ ?_ outside.allocated
    outside.size⟩
  · refine holds_join.2 ⟨?_, holds_join.2 ⟨cellTurned, ?_, innerTurned⟩, ?_⟩
    · rwa [rootPointer_join]
    · refine outside.holds outerHeld fun address member touched => ?_
      rcases touched with rfl | rfl | inInner | onTrail
      · exact notOuter member
      · exact disjoint member root_mem_addresses
      · exact disjoint member (near_mem_addresses inInner)
      · exact offTrail _ (near_mem_addresses member) onTrail
    · refine outside.holds restHeld fun address member touched => ?_
      have inFar :
          address ∈ addresses (join side color' inner pivot rest) :=
        far_mem_addresses member
      rcases touched with rfl | rfl | inInner | onTrail
      · exact notFar inFar
      · exact pivotNotRest member
      · exact innerDisjoint inInner member
      · exact offTrail _ (far_mem_addresses inFar) onTrail
  · rwa [rootPointer_join]
  · rw [addresses, addresses]
    exact congrArg _ (inorder_rotate side _ _ _ _ _ _ _ _ _).symm

end Rotate

end AeroRisk.Rbtree
