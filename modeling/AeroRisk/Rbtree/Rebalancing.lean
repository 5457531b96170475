import Mathlib.Data.List.Perm.Subperm
import AeroRisk.Rbtree.Rotation

/-!
# Rebalancing after an insertion

The loop of `fixInsert` keeps one possible violation in the tree: the root of
the focus is red, and its parent may be red as well.  A round either moves the
violation two steps up the trail or removes it by one or two rotations.
-/

namespace AeroRisk.Rbtree

open AeroRisk.Library
open AeroRisk.Library.RedBlackTree
open AeroRisk.Library.RedBlackTree.Tree

variable {Key Value : Type}
variable {tree : RBTree Key Value}
variable {size : Nat}
variable {trail above : Trail Key Value}
variable {focus near far sibling uncle : Shape Key Value}
variable {side parentSide : Side}
variable {color : Color}
variable {cell parent grandparent : Cell Key Value}
variable {height : Nat}

/-! ## Reading around the focus -/

theorem left_nodeOf_left (nearRoot farRoot below : Pointer) :
    (nodeOf .left color nearRoot cell farRoot below).left = nearRoot :=
  rfl

theorem left_nodeOf_right (nearRoot farRoot below : Pointer) :
    (nodeOf .right color nearRoot cell farRoot below).left = farRoot :=
  rfl

theorem isRed_of_holds {below : Pointer}
    (held : Holds tree.nodes below focus) :
    tree.isRed (rootPointer focus) = some (focus.rootColor == .red) := by
  cases focus with
  | nil => rfl
  | node color left cell right => simp [RBTree.isRed, rootPointer, held.1,
      rootColor]

theorem Laid.above_isRed {step : Step (Cell Key Value)}
    (laid : Laid tree size (step :: trail) focus) :
    tree.isRed (some step.entry.address) = some (step.color == .red) := by
  simp [RBTree.isRed, laid.above_present]

/-- The sibling of the focus is another node. -/
theorem Laid.siblingRoot_ne {step : Step (Cell Key Value)}
    {address : Address}
    (laid : Laid tree size (step :: trail) focus)
    (isRoot : rootPointer focus = some address) :
    some address ≠ rootPointer step.sibling := by
  intro isSibling
  exact laid.apart.2 address (mem_of_rootPointer isRoot)
    (onTrail_cons.2 (.inr (.inl (mem_of_rootPointer isSibling.symm))))

/-- The other child of a node comes into focus. -/
theorem Laid.across
    (laid : Laid tree size (⟨side, color, cell, sibling⟩ :: trail) focus) :
    Laid tree size (⟨side.opposite, color, cell, focus⟩ :: trail)
      sibling := by
  have closed := laid.up
  rw [← join_opposite] at closed
  exact closed.down

/-! ## The three cases -/

/-- A red uncle moves the violation to the grandparent. -/
theorem Laid.recolor
    (laid : Laid tree size
      (⟨parentSide, .red, parent, sibling⟩ ::
        ⟨side, .black, grandparent, uncle⟩ :: above) focus)
    (uncleRed : uncle.rootColor = .red) :
    ∃ tree',
      tree.recolor (some parent.address) (rootPointer uncle)
          (some grandparent.address) = some tree' ∧
        Laid tree' size above
          (join side .red (join parentSide .black focus parent sibling)
            grandparent uncle.blacken) := by
  cases uncle with
  | nil => cases uncleRed
  | node uncleColor left uncleCell right =>
      rcases laid.up.store_setColor .black with
        ⟨first, parentPainted, firstLaid⟩
      have atUncle : Laid first size _
          (join .left uncleColor left uncleCell right) := firstLaid.across
      rcases atUncle.store_setColor .black with
        ⟨second, unclePainted, secondLaid⟩
      have atParent := secondLaid.across
      rw [Side.opposite_opposite] at atParent
      rcases atParent.up.store_setColor .red with
        ⟨third, grandparentPainted, thirdLaid⟩
      refine ⟨third, ?_, thirdLaid⟩
      simp only [rootPointer, RBTree.recolor, parentPainted, unclePainted,
        grandparentPainted, Option.bind_eq_bind, Option.bind_some]

/--
After straightening the focus is an outer child.  The order of the entries and
the balance are as before.
-/
theorem Laid.straighten
    (laid : Laid tree size (⟨parentSide, .red, parent, sibling⟩ :: above)
      focus)
    (balanced : Balanced focus .red height)
    (siblingBalanced : Balanced sibling .black height)
    (side : Side) :
    ∃ tree' focus' parent' sibling',
      tree.straighten side (rootPointer focus) =
          some (tree', rootPointer focus') ∧
        Laid tree' size (⟨side, .red, parent', sibling'⟩ :: above) focus' ∧
        Balanced focus' .red height ∧
        Balanced sibling' .black height ∧
        (join side .red focus' parent' sibling').inorder =
          (join parentSide .red focus parent sibling).inorder := by
  rcases balanced.exists_join_of_red side with
    ⟨near, cell, far, rfl, nearBalanced, farBalanced⟩
  by_cases sameSide : side = parentSide
  · -- an outer child stays where it is
    subst sameSide
    have notInner := laid.siblingRoot_ne (rootPointer_join _ _ _ _ _)
    refine ⟨tree, join side .red near cell far, parent, sibling, ?_, laid,
      balanced, siblingBalanced, rfl⟩
    simp [RBTree.straighten, RBTree.load_eq laid.present, abovePointer,
      RBTree.load_eq laid.above_present, notInner]
  · have isOpposite : parentSide = side.opposite :=
      Side.eq_opposite_of_ne (Ne.symm sameSide)
    subst isOpposite
    have atParent := laid.up
    rw [join_opposite] at atParent
    rcases atParent.rotate with ⟨tree', rotated, turned⟩
    refine ⟨tree', join side .red sibling parent near, cell, far, ?_,
      turned.down, siblingBalanced.joinRed side nearBalanced, farBalanced,
      ?_⟩
    · have abovePresent := laid.above_present
      rw [nodeOf_opposite] at abovePresent
      simp [RBTree.straighten, RBTree.load_eq laid.present, abovePointer,
        RBTree.load_eq abovePresent, rotated]
    · rw [join_opposite]
      exact (inorder_rotate side _ _ _ _ _ _ _ _ _).symm

/-- An outer child below a black uncle ends the violation. -/
theorem Laid.rotateGrandparent
    (laid : Laid tree size
      (⟨side, .red, parent, sibling⟩ ::
        ⟨side, .black, grandparent, uncle⟩ :: above)
      (join parentSide .red near cell far)) :
    ∃ tree',
      tree.rotateGrandparent side (some cell.address) = some tree' ∧
        Laid tree' size
          (⟨side, .black, parent,
            join side .red sibling grandparent uncle⟩ :: above)
          (join parentSide .red near cell far) := by
  rcases laid.up.store_setColor .black with
    ⟨first, parentPainted, firstLaid⟩
  rcases firstLaid.up.store_setColor .red with
    ⟨second, grandparentPainted, secondLaid⟩
  rw [← join_opposite side .red, ← join_opposite side .black] at secondLaid
  rcases secondLaid.rotate with ⟨third, rotated, thirdLaid⟩
  rw [join_opposite, join_opposite] at thirdLaid
  refine ⟨third, ?_, thirdLaid.down⟩
  simp [RBTree.rotateGrandparent, RBTree.load_eq laid.present, abovePointer,
    parentPainted, RBTree.load_eq firstLaid.present, grandparentPainted,
    rotated]

/-! ## The loop -/

/--
Before a round of the loop the focus is red, and the tree would be balanced if
it were black.  The index bounds the number of rounds to come.
-/
def Unsettled (size : Nat) (cells : List (Cell Key Value)) (index : Nat)
    (state : RBTree Key Value × Pointer) : Prop :=
  ∃ trail focus height,
    index = trail.length ∧
      state.2 = rootPointer focus ∧
      Laid state.1 size trail focus ∧
      Balanced focus .red height ∧
      Fits trail .black height ∧
      (plug trail focus).inorder = cells

/-- After the loop the tree is balanced but for the colour of its root. -/
def Settled (size : Nat) (cells : List (Cell Key Value))
    (tree : RBTree Key Value) : Prop :=
  ∃ shape height,
    Laid tree size [] shape ∧
      Balanced shape.blacken .black height ∧
      shape.inorder = cells

/-- A round below a red parent shortens the trail. -/
theorem fixSide_spec {cells : List (Cell Key Value)}
    {uncleColor : Color}
    (laid : Laid tree size
      (⟨parentSide, .red, parent, sibling⟩ ::
        ⟨side, .black, grandparent, uncle⟩ :: above) focus)
    (balanced : Balanced focus .red height)
    (siblingBalanced : Balanced sibling .black height)
    (uncleBalanced : Balanced uncle uncleColor height)
    (fits : Fits above .black (height + 1))
    (sameCells :
      (join side .black (join parentSide .red focus parent sibling)
        grandparent uncle |> plug above).inorder = cells) :
    ∃ state index,
      tree.fixSide side (rootPointer focus) = some state ∧
        Unsettled size cells index state ∧ index < above.length + 2 := by
  rcases balanced.exists_join_of_red .left with
    ⟨near, cell, far, rfl, _, _⟩
  have uncleRead := isRed_of_holds laid.up.across.focusHeld
  have abovePresent := laid.above_present
  have grandparentPresent := laid.up.above_present
  rw [rootPointer_join] at abovePresent grandparentPresent
  have uncleColored := uncleBalanced.rootColor_eq
  cases uncleColor with
  | red =>
      rcases laid.recolor uncleColored with ⟨tree', recolored, raised⟩
      refine ⟨(tree', some grandparent.address), above.length, ?_,
        ⟨above, _, _, rfl, (rootPointer_join _ _ _ _ _).symm, raised, ?_,
          fits, ?_⟩, by omega⟩
      · simp [RBTree.fixSide, RBTree.load_eq laid.present, abovePointer,
          RBTree.load_eq abovePresent, RBTree.load_eq grandparentPresent,
          uncleRead, uncleColored, recolored]
      · exact (balanced.joinBlack parentSide siblingBalanced).joinRed side
          uncleBalanced.blacken_of_red
      · rw [← sameCells]
        apply inorder_plug_congr
        apply inorder_join_congr
        · exact inorder_join_congr _ _ _ _ rfl rfl
        · exact inorder_blacken uncle
  | black =>
      rcases laid.straighten balanced siblingBalanced side with
        ⟨tree', focus', parent', sibling', straightened, outward,
          balanced', siblingBalanced', sameFocus⟩
      rcases balanced'.exists_join_of_red .left with
        ⟨near', cell', far', rfl, _, _⟩
      rcases outward.rotateGrandparent with ⟨tree'', rotated, lifted⟩
      rw [rootPointer_join, rootPointer_join] at straightened
      refine ⟨(tree'', some cell'.address), above.length + 1, ?_,
        ⟨_, _, _, rfl, (rootPointer_join _ _ _ _ _).symm, lifted,
          balanced', .black (siblingBalanced'.joinRed side uncleBalanced)
            fits, ?_⟩, by omega⟩
      · simp [RBTree.fixSide, RBTree.load_eq laid.present, abovePointer,
          RBTree.load_eq abovePresent, RBTree.load_eq grandparentPresent,
          uncleRead, uncleColored, straightened, rotated]
      · rw [← sameCells]
        exact inorder_plug_congr above <| calc
          (join side .black (join .left .red near' cell' far') parent'
              (join side .red sibling' grandparent uncle)).inorder =
              (join side .black
                (join side .red (join .left .red near' cell' far') parent'
                  sibling') grandparent uncle).inorder :=
            inorder_rotate side _ _ _ _ _ _ _ _ _
          _ = (join side .black
                (join parentSide .red (join .left .red near cell far)
                  parent sibling) grandparent uncle).inorder :=
            inorder_join_congr _ _ _ _ sameFocus rfl

/-- The loop ends where the parent is not red. -/
theorem fixRound_of_not_red
    (laid : Laid tree size trail (join side color near cell far))
    (notRed : tree.isRed (abovePointer trail) = some false) :
    RBTree.fixRound (tree, some cell.address) = some (.inr tree) := by
  simp [RBTree.fixRound, RBTree.load_eq laid.present, notRed]

/-- Below a red parent the loop works on the side of the grandparent. -/
theorem fixRound_of_red
    (laid : Laid tree size
      (⟨parentSide, .red, parent, sibling⟩ ::
        ⟨side, .black, grandparent, uncle⟩ :: above)
      (join .left color near cell far)) :
    RBTree.fixRound (tree, some cell.address) =
      (tree.fixSide side (some cell.address)).map .inl := by
  have parentRead : tree.isRed (some parent.address) = some true :=
    laid.above_isRed
  have abovePresent :
      tree.nodes parent.address = some
        (nodeOf parentSide .red (some cell.address) parent
          (rootPointer sibling) (some grandparent.address)) := by
    simpa [abovePointer] using laid.above_present
  have grandparentPresent :
      tree.nodes grandparent.address = some
        (nodeOf side .black (some parent.address) grandparent
          (rootPointer uncle) (abovePointer above)) := by
    simpa using laid.up.above_present
  have notUncle : some parent.address ≠ rootPointer uncle :=
    laid.up.siblingRoot_ne (rootPointer_join _ _ _ _ _)
  cases side with
  | left =>
      simp [RBTree.fixRound, RBTree.load_eq laid.present, abovePointer,
        RBTree.load_eq abovePresent, parentRead,
        RBTree.load_eq grandparentPresent, left_nodeOf_left]
  | right =>
      simp [RBTree.fixRound, RBTree.load_eq laid.present, abovePointer,
        RBTree.load_eq abovePresent, parentRead,
        RBTree.load_eq grandparentPresent, left_nodeOf_right, notUncle]

/-- A round of the loop settles the tree or leaves less to settle. -/
theorem fixRound_delivers {cells : List (Cell Key Value)}
    (index : Nat)
    (state : RBTree Key Value × Pointer)
    (unsettled : Unsettled size cells index state) :
    FallibleLoop.Delivers (Unsettled size cells) (Settled size cells) index
      (RBTree.fixRound state) := by
  rcases state with ⟨tree, node⟩
  rcases unsettled with
    ⟨trail, focus, height, rfl, rfl, laid, balanced, fits, sameCells⟩
  rcases balanced.exists_join_of_red .left with
    ⟨near, cell, far, rfl, _, _⟩
  rw [rootPointer_join]
  cases trail with
  | nil =>
      rw [fixRound_of_not_red laid rfl]
      exact .leave ⟨_, _, laid, balanced.blacken_of_red, sameCells⟩
  | cons step rest =>
      rcases step with ⟨parentSide, parentColor, parent, sibling⟩
      cases parentColor with
      | red =>
          rcases fits.exists_grandparent with
            ⟨siblingBalanced, side, grandparent, uncle, uncleColor, above,
              rfl, uncleBalanced, aboveFits⟩
          rcases fixSide_spec laid balanced siblingBalanced uncleBalanced
              aboveFits sameCells with ⟨following, smaller, fixed, kept, less⟩
          rw [rootPointer_join] at fixed
          rw [fixRound_of_red laid, fixed]
          exact .again less kept
      | black =>
          rcases (fits.recolor .red).balanced_plug balanced with
            ⟨_, wholeBalanced⟩
          rcases wholeBalanced.blacken with ⟨_, blackened⟩
          rw [fixRound_of_not_red laid laid.above_isRed]
          exact .leave ⟨_, _, laid_plug.1 laid, blackened, sameCells⟩

/-! ## The bound of the loops -/

/-- A tree has no more nodes than have been allocated. -/
theorem Laid.length_le (laid : Laid tree size trail focus) :
    (plug trail focus).inorder.length ≤ tree.allocated := by
  have included :
      addresses (plug trail focus) ⊆ List.range tree.allocated :=
    fun address member => List.mem_range.2 (laid.allocated address member)
  have counted := (List.subperm_of_subset laid.distinct included).length_le
  rwa [addresses, List.length_map, List.length_range] at counted

theorem length_le_plug (trail : Trail Key Value) (focus : Shape Key Value) :
    trail.length + focus.inorder.length ≤
      (plug trail focus).inorder.length := by
  induction trail generalizing focus with
  | nil => simp [plug]
  | cons step rest inductionHypothesis =>
      have closed := inductionHypothesis (step.close focus)
      have grows : focus.inorder.length + 1 ≤
          (step.close focus).inorder.length := by
        rcases step with ⟨_ | _, _, _, _⟩ <;>
          simp only [Step.close, join, inorder, List.length_append,
            List.length_cons] <;>
          omega
      rw [plug, List.length_cons]
      omega

/-- `fixInsert` restores the balance and keeps the entries. -/
theorem Laid.fixInsert
    (laid : Laid tree size trail focus)
    (balanced : Balanced focus .red height)
    (fits : Fits trail .black height) :
    ∃ tree' shape height',
      tree.fixInsert (rootPointer focus) = some tree' ∧
        Laid tree' size [] shape ∧
        Balanced shape .black height' ∧
        shape.inorder = (plug trail focus).inorder := by
  have enough : trail.length < tree.allocated + 1 := by
    have whole := laid.length_le
    have parts := length_le_plug trail focus
    omega
  have unsettled :
      Unsettled size (plug trail focus).inorder trail.length
        (tree, rootPointer focus) :=
    ⟨trail, focus, height, rfl, rfl, laid, balanced, fits, rfl⟩
  rcases FallibleLoop.run_delivers fixRound_delivers unsettled enough with
    ⟨settled, executed, shape, _, settledLaid, blackened, sameCells⟩
  cases shape with
  | nil =>
      refine ⟨settled, .nil, _, ?_, settledLaid, blackened, sameCells⟩
      have noRoot : settled.root = none := settledLaid.trailHeld
      simp [RBTree.fixInsert, executed, noRoot]
  | node color left cell right =>
      have atRoot : Laid settled size [] (join .left color left cell right) :=
        settledLaid
      rcases atRoot.store_setColor .black with ⟨painted, stored, paintedLaid⟩
      refine ⟨painted, _, _, ?_, paintedLaid, blackened, sameCells⟩
      have isRoot : settled.root = some cell.address :=
        settledLaid.trailHeld
      simp [RBTree.fixInsert, executed, isRoot, stored]

end AeroRisk.Rbtree
