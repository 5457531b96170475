import Mathlib.Data.List.Nodup
import Mathlib.Tactic.Tauto
import AeroRisk.Rbtree.Tree

/-!
# Trees in the heap

A shape is a red-black tree whose entries name the heap nodes it consists of.
The heap holds a shape if every node of it has the links and the colour which
its place in the shape demands.  A position of the shape splits it into a trail
of ancestors and a focus, and what the program changes at the root of the focus
leaves the rest in place.
-/

namespace AeroRisk.Rbtree

open AeroRisk.Library
open AeroRisk.Library.RedBlackTree
open AeroRisk.Library.RedBlackTree.Tree (join inorder mem_inorder_join)

variable {Key Value : Type}

/-- A node of the heap with the entry it carries. -/
structure Cell (Key Value : Type) where
  address : Address
  key : Key
  value : Option Value

abbrev Shape (Key Value : Type) :=
  RedBlackTree.Tree (Cell Key Value)

abbrev Trail (Key Value : Type) :=
  RedBlackTree.Path (Cell Key Value)

def rootPointer : Shape Key Value → Pointer
  | .nil => none
  | .node _ _ cell _ => some cell.address

/-- The parent of the focus. -/
def abovePointer : Trail Key Value → Pointer
  | [] => none
  | step :: _ => some step.entry.address

@[simp]
theorem rootPointer_join
    (side : Side)
    (color : Color)
    (near far : Shape Key Value)
    (cell : Cell Key Value) :
    rootPointer (join side color near cell far) = some cell.address := by
  cases side <;> rfl

/-! ## Nodes seen from a side -/

/-- The heap node of a cell whose child on the given side is `near`. -/
def nodeOf
    (side : Side)
    (color : Color)
    (near : Pointer)
    (cell : Cell Key Value)
    (far parent : Pointer) :
    Node Key Value :=
  match side with
  | .left =>
      { key := cell.key, value := cell.value, color := color,
        left := near, right := far, parent := parent }
  | .right =>
      { key := cell.key, value := cell.value, color := color,
        left := far, right := near, parent := parent }

section NodeOf

variable (side : Side) (color : Color) (near far parent : Pointer)
variable (cell : Cell Key Value)

theorem nodeOf_opposite :
    nodeOf side.opposite color near cell far parent =
      nodeOf side color far cell near parent := by
  cases side <;> rfl

@[simp]
theorem nodeOf_key :
    (nodeOf side color near cell far parent).key = cell.key := by
  cases side <;> rfl

@[simp]
theorem nodeOf_color :
    (nodeOf side color near cell far parent).color = color := by
  cases side <;> rfl

@[simp]
theorem nodeOf_parent :
    (nodeOf side color near cell far parent).parent = parent := by
  cases side <;> rfl

@[simp]
theorem nodeOf_child :
    (nodeOf side color near cell far parent).child side = near := by
  cases side <;> rfl

@[simp]
theorem nodeOf_child_opposite :
    (nodeOf side color near cell far parent).child side.opposite = far := by
  cases side <;> rfl

@[simp]
theorem nodeOf_setChild (pointer : Pointer) :
    (nodeOf side color near cell far parent).setChild pointer side =
      nodeOf side color pointer cell far parent := by
  cases side <;> rfl

@[simp]
theorem nodeOf_setChild_opposite (pointer : Pointer) :
    (nodeOf side color near cell far parent).setChild pointer
        side.opposite =
      nodeOf side color near cell pointer parent := by
  cases side <;> rfl

@[simp]
theorem nodeOf_setParent (pointer : Pointer) :
    (nodeOf side color near cell far parent).setParent pointer =
      nodeOf side color near cell far pointer := by
  cases side <;> rfl

@[simp]
theorem nodeOf_setColor (other : Color) :
    (nodeOf side color near cell far parent).setColor other =
      nodeOf side other near cell far parent := by
  cases side <;> rfl

@[simp]
theorem nodeOf_setValue (value : Option Value) :
    (nodeOf side color near cell far parent).setValue value =
      nodeOf side color near { cell with value := value } far parent := by
  cases side <;> rfl

end NodeOf

/-! ## Reading and writing the heap -/

namespace RBTree

variable {tree : RBTree Key Value}
variable {address : Address}
variable {node : Node Key Value}

@[simp]
theorem root_put : (tree.put address node).root = tree.root :=
  rfl

@[simp]
theorem nodes_put_self :
    (tree.put address node).nodes address = some node :=
  Function.update_self _ _ _

theorem nodes_put_of_ne {other : Address} (different : other ≠ address) :
    (tree.put address node).nodes other = tree.nodes other :=
  Function.update_of_ne different _ _

theorem load_eq (present : tree.nodes address = some node) :
    tree.load (some address) = some node :=
  present

theorem store_eq (present : tree.nodes address = some node)
    (change : Node Key Value → Node Key Value) :
    tree.store (some address) change =
      some (tree.put address (change node)) := by
  simp [store, present]

end RBTree

/-! ## Shapes in the heap -/

/-- The addresses of the nodes of a shape. -/
def addresses (shape : Shape Key Value) : List Address :=
  shape.inorder.map Cell.address

theorem mem_addresses_join
    {side : Side}
    {color : Color}
    {near far : Shape Key Value}
    {cell : Cell Key Value}
    {address : Address} :
    address ∈ addresses (join side color near cell far) ↔
      address ∈ addresses near ∨ address = cell.address ∨
        address ∈ addresses far := by
  simp only [addresses, List.mem_map, mem_inorder_join]
  constructor
  · rintro ⟨other, inNear | rfl | inFar, rfl⟩
    · exact .inl ⟨other, inNear, rfl⟩
    · exact .inr (.inl rfl)
    · exact .inr (.inr ⟨other, inFar, rfl⟩)
  · rintro (⟨other, inNear, rfl⟩ | rfl | ⟨other, inFar, rfl⟩)
    · exact ⟨other, .inl inNear, rfl⟩
    · exact ⟨cell, .inr (.inl rfl), rfl⟩
    · exact ⟨other, .inr (.inr inFar), rfl⟩

section AddressesJoin

variable {side : Side} {color : Color}
variable {near far : Shape Key Value}
variable {cell : Cell Key Value}
variable {address : Address}

theorem root_mem_addresses :
    cell.address ∈ addresses (join side color near cell far) :=
  mem_addresses_join.2 (.inr (.inl rfl))

theorem near_mem_addresses (member : address ∈ addresses near) :
    address ∈ addresses (join side color near cell far) :=
  mem_addresses_join.2 (.inl member)

theorem far_mem_addresses (member : address ∈ addresses far) :
    address ∈ addresses (join side color near cell far) :=
  mem_addresses_join.2 (.inr (.inr member))

end AddressesJoin

theorem nodup_addresses_join
    {side : Side}
    {color : Color}
    {near far : Shape Key Value}
    {cell : Cell Key Value} :
    (addresses (join side color near cell far)).Nodup ↔
      cell.address ∉ addresses near ∧ cell.address ∉ addresses far ∧
        (addresses near).Nodup ∧ (addresses far).Nodup ∧
        (addresses near).Disjoint (addresses far) := by
  cases side with
  | left =>
      simp only [addresses, join, inorder, List.map_append, List.map_cons,
        List.nodup_append', List.nodup_cons, List.disjoint_cons_right]
      tauto
  | right =>
      simp only [addresses, join, inorder, List.map_append, List.map_cons,
        List.nodup_append', List.nodup_cons, List.disjoint_cons_right]
      rw [List.disjoint_comm]
      tauto

/-- The heap holds the nodes of a shape below a given parent. -/
def Holds (nodes : Address → Option (Node Key Value)) :
    Pointer → Shape Key Value → Prop
  | _, .nil => True
  | parent, .node color left cell right =>
      nodes cell.address = some
          (nodeOf .left color (rootPointer left) cell (rootPointer right)
            parent) ∧
        Holds nodes (some cell.address) left ∧
        Holds nodes (some cell.address) right

/-- An address of a trail or of what hangs beside it. -/
def OnTrail (address : Address) (trail : Trail Key Value) : Prop :=
  ∃ step ∈ trail,
    address = step.entry.address ∨ address ∈ addresses step.sibling

/-- The heap holds a trail with the given pointer in its hole. -/
def HoldsTrail (nodes : Address → Option (Node Key Value))
    (root : Pointer) : Pointer → Trail Key Value → Prop
  | hole, [] => root = hole
  | hole, step :: rest =>
      nodes step.entry.address = some
          (nodeOf step.side step.color hole step.entry
            (rootPointer step.sibling) (abovePointer rest)) ∧
        Holds nodes (some step.entry.address) step.sibling ∧
        HoldsTrail nodes root (some step.entry.address) rest

section Holding

variable {nodes nodes' : Address → Option (Node Key Value)}
variable {parent hole root : Pointer}
variable {shape near far : Shape Key Value}
variable {trail rest : Trail Key Value}

theorem holds_join
    {side : Side}
    {color : Color}
    {cell : Cell Key Value} :
    Holds nodes parent (join side color near cell far) ↔
      nodes cell.address = some
          (nodeOf side color (rootPointer near) cell (rootPointer far)
            parent) ∧
        Holds nodes (some cell.address) near ∧
        Holds nodes (some cell.address) far := by
  cases side with
  | left => rfl
  | right => exact and_congr_right fun _ => and_comm

theorem onTrail_cons {address : Address} {step : Step (Cell Key Value)} :
    OnTrail address (step :: rest) ↔
      address = step.entry.address ∨ address ∈ addresses step.sibling ∨
        OnTrail address rest := by
  simp [OnTrail, or_assoc]

/-- Only the addresses of the shape matter. -/
theorem Holds.congr
    (same : ∀ address ∈ addresses shape, nodes' address = nodes address)
    (held : Holds nodes parent shape) : Holds nodes' parent shape := by
  induction shape generalizing parent with
  | nil => trivial
  | node color left cell right leftHypothesis rightHypothesis =>
      rcases held with ⟨present, leftHeld, rightHeld⟩
      have inShape := fun address =>
        (@mem_addresses_join _ _ .left color left right cell address).2
      refine ⟨(same _ (inShape _ (.inr (.inl rfl)))).trans present, ?_, ?_⟩
      · exact leftHypothesis
          (fun address member => same _ (inShape _ (.inl member))) leftHeld
      · exact rightHypothesis
          (fun address member => same _ (inShape _ (.inr (.inr member))))
          rightHeld

theorem HoldsTrail.congr
    (same : ∀ address, OnTrail address trail →
      nodes' address = nodes address)
    (held : HoldsTrail nodes root hole trail) :
    HoldsTrail nodes' root hole trail := by
  induction trail generalizing hole with
  | nil => exact held
  | cons step rest inductionHypothesis =>
      rcases held with ⟨present, siblingHeld, restHeld⟩
      refine ⟨?_, ?_, ?_⟩
      · exact (same _ (onTrail_cons.2 (.inl rfl))).trans present
      · exact siblingHeld.congr fun address member =>
          same _ (onTrail_cons.2 (.inr (.inl member)))
      · exact inductionHypothesis
          (fun address member =>
            same _ (onTrail_cons.2 (.inr (.inr member)))) restHeld

/-- The addresses of a whole tree are those of the focus and of its trail. -/
theorem mem_addresses_plug {address : Address} :
    address ∈ addresses (plug trail shape) ↔
      address ∈ addresses shape ∨ OnTrail address trail := by
  induction trail generalizing shape with
  | nil => simp [plug, OnTrail]
  | cons step rest inductionHypothesis =>
      rw [plug, inductionHypothesis, Step.close, mem_addresses_join,
        onTrail_cons]
      tauto

theorem nodup_of_plug (distinct : (addresses (plug trail shape)).Nodup) :
    (addresses shape).Nodup ∧
      ∀ address ∈ addresses shape, ¬ OnTrail address trail := by
  induction trail generalizing shape with
  | nil => exact ⟨distinct, fun _ _ onTrail => by simp [OnTrail] at onTrail⟩
  | cons step rest inductionHypothesis =>
      rcases inductionHypothesis distinct with ⟨closed, apart⟩
      rcases nodup_addresses_join.1 closed with
        ⟨notNear, _, nearDistinct, _, disjoint⟩
      refine ⟨nearDistinct, fun address member onTrail => ?_⟩
      rcases onTrail_cons.1 onTrail with rfl | inSibling | onRest
      · exact notNear member
      · exact disjoint member inSibling
      · exact apart address (near_mem_addresses member) onRest

end Holding

/-! ## Positions in a tree -/

/-- A tree of the heap with its size, seen from a position. -/
structure Laid (tree : RBTree Key Value) (size : Nat)
    (trail : Trail Key Value) (focus : Shape Key Value) : Prop where
  focusHeld : Holds tree.nodes (abovePointer trail) focus
  trailHeld : HoldsTrail tree.nodes tree.root (rootPointer focus) trail
  distinct : (addresses (plug trail focus)).Nodup
  allocated :
    ∀ address ∈ addresses (plug trail focus), address < tree.allocated
  counted : tree.size = size

/-- The position of the parent is the same tree seen from there. -/
theorem laid_cons
    {tree : RBTree Key Value}
    {size : Nat}
    {step : Step (Cell Key Value)}
    {trail : Trail Key Value}
    {focus : Shape Key Value} :
    Laid tree size (step :: trail) focus ↔
      Laid tree size trail (step.close focus) := by
  constructor
  · intro laid
    rcases laid.trailHeld with ⟨present, siblingHeld, restHeld⟩
    exact {
      focusHeld := holds_join.2 ⟨present, laid.focusHeld, siblingHeld⟩
      trailHeld := by rwa [Step.close, rootPointer_join]
      distinct := laid.distinct
      allocated := laid.allocated
      counted := laid.counted
    }
  · intro laid
    rcases holds_join.1 laid.focusHeld with ⟨present, focusHeld, siblingHeld⟩
    have restHeld := laid.trailHeld
    rw [Step.close, rootPointer_join] at restHeld
    exact {
      focusHeld := focusHeld
      trailHeld := ⟨present, siblingHeld, restHeld⟩
      distinct := laid.distinct
      allocated := laid.allocated
      counted := laid.counted
    }

/-- Every position shows the whole tree. -/
theorem laid_plug
    {tree : RBTree Key Value}
    {size : Nat}
    {trail : Trail Key Value}
    {focus : Shape Key Value} :
    Laid tree size trail focus ↔ Laid tree size [] (plug trail focus) := by
  induction trail generalizing focus with
  | nil => rfl
  | cons step rest inductionHypothesis =>
      exact laid_cons.trans inductionHypothesis

namespace Laid

variable {tree : RBTree Key Value}
variable {size : Nat}
variable {trail : Trail Key Value}
variable {focus near far : Shape Key Value}
variable {side : Side}
variable {color : Color}
variable {cell : Cell Key Value}
variable {step : Step (Cell Key Value)}

theorem up (laid : Laid tree size (step :: trail) focus) :
    Laid tree size trail
      (join step.side step.color focus step.entry step.sibling) :=
  laid_cons.1 laid

theorem down
    (laid : Laid tree size trail (join side color near cell far)) :
    Laid tree size (⟨side, color, cell, far⟩ :: trail) near :=
  laid_cons.2 laid

/-- The root of the focus has the links of its place. -/
theorem present
    (laid : Laid tree size trail (join side color near cell far)) :
    tree.nodes cell.address = some
      (nodeOf side color (rootPointer near) cell (rootPointer far)
        (abovePointer trail)) :=
  (holds_join.1 laid.focusHeld).1

theorem above_present (laid : Laid tree size (step :: trail) focus) :
    tree.nodes step.entry.address = some
      (nodeOf step.side step.color (rootPointer focus) step.entry
        (rootPointer step.sibling) (abovePointer trail)) :=
  laid.trailHeld.1

/-- The addresses of the focus are distinct and away from the trail. -/
theorem apart (laid : Laid tree size trail focus) :
    (addresses focus).Nodup ∧
      ∀ address ∈ addresses focus, ¬ OnTrail address trail :=
  nodup_of_plug laid.distinct

/-- A tree of the same nodes in the same heap region takes the place. -/
theorem refocus
    {tree' : RBTree Key Value}
    {focus' : Shape Key Value}
    (laid : Laid tree size trail focus)
    (focusHeld : Holds tree'.nodes (abovePointer trail) focus')
    (trailHeld :
      HoldsTrail tree'.nodes tree'.root (rootPointer focus') trail)
    (sameAddresses : addresses focus' = addresses focus)
    (sameAllocated : tree'.allocated = tree.allocated)
    (sameSize : tree'.size = tree.size) :
    Laid tree' size trail focus' := by
  have same : addresses (plug trail focus') = addresses (plug trail focus) := by
    simp only [addresses, inorder_plug, List.map_append]
    rw [← addresses, sameAddresses, addresses]
  exact {
    focusHeld := focusHeld
    trailHeld := trailHeld
    distinct := same ▸ laid.distinct
    allocated := same ▸ sameAllocated ▸ laid.allocated
    counted := sameSize.trans laid.counted
  }

/-- The root of the focus takes another colour and another value. -/
theorem putRoot
    (laid : Laid tree size trail (join side color near cell far))
    (color' : Color)
    (value' : Option Value) :
    Laid
      (tree.put cell.address
        (nodeOf side color' (rootPointer near)
          { cell with value := value' } (rootPointer far)
          (abovePointer trail)))
      size trail
      (join side color' near { cell with value := value' } far) := by
  rcases holds_join.1 laid.focusHeld with ⟨_, nearHeld, farHeld⟩
  rcases laid.apart with ⟨focusDistinct, offTrail⟩
  rcases nodup_addresses_join.1 focusDistinct with ⟨notNear, notFar, _⟩
  have rootOffTrail := offTrail cell.address
    root_mem_addresses
  apply laid.refocus
  · refine holds_join.2 ⟨RBTree.nodes_put_self, ?_, ?_⟩
    · exact nearHeld.congr fun address member =>
        RBTree.nodes_put_of_ne (ne_of_mem_of_not_mem member notNear)
    · exact farHeld.congr fun address member =>
        RBTree.nodes_put_of_ne (ne_of_mem_of_not_mem member notFar)
  · have trailHeld := laid.trailHeld
    rw [rootPointer_join] at trailHeld ⊢
    refine trailHeld.congr fun address onTrail =>
      RBTree.nodes_put_of_ne ?_
    rintro rfl
    exact rootOffTrail onTrail
  · cases side <;> simp [addresses, join, inorder]
  · rfl
  · rfl

/-- Painting the root of the focus. -/
theorem store_setColor
    (laid : Laid tree size trail (join side color near cell far))
    (color' : Color) :
    ∃ tree', tree.store (some cell.address) (·.setColor color') =
        some tree' ∧
      Laid tree' size trail (join side color' near cell far) := by
  refine ⟨_, RBTree.store_eq laid.present _, ?_⟩
  rw [nodeOf_setColor]
  exact laid.putRoot color' cell.value

/-- Changing the value at the root of the focus. -/
theorem store_setValue
    (laid : Laid tree size trail (join side color near cell far))
    (value' : Option Value) :
    ∃ tree', tree.store (some cell.address) (·.setValue value') =
        some tree' ∧
      Laid tree' size trail
        (join side color near { cell with value := value' } far) := by
  refine ⟨_, RBTree.store_eq laid.present _, ?_⟩
  rw [nodeOf_setValue]
  exact laid.putRoot color value'

end Laid

end AeroRisk.Rbtree
