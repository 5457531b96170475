import Mathlib.Logic.Function.Basic
import Mathlib.Order.Lattice
import AeroRisk.Library.FallibleLoop
import AeroRisk.Library.RedBlackTree

/-!
# The red-black tree of the order book

The tree is the one the program builds out of pointers.  An address is `some`
natural number and the nil pointer is `none`; the heap holds the nodes which
have been allocated.  Following a nil pointer panics, which is the failure of
the option monad, and so is a loop that does not end.

The two rotations are mirror images, and so are the two branches of the
rebalancing loop.  Both are written once for a side of the tree.
-/

namespace AeroRisk.Rbtree

open AeroRisk.Library
open AeroRisk.Library.RedBlackTree (Color Side)

/-! ## Keys -/

/-- The comparisons of the key type, a case distinction over it in the source. -/
def less {Key : Type} [LinearOrder Key] (a b : Key) : Bool :=
  a < b

def greater {Key : Type} [LinearOrder Key] (a b : Key) : Bool :=
  a > b

/-- Keys of the types `int` and `int64`. -/
instance int64LinearOrder : LinearOrder Int64 where
  le_refl := Int64.le_refl
  le_trans _ _ _ := Int64.le_trans
  lt_iff_le_not_ge _ _ := by
    simp only [Int64.le_iff_toInt_le, Int64.lt_iff_toInt_lt]
    omega
  le_antisymm _ _ := Int64.le_antisymm
  le_total := Int64.le_total
  toDecidableLE := inferInstance
  toDecidableEq := inferInstance
  toDecidableLT := inferInstance

/-- Keys of the type `uint64`. -/
instance uint64LinearOrder : LinearOrder UInt64 where
  le_refl := UInt64.le_refl
  le_trans _ _ _ := UInt64.le_trans
  lt_iff_le_not_ge _ _ := by
    simp only [UInt64.le_iff_toNat_le, UInt64.lt_iff_toNat_lt]
    omega
  le_antisymm _ _ := UInt64.le_antisymm
  le_total := UInt64.le_total
  toDecidableLE := inferInstance
  toDecidableEq := inferInstance
  toDecidableLT := inferInstance

/-! ## Nodes and the heap -/

abbrev Address :=
  Nat

abbrev Pointer :=
  Option Address

variable {Key Value : Type}

/-- The value is an interface, so that it may be nil. -/
structure Node (Key Value : Type) where
  key : Key
  value : Option Value
  color : Color
  left : Pointer
  right : Pointer
  parent : Pointer

namespace Node

def child (node : Node Key Value) : Side → Pointer
  | .left => node.left
  | .right => node.right

def setChild (node : Node Key Value) (pointer : Pointer) :
    Side → Node Key Value
  | .left => { node with left := pointer }
  | .right => { node with right := pointer }

def setParent (node : Node Key Value) (pointer : Pointer) :
    Node Key Value :=
  { node with parent := pointer }

def setColor (node : Node Key Value) (color : Color) : Node Key Value :=
  { node with color := color }

def setValue (node : Node Key Value) (value : Option Value) :
    Node Key Value :=
  { node with value := value }

end Node

/--
A tree together with the heap its nodes are in.  Addresses below `allocated`
have been given out.  The size, which `Size` returns, counts nodes of the heap,
so that it stays within the range of `int`.
-/
structure RBTree (Key Value : Type) where
  root : Pointer
  size : Nat
  nodes : Address → Option (Node Key Value)
  allocated : Address

def newRBTree : RBTree Key Value where
  root := none
  size := 0
  nodes := fun _ => none
  allocated := 0

namespace RBTree

/-- Put a node at an address. -/
def put (tree : RBTree Key Value) (address : Address)
    (node : Node Key Value) : RBTree Key Value :=
  { tree with nodes := Function.update tree.nodes address (some node) }

/-- Give out a new address for a node. -/
def allocate (tree : RBTree Key Value) (node : Node Key Value) :
    RBTree Key Value :=
  { tree.put tree.allocated node with allocated := tree.allocated + 1 }

/-- Read the node a pointer leads to. -/
def load (tree : RBTree Key Value) (pointer : Pointer) :
    Option (Node Key Value) :=
  pointer.bind tree.nodes

/-- Change the node a pointer leads to. -/
def store (tree : RBTree Key Value) (pointer : Pointer)
    (change : Node Key Value → Node Key Value) :
    Option (RBTree Key Value) := do
  let address ← pointer
  let node ← tree.nodes address
  some (tree.put address (change node))

/-! ## Rotations -/

/-- Give the child a rotation moves its new parent, unless it is nil. -/
def adopt (tree : RBTree Key Value) (inner node : Pointer) :
    Option (RBTree Key Value) :=
  match inner with
  | none => some tree
  | some _ => tree.store inner (·.setParent node)

/-- Let what points down at the node of a rotation point at its pivot. -/
def relink (tree : RBTree Key Value) (side : Side)
    (node pivot : Pointer) : Option (RBTree Key Value) := do
  match (← tree.load node).parent with
  | none => some { tree with root := pivot }
  | some above =>
      if node = (← tree.load above).child side then
        tree.store above (·.setChild pivot side)
      else
        tree.store above (·.setChild pivot side.opposite)

/-- The node of a rotation takes the inner child, and the pivot its parent. -/
def raisePivot (tree : RBTree Key Value) (side : Side)
    (node pivot : Pointer) : Option (RBTree Key Value) := do
  let inner := (← tree.load pivot).child side
  let tree ← tree.store node (·.setChild inner side.opposite)
  let inner := (← tree.load pivot).child side
  let tree ← tree.adopt inner node
  let above := (← tree.load node).parent
  tree.store pivot (·.setParent above)

/-- Rotate a node down to the given side. -/
def rotate (tree : RBTree Key Value) (side : Side) (node : Pointer) :
    Option (RBTree Key Value) := do
  let pivot := (← tree.load node).child side.opposite
  let tree ← tree.raisePivot side node pivot
  let tree ← tree.relink side node pivot
  let tree ← tree.store pivot (·.setChild node side)
  tree.store node (·.setParent pivot)

def rotateLeft (tree : RBTree Key Value) (node : Pointer) :
    Option (RBTree Key Value) :=
  tree.rotate .left node

def rotateRight (tree : RBTree Key Value) (node : Pointer) :
    Option (RBTree Key Value) :=
  tree.rotate .right node

/-! ## Rebalancing -/

/-- Whether a pointer is not nil and leads to a red node. -/
def isRed (tree : RBTree Key Value) : Pointer → Option Bool
  | none => some false
  | some address =>
      (tree.nodes address).map fun node => node.color == .red

/-- A red uncle: the red of both siblings moves to the grandparent. -/
def recolor (tree : RBTree Key Value) (parent uncle grandparent : Pointer) :
    Option (RBTree Key Value) := do
  let tree ← tree.store parent (·.setColor .black)
  let tree ← tree.store uncle (·.setColor .black)
  tree.store grandparent (·.setColor .red)

/-- An inner child is rotated outwards first. -/
def straighten (tree : RBTree Key Value) (side : Side) (node : Pointer) :
    Option (RBTree Key Value × Pointer) := do
  let parent := (← tree.load node).parent
  if node = (← tree.load parent).child side.opposite then
    let tree ← tree.rotate side parent
    some (tree, parent)
  else
    some (tree, node)

/-- The parent takes the place and the colour of the grandparent. -/
def rotateGrandparent (tree : RBTree Key Value) (side : Side)
    (node : Pointer) : Option (RBTree Key Value) := do
  let parent := (← tree.load node).parent
  let tree ← tree.store parent (·.setColor .black)
  let grandparent := (← tree.load parent).parent
  let tree ← tree.store grandparent (·.setColor .red)
  tree.rotate side.opposite grandparent

/-- The loop body when the parent is the grandparent's child on `side`. -/
def fixSide (tree : RBTree Key Value) (side : Side) (node : Pointer) :
    Option (RBTree Key Value × Pointer) := do
  let parent := (← tree.load node).parent
  let grandparent := (← tree.load parent).parent
  let uncle := (← tree.load grandparent).child side.opposite
  if ← tree.isRed uncle then
    let tree ← tree.recolor parent uncle grandparent
    some (tree, grandparent)
  else
    let (tree, node) ← tree.straighten side node
    let tree ← tree.rotateGrandparent side node
    some (tree, node)

/-- One round of the rebalancing loop, which ends where no parent is red. -/
def fixRound :
    RBTree Key Value × Pointer →
      Option ((RBTree Key Value × Pointer) ⊕ RBTree Key Value)
  | (tree, node) => do
      let parent := (← tree.load node).parent
      if ← tree.isRed parent then
        let grandparent := (← tree.load parent).parent
        if parent = (← tree.load grandparent).left then
          (tree.fixSide .left node).map .inl
        else
          (tree.fixSide .right node).map .inl
      else
        some (.inr tree)

def fixInsert (tree : RBTree Key Value) (node : Pointer) :
    Option (RBTree Key Value) := do
  let tree ← FallibleLoop.run fixRound (tree.allocated + 1) (tree, node)
  match tree.root with
  | none => some tree
  | some _ => tree.store tree.root (·.setColor .black)

/-! ## Insertion and search -/

/-- Where the descent of an insertion ends. -/
inductive Place where
  | found (node : Pointer)
  | absent (parent : Pointer)

/-- One round of the descent, with the last node visited and the current one. -/
def descendRound (tree : RBTree Key Value) [LinearOrder Key] (key : Key) :
    Pointer × Pointer → Option ((Pointer × Pointer) ⊕ Place)
  | (parent, none) => some (.inr (.absent parent))
  | (_, some current) => do
      let node ← tree.nodes current
      if less key node.key then
        some (.inl (some current, node.left))
      else if greater key node.key then
        some (.inl (some current, node.right))
      else
        some (.inr (.found (some current)))

/-- Hang a new node below the node where the descent ended. -/
def attach (tree : RBTree Key Value) [LinearOrder Key]
    (key : Key) (parent node : Pointer) : Option (RBTree Key Value) := do
  let tree ← tree.store node (·.setParent parent)
  match parent with
  | none => some { tree with root := node }
  | some _ =>
      if less key (← tree.load parent).key then
        tree.store parent (·.setChild node .left)
      else
        tree.store parent (·.setChild node .right)

/-- The node an insertion allocates. -/
def newNode (key : Key) (value : Option Value) : Node Key Value where
  key := key
  value := value
  color := .red
  left := none
  right := none
  parent := none

/-- The new node stays unlinked when the descent finds the key. -/
def insert (tree : RBTree Key Value) [LinearOrder Key]
    (key : Key) (value : Option Value) : Option (RBTree Key Value) := do
  let node := some tree.allocated
  let tree := tree.allocate (newNode key value)
  match ← FallibleLoop.run (tree.descendRound key) (tree.allocated + 1)
      (none, tree.root) with
  | .found current => tree.store current (·.setValue value)
  | .absent parent =>
      let tree ← tree.attach key parent node
      let tree ← tree.fixInsert node
      some { tree with size := tree.size + 1 }

def searchRound (tree : RBTree Key Value) [LinearOrder Key] (key : Key) :
    Pointer → Option (Pointer ⊕ Option Value)
  | none => some (.inr none)
  | some current => do
      let node ← tree.nodes current
      if less key node.key then
        some (.inl node.left)
      else if greater key node.key then
        some (.inl node.right)
      else
        some (.inr node.value)

def search (tree : RBTree Key Value) [LinearOrder Key] (key : Key) :
    Option (Option Value) :=
  FallibleLoop.run (tree.searchRound key) (tree.allocated + 1) tree.root

end RBTree

/-- The tree after a sequence of `Insert` calls on a new tree. -/
def insertAll [LinearOrder Key] (calls : List (Key × Option Value)) :
    Option (RBTree Key Value) :=
  calls.foldlM (fun tree call => tree.insert call.1 call.2) newRBTree

end AeroRisk.Rbtree
