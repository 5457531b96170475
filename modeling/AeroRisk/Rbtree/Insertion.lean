import AeroRisk.Library.SortedEntries
import AeroRisk.Rbtree.Rebalancing

/-!
# Insertion and search

The descent follows the comparisons of the keys to the node of a key or to the
place where it belongs.  An insertion writes there and rebalances, so that a
sorted red-black tree stays one and its entries change as those of a sorted
list do.
-/

namespace AeroRisk.Rbtree

open AeroRisk.Library
open AeroRisk.Library.RedBlackTree
open AeroRisk.Library.RedBlackTree.Tree
open AeroRisk.Library.SortedEntries

variable {Key Value : Type}
variable {tree : RBTree Key Value}
variable {size : Nat}
variable {trail : Trail Key Value}
variable {shape focus : Shape Key Value}

def Cell.entry (cell : Cell Key Value) : Key × Option Value :=
  (cell.key, cell.value)

/-- The keys and values of a shape from left to right. -/
def entries (shape : Shape Key Value) : List (Key × Option Value) :=
  shape.inorder.map Cell.entry

theorem entries_plug (trail : Trail Key Value) (focus : Shape Key Value) :
    entries (plug trail focus) =
      (before trail).map Cell.entry ++ entries focus ++
        (after trail).map Cell.entry := by
  simp [entries, inorder_plug]

theorem entries_node
    (color : Color)
    (left right : Shape Key Value)
    (cell : Cell Key Value) :
    entries (.node color left cell right) =
      entries left ++ cell.entry :: entries right := by
  simp [entries, inorder]

/-! ## Allocation -/

/-- A new node does not disturb the tree. -/
theorem Laid.allocate
    (laid : Laid tree size trail focus)
    (node : Node Key Value) :
    Laid (tree.allocate node) size trail focus := by
  have fresh : ∀ address ∈ addresses (plug trail focus),
      (tree.allocate node).nodes address = tree.nodes address :=
    fun address member =>
      RBTree.nodes_put_of_ne (Nat.ne_of_lt (laid.allocated address member))
  exact {
    focusHeld := laid.focusHeld.congr fun address member =>
      fresh address (mem_addresses_plug.2 (.inl member))
    trailHeld := laid.trailHeld.congr fun address onTrail =>
      fresh address (mem_addresses_plug.2 (.inr onTrail))
    distinct := laid.distinct
    allocated := fun address member =>
      Nat.lt_succ_of_lt (laid.allocated address member)
    counted := laid.counted
  }

theorem addresses_plug (trail : Trail Key Value) (focus : Shape Key Value) :
    addresses (plug trail focus) =
      (before trail).map Cell.address ++ addresses focus ++
        (after trail).map Cell.address := by
  simp [addresses, inorder_plug]

/-- A new leaf at the end of a trail. -/
theorem Laid.grow
    {tree' : RBTree Key Value}
    {cell : Cell Key Value}
    (laid : Laid tree size trail .nil)
    (fresh : cell.address ∉ addresses (plug trail .nil))
    (allocated : cell.address < tree.allocated)
    (present :
      tree'.nodes cell.address = some
        (nodeOf .left .red none cell none (abovePointer trail)))
    (trailHeld :
      HoldsTrail tree'.nodes tree'.root (some cell.address) trail)
    (sameAllocated : tree'.allocated = tree.allocated)
    (sameSize : tree'.size = tree.size) :
    Laid tree' size trail (.node .red .nil cell .nil) := by
  have leaf : addresses (.node .red .nil cell .nil) = [cell.address] := rfl
  have members : ∀ address,
      address ∈ addresses (plug trail (.node .red .nil cell .nil)) →
        address = cell.address ∨ address ∈ addresses (plug trail .nil) := by
    intro address
    rw [mem_addresses_plug, mem_addresses_plug, leaf, List.mem_singleton]
    exact Or.imp_right .inr
  exact {
    focusHeld := ⟨present, trivial, trivial⟩
    trailHeld := trailHeld
    distinct := by
      have distinct := laid.distinct
      rw [addresses_plug] at distinct fresh
      rw [addresses_plug, leaf, List.append_assoc, List.singleton_append,
        List.nodup_middle, List.nodup_cons]
      simp only [addresses, inorder_nil, List.map_nil,
        List.append_nil] at distinct fresh
      exact ⟨fresh, distinct⟩
    allocated := fun address member => by
      rw [sameAllocated]
      rcases members address member with rfl | inOld
      · exact allocated
      · exact laid.allocated address inOld
    counted := sameSize.trans laid.counted
  }

theorem Laid.resize
    (laid : Laid tree size trail focus)
    {size' : Nat}
    (resized : size' = shape.inorder.length) :
    Laid { tree with size := size' } shape.inorder.length trail focus where
  focusHeld := laid.focusHeld
  trailHeld := laid.trailHeld
  distinct := laid.distinct
  allocated := laid.allocated
  counted := resized

section Ordered

variable [LinearOrder Key]
variable {key : Key}
variable {color : Color}
variable {left right : Shape Key Value}
variable {cell : Cell Key Value}

@[simp]
theorem less_eq_true {a b : Key} : less a b = true ↔ a < b :=
  decide_eq_true_iff

@[simp]
theorem greater_eq_true {a b : Key} : greater a b = true ↔ b < a :=
  decide_eq_true_iff

/-! ## The descent -/

/-- The comparisons on the way down lead to the place of the key. -/
def Guided (key : Key) (trail : Trail Key Value) : Prop :=
  (∀ cell ∈ before trail, cell.key < key) ∧
    ∀ cell ∈ after trail, key < cell.key

/-- The children of a node of a sorted tree are on the right sides of it. -/
theorem keys_around
    (sorted : Sorted (entries (plug trail (.node color left cell right)))) :
    (∀ other ∈ left.inorder, other.key < cell.key) ∧
      ∀ other ∈ right.inorder, cell.key < other.key := by
  rw [entries_plug, entries_node, Sorted, List.map_append, List.map_append,
    List.pairwise_append, List.pairwise_append] at sorted
  have focusSorted := sorted.1.2.1
  rw [List.map_append, List.map_cons, List.pairwise_append,
    List.pairwise_cons] at focusSorted
  rcases focusSorted with ⟨_, ⟨rightAbove, _⟩, leftBelow⟩
  constructor
  · intro other member
    exact leftBelow _ (List.mem_map_of_mem (List.mem_map_of_mem member)) _
      List.mem_cons_self
  · intro other member
    exact rightAbove _ (List.mem_map_of_mem (List.mem_map_of_mem member))

theorem Guided.goLeft
    (guided : Guided key trail)
    (smaller : key < cell.key)
    (rightAbove : ∀ other ∈ right.inorder, cell.key < other.key) :
    Guided key (⟨.left, color, cell, right⟩ :: trail) := by
  refine ⟨guided.1, fun other member => ?_⟩
  rcases List.mem_append.1 member with inNode | inAfter
  · rcases List.mem_cons.1 inNode with rfl | inRight
    · exact smaller
    · exact smaller.trans (rightAbove other inRight)
  · exact guided.2 other inAfter

theorem Guided.goRight
    (guided : Guided key trail)
    (larger : cell.key < key)
    (leftBelow : ∀ other ∈ left.inorder, other.key < cell.key) :
    Guided key (⟨.right, color, cell, left⟩ :: trail) := by
  refine ⟨fun other member => ?_, guided.2⟩
  rcases List.mem_append.1 member with inBefore | inNode
  · exact guided.1 other inBefore
  · rcases List.mem_append.1 inNode with inLeft | isCell
    · exact (leftBelow other inLeft).trans larger
    · rw [List.mem_singleton.1 isCell]
      exact larger

/-- Where a descent has come to. -/
def Seeking (key : Key) (shape : Shape Key Value) (index : Nat)
    (state : Pointer × Pointer) : Prop :=
  ∃ trail focus,
    index = focus.inorder.length ∧
      state = (abovePointer trail, rootPointer focus) ∧
      plug trail focus = shape ∧
      Guided key trail

/-- Where a descent ends. -/
inductive Located (key : Key) (shape : Shape Key Value) :
    RBTree.Place → Prop where
  | found
      (trail : Trail Key Value)
      (color : Color)
      (left right : Shape Key Value)
      (cell : Cell Key Value)
      (whole : plug trail (.node color left cell right) = shape)
      (sameKey : cell.key = key) :
      Located key shape (.found (some cell.address))
  | absent
      (trail : Trail Key Value)
      (whole : plug trail .nil = shape)
      (guided : Guided key trail) :
      Located key shape (.absent (abovePointer trail))

theorem descendRound_delivers
    (laid : Laid tree size [] shape)
    (sorted : Sorted (entries shape))
    (index : Nat)
    (state : Pointer × Pointer)
    (seeking : Seeking key shape index state) :
    FallibleLoop.Delivers (Seeking key shape) (Located key shape) index
      (tree.descendRound key state) := by
  rcases seeking with ⟨trail, focus, rfl, rfl, whole, guided⟩
  cases focus with
  | nil => exact .leave (.absent trail whole guided)
  | node color left cell right =>
      rw [← whole] at laid sorted
      rcases (laid_plug.2 laid).focusHeld with ⟨present, _, _⟩
      rcases keys_around sorted with ⟨leftBelow, rightAbove⟩
      by_cases smaller : key < cell.key
      · have goesLeft :
            tree.descendRound key (abovePointer trail, some cell.address) =
              some (.inl (some cell.address, rootPointer left)) := by
          simp [RBTree.descendRound, present, smaller, left_nodeOf_left]
        rw [rootPointer, goesLeft]
        refine .again ?_
          ⟨⟨.left, color, cell, right⟩ :: trail, left, rfl, rfl, whole,
            guided.goLeft smaller rightAbove⟩
        simp only [inorder, List.length_append, List.length_cons]
        omega
      · by_cases larger : cell.key < key
        · have goesRight :
              tree.descendRound key
                  (abovePointer trail, some cell.address) =
                some (.inl (some cell.address, rootPointer right)) := by
            simp [RBTree.descendRound, present, smaller, larger, nodeOf]
          rw [rootPointer, goesRight]
          refine .again ?_
            ⟨⟨.right, color, cell, left⟩ :: trail, right, rfl, rfl, whole,
              guided.goRight larger leftBelow⟩
          simp only [inorder, List.length_append, List.length_cons]
          omega
        · have stops :
              tree.descendRound key
                  (abovePointer trail, some cell.address) =
                some (.inr (.found (some cell.address))) := by
            simp [RBTree.descendRound, present, smaller, larger]
          rw [rootPointer, stops]
          exact .leave (.found trail color left right cell whole
            (le_antisymm (not_lt.1 smaller) (not_lt.1 larger)))

/-- In a sorted tree the descent finds the key or the place for it. -/
theorem descend_spec
    (laid : Laid tree size [] shape)
    (sorted : Sorted (entries shape))
    (key : Key) :
    ∃ place,
      FallibleLoop.run (tree.descendRound key) (tree.allocated + 1)
          (none, tree.root) = some place ∧
        Located key shape place := by
  have isRoot : tree.root = rootPointer shape := laid.trailHeld
  have seeking :
      Seeking key shape shape.inorder.length (none, tree.root) := by
    refine ⟨[], shape, rfl, ?_, rfl, ?_, ?_⟩
    · rw [isRoot, abovePointer]
    · exact fun _ member => absurd member List.not_mem_nil
    · exact fun _ member => absurd member List.not_mem_nil
  exact FallibleLoop.run_delivers (descendRound_delivers laid sorted)
    seeking (Nat.lt_succ_of_le laid.length_le)

/-! ## The new node -/

/-- The first step of a guided trail goes down as the comparison says. -/
theorem Guided.less_iff {step : Step (Cell Key Value)}
    (guided : Guided key (step :: trail)) :
    less key step.entry.key = true ↔ step.side = .left := by
  rcases step with ⟨_ | _, _, entry, sibling⟩
  · simpa [before, after] using guided.2 entry (by simp [after])
  · have below := guided.1 entry (by simp [before])
    simpa using below.le

/-- The new node is a red leaf at the end of the trail. -/
theorem Laid.attach {value : Option Value} {address : Address}
    (laid : Laid tree size trail .nil)
    (guided : Guided key trail)
    (present :
      tree.nodes address = some
        (nodeOf .left .red none ⟨address, key, value⟩ none none))
    (fresh : address ∉ addresses (plug trail .nil))
    (allocated : address < tree.allocated) :
    ∃ tree',
      tree.attach key (abovePointer trail) (some address) = some tree' ∧
        Laid tree' size trail
          (.node .red .nil ⟨address, key, value⟩ .nil) := by
  have offTrail : ¬ OnTrail address trail := fun onTrail =>
    fresh (mem_addresses_plug.2 (.inr onTrail))
  rcases store_spec present (·.setParent (abovePointer trail)) with
    ⟨hungTree, stored, leafHung, sameRoot, outside⟩
  rw [nodeOf_setParent] at leafHung
  have trailHung : HoldsTrail hungTree.nodes hungTree.root none trail := by
    rw [sameRoot]
    exact outside.holdsTrail laid.trailHeld fun other onTrail same =>
      offTrail (same ▸ onTrail)
  cases trail with
  | nil =>
      refine ⟨{ hungTree with root := some address }, ?_,
        laid.grow fresh allocated leafHung rfl outside.allocated
          outside.size⟩
      rw [RBTree.attach, stored]
      rfl
  | cons step rest =>
      have abovePresent := trailHung.1
      have different : address ≠ step.entry.address := fun same =>
        offTrail (onTrail_cons.2 (.inl same))
      have attached :
          tree.attach key (abovePointer (step :: rest)) (some address) =
            some (hungTree.put step.entry.address
              (nodeOf step.side step.color (some address) step.entry
                (rootPointer step.sibling) (abovePointer rest))) := by
        have loaded := RBTree.load_eq abovePresent
        have goesLeft := guided.less_iff
        have hangs := RBTree.store_eq abovePresent
          (·.setChild (some address) step.side)
        rw [nodeOf_setChild] at hangs
        rw [RBTree.attach, stored]
        cases isSide : step.side with
        | left =>
            have smaller := less_eq_true.1 (goesLeft.2 isSide)
            rw [isSide] at hangs
            simp [abovePointer, loaded, smaller, hangs]
        | right =>
            have notSmaller : ¬ key < step.entry.key := fun smaller =>
              Side.noConfusion
                (isSide.symm.trans (goesLeft.1 (less_eq_true.2 smaller)))
            rw [isSide] at hangs
            simp [abovePointer, loaded, notSmaller, hangs]
      refine ⟨_, attached, laid.grow fresh allocated ?_
        (trailHung.putAbove laid.distinct (some address)) outside.allocated
        outside.size⟩
      exact (RBTree.nodes_put_of_ne different).trans leafHung

/-! ## Sound trees -/

/-- A sorted red-black tree in the heap whose size counts its nodes. -/
structure Sound (tree : RBTree Key Value) (shape : Shape Key Value) :
    Prop where
  laid : Laid tree shape.inorder.length [] shape
  balanced : ∃ height, Balanced shape .black height
  sorted : Sorted (entries shape)

theorem Sound.initial :
    Sound (newRBTree : RBTree Key Value) .nil where
  laid := {
    focusHeld := trivial
    trailHeld := rfl
    distinct := List.nodup_nil
    allocated := fun _ member => absurd member List.not_mem_nil
    counted := rfl
  }
  balanced := ⟨0, .nil⟩
  sorted := List.Pairwise.nil

/-- The value of a key that is there is replaced at its node. -/
theorem Sound.replace {trail : Trail Key Value}
    (sound : Sound tree (plug trail (.node color left cell right)))
    (value : Option Value) :
    ∃ tree' shape',
      tree.store (some cell.address) (·.setValue value) = some tree' ∧
        Sound tree' shape' ∧
        entries shape' = upsert cell.key value
          (entries (plug trail (.node color left cell right))) := by
  have atNode :
      Laid tree _ trail (join .left color left cell right) :=
    laid_plug.2 sound.laid
  rcases atNode.store_setValue value with ⟨tree', stored, replaced⟩
  rcases sound.balanced with ⟨height, balanced⟩
  rcases Fits.of_plug balanced with ⟨_, lower, fits, focusBalanced⟩
  have around : ∀ other : Cell Key Value,
      entries (plug trail (.node color left other right)) =
        ((before trail).map Cell.entry ++ entries left) ++
          other.entry :: (entries right ++ (after trail).map Cell.entry) := by
    simp [entries_plug, entries_node]
  have upserted :
      entries (plug trail
          (.node color left { cell with value := value } right)) =
        upsert cell.key value
          (entries (plug trail (.node color left cell right))) := by
    have sorted := sound.sorted
    rw [around] at sorted
    rw [around, around]
    exact sorted.upsert_replace.symm
  have sameLength :
      (plug trail (.node color left cell right)).inorder.length =
        (plug trail (.node color left
          { cell with value := value } right)).inorder.length := by
    simp [inorder_plug, inorder]
  refine ⟨tree', _, stored, ⟨?_, ?_, ?_⟩, upserted⟩
  · rw [← sameLength]
    exact laid_plug.1 replaced
  · exact fits.balanced_plug (focusBalanced.of_entry _)
  · rw [upserted]
    exact sound.sorted.upsert

/-- The new node may be red below a red parent, and nothing else is wrong. -/
theorem Sound.attach {trail : Trail Key Value} {value : Option Value}
    {address : Address}
    (sound : Sound tree (plug trail .nil))
    (guided : Guided key trail)
    (present :
      tree.nodes address = some
        (nodeOf .left .red none ⟨address, key, value⟩ none none))
    (fresh : address ∉ addresses (plug trail .nil))
    (allocated : address < tree.allocated) :
    ∃ attached height,
      tree.attach key (abovePointer trail) (some address) =
          some attached ∧
        Laid attached (plug trail .nil).inorder.length trail
          (.node .red .nil ⟨address, key, value⟩ .nil) ∧
        Balanced
          (.node .red .nil ⟨address, key, value⟩ .nil :
            Shape Key Value) .red height ∧
        Fits trail .black height := by
  rcases (laid_plug.2 sound.laid).attach guided present fresh allocated with
    ⟨attached, hung, grown⟩
  rcases sound.balanced with ⟨_, balanced⟩
  rcases Fits.of_plug balanced with ⟨_, _, fits, leafBalanced⟩
  cases leafBalanced
  exact ⟨attached, 0, hung, grown, .red .nil .nil, fits⟩

/-- A new key is bound at a new node. -/
theorem Sound.add {trail : Trail Key Value} {value : Option Value}
    {address : Address}
    (sound : Sound tree (plug trail .nil))
    (guided : Guided key trail)
    (present :
      tree.nodes address = some
        (nodeOf .left .red none ⟨address, key, value⟩ none none))
    (fresh : address ∉ addresses (plug trail .nil))
    (allocated : address < tree.allocated) :
    ∃ attached tree' shape',
      tree.attach key (abovePointer trail) (some address) =
          some attached ∧
        attached.fixInsert (some address) = some tree' ∧
        Sound { tree' with size := tree'.size + 1 } shape' ∧
        entries shape' =
          upsert key value (entries (plug trail .nil)) := by
  rcases sound.attach guided present fresh allocated with
    ⟨attached, _, hung, grown, leafBalanced, fits⟩
  rcases grown.fixInsert leafBalanced fits with
    ⟨tree', shape', height', fixed, laid', balanced', sameCells⟩
  have upserted :
      entries shape' = upsert key value (entries (plug trail .nil)) := by
    have below : ∀ entry ∈ (before trail).map Cell.entry,
        entry.1 < key := by
      intro entry member
      rcases List.mem_map.1 member with ⟨cell, inBefore, rfl⟩
      exact guided.1 cell inBefore
    have above : ∀ entry ∈ (after trail).map Cell.entry,
        key < entry.1 := by
      intro entry member
      rcases List.mem_map.1 member with ⟨cell, inAfter, rfl⟩
      exact guided.2 cell inAfter
    have bound := @upsert_between _ _ _ key value _ _ below above
    rw [entries, sameCells]
    simpa [entries, inorder_plug, inorder, Cell.entry] using bound.symm
  have counted : tree'.size + 1 = shape'.inorder.length := by
    rw [laid'.counted, sameCells]
    simp [inorder_plug, inorder]
    omega
  refine ⟨attached, tree', shape', hung, fixed, ⟨?_, ⟨_, balanced'⟩, ?_⟩,
    upserted⟩
  · exact laid'.resize counted
  · rw [upserted]
    exact sound.sorted.upsert

/-- An insertion into a sound tree succeeds and binds the key. -/
theorem Sound.insert
    (sound : Sound tree shape)
    (key : Key)
    (value : Option Value) :
    ∃ tree' shape',
      tree.insert key value = some tree' ∧
        Sound tree' shape' ∧
        entries shape' = upsert key value (entries shape) := by
  have fresh : tree.allocated ∉ addresses shape := fun member =>
    Nat.lt_irrefl _ (sound.laid.allocated tree.allocated member)
  have allocated : Sound (tree.allocate (RBTree.newNode key value)) shape :=
    { sound with laid := sound.laid.allocate _ }
  have present :
      (tree.allocate (RBTree.newNode key value)).nodes tree.allocated = some
        (nodeOf .left .red none ⟨tree.allocated, key, value⟩ none none) :=
    RBTree.nodes_put_self
  rcases descend_spec allocated.laid allocated.sorted key with
    ⟨place, descended, located⟩
  cases located with
  | found trail color left right cell whole sameKey =>
      subst whole sameKey
      rcases allocated.replace value with
        ⟨tree', shape', stored, replaced, upserted⟩
      refine ⟨tree', shape', ?_, replaced, upserted⟩
      simp [RBTree.insert, descended, stored]
  | absent trail whole guided =>
      subst whole
      rcases allocated.add guided present fresh (Nat.lt_succ_self _) with
        ⟨attached, tree', shape', hung, fixed, added, upserted⟩
      refine ⟨_, shape', ?_, added, upserted⟩
      simp [RBTree.insert, descended, hung, fixed]

end Ordered

end AeroRisk.Rbtree
