import AeroRisk.Rbtree.Insertion

/-!
# The invariants of the red-black tree

Every sequence of insertions into a new tree succeeds, and the tree it leads to
is a sorted red-black tree.
-/

namespace AeroRisk.Rbtree

open AeroRisk.Library.RedBlackTree
open AeroRisk.Library.SortedEntries

variable {Key Value : Type}

/-- The shape which the pointers of a tree describe. -/
structure Represents (tree : RBTree Key Value)
    (shape : Shape Key Value) : Prop where
  root : tree.root = rootPointer shape
  held : Holds tree.nodes none shape
  distinct : (addresses shape).Nodup

theorem Holds.unique
    {nodes : Address → Option (Node Key Value)}
    {parent : Pointer}
    {shape other : Shape Key Value}
    (held : Holds nodes parent shape)
    (otherHeld : Holds nodes parent other)
    (sameRoot : rootPointer shape = rootPointer other) : shape = other := by
  induction shape generalizing parent other with
  | nil =>
      cases other with
      | nil => rfl
      | node => cases sameRoot
  | node color left cell right leftHypothesis rightHypothesis =>
      cases other with
      | nil => cases sameRoot
      | node otherColor otherLeft otherCell otherRight =>
          have sameAddress : cell.address = otherCell.address :=
            Option.some.inj sameRoot
          rcases held with ⟨present, leftHeld, rightHeld⟩
          rcases otherHeld with ⟨otherPresent, otherLeftHeld, otherRightHeld⟩
          rw [← sameAddress] at otherPresent otherLeftHeld otherRightHeld
          rw [present] at otherPresent
          have sameNode := Node.mk.inj (Option.some.inj otherPresent)
          rcases sameNode with
            ⟨sameKey, sameValue, rfl, sameLeft, sameRight, _⟩
          rw [leftHypothesis leftHeld otherLeftHeld sameLeft,
            rightHypothesis rightHeld otherRightHeld sameRight]
          cases cell
          cases otherCell
          cases sameAddress
          cases sameKey
          cases sameValue
          rfl

/-- The pointers of a tree describe one shape only. -/
theorem Represents.unique
    {tree : RBTree Key Value}
    {shape other : Shape Key Value}
    (represents : Represents tree shape)
    (otherRepresents : Represents tree other) : shape = other :=
  represents.held.unique otherRepresents.held
    (represents.root.symm.trans otherRepresents.root)

/-- A binary search tree with the red-black properties. -/
structure RedBlack [LinearOrder Key] (shape : Shape Key Value) : Prop where
  increasing : (shape.inorder.map Cell.key).Pairwise (· < ·)
  rootBlack : shape.rootColor = .black
  noRedRed : shape.NoRedRed
  sameBlackCount : ∃ count, ∀ other ∈ shape.blackCounts, other = count

section Runs

variable [LinearOrder Key]
variable {tree : RBTree Key Value}
variable {shape : Shape Key Value}

theorem Sound.represents (sound : Sound tree shape) :
    Represents tree shape where
  root := sound.laid.trailHeld
  held := sound.laid.focusHeld
  distinct := sound.laid.distinct

theorem Sound.redBlack (sound : Sound tree shape) : RedBlack shape := by
  rcases sound.balanced with ⟨height, balanced⟩
  exact {
    increasing := by
      have sorted := sound.sorted
      rwa [Sorted, entries, List.map_map] at sorted
    rootBlack := balanced.rootColor_eq
    noRedRed := balanced.noRedRed
    sameBlackCount := ⟨height, balanced.blackCounts_eq⟩
  }

theorem insertAll_concat
    (calls : List (Key × Option Value))
    (call : Key × Option Value) :
    insertAll (calls ++ [call]) =
      (insertAll calls).bind fun tree => tree.insert call.1 call.2 := by
  simp [insertAll, List.foldlM_append]

/-- Insertions build the sorted list of the last values. -/
theorem insertAll_sound (calls : List (Key × Option Value)) :
    ∃ tree shape, insertAll calls = some tree ∧ Sound tree shape ∧
      entries shape = upsertAll calls [] := by
  induction calls using List.reverseRecOn with
  | nil => exact ⟨newRBTree, .nil, rfl, .initial, rfl⟩
  | append_singleton earlier call inductionHypothesis =>
      rcases inductionHypothesis with
        ⟨tree, shape, inserted, sound, sameEntries⟩
      rcases sound.insert call.1 call.2 with
        ⟨tree', shape', executed, sound', upserted⟩
      refine ⟨tree', shape', ?_, sound', ?_⟩
      · rw [insertAll_concat, inserted, Option.bind_some, executed]
      · rw [upserted, sameEntries, upsertAll_concat]

/--
Insertions always succeed, and the tree they lead to is a binary search tree
with a black root, without a red child of a red node, and with the same number
of black nodes on all paths to a nil child.
-/
theorem red_black_invariants (calls : List (Key × Option Value)) :
    ∃ tree shape, insertAll calls = some tree ∧
      Represents tree shape ∧ RedBlack shape := by
  rcases insertAll_sound calls with ⟨tree, shape, inserted, sound, _⟩
  exact ⟨tree, shape, inserted, sound.represents, sound.redBlack⟩

end Runs

end AeroRisk.Rbtree
