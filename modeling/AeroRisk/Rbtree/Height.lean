import AeroRisk.Rbtree.Contents
import Mathlib.Data.List.ReduceOption

/-!
# The height of the tree

The ways from the root down to a nil pointer are short, and so are the
descents of a search and of an insertion, which follow one of them.  A descent
compares its key once with the key of every node on its way.
-/

namespace AeroRisk.Rbtree

open AeroRisk.Library
open AeroRisk.Library.RedBlackTree
open AeroRisk.Library.SortedEntries

variable {Key Value : Type}

/-- A way of pointers down to nil, with the number of its nodes. -/
inductive RBTree.Way (tree : RBTree Key Value) : Pointer → Nat → Prop where
  | nil : Way tree none 0
  | down
      {address : Address}
      {node : Node Key Value}
      {length : Nat}
      (side : Side)
      (present : tree.nodes address = some node)
      (below : Way tree (node.child side) length) :
      Way tree (some address) (length + 1)

section Descents

variable [LinearOrder Key]

/-- The nodes with whose keys a search compares its key. -/
def RBTree.searchCompared (tree : RBTree Key Value) (key : Key) :
    List Address :=
  (FallibleLoop.trace (tree.searchRound key) (tree.allocated + 1)
    tree.root).reduceOption

/-- The nodes with whose keys the descent of an insertion does. -/
def RBTree.insertCompared (tree : RBTree Key Value) (key : Key)
    (value : Option Value) : List Address :=
  let tree := tree.allocate (newNode key value)
  ((FallibleLoop.trace (tree.descendRound key) (tree.allocated + 1)
    (none, tree.root)).map Prod.snd).reduceOption

end Descents

variable {tree : RBTree Key Value}
variable {shape : Shape Key Value}
variable {parent : Pointer}

/-- A way through a shape has at most as many nodes as the shape is high. -/
theorem Holds.way_le {length : Nat}
    (held : Holds tree.nodes parent shape)
    (way : tree.Way (rootPointer shape) length) :
    length ≤ shape.height := by
  induction shape generalizing parent length with
  | nil =>
      cases way
      exact Nat.le_refl 0
  | node color left cell right leftHypothesis rightHypothesis =>
      rcases held with ⟨isHeld, leftHeld, rightHeld⟩
      cases way with
      | down side present below =>
          rw [isHeld] at present
          cases present
          rw [RedBlackTree.Tree.height]
          cases side with
          | left =>
              have bound := leftHypothesis leftHeld below
              omega
          | right =>
              have bound := rightHypothesis rightHeld below
              omega

variable [LinearOrder Key]

/-- The descent of an insertion goes through the nodes of a search. -/
theorem trace_descendRound
    (tree : RBTree Key Value)
    (key : Key)
    (bound : Nat)
    (parent current : Pointer) :
    (FallibleLoop.trace (tree.descendRound key) bound
        (parent, current)).map Prod.snd =
      FallibleLoop.trace (tree.searchRound key) bound current := by
  induction bound generalizing parent current with
  | zero => rfl
  | succ bound inductionHypothesis =>
      cases current with
      | none => rfl
      | some address =>
          cases present : tree.nodes address with
          | none =>
              simp [FallibleLoop.trace, RBTree.searchRound,
                RBTree.descendRound, present]
          | some node =>
              by_cases smaller : key < node.key
              · simp [FallibleLoop.trace, RBTree.searchRound,
                  RBTree.descendRound, present, smaller,
                  inductionHypothesis (some address)]
              · by_cases larger : node.key < key
                · simp [FallibleLoop.trace, RBTree.searchRound,
                    RBTree.descendRound, present, smaller, larger,
                    inductionHypothesis (some address)]
                · simp [FallibleLoop.trace, RBTree.searchRound,
                    RBTree.descendRound, present, smaller, larger]

/-- A search goes through at most as many nodes as the shape is high. -/
theorem Holds.trace_le
    (held : Holds tree.nodes parent shape)
    (key : Key)
    (bound : Nat) :
    (FallibleLoop.trace (tree.searchRound key) bound
        (rootPointer shape)).reduceOption.length ≤
      shape.height := by
  induction shape generalizing parent bound with
  | nil =>
      cases bound with
      | zero => exact Nat.le_refl 0
      | succ bound => exact Nat.le_refl 0
  | node color left cell right leftHypothesis rightHypothesis =>
      rcases held with ⟨present, leftHeld, rightHeld⟩
      rw [RedBlackTree.Tree.height, rootPointer]
      cases bound with
      | zero => exact Nat.zero_le _
      | succ bound =>
          by_cases smaller : key < cell.key
          · have step :
                tree.searchRound key (some cell.address) =
                  some (.inl (rootPointer left)) := by
              simp [RBTree.searchRound, present, smaller, left_nodeOf_left]
            have below := leftHypothesis leftHeld bound
            simp only [FallibleLoop.trace, step,
              List.reduceOption_cons_of_some, List.length_cons]
            omega
          · by_cases larger : cell.key < key
            · have step :
                  tree.searchRound key (some cell.address) =
                    some (.inl (rootPointer right)) := by
                simp [RBTree.searchRound, present, smaller, larger, nodeOf]
              have below := rightHypothesis rightHeld bound
              simp only [FallibleLoop.trace, step,
                List.reduceOption_cons_of_some, List.length_cons]
              omega
            · have step :
                  tree.searchRound key (some cell.address) =
                    some (.inr cell.value) := by
                simp [RBTree.searchRound, present, smaller, larger, nodeOf]
              simp only [FallibleLoop.trace, step,
                List.reduceOption_cons_of_some, List.length_cons,
                List.reduceOption_nil, List.length_nil]
              omega

/--
After any insertions a way from the root to nil has at most `2 * log2 (n + 1)`
nodes, where `n` is the number of different keys, and a search or the descent
of one more insertion compares its key with the keys of at most as many.
-/
theorem logarithmic_height (calls : List (Key × Option Value)) :
    ∃ tree, insertAll calls = some tree ∧
      let most := 2 * Nat.log 2 ((calls.map Prod.fst).dedup.length + 1)
      (∀ length, tree.Way tree.root length → length ≤ most) ∧
        (∀ key, (tree.searchCompared key).length ≤ most) ∧
        ∀ key value, (tree.insertCompared key value).length ≤ most := by
  rcases insertAll_sound calls with
    ⟨tree, shape, inserted, sound, sameEntries⟩
  have sized : shape.inorder.length = (calls.map Prod.fst).dedup.length := by
    rw [← length_upsertAll, ← sameEntries, entries, List.length_map]
  have low :
      shape.height ≤
        2 * Nat.log 2 ((calls.map Prod.fst).dedup.length + 1) := by
    rcases sound.balanced with ⟨height, balanced⟩
    rw [← sized]
    exact balanced.height_le_log
  refine ⟨tree, inserted, ?_, ?_, ?_⟩
  · intro length way
    rw [sound.laid.trailHeld] at way
    exact (sound.laid.focusHeld.way_le way).trans low
  · intro key
    rw [RBTree.searchCompared, sound.laid.trailHeld]
    exact (sound.laid.focusHeld.trace_le key _).trans low
  · intro key value
    have laid := sound.laid.allocate (RBTree.newNode key value)
    rw [RBTree.insertCompared, trace_descendRound, laid.trailHeld]
    exact (laid.focusHeld.trace_le key _).trans low

end AeroRisk.Rbtree
