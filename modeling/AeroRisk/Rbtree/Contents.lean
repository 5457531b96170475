import AeroRisk.Rbtree.Invariants

/-!
# The tree is a map

A search goes down like an insertion and reads the value where it ends.  The
tree after a sequence of insertions therefore answers with the last value of
every key, and its size is the number of different keys.
-/

namespace AeroRisk.Rbtree

open AeroRisk.Library
open AeroRisk.Library.RedBlackTree
open AeroRisk.Library.SortedEntries

variable {Key Value : Type}
variable [LinearOrder Key]
variable {tree : RBTree Key Value}
variable {shape : Shape Key Value}

/-- What a search returns where the descent of its key ends. -/
def RBTree.valueAt (tree : RBTree Key Value) :
    RBTree.Place → Option (Option Value)
  | .found node => (tree.load node).map Node.value
  | .absent _ => some none

/-- A search is a descent. -/
theorem run_searchRound
    (tree : RBTree Key Value)
    (key : Key)
    (bound : Nat)
    (parent current : Pointer) :
    FallibleLoop.run (tree.searchRound key) bound current =
      (FallibleLoop.run (tree.descendRound key) bound
        (parent, current)).bind tree.valueAt := by
  induction bound generalizing parent current with
  | zero => rfl
  | succ bound inductionHypothesis =>
      cases current with
      | none => rfl
      | some address =>
          cases present : tree.nodes address with
          | none =>
              simp [FallibleLoop.run, RBTree.searchRound,
                RBTree.descendRound, present]
          | some node =>
              by_cases smaller : key < node.key
              · simp [FallibleLoop.run, RBTree.searchRound,
                  RBTree.descendRound, present, smaller,
                  inductionHypothesis (some address)]
              · by_cases larger : node.key < key
                · simp [FallibleLoop.run, RBTree.searchRound,
                    RBTree.descendRound, present, smaller, larger,
                    inductionHypothesis (some address)]
                · simp [FallibleLoop.run, RBTree.searchRound,
                    RBTree.descendRound, present, smaller, larger,
                    RBTree.valueAt, RBTree.load_eq present]

/-- A search in a sound tree returns the value of the key, or nil. -/
theorem Sound.search (sound : Sound tree shape) (key : Key) :
    ∃ found : Option (Option Value),
      tree.search key = some (found.getD none) ∧
        ∀ value, (key, value) ∈ entries shape ↔ found = some value := by
  rcases descend_spec sound.laid sound.sorted key with
    ⟨place, descended, located⟩
  have searched : tree.search key = tree.valueAt place := by
    rw [RBTree.search, run_searchRound tree key _ none, descended,
      Option.bind_some]
  cases located with
  | found trail color left right cell whole sameKey =>
      subst whole sameKey
      have present := (laid_plug.2 sound.laid).focusHeld.1
      have member : (cell.key, cell.value) ∈
          entries (plug trail (.node color left cell right)) := by
        rw [entries_plug, entries_node]
        simp [Cell.entry]
      refine ⟨some cell.value, ?_, fun value => ?_⟩
      · rw [searched, RBTree.valueAt, RBTree.load_eq present]
        rfl
      · constructor
        · exact fun other =>
            congrArg some (sound.sorted.value_unique member other)
        · intro same
          cases same
          exact member
  | absent trail whole guided =>
      subst whole
      refine ⟨none, searched, fun value => iff_of_false ?_ ?_⟩
      · intro member
        rw [entries_plug] at member
        rcases List.mem_append.1 member with inFront | inAfter
        · rcases List.mem_append.1 inFront with inBefore | inLeaf
          · rcases List.mem_map.1 inBefore with ⟨cell, inTrail, isCell⟩
            exact (guided.1 cell inTrail).ne (congrArg Prod.fst isCell)
          · cases inLeaf
        · rcases List.mem_map.1 inAfter with ⟨cell, inTrail, isCell⟩
          exact (guided.2 cell inTrail).ne' (congrArg Prod.fst isCell)
      · exact fun same => by cases same

/--
After any insertions a search returns the last value of its key, or nil if the
key was never inserted, and the size is the number of different keys.
-/
theorem insertions_form_map (calls : List (Key × Option Value)) :
    ∃ tree, insertAll calls = some tree ∧
      (∀ key, tree.search key = some ((lastBinding calls key).getD none)) ∧
      tree.size = (calls.map Prod.fst).dedup.length := by
  rcases insertAll_sound calls with
    ⟨tree, shape, inserted, sound, sameEntries⟩
  refine ⟨tree, inserted, fun key => ?_, ?_⟩
  · rcases sound.search key with ⟨found, searched, binds⟩
    have last : found = lastBinding calls key := by
      ext value
      rw [← mem_upsertAll, ← sameEntries, binds]
    rw [searched, last]
  · rw [sound.laid.counted, ← length_upsertAll, ← sameEntries, entries,
      List.length_map]

/-- A key of type `uint64` which is inserted twice. -/
example :
    ((insertAll [((5 : UInt64), some 1), (3, none), (5, some 2)]).bind
      fun tree => tree.search 5) = some (some 2) := by
  decide

end AeroRisk.Rbtree
