import Mathlib.Algebra.Group.Nat.Defs
import Mathlib.Data.List.Basic
import Mathlib.Data.Nat.Log

/-!
# Red-black trees and their zippers

The trees carry entries of any type.  A node is written from either side: a
node joined on one side names its child there the near one.  A path leads from
a position up to the root, one step for each ancestor, and plugging a tree into
it gives the whole tree back.

Balance is stated for a tree together with the colour of its root and the
number of black nodes on the way to a leaf, and for a path with the colour and
the number which the tree in its hole has to have.
-/

namespace AeroRisk.Library.RedBlackTree

universe u

inductive Color where
  | red
  | black
deriving DecidableEq, Repr

inductive Side where
  | left
  | right
deriving DecidableEq, Repr

def Side.opposite : Side → Side
  | .left => .right
  | .right => .left

@[simp]
theorem Side.opposite_opposite (side : Side) :
    side.opposite.opposite = side := by
  cases side <;> rfl

theorem Side.eq_opposite_of_ne {side other : Side}
    (different : side ≠ other) : side = other.opposite := by
  cases side <;> cases other <;> first | rfl | exact absurd rfl different

inductive Tree (Entry : Type u) where
  | nil
  | node
      (color : Color)
      (left : Tree Entry)
      (entry : Entry)
      (right : Tree Entry)
deriving DecidableEq, Repr

variable {Entry : Type u}

namespace Tree

/-- The node whose child on the given side is `near`. -/
def join
    (side : Side)
    (color : Color)
    (near : Tree Entry)
    (entry : Entry)
    (far : Tree Entry) :
    Tree Entry :=
  match side with
  | .left => node color near entry far
  | .right => node color far entry near

@[simp]
theorem join_opposite
    (side : Side)
    (color : Color)
    (near far : Tree Entry)
    (entry : Entry) :
    join side.opposite color near entry far =
      join side color far entry near := by
  cases side <;> rfl

/-- The node seen from a given side. -/
theorem exists_join
    (side : Side)
    (color : Color)
    (left right : Tree Entry)
    (entry : Entry) :
    ∃ near far, node color left entry right =
      join side color near entry far := by
  cases side with
  | left => exact ⟨left, right, rfl⟩
  | right => exact ⟨right, left, rfl⟩

def rootColor : Tree Entry → Color
  | nil => .black
  | node color _ _ _ => color

/-- The entries from left to right. -/
def inorder : Tree Entry → List Entry
  | nil => []
  | node _ left entry right => inorder left ++ entry :: inorder right

/-- Paint the root black. -/
def blacken : Tree Entry → Tree Entry
  | nil => nil
  | node _ left entry right => node .black left entry right

/-- No red node has a red child. -/
def NoRedRed : Tree Entry → Prop
  | nil => True
  | node color left _ right =>
      (color = .red → left.rootColor = .black ∧ right.rootColor = .black) ∧
        NoRedRed left ∧ NoRedRed right

/-- The number of black nodes on each way from the root to a nil child. -/
def blackCounts : Tree Entry → List Nat
  | nil => [0]
  | node color left _ right =>
      (blackCounts left ++ blackCounts right).map
        (· + if color = .black then 1 else 0)

/-- The most nodes on a way from the root to a nil child. -/
def height : Tree Entry → Nat
  | nil => 0
  | node _ left _ right => max left.height right.height + 1

@[simp]
theorem inorder_nil : (nil : Tree Entry).inorder = [] :=
  rfl

@[simp]
theorem inorder_blacken (tree : Tree Entry) :
    tree.blacken.inorder = tree.inorder := by
  cases tree <;> rfl

theorem mem_inorder_join
    {side : Side}
    {color : Color}
    {near far : Tree Entry}
    {entry other : Entry} :
    other ∈ (join side color near entry far).inorder ↔
      other ∈ near.inorder ∨ other = entry ∨ other ∈ far.inorder := by
  cases side with
  | left => simp [join, inorder]
  | right =>
      simp only [join, inorder, List.mem_append, List.mem_cons]
      tauto

/-- The colours play no part in the order of the entries. -/
theorem inorder_join_congr
    (side : Side)
    (color other : Color)
    {near near' far far' : Tree Entry}
    (entry : Entry)
    (sameNear : near.inorder = near'.inorder)
    (sameFar : far.inorder = far'.inorder) :
    (join side color near entry far).inorder =
      (join side other near' entry far').inorder := by
  cases side <;> simp [join, inorder, sameNear, sameFar]

/-- A rotation keeps the order of the entries. -/
theorem inorder_rotate
    (side : Side)
    (upper lower upper' lower' : Color)
    (outer inner rest : Tree Entry)
    (entry pivot : Entry) :
    (join side upper outer entry
        (join side lower inner pivot rest)).inorder =
      (join side lower' (join side upper' outer entry inner)
        pivot rest).inorder := by
  cases side <;> simp [join, inorder]

end Tree

open AeroRisk.Library.RedBlackTree.Tree

/-! ## Paths -/

/-- An ancestor: the side its way goes down, and its other child. -/
structure Step (Entry : Type u) where
  side : Side
  color : Color
  entry : Entry
  sibling : Tree Entry

/-- The ancestors of a position, the nearest first. -/
abbrev Path (Entry : Type u) :=
  List (Step Entry)

/-- The tree of an ancestor whose child on the way is given. -/
def Step.close (step : Step Entry) (focus : Tree Entry) : Tree Entry :=
  join step.side step.color focus step.entry step.sibling

def plug : Path Entry → Tree Entry → Tree Entry
  | [], focus => focus
  | step :: rest, focus => plug rest (step.close focus)

/-- The entries to the left of the position. -/
def before : Path Entry → List Entry
  | [] => []
  | ⟨.left, _, _, _⟩ :: rest => before rest
  | ⟨.right, _, entry, sibling⟩ :: rest =>
      before rest ++ (sibling.inorder ++ [entry])

/-- The entries to the right of the position. -/
def after : Path Entry → List Entry
  | [] => []
  | ⟨.left, _, entry, sibling⟩ :: rest =>
      entry :: sibling.inorder ++ after rest
  | ⟨.right, _, _, _⟩ :: rest => after rest

theorem inorder_plug (path : Path Entry) (focus : Tree Entry) :
    (plug path focus).inorder =
      before path ++ focus.inorder ++ after path := by
  induction path generalizing focus with
  | nil => simp [plug, before, after]
  | cons step rest inductionHypothesis =>
      rcases step with ⟨side, color, entry, sibling⟩
      rw [plug, inductionHypothesis]
      cases side <;> simp [Step.close, join, inorder, before, after]

/-- The entries of a whole tree depend on those in the hole alone. -/
theorem inorder_plug_congr
    (path : Path Entry)
    {focus other : Tree Entry}
    (same : focus.inorder = other.inorder) :
    (plug path focus).inorder = (plug path other).inorder := by
  rw [inorder_plug, inorder_plug, same]

/-! ## Balance -/

/-- A red-black tree by the colour of its root and its black height. -/
inductive Balanced : Tree Entry → Color → Nat → Prop where
  | nil : Balanced .nil .black 0
  | red
      {left right : Tree Entry}
      {entry : Entry}
      {height : Nat}
      (leftBalanced : Balanced left .black height)
      (rightBalanced : Balanced right .black height) :
      Balanced (.node .red left entry right) .red height
  | black
      {left right : Tree Entry}
      {leftColor rightColor : Color}
      {entry : Entry}
      {height : Nat}
      (leftBalanced : Balanced left leftColor height)
      (rightBalanced : Balanced right rightColor height) :
      Balanced (.node .black left entry right) .black (height + 1)

namespace Balanced

variable {tree near far : Tree Entry}
variable {color nearColor farColor : Color}
variable {entry : Entry}
variable {height : Nat}

theorem rootColor_eq (balanced : Balanced tree color height) :
    tree.rootColor = color := by
  cases balanced <;> rfl

theorem joinRed (side : Side)
    (nearBalanced : Balanced near .black height)
    (farBalanced : Balanced far .black height) :
    Balanced (join side .red near entry far) .red height := by
  cases side with
  | left => exact .red nearBalanced farBalanced
  | right => exact .red farBalanced nearBalanced

theorem joinBlack (side : Side)
    (nearBalanced : Balanced near nearColor height)
    (farBalanced : Balanced far farColor height) :
    Balanced (join side .black near entry far) .black (height + 1) := by
  cases side with
  | left => exact .black nearBalanced farBalanced
  | right => exact .black farBalanced nearBalanced

/-- Below a red root both children are black. -/
theorem of_joinRed {side : Side}
    (balanced : Balanced (join side .red near entry far) color height) :
    color = .red ∧ Balanced near .black height ∧
      Balanced far .black height := by
  cases side with
  | left =>
      cases balanced with
      | red nearBalanced farBalanced =>
          exact ⟨rfl, nearBalanced, farBalanced⟩
  | right =>
      cases balanced with
      | red farBalanced nearBalanced =>
          exact ⟨rfl, nearBalanced, farBalanced⟩

/-- Below a black root the children have one black node less to a leaf. -/
theorem of_joinBlack {side : Side}
    (balanced : Balanced (join side .black near entry far) color height) :
    ∃ nearColor farColor lower, color = .black ∧ height = lower + 1 ∧
      Balanced near nearColor lower ∧ Balanced far farColor lower := by
  cases side with
  | left =>
      cases balanced with
      | black nearBalanced farBalanced =>
          exact ⟨_, _, _, rfl, rfl, nearBalanced, farBalanced⟩
  | right =>
      cases balanced with
      | black farBalanced nearBalanced =>
          exact ⟨_, _, _, rfl, rfl, nearBalanced, farBalanced⟩

/-- A red tree is a node with black children, seen from any side. -/
theorem exists_join_of_red (balanced : Balanced tree .red height)
    (side : Side) :
    ∃ near entry far, tree = join side .red near entry far ∧
      Balanced near .black height ∧ Balanced far .black height := by
  cases balanced with
  | @red left right entry _ leftBalanced rightBalanced =>
      rcases exists_join side .red left right entry with ⟨near, far, seen⟩
      rw [seen]
      have parts := @Balanced.red _ _ _ entry _ leftBalanced rightBalanced
      rw [seen] at parts
      exact ⟨near, entry, far, rfl, parts.of_joinRed.2⟩

/-- The entries play no part in the balance. -/
theorem of_entry {left right : Tree Entry} {rootColor : Color}
    (balanced : Balanced (.node rootColor left entry right) color height)
    (other : Entry) :
    Balanced (.node rootColor left other right) color height := by
  cases balanced with
  | red leftBalanced rightBalanced =>
      exact .red leftBalanced rightBalanced
  | black leftBalanced rightBalanced =>
      exact .black leftBalanced rightBalanced

/-- A tree is still balanced after its root has been painted black. -/
theorem blacken (balanced : Balanced tree color height) :
    ∃ height', Balanced tree.blacken .black height' := by
  cases balanced with
  | nil => exact ⟨_, .nil⟩
  | red leftBalanced rightBalanced =>
      exact ⟨_, .black leftBalanced rightBalanced⟩
  | black leftBalanced rightBalanced =>
      exact ⟨_, .black leftBalanced rightBalanced⟩

theorem blacken_of_red (balanced : Balanced tree .red height) :
    Balanced tree.blacken .black (height + 1) := by
  cases balanced with
  | red leftBalanced rightBalanced =>
      exact .black leftBalanced rightBalanced

theorem noRedRed (balanced : Balanced tree color height) :
    tree.NoRedRed := by
  induction balanced with
  | nil => trivial
  | red leftBalanced rightBalanced leftHypothesis rightHypothesis =>
      exact ⟨fun _ =>
        ⟨leftBalanced.rootColor_eq, rightBalanced.rootColor_eq⟩,
        leftHypothesis, rightHypothesis⟩
  | black _ _ leftHypothesis rightHypothesis =>
      exact ⟨fun isRed => Color.noConfusion isRed,
        leftHypothesis, rightHypothesis⟩

theorem blackCounts_eq (balanced : Balanced tree color height) :
    ∀ count ∈ tree.blackCounts, count = height := by
  induction balanced with
  | nil => simp [blackCounts]
  | red _ _ leftHypothesis rightHypothesis =>
      intro count member
      simp only [blackCounts, List.mem_map, List.mem_append] at member
      rcases member with ⟨lower, inLeft | inRight, rfl⟩
      · simp [leftHypothesis lower inLeft]
      · simp [rightHypothesis lower inRight]
  | black _ _ leftHypothesis rightHypothesis =>
      intro count member
      simp only [blackCounts, List.mem_map, List.mem_append] at member
      rcases member with ⟨lower, inLeft | inRight, rfl⟩
      · simp [leftHypothesis lower inLeft]
      · simp [rightHypothesis lower inRight]

/-- On every way there is at most one red node beside each black one. -/
theorem height_le (balanced : Balanced tree color height) :
    tree.height ≤ 2 * height + (if color = .red then 1 else 0) := by
  induction balanced with
  | nil => exact Nat.zero_le _
  | red _ _ leftHypothesis rightHypothesis =>
      rw [if_neg (by decide)] at leftHypothesis rightHypothesis
      rw [Tree.height, if_pos rfl]
      omega
  | black _ _ leftHypothesis rightHypothesis =>
      rw [Tree.height, if_neg (by decide)]
      split at leftHypothesis <;> split at rightHypothesis <;> omega

/-- The black nodes alone make the tree as large as a complete one. -/
theorem two_pow_le (balanced : Balanced tree color height) :
    2 ^ height ≤ tree.inorder.length + 1 := by
  induction balanced with
  | nil => exact Nat.le_refl 1
  | red _ _ leftHypothesis rightHypothesis =>
      simp only [inorder, List.length_append, List.length_cons]
      omega
  | black _ _ leftHypothesis rightHypothesis =>
      simp only [inorder, List.length_append, List.length_cons, Nat.pow_succ]
      omega

/-- A red-black tree is at most twice as high as a complete one. -/
theorem height_le_log (balanced : Balanced tree .black height) :
    tree.height ≤ 2 * Nat.log 2 (tree.inorder.length + 1) := by
  have blackHeight : height ≤ Nat.log 2 (tree.inorder.length + 1) :=
    Nat.le_log_of_pow_le Nat.one_lt_two balanced.two_pow_le
  have twice := balanced.height_le
  rw [if_neg (by decide)] at twice
  omega

end Balanced

/--
A path whose hole takes a tree with the given root colour and black height.
The whole tree has a black root.
-/
inductive Fits : Path Entry → Color → Nat → Prop where
  | root {height : Nat} : Fits [] .black height
  | red
      {side : Side}
      {entry : Entry}
      {sibling : Tree Entry}
      {rest : Path Entry}
      {height : Nat}
      (siblingBalanced : Balanced sibling .black height)
      (restFits : Fits rest .red height) :
      Fits (⟨side, .red, entry, sibling⟩ :: rest) .black height
  | black
      {side : Side}
      {entry : Entry}
      {sibling : Tree Entry}
      {rest : Path Entry}
      {color siblingColor : Color}
      {height : Nat}
      (siblingBalanced : Balanced sibling siblingColor height)
      (restFits : Fits rest .black (height + 1)) :
      Fits (⟨side, .black, entry, sibling⟩ :: rest) color height

namespace Fits

variable {path rest : Path Entry}
variable {focus sibling : Tree Entry}
variable {side : Side}
variable {color : Color}
variable {entry : Entry}
variable {height : Nat}

/-- A fitting tree completes the path to a red-black tree. -/
theorem balanced_plug (fits : Fits path color height)
    (balanced : Balanced focus color height) :
    ∃ height', Balanced (plug path focus) .black height' := by
  induction fits generalizing focus with
  | root => exact ⟨_, balanced⟩
  | red siblingBalanced _ inductionHypothesis =>
      exact inductionHypothesis (balanced.joinRed _ siblingBalanced)
  | black siblingBalanced _ inductionHypothesis =>
      exact inductionHypothesis (balanced.joinBlack _ siblingBalanced)

/-- In a red-black tree every position has a fitting path. -/
theorem of_plug {height' : Nat}
    (balanced :
      Balanced (plug path focus) .black height') :
    ∃ color height, Fits path color height ∧
      Balanced focus color height := by
  induction path generalizing focus with
  | nil => exact ⟨_, _, .root, balanced⟩
  | cons step rest inductionHypothesis =>
      rcases step with ⟨side, stepColor, entry, sibling⟩
      rcases inductionHypothesis balanced with
        ⟨color, height, restFits, closed⟩
      cases stepColor with
      | red =>
          rcases closed.of_joinRed with
            ⟨rfl, focusBalanced, siblingBalanced⟩
          exact ⟨_, _, .red siblingBalanced restFits, focusBalanced⟩
      | black =>
          rcases closed.of_joinBlack with
            ⟨_, _, lower, rfl, rfl, focusBalanced, siblingBalanced⟩
          exact ⟨_, _, .black siblingBalanced restFits, focusBalanced⟩

/-- A black ancestor takes a child of either colour. -/
theorem recolor (other : Color)
    (fits : Fits (⟨side, .black, entry, sibling⟩ :: rest) color height) :
    Fits (⟨side, .black, entry, sibling⟩ :: rest) other height := by
  cases fits with
  | black siblingBalanced restFits =>
      exact .black siblingBalanced restFits

/-- Above a red ancestor there is a black one. -/
theorem exists_grandparent
    (fits : Fits (⟨side, .red, entry, sibling⟩ :: rest) color height) :
    Balanced sibling .black height ∧
      ∃ upper grandparent uncle uncleColor above,
        rest = ⟨upper, .black, grandparent, uncle⟩ :: above ∧
          Balanced uncle uncleColor height ∧
          Fits above .black (height + 1) := by
  cases fits with
  | red siblingBalanced restFits =>
      cases restFits with
      | black uncleBalanced aboveFits =>
          exact ⟨siblingBalanced, _, _, _, _, _, rfl, uncleBalanced,
            aboveFits⟩

end Fits

end AeroRisk.Library.RedBlackTree
