import AeroRisk.Orderbook.Refinement

/-!
# The invariant of the books

A session submits every order object once.  The books it reaches are then
sound: only quantities differ from the objects as created, and only for
submitted ones; every queued order rests at its own place, once, with a
positive quantity.

Each operation is described first by what it does to one order, and the
invariant is carried through trades, resting and cancelling separately.
-/

namespace AeroRisk.Orderbook

open AeroRisk.Financial
open AeroRisk.Library

namespace Books

/-! ## One trade -/

section Trade

variable (heap : Heap) (order resting other : OrderPtr)

@[simp]
theorem heapAfter_id :
    (heapAfter heap order resting other).id = (heap other).id := by
  simp [heapAfter]

@[simp]
theorem heapAfter_symbol :
    (heapAfter heap order resting other).symbol = (heap other).symbol := by
  simp [heapAfter]

@[simp]
theorem heapAfter_side :
    (heapAfter heap order resting other).side = (heap other).side := by
  simp [heapAfter]

@[simp]
theorem heapAfter_price :
    (heapAfter heap order resting other).price = (heap other).price := by
  simp [heapAfter]

@[simp]
theorem tradeOf_price :
    (tradeOf heap order resting).price = (heap resting).price :=
  rfl

@[simp]
theorem tradeOf_quantity :
    (tradeOf heap order resting).quantity =
      tradedQuantity heap order resting :=
  rfl

variable {order resting other}

theorem heapAfter_of_ne (notOrder : other ≠ order)
    (notResting : other ≠ resting) :
    heapAfter heap order resting other = heap other := by
  simp [heapAfter, notOrder, notResting]

theorem heapAfter_order (distinct : order ≠ resting) :
    (heapAfter heap order resting order).quantity =
      (heap order).quantity - tradedQuantity heap order resting := by
  simp [heapAfter, distinct]

theorem heapAfter_resting (distinct : order ≠ resting) :
    (heapAfter heap order resting resting).quantity =
      (heap resting).quantity - tradedQuantity heap order resting := by
  simp [heapAfter, distinct.symm]

/-- An order is used up by a resting order which has enough. -/
theorem heapAfter_order_filled (distinct : order ≠ resting)
    (enough : (heap order).quantity ≤ (heap resting).quantity) :
    (heapAfter heap order resting order).quantity = 0 := by
  have traded :
      tradedQuantity heap order resting = (heap order).quantity := by
    rw [← Int64.toInt_inj, tradedQuantity, minQuantity_toInt]
    exact min_eq_left (Int64.le_iff_toInt_le.mp enough)
  rw [heapAfter_order heap distinct, traded, Int64.sub_self]

/-- A resting order is used up by an order which has enough. -/
theorem heapAfter_resting_filled (distinct : order ≠ resting)
    (enough : (heap resting).quantity ≤ (heap order).quantity) :
    (heapAfter heap order resting resting).quantity = 0 := by
  have traded :
      tradedQuantity heap order resting = (heap resting).quantity := by
    rw [← Int64.toInt_inj, tradedQuantity, minQuantity_toInt]
    exact min_eq_right (Int64.le_iff_toInt_le.mp enough)
  rw [heapAfter_resting heap distinct, traded, Int64.sub_self]

theorem tradedQuantity_pos (orderPos : 0 < (heap order).quantity)
    (restingPos : 0 < (heap resting).quantity) :
    0 < tradedQuantity heap order resting :=
  minQuantity_pos orderPos restingPos

/-- What an incoming order keeps, as an exact integer. -/
theorem heapAfter_order_toInt (distinct : order ≠ resting)
    (orderPos : 0 < (heap order).quantity)
    (restingPos : 0 < (heap resting).quantity) :
    (heapAfter heap order resting order).quantity.toInt =
      (heap order).quantity.toInt -
        (tradedQuantity heap order resting).toInt := by
  rw [heapAfter_order heap distinct]
  exact toInt_sub_of_le
    (Int64.le_of_lt (tradedQuantity_pos heap orderPos restingPos))
    (minQuantity_le_left _ _)

/-- What a resting order keeps, as an exact integer. -/
theorem heapAfter_resting_toInt (distinct : order ≠ resting)
    (orderPos : 0 < (heap order).quantity)
    (restingPos : 0 < (heap resting).quantity) :
    (heapAfter heap order resting resting).quantity.toInt =
      (heap resting).quantity.toInt -
        (tradedQuantity heap order resting).toInt := by
  rw [heapAfter_resting heap distinct]
  exact toInt_sub_of_le
    (Int64.le_of_lt (tradedQuantity_pos heap orderPos restingPos))
    (minQuantity_le_right _ _)

/-- A traded order keeps a non-negative quantity. -/
theorem heapAfter_nonneg (distinct : order ≠ resting)
    (orderPos : 0 < (heap order).quantity)
    (restingPos : 0 < (heap resting).quantity) :
    0 ≤ (heapAfter heap order resting order).quantity ∧
      0 ≤ (heapAfter heap order resting resting).quantity := by
  have traded := minQuantity_toInt (heap order).quantity (heap resting).quantity
  constructor
  · rw [← toInt_nonneg,
      heapAfter_order_toInt heap distinct orderPos restingPos, tradedQuantity]
    omega
  · rw [← toInt_nonneg,
      heapAfter_resting_toInt heap distinct orderPos restingPos,
      tradedQuantity]
    omega

end Trade

/-- Everything which meeting a counterparty says about the books. -/
theorem counterparty_spec {books : Books} {order resting : OrderPtr}
    (found : books.counterparty order = some resting) :
    (books.frontPlace order).side.Crosses (books.frontPlace order).price
        (books.heap order).price ∧
      0 < (books.heap order).quantity ∧
      (books.frontPlace order).price ≠ -1 ∧
      ∃ others, books.queue (books.frontPlace order) = resting :: others := by
  rw [counterparty] at found
  split at found
  · next condition =>
      rw [Half.front] at found
      split at found
      · cases found
      · next cached =>
          exact ⟨condition.1, condition.2, cached,
            List.head?_eq_some_iff.mp found⟩
  · cases found

/-- A counterparty is the first order at the cached best price. -/
theorem front_of_counterparty {books : Books} {order resting : OrderPtr}
    (found : books.counterparty order = some resting) :
    (books.oppositeHalf order).front = some resting := by
  rw [counterparty] at found
  split at found
  · exact found
  · cases found

theorem mem_of_counterparty {books : Books} {order resting : OrderPtr}
    (found : books.counterparty order = some resting) :
    resting ∈ books.queue (books.frontPlace order) := by
  obtain ⟨-, -, -, others, queue⟩ := counterparty_spec found
  simp [queue]

theorem queue_execute_sublist (books : Books) (order resting : OrderPtr)
    (place : Place) :
    ((books.execute order resting).queue place).Sublist
      (books.queue place) := by
  rw [queue_execute]
  split
  · exact List.tail_sublist _
  · exact List.Sublist.refl _

theorem queue_cancel_sublist (books : Books) (symbol : Symbol)
    (orderID : UInt64) (side : Side) (price : Price) (place : Place) :
    ((books.next (.cancel symbol orderID side price)).queue place).Sublist
      (books.queue place) := by
  rw [queue_cancel]
  split
  · exact List.eraseP_sublist
  · exact List.Sublist.refl _

theorem queue_matched_sublist (books : Books) (order : OrderPtr)
    (place : Place) :
    ((books.matched order).queue place).Sublist (books.queue place) := by
  rw [Books.matched]
  cases books.counterparty order with
  | none => exact List.Sublist.refl _
  | some resting => exact queue_execute_sublist books order resting place

/-! ## Anchored books -/

/--
Of the order objects `orders` only the quantities changed, and every queued
order rests at its own place.
-/
structure Anchored (orders : Heap) (books : Books) : Prop where
  onlyQuantity :
    ∀ order,
      books.heap order =
        { orders order with quantity := (books.heap order).quantity }
  placed :
    ∀ place order, order ∈ books.queue place → (orders order).place = place

namespace Anchored

variable {orders : Heap} {books : Books}

theorem initial (orders : Heap) : Anchored orders (initial orders) where
  onlyQuantity := fun _ => rfl
  placed := by simp [queue, Books.initial, Half.empty]

section Fields

variable (anchored : Anchored orders books) (order : OrderPtr)
include anchored

theorem id_eq : (books.heap order).id = (orders order).id := by
  rw [anchored.onlyQuantity order]

theorem symbol_eq : (books.heap order).symbol = (orders order).symbol := by
  rw [anchored.onlyQuantity order]

theorem side_eq : (books.heap order).side = (orders order).side := by
  rw [anchored.onlyQuantity order]

theorem price_eq : (books.heap order).price = (orders order).price := by
  rw [anchored.onlyQuantity order]

theorem place_eq : (books.heap order).place = (orders order).place := by
  rw [Order.place, anchored.symbol_eq, anchored.side_eq, anchored.price_eq]
  rfl

end Fields

/-- A heap which agrees with the objects except in quantities. -/
theorem onlyQuantity_of_fields {orders heap : Heap} {order : OrderPtr}
    (id : (heap order).id = (orders order).id)
    (symbol : (heap order).symbol = (orders order).symbol)
    (side : (heap order).side = (orders order).side)
    (price : (heap order).price = (orders order).price) :
    heap order = { orders order with quantity := (heap order).quantity } := by
  simp only [← id, ← symbol, ← side, ← price]

theorem execute (anchored : Anchored orders books)
    (order resting : OrderPtr) :
    Anchored orders (books.execute order resting) where
  onlyQuantity := fun other =>
    onlyQuantity_of_fields
      (by simp [anchored.id_eq]) (by simp [anchored.symbol_eq])
      (by simp [anchored.side_eq]) (by simp [anchored.price_eq])
  placed := fun place other member =>
    anchored.placed place other
      ((queue_execute_sublist books order resting place).subset member)

theorem matched (anchored : Anchored orders books) (order : OrderPtr) :
    Anchored orders (books.matched order) := by
  rw [Books.matched]
  cases books.counterparty order with
  | none => exact anchored
  | some resting => exact anchored.execute order resting

/-- An order comes to rest at its own place. -/
theorem rested (anchored : Anchored orders books) (order : OrderPtr) :
    Anchored orders (books.rested order) where
  onlyQuantity := by
    rw [heap_rested]
    exact anchored.onlyQuantity
  placed := by
    intro place other member
    rw [queue_rested] at member
    split at member
    · next remains =>
        rcases List.mem_append.mp member with before | isOrder
        · exact anchored.placed place other before
        · rw [List.mem_singleton.mp isOrder, remains.2, anchored.place_eq]
    · exact anchored.placed place other member

theorem cancel (anchored : Anchored orders books) (symbol : Symbol)
    (orderID : UInt64) (side : Side) (price : Price) :
    Anchored orders
      (books.next (.cancel symbol orderID side price)) where
  onlyQuantity := anchored.onlyQuantity
  placed := fun place other member =>
    anchored.placed place other
      ((queue_cancel_sublist books symbol orderID side price place).subset
        member)

theorem next (anchored : Anchored orders books) (call : Call) :
    Anchored orders (books.next call) := by
  cases call with
  | submit order => exact (anchored.matched order).rested order
  | cancel symbol orderID side price =>
      exact anchored.cancel symbol orderID side price

/-- The books of every run are anchored in the order objects it works on. -/
theorem run (orders : Heap) (calls : List Call) :
    Anchored orders
      (LabelledRun.run Books.next (Books.initial orders) calls) :=
  LabelledRun.run_invariant_of_every
    (fun _ call anchored => anchored.next call) calls (initial orders)

/-- An order meets an order of the other side, so not itself. -/
theorem ne_counterparty (anchored : Anchored orders books)
    {order resting : OrderPtr}
    (found : books.counterparty order = some resting) : order ≠ resting := by
  rintro rfl
  have placed := anchored.placed _ _ (mem_of_counterparty found)
  rw [← anchored.place_eq] at placed
  exact BookSide.ne_opposite _ (congrArg Place.side placed)

end Anchored

/-! ## Sound books -/

/--
The books `books`, reached from the order objects `orders` after submitting
the objects `seen`, are sound.
-/
structure Sound (orders : Heap) (seen : List OrderPtr) (books : Books) : Prop
    extends Anchored orders books where
  untouched : ∀ order, order ∉ seen → books.heap order = orders order
  queuedSeen : ∀ place order, order ∈ books.queue place → order ∈ seen
  nodup : ∀ place, (books.queue place).Nodup
  positive :
    ∀ place order, order ∈ books.queue place →
      0 < (books.heap order).quantity

namespace Sound

variable {orders : Heap} {seen : List OrderPtr} {books : Books}

theorem initial (orders : Heap) : Sound orders [] (initial orders) where
  toAnchored := Anchored.initial orders
  untouched := fun _ _ => rfl
  queuedSeen := by simp [queue, Books.initial, Half.empty]
  nodup := by simp [queue, Books.initial, Half.empty]
  positive := by simp [queue, Books.initial, Half.empty]

theorem not_queued (sound : Sound orders seen books) {order : OrderPtr}
    (fresh : order ∉ seen) (place : Place) : order ∉ books.queue place :=
  fun member => fresh (sound.queuedSeen place order member)

/-- With distinct IDs a queue holds at most one order with a given ID. -/
theorem unique_id (sound : Sound orders seen books)
    (injective :
      ∀ first ∈ seen, ∀ second ∈ seen,
        (orders first).id = (orders second).id → first = second)
    (orderID : UInt64) (place : Place) :
    ∀ first ∈ books.queue place, ∀ second ∈ books.queue place,
      ((books.heap first).id == orderID) = true →
        ((books.heap second).id == orderID) = true → first = second := by
  intro first firstMember second secondMember firstID secondID
  apply injective first (sound.queuedSeen place first firstMember)
    second (sound.queuedSeen place second secondMember)
  rw [← sound.id_eq first, ← sound.id_eq second, beq_iff_eq.mp firstID,
    beq_iff_eq.mp secondID]

theorem counterparty_pos (sound : Sound orders seen books)
    {order resting : OrderPtr}
    (found : books.counterparty order = some resting) :
    0 < (books.heap order).quantity ∧ 0 < (books.heap resting).quantity :=
  ⟨(counterparty_spec found).2.1,
    sound.positive _ _ (mem_of_counterparty found)⟩

theorem submitting (sound : Sound orders seen books) (order : OrderPtr) :
    Sound orders (seen ++ [order]) books where
  toAnchored := sound.toAnchored
  untouched := fun other absent =>
    sound.untouched other fun member => absent (by simp [member])
  queuedSeen := fun place other member => by
    simp [sound.queuedSeen place other member]
  nodup := sound.nodup
  positive := sound.positive

/--
A trade keeps the books sound: the resting order leaves the only queue which
holds it exactly when nothing of it remains.
-/
theorem execute (sound : Sound orders seen books)
    {order resting : OrderPtr} (fresh : order ∉ seen)
    (found : books.counterparty order = some resting) :
    Sound orders (seen ++ [order]) (books.execute order resting) where
  toAnchored := sound.toAnchored.execute order resting
  untouched := by
    intro other absent
    have notOrder : other ≠ order := by
      rintro rfl
      simp at absent
    have notSeen : other ∉ seen := fun member => absent (by simp [member])
    have notResting : other ≠ resting := by
      rintro rfl
      exact sound.not_queued notSeen _ (mem_of_counterparty found)
    rw [heap_execute, heapAfter_of_ne _ notOrder notResting]
    exact sound.untouched other notSeen
  queuedSeen := fun place other member => by
    have before :=
      (queue_execute_sublist books order resting place).subset member
    simp [sound.queuedSeen place other before]
  nodup := fun place =>
    (sound.nodup place).sublist
      (queue_execute_sublist books order resting place)
  positive := by
    intro place other member
    have before :=
      (queue_execute_sublist books order resting place).subset member
    have notOrder : other ≠ order := by
      rintro rfl
      exact sound.not_queued fresh _ before
    by_cases isResting : other = resting
    · subst other
      have distinct := sound.ne_counterparty found
      obtain ⟨orderPos, restingPos⟩ := sound.counterparty_pos found
      have nonneg :=
        (heapAfter_nonneg books.heap distinct orderPos restingPos).2
      have samePlace : place = books.frontPlace order :=
        (sound.placed _ _ before).symm.trans
          (sound.placed _ _ (mem_of_counterparty found))
      have unfilled :
          (heapAfter books.heap order resting resting).quantity ≠ 0 := by
        intro filled
        obtain ⟨-, -, -, others, queue⟩ := counterparty_spec found
        have nodup := sound.nodup place
        rw [queue_execute, if_pos ⟨filled, samePlace⟩, samePlace,
          queue] at member
        rw [samePlace, queue] at nodup
        exact (List.nodup_cons.mp nodup).1 member
      rw [heap_execute]
      exact Int64.lt_of_le_of_ne nonneg (Ne.symm unfilled)
    · rw [heap_execute, heapAfter_of_ne _ notOrder isResting]
      exact sound.positive place other before

/-- Resting an order which is not queued yet keeps the books sound. -/
theorem rested (sound : Sound orders seen books) {order : OrderPtr}
    (submitted : order ∈ seen)
    (unqueued : ∀ place, order ∉ books.queue place) :
    Sound orders seen (books.rested order) where
  toAnchored := sound.toAnchored.rested order
  untouched := by
    rw [heap_rested]
    exact sound.untouched
  queuedSeen := by
    intro place other member
    rw [queue_rested] at member
    split at member
    · rcases List.mem_append.mp member with before | isOrder
      · exact sound.queuedSeen place other before
      · rwa [List.mem_singleton.mp isOrder]
    · exact sound.queuedSeen place other member
  nodup := by
    intro place
    rw [queue_rested]
    split
    · exact
        (sound.nodup place).append (List.nodup_singleton _)
          (by simpa using unqueued place)
    · exact sound.nodup place
  positive := by
    intro place other member
    rw [heap_rested]
    rw [queue_rested] at member
    split at member
    · next remains =>
        rcases List.mem_append.mp member with before | isOrder
        · exact sound.positive place other before
        · rw [List.mem_singleton.mp isOrder]
          exact remains.1
    · exact sound.positive place other member

theorem matched (sound : Sound orders seen books) {order : OrderPtr}
    (fresh : order ∉ seen) :
    Sound orders (seen ++ [order]) (books.matched order) := by
  rw [Books.matched]
  cases found : books.counterparty order with
  | none => exact sound.submitting order
  | some resting => exact sound.execute fresh found

theorem submit (sound : Sound orders seen books) {order : OrderPtr}
    (fresh : order ∉ seen) :
    Sound orders (seen ++ [order]) (books.next (.submit order)) := by
  apply (sound.matched fresh).rested
  · simp
  · intro place member
    exact sound.not_queued fresh place
      ((queue_matched_sublist books order place).subset member)

theorem cancel (sound : Sound orders seen books) (symbol : Symbol)
    (orderID : UInt64) (side : Side) (price : Price) :
    Sound orders seen
      (books.next (.cancel symbol orderID side price)) where
  toAnchored := sound.toAnchored.cancel symbol orderID side price
  untouched := sound.untouched
  queuedSeen := fun place other member =>
    sound.queuedSeen place other
      ((queue_cancel_sublist books symbol orderID side price place).subset
        member)
  nodup := fun place =>
    (sound.nodup place).sublist
      (queue_cancel_sublist books symbol orderID side price place)
  positive := fun place other member =>
    sound.positive place other
      ((queue_cancel_sublist books symbol orderID side price place).subset
        member)

theorem next (sound : Sound orders seen books) (call : Call)
    (fresh : (seen ++ submitted [call]).Nodup) :
    Sound orders (seen ++ submitted [call]) (books.next call) := by
  cases call with
  | submit order =>
      apply sound.submit
      intro member
      exact (List.disjoint_of_nodup_append fresh) member (by simp)
  | cancel symbol orderID side price =>
      simpa using sound.cancel symbol orderID side price

/-- The books of every run which submits no object twice are sound. -/
theorem run (orders : Heap) (calls : List Call)
    (distinct : (submitted calls).Nodup) :
    Sound orders (submitted calls)
      (LabelledRun.run Books.next (Books.initial orders) calls) := by
  induction calls using List.reverseRecOn with
  | nil => exact initial orders
  | append_singleton calls call inductionHypothesis =>
      rw [submitted_append] at distinct
      have earlier : (submitted calls).Nodup :=
        (List.nodup_append.mp distinct).1
      rw [submitted_append, LabelledRun.run_append]
      exact (inductionHypothesis earlier).next call distinct

end Sound

end Books

end AeroRisk.Orderbook
