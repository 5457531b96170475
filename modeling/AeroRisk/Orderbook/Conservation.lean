import AeroRisk.Orderbook.TradeLimits
import AeroRisk.Library.FifoQueue
import Mathlib.Algebra.Ring.Int.Defs

/-!
# Conservation of quantity and of orders

Two invariants are carried along a session.  The account says that what an
order was created with is what the trades naming it took plus what remains.
The whereabouts say that an order with something left is queued at its own
place unless a cancel removed it, and that a cancelled order is queued nowhere.
-/

namespace AeroRisk.Orderbook

open AeroRisk.Financial
open AeroRisk.Library

/-- The total quantity of the trades which name an order as a party. -/
def namedQuantity (trades : List Trade) (orderID : UInt64) : Int :=
  ((trades.filter fun trade =>
      trade.buyerID = orderID ∨ trade.sellerID = orderID).map
    fun trade => trade.quantity.toInt).sum

theorem namedQuantity_append (first second : List Trade)
    (orderID : UInt64) :
    namedQuantity (first ++ second) orderID =
      namedQuantity first orderID + namedQuantity second orderID := by
  simp [namedQuantity]

theorem namedQuantity_singleton (trade : Trade) (orderID : UInt64) :
    namedQuantity [trade] orderID =
      if trade.buyerID = orderID ∨ trade.sellerID = orderID then
        trade.quantity.toInt
      else
        0 := by
  rw [namedQuantity, List.filter_singleton]
  split <;> simp_all

theorem namedQuantity_of_unnamed {trades : List Trade} {orderID : UInt64}
    (unnamed :
      ∀ trade ∈ trades, trade.buyerID ≠ orderID ∧ trade.sellerID ≠ orderID) :
    namedQuantity trades orderID = 0 := by
  have nothing :
      trades.filter (fun trade =>
        trade.buyerID = orderID ∨ trade.sellerID = orderID) = [] := by
    rw [List.filter_eq_nil_iff]
    intro trade member
    simpa using unnamed trade member
  rw [namedQuantity, nothing]
  rfl

/-- A trade names exactly its two orders. -/
theorem Books.named_tradeOf (heap : Heap) (order resting : OrderPtr)
    (orderID : UInt64) :
    ((tradeOf heap order resting).buyerID = orderID ∨
        (tradeOf heap order resting).sellerID = orderID) ↔
      (heap order).id = orderID ∨ (heap resting).id = orderID := by
  rw [tradeOf]
  split
  · exact Iff.rfl
  · exact or_comm

/-- A trade does not name an order with an identifier of its own. -/
theorem Books.unnamed_tradeOf {heap orders : Heap}
    {order resting other : OrderPtr}
    (sameID : ∀ party, (heap party).id = (orders party).id)
    (notOrder : (orders order).id ≠ (orders other).id)
    (notResting : (orders resting).id ≠ (orders other).id) :
    ¬ ((tradeOf heap order resting).buyerID = (orders other).id ∨
        (tradeOf heap order resting).sellerID = (orders other).id) := by
  rw [named_tradeOf, sameID, sameID]
  exact not_or.mpr ⟨notOrder, notResting⟩

/-! ## The account of every order -/

/-- What every submitted order traded and keeps makes up what it had. -/
structure Balanced (orders : Heap) (seen : List OrderPtr)
    (trades : List Trade) (heap : Heap) : Prop where
  account :
    ∀ order ∈ seen,
      (orders order).quantity.toInt =
        namedQuantity trades (orders order).id + (heap order).quantity.toInt
  nonneg : ∀ order ∈ seen, 0 ≤ (heap order).quantity
  named :
    ∀ trade ∈ trades, ∀ orderID,
      trade.buyerID = orderID ∨ trade.sellerID = orderID →
        ∃ order ∈ seen, (orders order).id = orderID

namespace Balanced

variable
    {orders heap : Heap} {seen : List OrderPtr} {trades : List Trade}
    {order resting : OrderPtr}

theorem initial (orders : Heap) : Balanced orders [] [] orders where
  account := by simp
  nonneg := by simp
  named := by simp

/-- A new order is untraded and still has what it was created with. -/
theorem submitting (balanced : Balanced orders seen trades heap)
    (positive : 0 < (orders order).quantity)
    (untouched : heap order = orders order)
    (newID : ∀ other ∈ seen, (orders other).id ≠ (orders order).id) :
    Balanced orders (seen ++ [order]) trades heap where
  account := by
    intro other member
    rcases List.mem_append.mp member with before | isOrder
    · exact balanced.account other before
    · rw [List.mem_singleton.mp isOrder, untouched,
        namedQuantity_of_unnamed, Int.zero_add]
      intro trade traded
      constructor
      · intro isBuyer
        obtain ⟨party, partySeen, sameID⟩ :=
          balanced.named trade traded _ (Or.inl isBuyer)
        exact newID party partySeen sameID
      · intro isSeller
        obtain ⟨party, partySeen, sameID⟩ :=
          balanced.named trade traded _ (Or.inr isSeller)
        exact newID party partySeen sameID
  nonneg := by
    intro other member
    rcases List.mem_append.mp member with before | isOrder
    · exact balanced.nonneg other before
    · rw [List.mem_singleton.mp isOrder, untouched]
      exact Int64.le_of_lt positive
  named := by
    intro trade traded orderID isNamed
    obtain ⟨party, partySeen, sameID⟩ :=
      balanced.named trade traded orderID isNamed
    exact ⟨party, List.mem_append_left _ partySeen, sameID⟩

/-- A trade moves the same quantity out of both of its orders. -/
theorem execute (balanced : Balanced orders seen trades heap)
    (sameID : ∀ party, (heap party).id = (orders party).id)
    (injective :
      ∀ first ∈ seen, ∀ second ∈ seen,
        (orders first).id = (orders second).id → first = second)
    (distinct : order ≠ resting)
    (orderSeen : order ∈ seen) (restingSeen : resting ∈ seen)
    (orderPos : 0 < (heap order).quantity)
    (restingPos : 0 < (heap resting).quantity) :
    Balanced orders seen (trades ++ [Books.tradeOf heap order resting])
      (Books.heapAfter heap order resting) where
  account := by
    intro other member
    have before := balanced.account other member
    rw [namedQuantity_append, namedQuantity_singleton]
    by_cases isOrder : other = order
    · subst other
      have named :=
        (Books.named_tradeOf heap order resting (orders order).id).mpr
          (Or.inl (sameID order))
      rw [if_pos named,
        Books.heapAfter_order_toInt heap distinct orderPos restingPos,
        Books.tradeOf_quantity]
      omega
    · by_cases isResting : other = resting
      · subst other
        have named :=
          (Books.named_tradeOf heap order resting (orders resting).id).mpr
            (Or.inr (sameID resting))
        rw [if_pos named,
          Books.heapAfter_resting_toInt heap distinct orderPos restingPos,
          Books.tradeOf_quantity]
        omega
      · have unnamed :=
          Books.unnamed_tradeOf sameID
            (fun same =>
              isOrder (injective order orderSeen other member same).symm)
            fun same =>
              isResting (injective resting restingSeen other member same).symm
        rw [if_neg unnamed, Books.heapAfter_of_ne heap isOrder isResting]
        omega
  nonneg := by
    intro other member
    obtain ⟨orderKeeps, restingKeeps⟩ :=
      Books.heapAfter_nonneg heap distinct orderPos restingPos
    by_cases isOrder : other = order
    · rwa [isOrder]
    · by_cases isResting : other = resting
      · rwa [isResting]
      · rw [Books.heapAfter_of_ne heap isOrder isResting]
        exact balanced.nonneg other member
  named := by
    intro trade traded orderID isNamed
    rcases List.mem_append.mp traded with before | isNew
    · exact balanced.named trade before orderID isNamed
    · rw [List.mem_singleton.mp isNew, Books.named_tradeOf, sameID,
        sameID] at isNamed
      rcases isNamed with isOrder | isResting
      · exact ⟨order, orderSeen, isOrder⟩
      · exact ⟨resting, restingSeen, isResting⟩

end Balanced

/-! ## Where an order is -/

/--
A submitted order with something left is queued at its own place unless it is
withdrawn, and a withdrawn order is queued nowhere.
-/
structure Located (orders : Heap) (seen : List OrderPtr)
    (withdrawn : OrderPtr → Prop) (books : Books) : Prop where
  stored :
    ∀ order ∈ seen, 0 < (books.heap order).quantity → ¬ withdrawn order →
      order ∈ books.queue (orders order).place
  gone :
    ∀ order, withdrawn order →
      order ∈ seen ∧ ∀ place, order ∉ books.queue place

namespace Located

variable
    {orders : Heap} {seen : List OrderPtr} {withdrawn : OrderPtr → Prop}
    {books : Books} {order resting : OrderPtr}

theorem initial (orders : Heap) :
    Located orders [] (fun _ => False) (Books.initial orders) where
  stored := by simp
  gone := by simp

/-- Only a filled resting order leaves its queue by a trade. -/
theorem execute (located : Located orders seen withdrawn books)
    (sound : Books.Sound orders seen books) (fresh : order ∉ seen)
    (found : books.counterparty order = some resting) :
    Located orders seen withdrawn (books.execute order resting) where
  stored := by
    intro other member remains kept
    have notOrder : other ≠ order := by
      rintro rfl
      exact fresh member
    rw [Books.heap_execute] at remains
    rw [Books.queue_execute]
    by_cases isResting : other = resting
    · subst other
      have unfilled :
          (Books.heapAfter books.heap order resting resting).quantity ≠ 0 := by
        intro filled
        rw [filled] at remains
        exact Int64.lt_irrefl remains
      rw [if_neg fun condition => unfilled condition.1]
      have rests := Books.mem_of_counterparty found
      rwa [sound.placed _ _ rests]
    · rw [Books.heapAfter_of_ne _ notOrder isResting] at remains
      have before := located.stored other member remains kept
      split
      · next condition =>
          obtain ⟨-, -, -, others, queue⟩ := Books.counterparty_spec found
          rw [condition.2, queue] at before
          rw [condition.2, queue]
          exact (List.mem_cons.mp before).resolve_left isResting
      · exact before
  gone := by
    intro other isWithdrawn
    obtain ⟨otherSeen, nowhere⟩ := located.gone other isWithdrawn
    refine ⟨otherSeen, fun place member => nowhere place ?_⟩
    exact
      (Books.queue_execute_sublist books order resting place).subset member

theorem matched (located : Located orders seen withdrawn books)
    (sound : Books.Sound orders seen books) (fresh : order ∉ seen) :
    Located orders seen withdrawn (books.matched order) := by
  rw [Books.matched]
  cases found : books.counterparty order with
  | none => exact located
  | some resting => exact located.execute sound fresh found

/-- An order which comes to rest joins the queue at its own place. -/
theorem rested (located : Located orders seen withdrawn books)
    (fresh : order ∉ seen)
    (ownPlace : (books.heap order).place = (orders order).place) :
    Located orders (seen ++ [order]) withdrawn (books.rested order) where
  stored := by
    intro other member remains kept
    rw [Books.heap_rested] at remains
    rw [Books.queue_rested]
    rcases List.mem_append.mp member with before | isOrder
    · have queued := located.stored other before remains kept
      split
      · exact List.mem_append_left _ queued
      · exact queued
    · rw [List.mem_singleton.mp isOrder] at remains ⊢
      rw [if_pos ⟨remains, ownPlace.symm⟩]
      simp
  gone := by
    intro other isWithdrawn
    obtain ⟨otherSeen, nowhere⟩ := located.gone other isWithdrawn
    refine ⟨List.mem_append_left _ otherSeen, fun place member => ?_⟩
    rw [Books.queue_rested] at member
    split at member
    · rcases List.mem_append.mp member with before | isOrder
      · exact nowhere place before
      · exact fresh (List.mem_singleton.mp isOrder ▸ otherSeen)
    · exact nowhere place member

/-- A cancel withdraws the order it names and no other. -/
theorem cancel (located : Located orders seen withdrawn books)
    (sound : Books.Sound orders seen books)
    (injective :
      ∀ first ∈ seen, ∀ second ∈ seen,
        (orders first).id = (orders second).id → first = second)
    (symbol : Symbol) (orderID : UInt64) (side : Side) (price : Price) :
    Located orders seen
      (fun order =>
        withdrawn order ∨
          books.Cancels order (.cancel symbol orderID side price))
      (books.next (.cancel symbol orderID side price)) := by
  have unique := sound.unique_id injective orderID
  constructor
  · intro other member remains kept
    obtain ⟨notWithdrawn, notCancelled⟩ := not_or.mp kept
    have queued := located.stored other member remains notWithdrawn
    rw [Books.queue_cancel]
    split
    · next atPlace =>
        rw [FifoQueue.mem_eraseP_iff (sound.nodup _) (unique _)]
        refine ⟨queued, fun hasID => notCancelled ⟨?_, beq_iff_eq.mp hasID⟩⟩
        rwa [← atPlace]
    · exact queued
  · rintro other (isWithdrawn | ⟨queued, hasID⟩)
    · obtain ⟨otherSeen, nowhere⟩ := located.gone other isWithdrawn
      refine ⟨otherSeen, fun place member => nowhere place ?_⟩
      exact
        (Books.queue_cancel_sublist books symbol orderID side price
          place).subset member
    · refine ⟨sound.queuedSeen _ other queued, fun place member => ?_⟩
      have before :=
        (Books.queue_cancel_sublist books symbol orderID side price
          place).subset member
      have atPlace : place = ⟨symbol, side.bookSide, price⟩ :=
        (sound.placed place other before).symm.trans
          (sound.placed _ other queued)
      rw [Books.queue_cancel, if_pos atPlace,
        FifoQueue.mem_eraseP_iff (sound.nodup _) (unique _)] at member
      exact member.2 (beq_iff_eq.mpr hasID)

end Located

/-! ## Whole sessions -/

/-- An earlier order does not have the ID of a further submission. -/
theorem DistinctIDs.newID {orders : Heap} {calls : List Call}
    {order : OrderPtr}
    (distinct : DistinctIDs orders (calls ++ [.submit order]))
    {other : OrderPtr} (member : other ∈ submitted calls) :
    (orders other).id ≠ (orders order).id := by
  intro sameID
  have same : other = order :=
    distinct.injective (by simp [member]) (by simp) sameID
  exact distinct.fresh (same ▸ member)

theorem Balanced.submit {orders : Heap} {calls : List Call}
    {trades : List Trade} {books : Books} {order : OrderPtr}
    (balanced : Balanced orders (submitted calls) trades books.heap)
    (sound : Books.Sound orders (submitted calls) books)
    (distinct : DistinctIDs orders (calls ++ [.submit order]))
    (positive : 0 < (orders order).quantity) :
    Balanced orders (submitted calls ++ [order])
      (trades ++ books.trades (.submit order))
      (books.next (.submit order)).heap := by
  have submitting :=
    balanced.submitting positive (sound.untouched order distinct.fresh)
      fun _ member => distinct.newID member
  have sameHeap :
      (books.next (.submit order)).heap = (books.matched order).heap :=
    Books.heap_rested _ _
  rw [sameHeap, Books.matched, Books.trades]
  cases found : books.counterparty order with
  | none => simpa using submitting
  | some resting =>
      obtain ⟨orderPos, restingPos⟩ := sound.counterparty_pos found
      have restingSeen : resting ∈ submitted calls :=
        sound.queuedSeen _ _ (Books.mem_of_counterparty found)
      apply submitting.execute sound.id_eq _
        (sound.ne_counterparty found)
        (by simp) (by simp [restingSeen]) orderPos restingPos
      intro first firstMember second secondMember
      apply distinct.injective
      · simpa using firstMember
      · simpa using secondMember

theorem Balanced.run (orders : Heap) (calls : List Call)
    (distinct : DistinctIDs orders calls)
    (positive : ∀ order ∈ submitted calls, 0 < (orders order).quantity) :
    Balanced orders (submitted calls)
      (LabelledRun.outputs Books.next Books.trades (Books.initial orders)
        calls).flatten
      (LabelledRun.run Books.next (Books.initial orders) calls).heap := by
  induction calls using List.reverseRecOn with
  | nil => exact Balanced.initial orders
  | append_singleton calls call inductionHypothesis =>
      have earlier :=
        inductionHypothesis distinct.of_append
          fun order member => positive order (by simp [member])
      have sound := Books.Sound.run orders calls distinct.of_append.nodup
      rw [submitted_append, LabelledRun.outputs_append,
        LabelledRun.run_append, List.flatten_append]
      cases call with
      | submit order =>
          simpa using
            earlier.submit sound distinct (positive order (by simp))
      | cancel symbol orderID side price =>
          simpa [Books.trades] using earlier

theorem Located.run (orders : Heap) (calls : List Call)
    (distinct : DistinctIDs orders calls) :
    Located orders (submitted calls)
      (fun order =>
        LabelledRun.Sometime Books.next (fun books => books.Cancels order)
          (Books.initial orders) calls)
      (LabelledRun.run Books.next (Books.initial orders) calls) := by
  induction calls using List.reverseRecOn with
  | nil =>
      simpa using Located.initial orders
  | append_singleton calls call inductionHypothesis =>
      have earlier := inductionHypothesis distinct.of_append
      have sound := Books.Sound.run orders calls distinct.of_append.nodup
      simp only [LabelledRun.sometime_concat]
      rw [submitted_append, LabelledRun.run_append]
      cases call with
      | submit order =>
          have ownPlace :=
            (sound.matched distinct.fresh).place_eq order
          simpa [Books.Cancels, Books.next_submit] using
            (earlier.matched sound distinct.fresh).rested distinct.fresh
              ownPlace
      | cancel symbol orderID side price =>
          simpa using
            earlier.cancel sound
              (fun _ first _ second => distinct.of_append.injective first second)
              symbol orderID side price

/-- The order is stored exactly once, in the queue of exactly one level. -/
def State.StoredOnce (s : State) (order : OrderPtr) : Prop :=
  ∃ place,
    (s.queue place).count order = 1 ∧
      ∀ other, other ≠ place → order ∉ s.queue other

/-- The order is stored in no level queue. -/
def State.StoredNowhere (s : State) (order : OrderPtr) : Prop :=
  ∀ place, order ∉ s.queue place

namespace Session

/--
Quantity and orders are conserved: the original quantity of every submitted
order is what its trades took plus what remains, and the order is stored
exactly once while something remains and no cancel removed it, and nowhere
otherwise.
-/
theorem order_conserved (session : Session)
    (positive :
      ∀ order ∈ submitted session.calls, 0 < (session.orders order).quantity)
    (order : OrderPtr) (member : order ∈ submitted session.calls) :
    (session.orders order).quantity.toInt =
        namedQuantity session.allTrades (session.orders order).id +
          (session.state.heap order).quantity.toInt ∧
      0 ≤ (session.state.heap order).quantity ∧
      (0 < (session.state.heap order).quantity ∧
          ¬ session.Cancelled order →
        session.state.StoredOnce order) ∧
      (¬ (0 < (session.state.heap order).quantity ∧
          ¬ session.Cancelled order) →
        session.state.StoredNowhere order) := by
  have balanced :=
    Balanced.run session.orders session.calls session.distinctIDs positive
  have located :=
    Located.run session.orders session.calls session.distinctIDs
  have sound := session.sound
  rw [← allTrades_eq, ← books_eq] at balanced
  rw [← books_eq] at located
  simp only [← State.sometime_cancels] at located
  refine
    ⟨balanced.account order member, balanced.nonneg order member, ?_, ?_⟩
  · rintro ⟨remains, notCancelled⟩
    have queued := located.stored order member remains notCancelled
    refine ⟨(session.orders order).place, ?_, ?_⟩
    · exact List.count_eq_one_of_mem (sound.nodup _) queued
    · intro other elsewhere inOther
      exact elsewhere (sound.placed other order inOther).symm
  · intro condition place queued
    have remains := sound.positive place order queued
    have isCancelled : session.Cancelled order :=
      not_not.mp fun notCancelled => condition ⟨remains, notCancelled⟩
    exact (located.gone order isCancelled).2 place queued

theorem order_conserved_sample :
    (sampleSession.orders 1).quantity.toInt =
        namedQuantity sampleSession.allTrades (sampleSession.orders 1).id +
          (sampleSession.state.heap 1).quantity.toInt ∧
      0 ≤ (sampleSession.state.heap 1).quantity ∧
      (0 < (sampleSession.state.heap 1).quantity ∧
          ¬ sampleSession.Cancelled 1 →
        sampleSession.state.StoredOnce 1) ∧
      (¬ (0 < (sampleSession.state.heap 1).quantity ∧
          ¬ sampleSession.Cancelled 1) →
        sampleSession.state.StoredNowhere 1) :=
  order_conserved sampleSession (by decide) 1 (by decide)

end Session

end AeroRisk.Orderbook
