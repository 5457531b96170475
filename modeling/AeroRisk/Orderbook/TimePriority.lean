import AeroRisk.Orderbook.TradeLimits
import AeroRisk.Library.FifoQueue

/-!
# Time priority within a price

The rest log of a session lists its orders in the order in which they came to
rest.  Every level queue is a sublist of the log, whatever was consumed from
its front, appended at its back, cancelled in its middle, or deleted and
created again.  The order a trade meets is the front of its queue, so nobody
who came to rest earlier waits behind it.
-/

namespace AeroRisk.Orderbook

open AeroRisk.Financial
open AeroRisk.Library

/-- The order which a call puts to rest: what `SubmitOrder` did not fill. -/
def State.restedBy (s : State) : Call → List OrderPtr
  | .submit order =>
      if 0 < ((submitOrder s order).heap order).quantity then [order] else []
  | .cancel .. => []

/-- The orders of a session in the order in which they came to rest. -/
def Session.restLog (session : Session) : List OrderPtr :=
  (LabelledRun.outputs State.next State.restedBy
    (State.initial session.orders) session.calls).flatten

/-- The order which a call puts to rest, seen in the books. -/
def Books.restedBy (books : Books) : Call → List OrderPtr
  | .submit order =>
      if 0 < ((books.matched order).heap order).quantity then [order] else []
  | .cancel .. => []

theorem State.restedBy_eq {s : State} (keyed : s.Keyed) (call : Call) :
    s.restedBy call = s.books.restedBy call := by
  cases call with
  | submit order =>
      have sameHeap :
          (submitOrder s order).heap = (s.books.matched order).heap := by
        change (submitOrder s order).books.heap = _
        rw [books_submitOrder keyed, Books.next_submit, Books.heap_rested]
      rw [restedBy, Books.restedBy, sameHeap]
  | cancel => rfl

theorem State.restLog_eq (orders : Heap) (calls : List Call) :
    LabelledRun.outputs State.next State.restedBy (State.initial orders)
        calls =
      LabelledRun.outputs Books.next Books.restedBy (Books.initial orders)
        calls := by
  induction calls using List.reverseRecOn with
  | nil => rfl
  | append_singleton calls call inductionHypothesis =>
      rw [LabelledRun.outputs_append, LabelledRun.outputs_append,
        inductionHypothesis, ← books_run]
      simp [restedBy_eq (keyed_run orders calls)]

/-- Every queue is taken in order from a log of distinct submitted orders. -/
structure Queued (seen log : List OrderPtr) (books : Books) : Prop where
  inOrder : ∀ place, (books.queue place).Sublist log
  nodup : log.Nodup
  submittedBefore : ∀ order ∈ log, order ∈ seen

namespace Queued

variable {seen log : List OrderPtr} {books : Books} {order : OrderPtr}

theorem initial (orders : Heap) : Queued [] [] (Books.initial orders) where
  inOrder := by simp [Books.queue, Books.initial, Half.empty]
  nodup := List.nodup_nil
  submittedBefore := by simp

theorem matched (queued : Queued seen log books) (order : OrderPtr) :
    Queued seen log (books.matched order) where
  inOrder := fun place =>
    (Books.queue_matched_sublist books order place).trans
      (queued.inOrder place)
  nodup := queued.nodup
  submittedBefore := queued.submittedBefore

/-- An order which comes to rest goes to the back of its queue and the log. -/
theorem rested (queued : Queued seen log books) (fresh : order ∉ seen) :
    Queued (seen ++ [order])
      (log ++ if 0 < (books.heap order).quantity then [order] else [])
      (books.rested order) where
  inOrder := by
    intro place
    rw [Books.queue_rested]
    by_cases remains : 0 < (books.heap order).quantity
    · by_cases atPlace : place = (books.heap order).place
      · rw [if_pos ⟨remains, atPlace⟩, if_pos remains]
        exact (queued.inOrder place).append_right [order]
      · rw [if_neg fun condition => atPlace condition.2]
        exact
          (queued.inOrder place).trans (List.sublist_append_left _ _)
    · rw [if_neg fun condition => remains condition.1]
      exact (queued.inOrder place).trans (List.sublist_append_left _ _)
  nodup := by
    have unlogged : order ∉ log :=
      fun member => fresh (queued.submittedBefore order member)
    split
    · exact
        queued.nodup.append (List.nodup_singleton order)
          (by simpa using unlogged)
    · simpa using queued.nodup
  submittedBefore := by
    intro other member
    rcases List.mem_append.mp member with before | isNew
    · exact List.mem_append_left _ (queued.submittedBefore other before)
    · split at isNew
      · exact List.mem_append_right _ isNew
      · cases isNew

theorem cancel (queued : Queued seen log books) (symbol : Symbol)
    (orderID : UInt64) (side : Side) (price : Price) :
    Queued seen log
      (books.next (.cancel symbol orderID side price)) where
  inOrder := fun place =>
    (Books.queue_cancel_sublist books symbol orderID side price place).trans
      (queued.inOrder place)
  nodup := queued.nodup
  submittedBefore := queued.submittedBefore

theorem run (orders : Heap) (calls : List Call)
    (distinct : (submitted calls).Nodup) :
    Queued (submitted calls)
      (LabelledRun.outputs Books.next Books.restedBy (Books.initial orders)
        calls).flatten
      (LabelledRun.run Books.next (Books.initial orders) calls) := by
  induction calls using List.reverseRecOn with
  | nil => exact initial orders
  | append_singleton calls call inductionHypothesis =>
      rw [submitted_append] at distinct
      have earlier := inductionHypothesis (List.nodup_append.mp distinct).1
      rw [submitted_append, LabelledRun.outputs_append,
        LabelledRun.run_append, List.flatten_append]
      cases call with
      | submit order =>
          have fresh : order ∉ submitted calls := fun member =>
            List.disjoint_of_nodup_append distinct member (by simp)
          simpa [Books.restedBy, Books.next_submit] using
            (earlier.matched order).rested fresh
      | cancel symbol orderID side price =>
          simpa [Books.restedBy] using
            earlier.cancel symbol orderID side price

end Queued

namespace Session

theorem queued (session : Session) :
    Queued (submitted session.calls) session.restLog session.state.books := by
  rw [restLog, State.restLog_eq, books_eq]
  exact Queued.run session.orders session.calls session.distinctIDs.nodup

/--
Time priority: every level queue lists its orders as they came to rest, and
whenever a further submission trades with an order, no order which came to
rest before it at the same place still rests there.  If something of the order
remains, it keeps its position: all queues are as they were.
-/
theorem time_priority (session : Session) :
    (∀ place, (session.state.queue place).Sublist session.restLog) ∧
      session.restLog.Nodup ∧
      ∀ order resting m after trade,
        TradeStep session.state order resting m after trade →
        (∀ earlier,
          FifoQueue.Precedes session.restLog earlier resting →
          (session.orders earlier).place = (session.orders resting).place →
          ¬ ((∃ side price, earlier ∈ (m.book.levels side).ordersAt price) ∧
              0 < (m.heap earlier).quantity)) ∧
        ((after.heap resting).quantity ≠ 0 →
          ∀ side price,
            (after.book.levels side).ordersAt price =
              (m.book.levels side).ordersAt price) := by
  have queued := session.queued
  have sound := session.sound
  refine ⟨queued.inOrder, queued.nodup, ?_⟩
  intro order resting m after trade tradeStep
  have isStart := tradeStep.start
  obtain ⟨found, -, result⟩ := session.tradeStep_spec tradeStep
  obtain ⟨-, -, -, others, queue⟩ := Books.counterparty_spec found
  subst isStart
  constructor
  · rintro earlier precedes samePlace ⟨⟨side, price, waits⟩, -⟩
    have waitsAt :
        earlier ∈ session.state.books.queue
          ⟨(session.state.heap order).symbol, side, price⟩ := waits
    have front := sound.placed _ _ (Books.mem_of_counterparty found)
    have atFront := sound.placed _ earlier waitsAt
    rw [samePlace, front] at atFront
    rw [← atFront, queue] at waitsAt
    have kept := queued.inOrder (session.state.books.frontPlace order)
    rw [queue] at kept
    exact
      FifoQueue.not_precedes_front queued.nodup kept waitsAt precedes
  · intro remains side price
    obtain ⟨heap, half, -, -⟩ :=
      matchLoop_some (session.keyed.startMatching order) found
    rw [← result] at heap half
    rw [heap] at remains
    have sameQueue := congrFun half side
    rw [Half.trade, if_neg remains] at sameQueue
    have unchanged :
        (after.book.half side).queue =
          ((startMatching session.state order).book.half side).queue := by
      rw [sameQueue]
      by_cases opposite :
          side =
            ((startMatching session.state order).heap
              order).side.bookSide.opposite
      · subst opposite
        simp
      · rw [Function.update_of_ne opposite]
    exact congrFun unchanged price

theorem time_priority_sample :
    ∃ resting after,
      TradeStep sampleSession.state 4 resting
          (startMatching sampleSession.state 4) after
          { price := 10, quantity := 1, buyerID := 3, sellerID := 5 } ∧
        ∀ earlier,
          FifoQueue.Precedes sampleSession.restLog earlier resting →
          (sampleSession.orders earlier).place =
              (sampleSession.orders resting).place →
          ¬ ((∃ side price,
                earlier ∈
                  ((startMatching sampleSession.state 4).book.levels
                    side).ordersAt price) ∧
              0 < (sampleSession.state.heap earlier).quantity) := by
  obtain ⟨resting, after, tradeStep⟩ :=
    sampleSession.tradeStep_of_returned
      (show
        { price := 10, quantity := 1, buyerID := 3, sellerID := 5 } ∈
          sampleSession.state.trades (.submit 4) by decide)
  exact
    ⟨resting, after, tradeStep,
      ((time_priority sampleSession).2.2 4 resting _ after _ tradeStep).1⟩

end Session

end AeroRisk.Orderbook
