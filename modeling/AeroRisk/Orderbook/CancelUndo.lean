import AeroRisk.Orderbook.Overwrite

/-!
# Submitting an order and cancelling it

A submission without trades followed by its cancel restores the queues and
the order objects.  What it can leave behind is a cached best price which the
order overwrote while it rested.  The books before and after are compared
along every continuation, and a continuation which tells them apart is given
whenever the cache was overwritten observably.
-/

namespace AeroRisk.Orderbook

open AeroRisk.Financial
open AeroRisk.Library

/-! ## Limits which a cached price shows or hides -/

namespace BookSide

theorem crosses_self (side : BookSide) (price : Int64) :
    side.Crosses price price := by
  cases side <;> exact Int64.le_refl price

/-- A cached price which a price improves shows nobody at that price. -/
theorem Improves.hides {side : BookSide} {best price : Int64}
    (improves : side.Improves best price) :
    best = -1 ∨ ¬ side.Crosses best price := by
  cases side with
  | bid => exact Or.inr (Int64.not_le.mpr improves)
  | ask => exact improves.imp id Int64.not_le.mpr

/--
A price at which an order can rest without improving on `price`, but so that
it is shown where `best` was cached.
-/
theorem exists_limit {side : BookSide} {best price : Int64}
    (positive : 0 < price) (improves : side.Improves best price)
    (below :
      ¬ (side = .ask ∧ best = -1 ∧ price = Int64.maxValue)) :
    ∃ limit,
      limit ≠ -1 ∧ limit ≠ price ∧
        (best = limit ∨ side.Improves best limit) ∧
        ¬ side.Improves price limit := by
  by_cases unset : best = -1
  · subst best
    cases side with
    | bid =>
        exact
          ⟨0, by decide, Int64.ne_of_lt positive, Or.inr (by decide),
            Int64.lt_asymm positive⟩
    | ask =>
        have notMax : price ≠ Int64.maxValue := by simpa using below
        have above := lt_add_one_of_ne_max notMax
        refine
          ⟨price + 1, ?_, (Int64.ne_of_lt above).symm, Or.inr (Or.inl rfl),
            ?_⟩
        · intro isUnset
          rw [isUnset] at above
          exact absurd (Int64.lt_trans positive above) (by decide)
        · rintro (isUnset | less)
          · exact absurd (isUnset ▸ positive) (by decide)
          · exact Int64.lt_asymm above less
  · have better := (side.improves_iff_better unset price).mp improves
    have set : price ≠ -1 := by
      rintro rfl
      exact absurd positive (by decide)
    refine ⟨best, unset, ?_, Or.inl rfl, ?_⟩
    · rintro rfl
      exact Better.irrefl side best better
    · rw [side.improves_iff_better set]
      intro worse
      exact Better.irrefl side best (worse.trans better)

end BookSide

/-! ## Later calls on other orders -/

/-- The order objects outside `seen` are those which callers create later. -/
def State.creating (s : State) (seen : List OrderPtr) (created : Heap) :
    State :=
  { s with
    heap := fun order => if order ∈ seen then s.heap order else created order }

/-- The order objects outside `seen` are replaced. -/
def Books.creating (books : Books) (seen : List OrderPtr)
    (created : Heap) : Books :=
  { books with
    heap := fun order =>
      if order ∈ seen then books.heap order else created order }

theorem State.books_creating (s : State) (seen : List OrderPtr)
    (created : Heap) :
    (s.creating seen created).books = s.books.creating seen created :=
  rfl

/-- A call on an order with another ID. -/
def Call.OnOther (heap : Heap) (orderID : UInt64) : Call → Prop
  | .submit order => (heap order).id ≠ orderID
  | .cancel _ cancelledID _ _ => cancelledID ≠ orderID

instance (heap : Heap) (orderID : UInt64) (call : Call) :
    Decidable (call.OnOther heap orderID) :=
  match call with
  | .submit _ => inferInstanceAs (Decidable (_ ≠ _))
  | .cancel .. => inferInstanceAs (Decidable (_ ≠ _))

/-- `SubmitOrder(o)` and then `CancelOrder` with the data of `o`. -/
def undoCalls (order : OrderPtr) (data : Order) : List Call :=
  [.submit order, .cancel data.symbol data.id data.side data.price]

/--
Whatever order objects are created later and whatever calls on other orders
follow, they return what they return when the order is never submitted.
-/
def Session.Undoes (session : Session) (order : OrderPtr) : Prop :=
  ∀ created later,
    let seen := submitted session.calls ++ [order]
    let without := session.state.creating seen created
    let undone :=
      (LabelledRun.run State.next session.state
        (undoCalls order (session.orders order))).creating seen created
    (∀ call ∈ later,
        call.OnOther without.heap (session.orders order).id) →
      LabelledRun.outputs State.next State.trades undone later =
        LabelledRun.outputs State.next State.trades without later

/--
The order does not overwrite the cached best price of the half on which it
rests, or it is an ask at the largest price which leaves an unset cache
pointing to an empty queue.
-/
def State.LeavesCache (s : State) (order : OrderPtr) : Prop :=
  let side := (s.heap order).side.bookSide
  let book := s.engine.getOrderBook (s.heap order).symbol
  let price := (s.heap order).price
  ¬ side.Improves (book.best side) price ∨
    side = .ask ∧ book.best side = -1 ∧ price = Int64.maxValue ∧
      (book.levels side).ordersAt price = []

instance (s : State) (order : OrderPtr) : Decidable (s.LeavesCache order) :=
  inferInstanceAs (Decidable (¬ _ ∨ _ ∧ _ ∧ _ ∧ _))

/-! ## What the cancel restores -/

namespace Books

variable {orders : Heap} {books : Books} {order : OrderPtr}

/-- The queue which an order joined and left is as it was. -/
theorem eraseP_append_fresh {heap : Heap} {queue : List OrderPtr}
    (fresh : ∀ other ∈ queue, (heap other).id ≠ (heap order).id) :
    ((queue ++ [order]).eraseP
      fun other => (heap other).id == (heap order).id) = queue := by
  rw [List.eraseP_append_right]
  · simp
  · intro other member
    simpa using fresh other member

/-- After the cancel only the cached best price may differ. -/
theorem run_undoCalls (nobody : books.counterparty order = none)
    (positive : 0 < (books.heap order).quantity)
    (fresh :
      ∀ other ∈ (books.ownHalf order).queue (books.heap order).price,
        (books.heap other).id ≠ (books.heap order).id) :
    LabelledRun.run Books.next books
        (undoCalls order (books.heap order)) =
      books.withBest (books.heap order).symbol
        (books.heap order).side.bookSide
        (if (books.heap order).side.bookSide.Improves
            (books.ownHalf order).best (books.heap order).price then
          (books.heap order).price
        else (books.ownHalf order).best) := by
  have unmatched : books.next (.submit order) = books.rested order := by
    rw [next_submit, matched, nobody]
  have sameHeap : (books.rested order).heap = books.heap := heap_rested _ _
  rw [undoCalls, LabelledRun.run_cons, LabelledRun.run_cons,
    LabelledRun.run_nil, unmatched]
  apply ext_half
  · rw [heap_cancel, sameHeap, heap_withBest]
  · intro symbol side
    simp only [half_cancel, half_rested, half_withBest, sameHeap, positive,
      true_and, and_self, ↓reduceIte]
    split
    · next here =>
        obtain ⟨rfl, rfl⟩ := here
        simp only [Half.withdraw, Half.rest, Function.update_self,
          eraseP_append_fresh fresh, Function.update_idem,
          Function.update_eq_self]
        rfl
    · rfl

/-! ## Telling two caches apart -/

section Telling

variable
    {symbol : Symbol} {side : BookSide} {price limit : Int64}
    {incoming : OrderPtr}

theorem trades_submit_eq_nil :
    books.trades (.submit order) = [] ↔ books.counterparty order = none := by
  rw [trades]
  cases books.counterparty order <;> simp

/-- The incoming order is matched against the half with the given limit. -/
structure Probes (books : Books) (incoming : OrderPtr) (symbol : Symbol)
    (side : BookSide) (limit : Int64) : Prop where
  meets : books.Meets incoming symbol side
  price : (books.heap incoming).price = limit
  positive : 0 < (books.heap incoming).quantity

/-- An order probes any books in which it has the same fields. -/
theorem Probes.of_heap {other : Books}
    (probes : books.Probes incoming symbol side limit)
    (same : other.heap incoming = books.heap incoming) :
    other.Probes incoming symbol side limit where
  meets := by
    rw [Meets, same]
    exact probes.meets
  price := by
    rw [same]
    exact probes.price
  positive := by
    rw [same]
    exact probes.positive

theorem Probes.withBest (probes : books.Probes incoming symbol side limit) :
    (books.withBest symbol side price).Probes incoming symbol side limit :=
  probes.of_heap (congrFun (heap_withBest ..) incoming)

/-- A probe finds nobody where nobody is shown at a crossing price. -/
theorem Probes.finds_nobody (probes : books.Probes incoming symbol side limit)
    (hidden :
      (books.half symbol side).best = -1 ∨
        (books.half symbol side).queue (books.half symbol side).best = [] ∨
        ¬ side.Crosses (books.half symbol side).best limit) :
    books.counterparty incoming = none := by
  obtain ⟨⟨rfl, rfl⟩, rfl, positive⟩ := probes
  rcases hidden with unset | empty | notCrosses
  · exact counterparty_of_front_none (if_pos unset)
  · apply counterparty_of_front_none
    rw [Half.front]
    change (if _ then none else List.head? (Half.queue _ _)) = none
    rw [oppositeHalf, empty]
    exact ite_self none
  · exact if_neg fun condition => notCrosses condition.1

/-- A probe finds somebody who is shown at a crossing price. -/
theorem Probes.finds (probes : books.Probes incoming symbol side limit)
    (cached : (books.half symbol side).best ≠ -1)
    (queued :
      (books.half symbol side).queue (books.half symbol side).best ≠ [])
    (crosses : side.Crosses (books.half symbol side).best limit) :
    books.counterparty incoming ≠ none := by
  obtain ⟨⟨rfl, rfl⟩, rfl, positive⟩ := probes
  obtain ⟨first, others, queue⟩ := List.exists_cons_of_ne_nil queued
  have found : books.counterparty incoming = some first := by
    refine (if_pos ⟨crosses, positive⟩).trans ((if_neg cached).trans ?_)
    rw [oppositeHalf, queue, List.head?_cons]
  rw [found]
  exact Option.some_ne_none first

/-- A half whose cached price shows somebody while nobody rests at `price`. -/
structure Primed (price limit : Int64) (half : Half) : Prop where
  cached : half.best = limit
  queued : half.queue limit ≠ []
  hidden : half.queue price = []

theorem primed_of_rest {half : Half} (distinct : limit ≠ price)
    (reaches : half.best = limit ∨ side.Improves half.best limit)
    (hidden : half.queue price = []) (order : OrderPtr) :
    Primed price limit (half.rest side limit order) where
  cached := by
    simp only [Half.rest]
    split
    · rfl
    · next kept => exact reaches.resolve_right kept
  queued := by simp [Half.rest]
  hidden := by simp [Half.rest, distinct.symm, hidden]

/-- An order which may come to rest on the half at the given limit. -/
structure Joins (books : Books) (order : OrderPtr) (symbol : Symbol)
    (side : BookSide) (limit : Int64) : Prop where
  rests : books.RestsOn order symbol side
  price : (books.heap order).price = limit
  positive : 0 < (books.heap order).quantity

/-- An order joins any books in which it has the same fields. -/
theorem Joins.of_heap {other : Books}
    (joins : books.Joins order symbol side limit)
    (same : other.heap order = books.heap order) :
    other.Joins order symbol side limit where
  rests := by
    rw [RestsOn, same]
    exact joins.rests
  price := by
    rw [same]
    exact joins.price
  positive := by
    rw [same]
    exact joins.positive

/--
An order comes to rest on its half, unless it trades and thereby unsets the
cached price of the other half.
-/
theorem half_submit (joins : books.Joins order symbol side limit) :
    (books.next (.submit order)).half symbol side =
        (books.half symbol side).rest side limit order ∨
      (books.next (.submit order)).half symbol side =
          books.half symbol side ∧
        ((books.next (.submit order)).half symbol side.opposite).best =
          -1 := by
  obtain ⟨⟨rfl, rfl⟩, rfl, positive⟩ := joins
  have samePlace := books.place_matched order order
  have sameOwn := books.ownHalf_matched order
  have sameSymbol := congrArg Place.symbol samePlace
  have sameSide := congrArg Place.side samePlace
  have samePrice := congrArg Place.price samePlace
  simp only [Order.place] at sameSymbol sameSide samePrice
  rw [next_submit]
  by_cases remains : 0 < ((books.matched order).heap order).quantity
  · left
    rw [half_rested, if_pos ⟨remains, sameSymbol.symm, sameSide.symm⟩,
      sameOwn, samePrice]
    rfl
  · right
    rw [rested_of_none remains]
    rw [matched] at remains ⊢
    cases found : books.counterparty order with
    | none =>
        rw [found] at remains
        exact absurd positive remains
    | some resting =>
        simp [half_execute, Half.trade]

theorem half_submit_of_unset (joins : books.Joins order symbol side limit)
    (unset : (books.half symbol side.opposite).best = -1) :
    (books.next (.submit order)).half symbol side =
      (books.half symbol side).rest side limit order := by
  obtain ⟨⟨rfl, rfl⟩, rfl, positive⟩ := joins
  have nobody : books.counterparty order = none :=
    counterparty_of_front_none (if_pos unset)
  rw [next_submit, matched, nobody]
  simp [half_rested, positive, ownHalf]

/-- Of two orders for the same half at least one comes to rest there. -/
theorem primed_submit_twice {second : OrderPtr} (distinct : limit ≠ price)
    (joins : books.Joins order symbol side limit)
    (secondJoins :
      (books.next (.submit order)).Joins second symbol side limit)
    (reaches :
      (books.half symbol side).best = limit ∨
        side.Improves (books.half symbol side).best limit)
    (hidden : (books.half symbol side).queue price = []) :
    Primed price limit
      (((books.next (.submit order)).next (.submit second)).half
        symbol side) := by
  rcases half_submit joins with rested | ⟨unrested, unset⟩
  · have primed : Primed price limit
        ((books.next (.submit order)).half symbol side) :=
      rested ▸ primed_of_rest distinct reaches hidden order
    rcases half_submit secondJoins with restedToo | ⟨unrested, -⟩
    · rw [restedToo]
      exact primed_of_rest distinct (Or.inl primed.cached) primed.hidden _
    · rwa [unrested]
  · rw [half_submit_of_unset secondJoins unset, unrested]
    exact primed_of_rest distinct reaches hidden second

/-- Such an order keeps an overwritten cache which it does not improve. -/
theorem submit_withBest (joins : books.Joins order symbol side limit)
    (keeps : ¬ side.Improves price limit) :
    (books.withBest symbol side price).next (.submit order) =
      (books.next (.submit order)).withBest symbol side price := by
  rw [next_submit, next_submit, matched_withBest joins.rests.not_meets]
  have samePlace := books.place_matched order order
  have rests : (books.matched order).RestsOn order symbol side :=
    ⟨(congrArg Place.symbol samePlace).trans joins.rests.1,
      (congrArg Place.side samePlace).trans joins.rests.2⟩
  have samePrice : ((books.matched order).heap order).price = limit :=
    (congrArg Place.price samePlace).trans joins.price
  by_cases remains : 0 < ((books.matched order).heap order).quantity
  · rw [rested_withBest rests remains, samePrice, if_neg keeps]
  · rw [rested_of_none remains]
    exact rested_of_none remains

/-- An order object which is not queued is touched only by its submission. -/
theorem heap_submit_of_unqueued {other : OrderPtr}
    (distinct : other ≠ order)
    (unqueued : ∀ place, other ∉ books.queue place) :
    (books.next (.submit order)).heap other = books.heap other := by
  rw [next_submit, heap_rested, matched]
  cases found : books.counterparty order with
  | none => rfl
  | some resting =>
      apply heapAfter_of_ne _ distinct
      rintro rfl
      exact unqueued _ (mem_of_counterparty found)

theorem unqueued_submit {other : OrderPtr} (distinct : other ≠ order)
    (unqueued : ∀ place, other ∉ books.queue place) (place : Place) :
    other ∉ (books.next (.submit order)).queue place := by
  have unmatched : other ∉ (books.matched order).queue place := fun member =>
    unqueued place ((queue_matched_sublist books order place).subset member)
  rw [next_submit, queue_rested]
  split
  · simpa [distinct] using unmatched
  · exact unmatched

/-- One order tells the caches apart where somebody rests at the price. -/
theorem told_apart_at_once (probes : books.Probes incoming symbol side price)
    (improves : side.Improves (books.half symbol side).best price)
    (set : price ≠ -1)
    (queued : (books.half symbol side).queue price ≠ []) :
    LabelledRun.outputs next trades (books.withBest symbol side price)
        [.submit incoming] ≠
      LabelledRun.outputs next trades books [.submit incoming] := by
  have nobody : books.counterparty incoming = none := by
    apply probes.finds_nobody
    exact improves.hides.imp id Or.inr
  have sameHalf :
      (books.withBest symbol side price).half symbol side =
        { queue := (books.half symbol side).queue, best := price } :=
    (half_withBest _ _).trans (if_pos ⟨rfl, rfl⟩)
  have somebody :
      (books.withBest symbol side price).counterparty incoming ≠ none := by
    apply probes.withBest.finds
    · rwa [sameHalf]
    · rwa [sameHalf]
    · rw [sameHalf]
      exact side.crosses_self price
  intro sameOutputs
  rw [LabelledRun.outputs_cons, LabelledRun.outputs_cons,
    trades_submit_eq_nil.mpr nobody] at sameOutputs
  exact somebody (trades_submit_eq_nil.mp (List.cons_eq_cons.mp sameOutputs).1)

/--
Where nobody rests at the price, two orders which rest where the cache was
and one which is matched against them tell the caches apart.
-/
theorem told_apart_later {second : OrderPtr}
    (joins : books.Joins order symbol side limit)
    (secondJoins : books.Joins second symbol side limit)
    (probes : books.Probes incoming symbol side limit)
    (secondNew : second ≠ order) (incomingNew : incoming ≠ order)
    (incomingLast : incoming ≠ second)
    (secondUnqueued : ∀ place, second ∉ books.queue place)
    (incomingUnqueued : ∀ place, incoming ∉ books.queue place)
    (set : limit ≠ -1) (distinct : limit ≠ price)
    (reaches :
      (books.half symbol side).best = limit ∨
        side.Improves (books.half symbol side).best limit)
    (keeps : ¬ side.Improves price limit)
    (hidden : (books.half symbol side).queue price = []) :
    LabelledRun.outputs next trades (books.withBest symbol side price)
        [.submit order, .submit second, .submit incoming] ≠
      LabelledRun.outputs next trades books
        [.submit order, .submit second, .submit incoming] := by
  have secondHeap := heap_submit_of_unqueued secondNew secondUnqueued
  have secondJoinsNext :
      (books.next (.submit order)).Joins second symbol side limit :=
    secondJoins.of_heap secondHeap
  let later := (books.next (.submit order)).next (.submit second)
  have incomingHeap : later.heap incoming = books.heap incoming :=
    (heap_submit_of_unqueued incomingLast
      (unqueued_submit incomingNew incomingUnqueued)).trans
        (heap_submit_of_unqueued incomingNew incomingUnqueued)
  have laterProbes : later.Probes incoming symbol side limit :=
    probes.of_heap incomingHeap
  have primed : Primed price limit (later.half symbol side) :=
    primed_submit_twice distinct joins secondJoinsNext reaches hidden
  have somebody : later.counterparty incoming ≠ none := by
    apply laterProbes.finds
    · rwa [primed.cached]
    · rw [primed.cached]
      exact primed.queued
    · rw [primed.cached]
      exact side.crosses_self limit
  have nobody :
      (later.withBest symbol side price).counterparty incoming = none := by
    apply laterProbes.withBest.finds_nobody
    right
    left
    rw [half_withBest, if_pos ⟨rfl, rfl⟩]
    exact primed.hidden
  intro sameOutputs
  simp only [LabelledRun.outputs_cons, LabelledRun.outputs_nil,
    submit_withBest joins keeps, submit_withBest secondJoinsNext keeps,
    List.cons_eq_cons, and_true] at sameOutputs
  have sameLast := sameOutputs.2.2
  rw [trades_submit_eq_nil.mpr nobody] at sameLast
  exact somebody (trades_submit_eq_nil.mp sameLast.symm)

end Telling

end Books

/-! ## Orders which callers create later -/

/-- The side which rests on a half. -/
def BookSide.orderSide : BookSide → Side
  | .bid => .buy
  | .ask => .sell

@[simp]
theorem BookSide.bookSide_orderSide (side : BookSide) :
    side.orderSide.bookSide = side := by
  cases side <;> rfl

/--
Order objects of one unit at one price: those from `incoming` on are matched
against the half, and those before rest there.
-/
def probes (symbol : Symbol) (orderID : UInt64) (side : BookSide)
    (limit : Price) (incoming : OrderPtr) : Heap := fun order =>
  newOrder orderID symbol
    (if incoming ≤ order then side.opposite.orderSide else side.orderSide)
    limit 1

/-- There are always order objects which were not used yet. -/
theorem exists_unused (seen : List OrderPtr) :
    ∃ unused : OrderPtr, ∀ order ∈ seen, order < unused := by
  induction seen with
  | nil => exact ⟨0, by simp⟩
  | cons first rest inductionHypothesis =>
      obtain ⟨unused, above⟩ := inductionHypothesis
      refine ⟨max unused (first + 1), ?_⟩
      intro order member
      rcases List.mem_cons.mp member with rfl | inRest
      · exact lt_max_of_lt_right (Nat.lt_succ_self order)
      · exact lt_max_of_lt_left (above order inRest)

namespace Session

variable (session : Session) {order : OrderPtr}

theorem untouched_next
    (distinct :
      DistinctIDs session.orders (session.calls ++ [.submit order])) :
    session.state.heap order = session.orders order :=
  session.sound.untouched order distinct.fresh

/-- The books after an order without trades was submitted and cancelled. -/
theorem books_undone
    (distinct :
      DistinctIDs session.orders (session.calls ++ [.submit order]))
    (positive : 0 < (session.orders order).quantity)
    (noTrade : session.state.trades (.submit order) = []) :
    (LabelledRun.run State.next session.state
        (undoCalls order (session.orders order))).books =
      session.state.books.withBest (session.state.heap order).symbol
        (session.state.heap order).side.bookSide
        (if (session.state.heap order).side.bookSide.Improves
            (session.state.books.ownHalf order).best
            (session.state.heap order).price then
          (session.state.heap order).price
        else (session.state.books.ownHalf order).best) := by
  have untouched := session.untouched_next distinct
  rw [State.run_books session.keyed, ← untouched]
  apply Books.run_undoCalls
  · rw [State.trades_eq session.keyed] at noTrade
    exact Books.trades_submit_eq_nil.mp noTrade
  · rwa [← untouched] at positive
  · intro other member sameID
    have sound := session.sound
    have otherSeen :=
      sound.queuedSeen (session.state.heap order).place other member
    rw [sound.id_eq other, sound.id_eq order] at sameID
    have same : other = order :=
      distinct.injective (by simp [otherSeen]) (by simp) sameID
    exact distinct.fresh (same ▸ otherSeen)

/-- An order which leaves the cache as it was is undone. -/
theorem undoes_of_leavesCache
    (distinct :
      DistinctIDs session.orders (session.calls ++ [.submit order]))
    (positive : 0 < (session.orders order).quantity)
    (noTrade : session.state.trades (.submit order) = [])
    (leaves : session.state.LeavesCache order) :
    session.Undoes order := by
  intro created later seen without undone _
  have booksUndone := session.books_undone distinct positive noTrade
  have undoneKeyed : undone.Keyed :=
    session.keyed.run (undoCalls order (session.orders order))
  have withoutKeyed : without.Keyed := session.keyed
  have unnoticed :
      Books.Unnoticed (session.state.heap order).symbol without.books
        undone.books := by
    rw [State.books_creating, State.books_creating, booksUndone]
    split
    · next improves =>
        obtain ⟨isAsk, unset, isMax, empty⟩ :=
          leaves.resolve_left (not_not_intro improves)
        right
        rw [isAsk, isMax]
        rw [isAsk] at unset empty
        exact ⟨rfl, unset, isMax ▸ empty⟩
    · exact
        Or.inl
          (congrArg (fun books => books.creating seen created)
            (Books.withBest_self rfl))
  rw [State.outputs_books undoneKeyed, State.outputs_books withoutKeyed]
  exact unnoticed.outputs later

/-- New orders of one unit join the half below `incoming`. -/
theorem joins_probes {books : Books} {seen : List OrderPtr}
    {symbol : Symbol} {orderID : UInt64} {side : BookSide} {limit : Price}
    {incoming new : OrderPtr} (unseen : new ∉ seen)
    (before : new < incoming) :
    (books.creating seen
      (probes symbol orderID side limit incoming)).Joins new symbol side
        limit := by
  have isProbe :
      (books.creating seen
          (probes symbol orderID side limit incoming)).heap new =
        newOrder orderID symbol side.orderSide limit 1 := by
    simp [Books.creating, unseen, probes, Nat.not_le.mpr before]
  constructor
  · rw [Books.RestsOn, isProbe]
    exact ⟨rfl, side.bookSide_orderSide⟩
  · rw [isProbe]
    rfl
  · rw [isProbe]
    exact (by decide : (0 : Quantity) < 1)

/-- New orders of one unit are matched against the half from `incoming` on. -/
theorem probes_probes {books : Books} {seen : List OrderPtr}
    {symbol : Symbol} {orderID : UInt64} {side : BookSide} {limit : Price}
    {incoming new : OrderPtr} (unseen : new ∉ seen)
    (reached : incoming ≤ new) :
    (books.creating seen
      (probes symbol orderID side limit incoming)).Probes new symbol side
        limit := by
  have isProbe :
      (books.creating seen
          (probes symbol orderID side limit incoming)).heap new =
        newOrder orderID symbol side.opposite.orderSide limit 1 := by
    simp [Books.creating, unseen, probes, reached]
  constructor
  · rw [Books.Meets, isProbe]
    refine ⟨rfl, ?_⟩
    change side.opposite.orderSide.bookSide.opposite = side
    rw [BookSide.bookSide_orderSide, BookSide.opposite_opposite]
  · rw [isProbe]
    rfl
  · rw [isProbe]
    exact (by decide : (0 : Quantity) < 1)

/-- A new order has another ID than the one which was undone. -/
theorem probes_onOther {s : State} {seen : List OrderPtr} {symbol : Symbol}
    {orderID : UInt64} {side : BookSide} {limit : Price}
    {incoming new : OrderPtr} (unseen : new ∉ seen) :
    Call.OnOther
      (s.creating seen
        (probes symbol (orderID + 1) side limit incoming)).heap
      orderID (.submit new) := by
  change
    (if new ∈ seen then s.heap new
      else probes symbol (orderID + 1) side limit incoming new).id ≠ orderID
  rw [if_neg unseen]
  change orderID + 1 ≠ orderID
  simp

/--
Later calls on other orders do not tell whether the price of the order is
cached.
-/
def CacheUntold (session : Session) (order : OrderPtr) : Prop :=
  ∀ (created : Heap) (later : List Call),
    (∀ call ∈ later,
      call.OnOther
        (session.state.creating (submitted session.calls ++ [order])
          created).heap
        (session.orders order).id) →
      LabelledRun.outputs Books.next Books.trades
          ((session.state.books.creating
              (submitted session.calls ++ [order]) created).withBest
            (session.state.heap order).symbol
            (session.state.heap order).side.bookSide
            (session.state.heap order).price) later =
        LabelledRun.outputs Books.next Books.trades
          (session.state.books.creating
            (submitted session.calls ++ [order]) created) later

/-- What an order which is undone requires of the books. -/
theorem untold_of_undoes (undoes : session.Undoes order)
    (distinct :
      DistinctIDs session.orders (session.calls ++ [.submit order]))
    (positive : 0 < (session.orders order).quantity)
    (noTrade : session.state.trades (.submit order) = [])
    (improves :
      (session.state.heap order).side.bookSide.Improves
        (session.state.books.ownHalf order).best
        (session.state.heap order).price) :
    session.CacheUntold order := by
  intro created later onOther
  have booksUndone := session.books_undone distinct positive noTrade
  rw [if_pos improves] at booksUndone
  have undoneKeyed :
      ((LabelledRun.run State.next session.state
        (undoCalls order (session.orders order))).creating
          (submitted session.calls ++ [order]) created).Keyed :=
    session.keyed.run (undoCalls order (session.orders order))
  have withoutKeyed :
      (session.state.creating (submitted session.calls ++ [order])
        created).Keyed := session.keyed
  have same := undoes created later onOther
  rw [State.outputs_books undoneKeyed, State.outputs_books withoutKeyed,
    State.books_creating, State.books_creating, booksUndone] at same
  exact same

section Unseen

variable {session} {unused : OrderPtr}
    (unseen :
      ∀ new, unused ≤ new → new ∉ submitted session.calls ++ [order])

include unseen

/-- Objects which were never submitted are in no queue. -/
theorem unqueued_of_unseen (created : Heap) (new : OrderPtr)
    (reached : unused ≤ new) (place : Place) :
    new ∉
      (session.state.books.creating
        (submitted session.calls ++ [order]) created).queue place := by
  intro member
  have queuedSeen := session.sound.queuedSeen place new member
  exact unseen new reached (List.mem_append_left _ queuedSeen)

/--
When nothing is queued at the price, two later orders at another price and one
against them tell that the price is cached.
-/
theorem told_of_empty
    (positive : 0 < (session.state.heap order).price)
    (improves :
      (session.state.heap order).side.bookSide.Improves
        (session.state.books.ownHalf order).best
        (session.state.heap order).price)
    (below :
      ¬ ((session.state.heap order).side.bookSide = .ask ∧
        (session.state.books.ownHalf order).best = -1 ∧
        (session.state.heap order).price = Int64.maxValue))
    (empty :
      (session.state.books.ownHalf order).queue
        (session.state.heap order).price = []) :
    ¬ session.CacheUntold order := by
  intro untold
  obtain ⟨limit, limitSet, limitDistinct, reaches, keeps⟩ :=
    BookSide.exists_limit positive improves below
  let created :=
    probes (session.state.heap order).symbol
      ((session.orders order).id + 1)
      (session.state.heap order).side.bookSide limit (unused + 2)
  have joins :
      ∀ new, unused ≤ new → new < unused + 2 →
        (session.state.books.creating
          (submitted session.calls ++ [order]) created).Joins new
            (session.state.heap order).symbol
            (session.state.heap order).side.bookSide limit :=
    fun new reached before => joins_probes (unseen new reached) before
  have isProbe :
      (session.state.books.creating
        (submitted session.calls ++ [order]) created).Probes (unused + 2)
          (session.state.heap order).symbol
          (session.state.heap order).side.bookSide limit :=
    probes_probes (unseen _ (Nat.le_add_right unused 2)) (Nat.le_refl _)
  have last : unused < unused + 2 := Nat.lt_add_of_pos_right (by decide)
  apply
    Books.told_apart_later (joins unused (Nat.le_refl _) last)
      (joins (unused + 1) (Nat.le_succ _) (Nat.lt_succ_self _)) isProbe
      (Nat.succ_ne_self _) last.ne' (Nat.succ_ne_self _)
      (unqueued_of_unseen unseen _ _ (Nat.le_succ _))
      (unqueued_of_unseen unseen _ _ (Nat.le_add_right _ 2))
      limitSet limitDistinct reaches keeps empty
  apply untold
  intro call member
  simp only [List.mem_cons, List.not_mem_nil, or_false] at member
  rcases member with rfl | rfl | rfl
  · exact probes_onOther (unseen _ (Nat.le_refl _))
  · exact probes_onOther (unseen _ (Nat.le_succ _))
  · exact probes_onOther (unseen _ (Nat.le_add_right _ 2))

/-- When orders are queued at the price, one against them tells it at once. -/
theorem told_of_queued
    (set : (session.state.heap order).price ≠ -1)
    (improves :
      (session.state.heap order).side.bookSide.Improves
        (session.state.books.ownHalf order).best
        (session.state.heap order).price)
    (queued :
      (session.state.books.ownHalf order).queue
        (session.state.heap order).price ≠ []) :
    ¬ session.CacheUntold order := by
  intro untold
  let created :=
    probes (session.state.heap order).symbol
      ((session.orders order).id + 1)
      (session.state.heap order).side.bookSide
      (session.state.heap order).price unused
  have isProbe :
      (session.state.books.creating
        (submitted session.calls ++ [order]) created).Probes unused
          (session.state.heap order).symbol
          (session.state.heap order).side.bookSide
          (session.state.heap order).price :=
    probes_probes (unseen _ (Nat.le_refl unused)) (Nat.le_refl _)
  apply Books.told_apart_at_once isProbe improves set queued
  apply untold
  intro call member
  rw [List.mem_singleton.mp member]
  exact probes_onOther (unseen unused (Nat.le_refl _))

end Unseen

/-- An order which overwrites the cache observably is not undone. -/
theorem not_undoes
    (distinct :
      DistinctIDs session.orders (session.calls ++ [.submit order]))
    (positive :
      0 < (session.orders order).price ∧
        0 < (session.orders order).quantity)
    (noTrade : session.state.trades (.submit order) = [])
    (overwrites : ¬ session.state.LeavesCache order) :
    ¬ session.Undoes order := by
  intro undoes
  obtain ⟨improvesNot, notCorner⟩ := not_or.mp overwrites
  have improves :
      (session.state.heap order).side.bookSide.Improves
        (session.state.books.ownHalf order).best
        (session.state.heap order).price := not_not.mp improvesNot
  have pricePositive : 0 < (session.state.heap order).price :=
    session.untouched_next distinct ▸ positive.1
  have set : (session.state.heap order).price ≠ -1 := by
    intro unset
    rw [unset] at pricePositive
    exact absurd pricePositive (by decide)
  obtain ⟨unused, above⟩ := exists_unused (submitted session.calls ++ [order])
  have unseen :
      ∀ new, unused ≤ new → new ∉ submitted session.calls ++ [order] :=
    fun new reached member => absurd (above new member) (Nat.not_lt.mpr reached)
  have untold :=
    session.untold_of_undoes undoes distinct positive.2 noTrade improves
  by_cases empty :
      (session.state.books.ownHalf order).queue
        (session.state.heap order).price = []
  · refine told_of_empty unseen pricePositive improves ?_ empty untold
    rintro ⟨isAsk, unset, isMax⟩
    exact notCorner ⟨isAsk, unset, isMax, empty⟩
  · exact told_of_queued unseen set improves empty untold

/--
Submitting an order without trades and cancelling it is undone exactly when
the order leaves the cached best price of its half alone.
-/
theorem cancel_undoes_submit (session : Session) (order : OrderPtr)
    (distinct :
      DistinctIDs session.orders (session.calls ++ [.submit order]))
    (positive :
      0 < (session.orders order).price ∧
        0 < (session.orders order).quantity)
    (noTrade : session.state.trades (.submit order) = []) :
    session.Undoes order ↔ session.state.LeavesCache order := by
  constructor
  · intro undoes
    by_contra overwrites
    exact
      session.not_undoes distinct positive noTrade overwrites undoes
  · exact session.undoes_of_leavesCache distinct positive.2 noTrade

theorem cancel_undoes_submit_sample :
    twoAsks.Undoes 3 ↔ twoAsks.state.LeavesCache 3 :=
  cancel_undoes_submit twoAsks 3 (by decide) (by decide) (by decide)

/-- An ask and a bid at 12. -/
def laterOrders : Heap
  | 1 => newOrder 2 "AAPL" .sell 12 1
  | _ => newOrder 3 "AAPL" .buy 12 1

/--
An ask at 10 is submitted to a new engine and cancelled.  The cached price 10
then hides a later ask at 12 from a bid at 12.
-/
theorem cancel_undoes_submit_fails :
    ¬ ∀ session : Session, ∀ order,
        DistinctIDs session.orders (session.calls ++ [.submit order]) →
          0 < (session.orders order).price ∧
              0 < (session.orders order).quantity →
            session.state.trades (.submit order) = [] →
              session.Undoes order := by
  intro undone
  have same :=
    undone ⟨sampleOrders, [], List.nodup_nil⟩ 0 (by decide) (by decide)
      (by decide) laterOrders [.submit 1, .submit 2] (by decide)
  exact absurd same (by decide)

end Session

end AeroRisk.Orderbook
