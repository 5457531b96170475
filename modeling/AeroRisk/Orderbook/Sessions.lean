import AeroRisk.Orderbook.SoundBooks

/-!
# Sessions and the books they reach

The refinement and the invariant are combined into what later modules use: the
books of a session are sound, its trades are those of the books, and an event
of the engine is an event of the books.
-/

namespace AeroRisk.Orderbook

open AeroRisk.Library

/-- The queue of the level stored at a place. -/
def State.queue (s : State) (place : Place) : List OrderPtr :=
  ((s.engine.getOrderBook place.symbol).levels place.side).ordersAt
    place.price

/-- Something about the prices of a set is decided price by price. -/
instance decidablePrices (prices : Finset Int64) (property : Int64 → Prop)
    [DecidablePred property] : Decidable (∀ price ∈ prices, property price) :=
  Finset.decidableDforallFinset

/-- The prices at which some order rests. -/
def OrderBook.restingPrices (ob : OrderBook) (side : BookSide) :
    Finset Int64 :=
  (ob.levels side).keys.filter fun price =>
    (ob.levels side).ordersAt price ≠ []

@[simp]
theorem OrderBook.mem_restingPrices (ob : OrderBook) (side : BookSide)
    (price : Int64) :
    price ∈ ob.restingPrices side ↔
      (ob.levels side).ordersAt price ≠ [] := by
  rw [restingPrices, Finset.mem_filter, Finmap.mem_keys]
  constructor
  · exact And.right
  · intro queued
    refine ⟨?_, queued⟩
    by_contra absent
    rw [← Finmap.lookup_eq_none] at absent
    exact queued (by simp [Levels.ordersAt, absent])

/-- A successful cancel: the call removes this order from its level. -/
def State.Cancels (s : State) (order : OrderPtr) : Call → Prop
  | .submit _ => False
  | .cancel symbol orderID side price =>
      order ∈ s.queue ⟨symbol, side.bookSide, price⟩ ∧
        (s.heap order).id = orderID

/-- A cancel which removes this order, seen in the books. -/
def Books.Cancels (books : Books) (order : OrderPtr) : Call → Prop
  | .submit _ => False
  | .cancel symbol orderID side price =>
      order ∈ books.queue ⟨symbol, side.bookSide, price⟩ ∧
        (books.heap order).id = orderID

theorem State.cancels_books (s : State) (order : OrderPtr) (call : Call) :
    s.books.Cancels order call ↔ s.Cancels order call := by
  cases call <;> rfl

theorem DistinctIDs.of_append {orders : Heap} {first second : List Call}
    (distinct : DistinctIDs orders (first ++ second)) :
    DistinctIDs orders first := by
  rw [DistinctIDs, submitted_append, List.map_append] at distinct
  exact (List.nodup_append.mp distinct).1

theorem DistinctIDs.nodup {orders : Heap} {calls : List Call}
    (distinct : DistinctIDs orders calls) : (submitted calls).Nodup :=
  List.Nodup.of_map _ distinct

theorem DistinctIDs.injective {orders : Heap} {calls : List Call}
    (distinct : DistinctIDs orders calls) {first second : OrderPtr}
    (firstMember : first ∈ submitted calls)
    (secondMember : second ∈ submitted calls)
    (sameID : (orders first).id = (orders second).id) : first = second :=
  List.inj_on_of_nodup_map distinct firstMember secondMember sameID

/-- The order of a further submission is new to the session. -/
theorem DistinctIDs.fresh {orders : Heap} {calls : List Call}
    {order : OrderPtr}
    (distinct : DistinctIDs orders (calls ++ [.submit order])) :
    order ∉ submitted calls := by
  have nodup := distinct.nodup
  rw [submitted_append] at nodup
  intro member
  exact List.disjoint_of_nodup_append nodup member (by simp)

/-! ## Trades while a loop runs -/

/--
The loop which `SubmitOrder` runs for `order` in state `s` goes from `m` to
`after` by a trade with `resting`, an order then resting on the other side.
-/
structure TradeStep (s : State) (order resting : OrderPtr)
    (m after : Matching) (trade : Trade) : Prop where
  reached :
    BoundedLoop.Passes (matchBody (s.heap order).side order)
      (startMatching s order) m
  step : matchBody (s.heap order).side order m = some after
  returned : after.trades = m.trades ++ [trade]
  rests :
    ∃ price,
      resting ∈
        (m.book.levels (s.heap order).side.bookSide.opposite).ordersAt price
  named :
    (m.heap resting).id =
      if (s.heap order).side = .buy then trade.sellerID else trade.buyerID

namespace TradeStep

variable
    {s : State} {order resting : OrderPtr} {m after : Matching}
    {trade : Trade}

/-- Only the state in which a call is made can be the state before a trade. -/
theorem start (tradeStep : TradeStep s order resting m after trade) :
    m = startMatching s order :=
  BoundedLoop.passes_of_stops_after_one
    (fun _ _ step => matchBody_stops step) tradeStep.reached tradeStep.step

/-- The order traded with is the counterparty which the books name. -/
theorem spec (tradeStep : TradeStep s order resting m after trade)
    (keyed : s.Keyed)
    (injective :
      ∀ first second price otherPrice,
        first ∈ s.queue ⟨(s.heap order).symbol,
          (s.heap order).side.bookSide.opposite, price⟩ →
        second ∈ s.queue ⟨(s.heap order).symbol,
          (s.heap order).side.bookSide.opposite, otherPrice⟩ →
        (s.heap first).id = (s.heap second).id → first = second) :
    s.books.counterparty order = some resting ∧
      trade = Books.tradeOf s.heap order resting ∧
      after = matchLoop order (startMatching s order) := by
  have isStart := tradeStep.start
  subst isStart
  have step := tradeStep.step
  cases found : s.books.counterparty order with
  | none =>
      have stops :
          matchBody (s.heap order).side order (startMatching s order) =
            none :=
        matchBody_none (keyed.startMatching order) found
      rw [stops] at step
      cases step
  | some counterparty =>
      have result : matchLoop order (startMatching s order) = after :=
        matchLoop_of_step step
      have executed := matchLoop_some (keyed.startMatching order) found
      rw [result] at executed
      have isTrade : trade = Books.tradeOf s.heap order counterparty := by
        have returned := tradeStep.returned
        rw [executed.2.2.1] at returned
        simpa [startMatching, eq_comm] using returned
      obtain ⟨price, rests⟩ := tradeStep.rests
      have same : resting = counterparty := by
        apply injective _ _ price _ rests (Books.mem_of_counterparty found)
        have named := tradeStep.named
        rw [isTrade, Books.tradeOf] at named
        refine named.trans ?_
        dsimp only
        split <;> rfl
      subst same
      exact ⟨rfl, isTrade, result.symm⟩

end TradeStep

/-! ## From the engine to its books -/

namespace State

variable (orders : Heap) (calls : List Call)

theorem outputs_books {s : State} (keyed : s.Keyed) (calls : List Call) :
    LabelledRun.outputs State.next State.trades s calls =
      LabelledRun.outputs Books.next Books.trades s.books calls := by
  induction calls generalizing s with
  | nil => rfl
  | cons call rest inductionHypothesis =>
      rw [LabelledRun.outputs_cons, LabelledRun.outputs_cons,
        trades_eq keyed, inductionHypothesis (keyed.next call),
        books_next keyed]

theorem outputs_eq :
    LabelledRun.outputs State.next State.trades (initial orders) calls =
      LabelledRun.outputs Books.next Books.trades
        (Books.initial orders) calls := by
  rw [outputs_books (keyed_initial orders), books_initial]

theorem sometime_cancels (order : OrderPtr) :
    LabelledRun.Sometime State.next (fun s => s.Cancels order)
        (initial orders) calls ↔
      LabelledRun.Sometime Books.next (fun books => books.Cancels order)
        (Books.initial orders) calls := by
  rw [← LabelledRun.sometime_view (books_run orders)]
  simp only [cancels_books]

end State

namespace Session

variable (session : Session)

theorem books_eq :
    session.state.books =
      LabelledRun.run Books.next (Books.initial session.orders)
        session.calls :=
  State.books_run session.orders session.calls

theorem sound :
    Books.Sound session.orders (submitted session.calls)
      session.state.books := by
  rw [books_eq]
  exact Books.Sound.run session.orders session.calls
    session.distinctIDs.nodup

theorem keyed : session.state.Keyed :=
  State.keyed_run session.orders session.calls

/-- Some call of the session cancelled the order successfully. -/
def Cancelled (order : OrderPtr) : Prop :=
  LabelledRun.Sometime State.next (fun s => s.Cancels order)
    (State.initial session.orders) session.calls

theorem allTrades_eq :
    session.allTrades =
      (LabelledRun.outputs Books.next Books.trades
        (Books.initial session.orders) session.calls).flatten := by
  rw [allTrades, State.outputs_eq]

/-- A trade step of a further submission, in terms of the books. -/
theorem tradeStep_spec {order resting : OrderPtr} {m after : Matching}
    {trade : Trade}
    (tradeStep :
      TradeStep session.state order resting m after trade) :
    session.state.books.counterparty order = some resting ∧
      trade = Books.tradeOf session.state.heap order resting ∧
      after = matchLoop order (startMatching session.state order) := by
  apply tradeStep.spec session.keyed
  intro first second price otherPrice firstMember secondMember sameID
  have sound := session.sound
  apply session.distinctIDs.injective
    (sound.queuedSeen _ first firstMember)
    (sound.queuedSeen _ second secondMember)
  rw [← sound.id_eq first, ← sound.id_eq second]
  exact sameID

/-- Every trade returned by a submission is made by a step of its loop. -/
theorem tradeStep_of_returned {order : OrderPtr} {trade : Trade}
    (returned : trade ∈ session.state.trades (.submit order)) :
    ∃ resting after,
      TradeStep session.state order resting
        (startMatching session.state order) after trade := by
  rw [State.trades_eq session.keyed] at returned
  rw [Books.trades] at returned
  cases found : session.state.books.counterparty order with
  | none => simp [found] at returned
  | some resting =>
      rw [found, List.mem_singleton] at returned
      obtain ⟨after, step, executed⟩ :=
        matchBody_some (session.keyed.startMatching order) found
      refine ⟨resting, after, ?_⟩
      exact
        { reached := Relation.ReflTransGen.refl
          step := step
          returned := returned ▸ executed.2.2.1
          rests := ⟨_, Books.mem_of_counterparty found⟩
          named := by
            rw [returned, Books.tradeOf]
            dsimp only
            split <;> simp_all [startMatching, State.books] }

/-- A session goes on with one more call. -/
def extend (call : Call)
    (distinct : DistinctIDs session.orders (session.calls ++ [call])) :
    Session where
  orders := session.orders
  calls := session.calls ++ [call]
  distinctIDs := distinct

@[simp]
theorem state_extend (call : Call)
    (distinct : DistinctIDs session.orders (session.calls ++ [call])) :
    (session.extend call distinct).state = session.state.next call := by
  simp [state, extend]

/-- What holds before any call and is kept by every call holds always. -/
theorem induction {property : Session → Prop}
    (start : ∀ orders, property ⟨orders, [], List.nodup_nil⟩)
    (step :
      ∀ session call distinct,
        property session → property (extend session call distinct)) :
    property session := by
  rcases session with ⟨orders, calls, distinctIDs⟩
  induction calls using List.reverseRecOn with
  | nil => exact start orders
  | append_singleton calls call inductionHypothesis =>
      exact
        step ⟨orders, calls, distinctIDs.of_append⟩ call distinctIDs
          (inductionHypothesis distinctIDs.of_append)

/-- The part of a session up to some call. -/
def upTo (earlier : List Call) (isPrefixOf : earlier <+: session.calls) :
    Session where
  orders := session.orders
  calls := earlier
  distinctIDs := by
    rcases isPrefixOf with ⟨later, split⟩
    exact (split ▸ session.distinctIDs).of_append

end Session

end AeroRisk.Orderbook
