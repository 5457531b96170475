import AeroRisk.Library.Channels
import AeroRisk.Orderbook.Refinement

/-!
# The feed of trades

The engine sends every trade on its trade channel before the iteration of the
loop goes on, and the send blocks while the buffer of the channel is full.  One
goroutine calls the engine, and another one reads the channel; a schedule names
the goroutine which makes the next step.

The reader gets the trades of the calls in order, none lost and none twice, and
the calls leave and return what they do without the channel.  With a reader the
calls never get stuck; without one they return exactly when there are no more
trades than the channel has room for.
-/

namespace AeroRisk.Orderbook

open AeroRisk.Financial
open AeroRisk.Library

/-- A call of `SubmitOrder` which is in the loop of `matchOrder`. -/
structure Submitting where
  order : OrderPtr
  side : Side
  matching : Matching

/-- The engine, the goroutine which calls it, and the one which reads. -/
structure Feed where
  state : State
  /-- The calls which are still to be made. -/
  calls : List Call
  submitting : Option Submitting
  returned : List (List Trade)
  tradeChan : Channel Trade
  received : List Trade

/-- The two goroutines. -/
inductive Party where
  | caller
  | reader
deriving DecidableEq, Repr

/-- `NewMatchingEngine`, with the calls which are made on it. -/
def newFeed (orders : Heap) (calls : List Call) : Feed where
  state := State.initial orders
  calls := calls
  submitting := none
  returned := []
  tradeChan := Channel.make 10000
  received := []

namespace Feed

/-- The caller makes its next call. -/
def call (feed : Feed) : Feed :=
  match feed.calls with
  | [] => feed
  | .submit order :: rest =>
      { feed with
        calls := rest
        submitting :=
          some
            { order
              side := (feed.state.heap order).side
              matching := startMatching feed.state order } }
  | .cancel symbol orderID side price :: rest =>
      { feed with
        calls := rest
        state := cancelOrder feed.state symbol orderID side price
        returned := feed.returned ++ [[]] }

/-- The caller goes on in `matchOrder`, unless it has to wait. -/
def goOn (feed : Feed) (c : Submitting) : Feed :=
  match matchBody c.side c.order c.matching with
  | none =>
      let rested := restOrder c.order c.matching
      { feed with
        state := finishMatching feed.state c.order rested
        submitting := none
        returned := feed.returned ++ [rested.trades] }
  | some after =>
      match after.trades.getLast? with
      | none => feed
      | some trade =>
          match feed.tradeChan.trySend trade with
          | .sent tradeChan =>
              { feed with
                tradeChan
                submitting := some { c with matching := after } }
          | .full => feed
          | .fault => feed

/-- The reader receives a trade, unless it has to wait. -/
def read (feed : Feed) : Feed :=
  match feed.tradeChan.receive with
  | .received trade tradeChan =>
      { feed with tradeChan, received := feed.received ++ [trade] }
  | .blocked => feed
  | .closed => feed

/-- A step of one of the goroutines. -/
def next (feed : Feed) : Party → Feed
  | .caller =>
      match feed.submitting with
      | none => feed.call
      | some c => feed.goOn c
  | .reader => feed.read

/-- All calls returned. -/
def Finished (feed : Feed) : Prop :=
  feed.calls = [] ∧ feed.submitting = none

/-- The trades which the engine sent. -/
def sent (feed : Feed) : List Trade :=
  match feed.submitting with
  | none => feed.state.engine.tradeChan
  | some c => c.matching.tradeChan

/-- The calls which did not return. -/
def pending (feed : Feed) : List Call :=
  match feed.submitting with
  | none => feed.calls
  | some c => .submit c.order :: feed.calls

end Feed

/-! ## The calls without the channel -/

/-- What the calls leave. -/
def stateAfter (orders : Heap) (calls : List Call) : State :=
  LabelledRun.run State.next (State.initial orders) calls

/-- What the calls return. -/
def tradesOf (orders : Heap) (calls : List Call) : List (List Trade) :=
  LabelledRun.outputs State.next State.trades (State.initial orders) calls

section Matching

variable {s : State} {side : Side} {order : OrderPtr} {m after : Matching}

/-- An iteration appends its trade to both lists. -/
theorem matchBody_trade (step : matchBody side order m = some after) :
    ∃ trade,
      after.trades = m.trades ++ [trade] ∧
        after.tradeChan = m.tradeChan ++ [trade] := by
  by_cases buys : side = .buy
  · rw [matchBody, if_pos buys, matchBuyBody] at step
    split at step
    · cases step
    · split at step
      · split at step
        · cases step
        · cases step
          exact ⟨_, rfl, rfl⟩
      · cases step
  · rw [matchBody, if_neg buys, matchSellBody] at step
    split at step
    · cases step
    · split at step
      · split at step
        · cases step
        · cases step
          exact ⟨_, rfl, rfl⟩
      · cases step

@[simp]
theorem trades_restOrder : (restOrder order m).trades = m.trades := by
  rw [restOrder]
  split <;> rfl

@[simp]
theorem tradeChan_restOrder :
    (restOrder order m).tradeChan = m.tradeChan := by
  rw [restOrder]
  split <;> rfl

/-- A submission starts the loop, or it is past its one iteration. -/
def Reached (s : State) (c : Submitting) : Prop :=
  c.side = (s.heap c.order).side ∧
    (c.matching = startMatching s c.order ∨
      matchBody c.side c.order (startMatching s c.order) = some c.matching)

variable {c : Submitting}

theorem Reached.goOn (reached : Reached s c)
    (step : matchBody c.side c.order c.matching = some after) :
    c.matching = startMatching s c.order ∧
      Reached s { c with matching := after } := by
  obtain ⟨sameSide, isStart | stepped⟩ := reached
  · refine ⟨isStart, sameSide, Or.inr ?_⟩
    rw [isStart] at step
    exact step
  · rw [matchBody_stops stepped] at step
    cases step

/-- The end of the loop is that of `matchOrder`. -/
theorem Reached.matchLoop (reached : Reached s c)
    (stops : matchBody c.side c.order c.matching = none) :
    matchLoop c.order (startMatching s c.order) = c.matching := by
  obtain ⟨sameSide, isStart | stepped⟩ := reached
  · rw [Orderbook.matchLoop, ← isStart]
    apply BoundedLoop.iterate_of_none
    rw [isStart] at stops ⊢
    rwa [sameSide] at stops
  · rw [sameSide] at stepped
    exact matchLoop_of_step stepped

/-- What the loop sent so far is what it returns so far. -/
theorem Reached.tradeChan (reached : Reached s c) :
    c.matching.tradeChan = s.engine.tradeChan ++ c.matching.trades := by
  obtain ⟨-, isStart | stepped⟩ := reached
  · rw [isStart, startMatching, List.append_nil]
  · obtain ⟨trade, isTrades, isChan⟩ := matchBody_trade stepped
    rw [isTrades, isChan]
    rfl

/-- What a submission returned so far is part of what it returns. -/
theorem Reached.trades_submit (reached : Reached s c) :
    c.matching.trades <+: s.trades (.submit c.order) := by
  rw [State.trades, submitTrades, matchOrder, trades_restOrder]
  obtain ⟨sameSide, isStart | stepped⟩ := reached
  · rw [isStart]
    exact List.nil_prefix
  · rw [sameSide] at stepped
    have isLoop :
        Orderbook.matchLoop c.order (startMatching s c.order) = c.matching :=
      matchLoop_of_step stepped
    rw [isLoop]

/-- The end of the loop is reached. -/
theorem reached_matchLoop (s : State) (order : OrderPtr) :
    Reached s
      { order
        side := (s.heap order).side
        matching := Orderbook.matchLoop order (startMatching s order) } := by
  refine ⟨rfl, ?_⟩
  cases step :
      matchBody (s.heap order).side order (startMatching s order) with
  | none => exact Or.inl (BoundedLoop.iterate_of_none step _)
  | some after =>
      have isLoop :
          Orderbook.matchLoop order (startMatching s order) = after :=
        matchLoop_of_step step
      exact Or.inr (congrArg some isLoop.symm)

end Matching

/-- The engine sends what its calls return. -/
theorem tradeChan_next (s : State) (call : Call) :
    (s.next call).engine.tradeChan = s.engine.tradeChan ++ s.trades call := by
  cases call with
  | submit order =>
      have sent := (reached_matchLoop s order).tradeChan
      rw [State.next, submitOrder, State.trades, submitTrades, finishMatching,
        matchOrder, tradeChan_restOrder, trades_restOrder]
      exact sent
  | cancel symbol orderID side price =>
      rw [State.next, State.trades, List.append_nil]
      rfl

theorem tradeChan_stateAfter (orders : Heap) (calls : List Call) :
    (stateAfter orders calls).engine.tradeChan =
      (tradesOf orders calls).flatten := by
  induction calls using List.reverseRecOn with
  | nil => rfl
  | append_singleton earlier call inductionHypothesis =>
      simp only [stateAfter, tradesOf, LabelledRun.run_append,
        LabelledRun.outputs_append, LabelledRun.run_cons,
        LabelledRun.run_nil, LabelledRun.outputs_cons,
        LabelledRun.outputs_nil, List.flatten_append, List.flatten_cons,
        List.flatten_nil, List.append_nil] at inductionHypothesis ⊢
      rw [tradeChan_next, inductionHypothesis]

/-! ## What the schedule keeps -/

namespace Feed

/-- The calls which returned did what they do without the channel. -/
structure Sound (orders : Heap) (calls done : List Call) (feed : Feed) :
    Prop where
  calls : done ++ feed.pending = calls
  state : feed.state = stateAfter orders done
  returned : feed.returned = tradesOf orders done
  submitting :
    ∀ c, feed.submitting = some c → Reached feed.state c
  sent : feed.received ++ feed.tradeChan.buffer = feed.sent
  isOpen : feed.tradeChan.closed = false
  capacity : feed.tradeChan.capacity = 10000

variable {orders : Heap} {calls done : List Call} {feed : Feed}

theorem sound_newFeed : (newFeed orders calls).Sound orders calls [] where
  calls := rfl
  state := rfl
  returned := rfl
  submitting := by
    intro c isSubmitting
    cases isSubmitting
  sent := rfl
  isOpen := rfl
  capacity := rfl

/-- The calls which returned, and one more. -/
theorem stateAfter_concat (orders : Heap) (done : List Call) (call : Call) :
    stateAfter orders (done ++ [call]) =
      (stateAfter orders done).next call := by
  rw [stateAfter, LabelledRun.run_append]
  rfl

theorem tradesOf_concat (orders : Heap) (done : List Call) (call : Call) :
    tradesOf orders (done ++ [call]) =
      tradesOf orders done ++ [(stateAfter orders done).trades call] := by
  rw [tradesOf, LabelledRun.outputs_append]
  rfl

/-- What a step can do. -/
inductive Step (feed : Feed) : Feed → Prop
  | wait : Step feed feed
  | submit (order : OrderPtr) (rest : List Call)
      (idle : feed.submitting = none)
      (isNext : feed.calls = .submit order :: rest) :
      Step feed
        { feed with
          calls := rest
          submitting :=
            some
              { order
                side := (feed.state.heap order).side
                matching := startMatching feed.state order } }
  | cancel (symbol : Symbol) (orderID : UInt64) (side : Side) (price : Price)
      (rest : List Call) (idle : feed.submitting = none)
      (isNext : feed.calls = .cancel symbol orderID side price :: rest) :
      Step feed
        { feed with
          calls := rest
          state := cancelOrder feed.state symbol orderID side price
          returned := feed.returned ++ [[]] }
  | finish (c : Submitting) (isSubmitting : feed.submitting = some c)
      (stops : matchBody c.side c.order c.matching = none) :
      Step feed
        { feed with
          state :=
            finishMatching feed.state c.order (restOrder c.order c.matching)
          submitting := none
          returned :=
            feed.returned ++ [(restOrder c.order c.matching).trades] }
  | send (c : Submitting) (after : Matching) (trade : Trade)
      (later : Channel Trade) (isSubmitting : feed.submitting = some c)
      (step : matchBody c.side c.order c.matching = some after)
      (isTrade : after.trades.getLast? = some trade)
      (sends : feed.tradeChan.trySend trade = .sent later) :
      Step feed
        { feed with
          tradeChan := later
          submitting := some { c with matching := after } }
  | receive (trade : Trade) (later : Channel Trade)
      (receives : feed.tradeChan.receive = .received trade later) :
      Step feed
        { feed with
          tradeChan := later
          received := feed.received ++ [trade] }

theorem step_call (idle : feed.submitting = none) : feed.Step feed.call := by
  rw [Feed.call]
  split
  · exact .wait
  · next order rest isNext => exact .submit order rest idle isNext
  · next symbol orderID side price rest isNext =>
      exact .cancel symbol orderID side price rest idle isNext

theorem step_goOn {c : Submitting} (isSubmitting : feed.submitting = some c) :
    feed.Step (feed.goOn c) := by
  rw [Feed.goOn]
  split
  · next stops => exact .finish c isSubmitting stops
  · next after step =>
      split
      · exact .wait
      · next trade isTrade =>
          split
          · next later sends =>
              exact .send c after trade later isSubmitting step isTrade sends
          · exact .wait
          · exact .wait

theorem step_next (party : Party) : feed.Step (feed.next party) := by
  cases party with
  | caller =>
      rw [next]
      split
      · next idle => exact step_call idle
      · next c isSubmitting => exact step_goOn isSubmitting
  | reader =>
      rw [next, read]
      split
      · next trade later receives => exact .receive trade later receives
      · exact .wait
      · exact .wait

theorem Sound.sent_of_idle (sound : feed.Sound orders calls done)
    (idle : feed.submitting = none) :
    feed.received ++ feed.tradeChan.buffer = feed.state.engine.tradeChan := by
  rw [sound.sent, Feed.sent, idle]

theorem Sound.sent_of_submitting (sound : feed.Sound orders calls done)
    {c : Submitting} (isSubmitting : feed.submitting = some c) :
    feed.received ++ feed.tradeChan.buffer = c.matching.tradeChan := by
  rw [sound.sent, Feed.sent, isSubmitting]

/-- The calls which did not return begin with the submission. -/
theorem pending_of_submitting {c : Submitting}
    (isSubmitting : feed.submitting = some c) :
    feed.pending = .submit c.order :: feed.calls := by
  rw [pending, isSubmitting]

theorem pending_of_idle (idle : feed.submitting = none) :
    feed.pending = feed.calls := by
  rw [pending, idle]

theorem Sound.submit (sound : feed.Sound orders calls done)
    {order : OrderPtr} {rest : List Call} (idle : feed.submitting = none)
    (isNext : feed.calls = .submit order :: rest) :
    Sound orders calls done
      { feed with
        calls := rest
        submitting :=
          some
            { order
              side := (feed.state.heap order).side
              matching := startMatching feed.state order } } where
  calls := by
    rw [← sound.calls, pending_of_idle idle, isNext]
    rfl
  state := sound.state
  returned := sound.returned
  submitting := by
    intro c isSubmitting
    cases isSubmitting
    exact ⟨rfl, Or.inl rfl⟩
  sent := sound.sent_of_idle idle
  isOpen := sound.isOpen
  capacity := sound.capacity

theorem Sound.cancel (sound : feed.Sound orders calls done)
    {symbol : Symbol} {orderID : UInt64} {side : Side} {price : Price}
    {rest : List Call} (idle : feed.submitting = none)
    (isNext : feed.calls = .cancel symbol orderID side price :: rest) :
    Sound orders calls (done ++ [.cancel symbol orderID side price])
      { feed with
        calls := rest
        state := cancelOrder feed.state symbol orderID side price
        returned := feed.returned ++ [[]] } where
  calls := by
    rw [← sound.calls, pending_of_idle idle, isNext, List.append_assoc,
      pending, idle]
    rfl
  state := by
    rw [stateAfter_concat, ← sound.state]
    rfl
  returned := by
    rw [tradesOf_concat, ← sound.returned]
    rfl
  submitting := by
    intro c isSubmitting
    rw [show feed.submitting = some c from isSubmitting] at idle
    cases idle
  sent := by
    rw [Feed.sent, idle]
    exact sound.sent_of_idle idle
  isOpen := sound.isOpen
  capacity := sound.capacity

theorem Sound.finish (sound : feed.Sound orders calls done) {c : Submitting}
    (isSubmitting : feed.submitting = some c)
    (stops : matchBody c.side c.order c.matching = none) :
    Sound orders calls (done ++ [.submit c.order])
      { feed with
        state :=
          finishMatching feed.state c.order (restOrder c.order c.matching)
        submitting := none
        returned :=
          feed.returned ++ [(restOrder c.order c.matching).trades] } := by
  have isLoop := (sound.submitting c isSubmitting).matchLoop stops
  refine ⟨?_, ?_, ?_, ?_, ?_, sound.isOpen, sound.capacity⟩
  · rw [← sound.calls, pending_of_submitting isSubmitting, List.append_assoc]
    rfl
  · rw [stateAfter_concat, ← sound.state, State.next, submitOrder, matchOrder,
      isLoop]
  · rw [tradesOf_concat, ← sound.returned, ← sound.state, State.trades,
      submitTrades, matchOrder, isLoop]
  · intro other isOther
    cases isOther
  · rw [Feed.sent]
    exact
      (sound.sent_of_submitting isSubmitting).trans
        tradeChan_restOrder.symm

theorem Sound.send (sound : feed.Sound orders calls done) {c : Submitting}
    {after : Matching} {trade : Trade} {later : Channel Trade}
    (isSubmitting : feed.submitting = some c)
    (step : matchBody c.side c.order c.matching = some after)
    (isTrade : after.trades.getLast? = some trade)
    (sends : feed.tradeChan.trySend trade = .sent later) :
    Sound orders calls done
      { feed with
        tradeChan := later
        submitting := some { c with matching := after } } := by
  obtain ⟨sentTrade, isTrades, isChan⟩ := matchBody_trade step
  rw [isTrades, List.getLast?_concat, Option.some.injEq] at isTrade
  subst isTrade
  refine ⟨?_, sound.state, sound.returned, ?_, ?_, ?_, ?_⟩
  · rw [← sound.calls, pending_of_submitting isSubmitting]
    rfl
  · intro other isOther
    cases isOther
    exact ((sound.submitting c isSubmitting).goOn step).2
  · rw [Channel.buffer_of_sent sends, ← List.append_assoc,
      sound.sent_of_submitting isSubmitting]
    exact isChan.symm
  · rw [Channel.closed_of_sent sends]
    exact sound.isOpen
  · rw [Channel.capacity_of_sent sends]
    exact sound.capacity

theorem Sound.receive (sound : feed.Sound orders calls done)
    {trade : Trade} {later : Channel Trade}
    (receives : feed.tradeChan.receive = .received trade later) :
    Sound orders calls done
      { feed with
        tradeChan := later
        received := feed.received ++ [trade] } where
  calls := sound.calls
  state := sound.state
  returned := sound.returned
  submitting := sound.submitting
  sent := by
    have same := sound.sent
    rw [Channel.buffer_of_received receives] at same
    rw [List.append_assoc, List.singleton_append, same]
    rfl
  isOpen := (Channel.closed_of_received receives).trans sound.isOpen
  capacity := (Channel.capacity_of_received receives).trans sound.capacity

theorem Sound.step {after : Feed} (sound : feed.Sound orders calls done)
    (step : feed.Step after) : ∃ done, after.Sound orders calls done := by
  cases step with
  | wait => exact ⟨_, sound⟩
  | submit order rest idle isNext => exact ⟨_, sound.submit idle isNext⟩
  | cancel symbol orderID side price rest idle isNext =>
      exact ⟨_, sound.cancel idle isNext⟩
  | finish c isSubmitting stops => exact ⟨_, sound.finish isSubmitting stops⟩
  | send c after trade later isSubmitting step isTrade sends =>
      exact ⟨_, sound.send isSubmitting step isTrade sends⟩
  | receive trade later receives => exact ⟨_, sound.receive receives⟩

theorem sound_run (orders : Heap) (calls : List Call)
    (schedule : List Party) :
    ∃ done,
      (LabelledRun.run next (newFeed orders calls) schedule).Sound
        orders calls done := by
  have preserved :
      ∀ (feed : Feed) (party : Party),
        (∃ done, feed.Sound orders calls done) →
          ∃ done, (feed.next party).Sound orders calls done := by
    rintro feed party ⟨done, sound⟩
    exact sound.step (step_next party)
  exact
    LabelledRun.run_invariant_of_every preserved schedule ⟨[], sound_newFeed⟩

/-! ## What is delivered -/

/-- What calls return which are made after others. -/
theorem tradesOf_append (orders : Heap) (done rest : List Call) :
    tradesOf orders (done ++ rest) =
      tradesOf orders done ++
        LabelledRun.outputs State.next State.trades (stateAfter orders done)
          rest :=
  LabelledRun.outputs_append State.next State.trades _ done rest

theorem Sound.returned_isPrefix (sound : feed.Sound orders calls done) :
    feed.returned <+: tradesOf orders calls := by
  rw [sound.returned, ← sound.calls, tradesOf_append]
  exact List.prefix_append _ _

/-- A submission has sent no more than the calls return. -/
theorem Sound.tradeChan_isPrefix (sound : feed.Sound orders calls done)
    {c : Submitting} (reached : Reached feed.state c)
    (isPending : feed.pending = .submit c.order :: feed.calls) :
    c.matching.tradeChan <+: (tradesOf orders calls).flatten := by
  rw [← sound.calls, isPending, tradesOf_append, LabelledRun.outputs_cons,
    List.flatten_append, List.flatten_cons, ← tradeChan_stateAfter,
    ← sound.state, reached.tradeChan, List.prefix_append_right_inj]
  exact reached.trades_submit.trans (List.prefix_append _ _)

/-- The trades which are on their way are the first ones of the calls. -/
theorem Sound.delivered_isPrefix (sound : feed.Sound orders calls done) :
    feed.received ++ feed.tradeChan.buffer <+:
      (tradesOf orders calls).flatten := by
  cases isSubmitting : feed.submitting with
  | none =>
      rw [sound.sent_of_idle isSubmitting, sound.state, tradeChan_stateAfter,
        ← sound.calls, tradesOf_append, List.flatten_append]
      exact List.prefix_append _ _
  | some c =>
      rw [sound.sent_of_submitting isSubmitting]
      exact
        sound.tradeChan_isPrefix (sound.submitting c isSubmitting)
          (pending_of_submitting isSubmitting)

/-- A trade which is still to be sent is one of the calls. -/
theorem Sound.delivered_lt (sound : feed.Sound orders calls done)
    {c : Submitting} {after : Matching}
    (isSubmitting : feed.submitting = some c)
    (step : matchBody c.side c.order c.matching = some after) :
    feed.received.length + feed.tradeChan.buffer.length <
      (tradesOf orders calls).flatten.length := by
  obtain ⟨-, reached⟩ := (sound.submitting c isSubmitting).goOn step
  obtain ⟨trade, -, isChan⟩ := matchBody_trade step
  have isPending := pending_of_submitting isSubmitting
  have within :
      after.tradeChan.length ≤ (tradesOf orders calls).flatten.length :=
    (sound.tradeChan_isPrefix reached isPending).length_le
  rw [isChan, ← sound.sent_of_submitting isSubmitting] at within
  simp only [List.length_append, List.length_singleton] at within
  omega

/-- When all calls returned their trades are on their way. -/
theorem Sound.finished (sound : feed.Sound orders calls done)
    (finished : feed.Finished) :
    feed.state = stateAfter orders calls ∧
      feed.returned = tradesOf orders calls ∧
      feed.received ++ feed.tradeChan.buffer =
        (tradesOf orders calls).flatten := by
  have all : done = calls := by
    have split := sound.calls
    rwa [pending_of_idle finished.2, finished.1, List.append_nil] at split
  subst all
  refine ⟨sound.state, sound.returned, ?_⟩
  rw [sound.sent_of_idle finished.2, sound.state, tradeChan_stateAfter]

/-! ## Progress -/

/-- Some of the goroutines can bring the feed there. -/
def Goes (admitted : Party → Prop) (feed after : Feed) : Prop :=
  ∃ schedule : List Party,
    (∀ party ∈ schedule, admitted party) ∧
      LabelledRun.run next feed schedule = after

variable {admitted : Party → Prop} {first middle last : Feed}

theorem Goes.refl (feed : Feed) : Goes admitted feed feed :=
  ⟨[], by simp, rfl⟩

theorem Goes.trans (before : Goes admitted first middle)
    (later : Goes admitted middle last) : Goes admitted first last := by
  obtain ⟨earlier, earlierAdmitted, rfl⟩ := before
  obtain ⟨more, moreAdmitted, rfl⟩ := later
  refine ⟨earlier ++ more, ?_, LabelledRun.run_append next _ _ _⟩
  intro party member
  rcases List.mem_append.mp member with isEarlier | isMore
  · exact earlierAdmitted party isEarlier
  · exact moreAdmitted party isMore

theorem Goes.next {party : Party} (isAdmitted : admitted party) :
    Goes admitted feed (feed.next party) :=
  ⟨[party], by simpa using isAdmitted, rfl⟩

theorem Goes.sound (goes : Goes admitted first last)
    (sound : first.Sound orders calls done) :
    ∃ done, last.Sound orders calls done := by
  obtain ⟨schedule, -, rfl⟩ := goes
  have preserved :
      ∀ (feed : Feed) (party : Party),
        (∃ done, feed.Sound orders calls done) →
          ∃ done, (feed.next party).Sound orders calls done := by
    rintro feed party ⟨done, sound⟩
    exact sound.step (step_next party)
  exact LabelledRun.run_invariant_of_every preserved schedule ⟨done, sound⟩

/-- A submission whose trade has room returns after at most two steps. -/
theorem Sound.goes_idle (sound : feed.Sound orders calls done)
    (isAdmitted : admitted .caller) {c : Submitting}
    (isSubmitting : feed.submitting = some c)
    (room :
      ∀ after, matchBody c.side c.order c.matching = some after →
        feed.tradeChan.buffer.length < 10000) :
    ∃ after,
      Goes admitted feed after ∧
        after.submitting = none ∧ after.calls = feed.calls := by
  have stops :
      ∀ {feed : Feed} {c : Submitting}, feed.submitting = some c →
        matchBody c.side c.order c.matching = none →
          (feed.next .caller).submitting = none ∧
            (feed.next .caller).calls = feed.calls := by
    intro feed c isSubmitting stops
    simp [Feed.next, isSubmitting, goOn, stops]
  cases step : matchBody c.side c.order c.matching with
  | none => exact ⟨_, Goes.next isAdmitted, stops isSubmitting step⟩
  | some after =>
      obtain ⟨trade, isTrades, -⟩ := matchBody_trade step
      obtain ⟨later, sends⟩ :=
        Channel.exists_trySend sound.isOpen
          (by simpa [sound.capacity] using room after step) trade
      have isNext :
          feed.next .caller =
            { feed with
              tradeChan := later
              submitting := some { c with matching := after } } := by
        simp [Feed.next, isSubmitting, goOn, step, isTrades, sends]
      have finishes :=
        @stops (feed.next .caller) { c with matching := after }
          (by rw [isNext]) (matchBody_stops step)
      refine
        ⟨_, (Goes.next isAdmitted).trans (Goes.next isAdmitted), finishes.1, ?_⟩
      rw [finishes.2, isNext]

/-- From every feed which is reached, room can be made for the next trade. -/
def MakesRoom (admitted : Party → Prop) (feed : Feed) : Prop :=
  ∀ middle, Goes admitted feed middle →
    ∃ after,
      Goes admitted middle after ∧ after.calls = middle.calls ∧
        ∀ c following, after.submitting = some c →
          matchBody c.side c.order c.matching = some following →
            after.tradeChan.buffer.length < 10000

/-- Where room can be made a call which began can return. -/
theorem Sound.exists_idle (sound : feed.Sound orders calls done)
    (isAdmitted : admitted .caller) (makesRoom : MakesRoom admitted feed) :
    ∃ after,
      Goes admitted feed after ∧
        after.submitting = none ∧ after.calls = feed.calls := by
  obtain ⟨after, goes, sameCalls, room⟩ := makesRoom feed (Goes.refl feed)
  cases isSubmitting : after.submitting with
  | none => exact ⟨after, goes, isSubmitting, sameCalls⟩
  | some c =>
      obtain ⟨done, soundAfter⟩ := goes.sound sound
      obtain ⟨idle, goesIdle, isIdle, idleCalls⟩ :=
        soundAfter.goes_idle isAdmitted isSubmitting fun following step =>
          room c following isSubmitting step
      exact ⟨idle, goes.trans goesIdle, isIdle, idleCalls.trans sameCalls⟩

/-- Where room can be made all calls can return. -/
theorem Sound.exists_finished (sound : feed.Sound orders calls done)
    (isAdmitted : admitted .caller) (makesRoom : MakesRoom admitted feed) :
    ∃ after, Goes admitted feed after ∧ after.Finished := by
  generalize isCalls : feed.calls = rest
  induction rest generalizing feed done with
  | nil =>
      obtain ⟨idle, goes, isIdle, sameCalls⟩ :=
        sound.exists_idle isAdmitted makesRoom
      exact ⟨idle, goes, sameCalls.trans isCalls, isIdle⟩
  | cons call rest inductionHypothesis =>
      obtain ⟨idle, goes, isIdle, sameCalls⟩ :=
        sound.exists_idle isAdmitted makesRoom
      have goesNext := goes.trans (Goes.next isAdmitted)
      have nextCalls : (idle.next .caller).calls = rest := by
        rw [isCalls] at sameCalls
        cases call <;> simp [Feed.next, isIdle, Feed.call, sameCalls]
      obtain ⟨done, soundNext⟩ := goesNext.sound sound
      obtain ⟨after, goesAfter, finished⟩ :=
        inductionHypothesis soundNext
          (fun middle goesMiddle =>
            makesRoom middle (goesNext.trans goesMiddle))
          nextCalls
      exact ⟨after, goesNext.trans goesAfter, finished⟩

/-- The reader can empty the channel. -/
theorem exists_drained (isAdmitted : admitted .reader) (feed : Feed) :
    ∃ after,
      Goes admitted feed after ∧ after.tradeChan.buffer = [] ∧
        after.calls = feed.calls ∧ after.submitting = feed.submitting := by
  generalize isBuffer : feed.tradeChan.buffer = buffer
  induction buffer generalizing feed with
  | nil => exact ⟨feed, Goes.refl feed, isBuffer, rfl, rfl⟩
  | cons trade rest inductionHypothesis =>
      obtain ⟨later, receives, isRest⟩ := Channel.exists_receive isBuffer
      have isNext :
          feed.next .reader =
            { feed with
              tradeChan := later
              received := feed.received ++ [trade] } := by
        simp [Feed.next, read, receives]
      obtain ⟨after, goes, isEmpty, sameCalls, sameSubmitting⟩ :=
        inductionHypothesis (feed.next .reader) (by rw [isNext]; exact isRest)
      refine
        ⟨after, (Goes.next isAdmitted).trans goes, isEmpty, ?_, ?_⟩
      · rw [sameCalls, isNext]
      · rw [sameSubmitting, isNext]

/-- The caller receives no trades. -/
theorem received_next_caller (feed : Feed) :
    (feed.next .caller).received = feed.received := by
  have step : ∀ c : Submitting, (feed.goOn c).received = feed.received := by
    intro c
    rw [goOn]
    split
    · rfl
    · split
      · rfl
      · split <;> rfl
  rw [Feed.next]
  split
  · rw [Feed.call]
    split <;> rfl
  · exact step _

theorem Goes.received_eq
    (goes : Goes (fun party => party = .caller) first last) :
    last.received = first.received := by
  obtain ⟨schedule, callers, rfl⟩ := goes
  induction schedule generalizing first with
  | nil => rfl
  | cons party rest inductionHypothesis =>
      rw [List.forall_mem_cons] at callers
      obtain ⟨rfl, restCallers⟩ := callers
      rw [LabelledRun.run_cons, inductionHypothesis restCallers,
        received_next_caller]

end Feed

/-! ## The two goroutines -/

section Goroutines

/-- The feed after a schedule. -/
def feedAfter (orders : Heap) (calls : List Call) (schedule : List Party) :
    Feed :=
  LabelledRun.run Feed.next (newFeed orders calls) schedule

/--
After every schedule the reader has the first trades of the calls in order and
the channel the next ones; and the schedule can go on until all calls returned,
what they return without the channel, and the reader has all their trades.
-/
theorem feed_delivers (orders : Heap) (calls : List Call)
    (schedule : List Party) :
    let feed := feedAfter orders calls schedule
    feed.received ++ feed.tradeChan.buffer <+:
        (tradesOf orders calls).flatten ∧
      feed.tradeChan.buffer.length ≤ 10000 ∧
      feed.returned <+: tradesOf orders calls ∧
      ∃ more,
        let last := feedAfter orders calls (schedule ++ more)
        last.Finished ∧ last.state = stateAfter orders calls ∧
          last.returned = tradesOf orders calls ∧
          last.received = (tradesOf orders calls).flatten := by
  intro feed
  obtain ⟨done, sound⟩ := Feed.sound_run orders calls schedule
  refine ⟨sound.delivered_isPrefix, ?_, sound.returned_isPrefix, ?_⟩
  · exact sound.capacity ▸ feed.tradeChan.bounded
  · have makesRoom : Feed.MakesRoom (fun _ => True) feed := by
      intro middle _
      obtain ⟨after, goes, isEmpty, sameCalls, -⟩ :=
        @Feed.exists_drained (fun _ => True) trivial middle
      refine ⟨after, goes, sameCalls, ?_⟩
      intro c following _ _
      rw [isEmpty]
      exact Nat.zero_lt_succ _
    obtain ⟨idle, goesIdle, finished⟩ := sound.exists_finished trivial makesRoom
    obtain ⟨last, goesLast, isEmpty, sameCalls, sameSubmitting⟩ :=
      @Feed.exists_drained (fun _ => True) trivial idle
    have lastFinished : last.Finished :=
      ⟨sameCalls.trans finished.1, sameSubmitting.trans finished.2⟩
    have goes := goesIdle.trans goesLast
    obtain ⟨done, soundLast⟩ := goes.sound sound
    obtain ⟨sameState, sameReturned, delivered⟩ :=
      soundLast.finished lastFinished
    rw [isEmpty, List.append_nil] at delivered
    obtain ⟨more, -, isLast⟩ := goes
    refine ⟨more, ?_⟩
    rw [feedAfter, LabelledRun.run_append]
    exact isLast ▸ ⟨lastFinished, sameState, sameReturned, delivered⟩

/--
From any time on without the reader, all calls return exactly when their trades
are no more than those already received and the room of the channel.
-/
theorem feed_without_reader (orders : Heap) (calls : List Call)
    (schedule : List Party) :
    let feed := feedAfter orders calls schedule
    (∃ count,
      (feedAfter orders calls
        (schedule ++ List.replicate count .caller)).Finished) ↔
      (tradesOf orders calls).flatten.length ≤
        feed.received.length + 10000 := by
  intro feed
  obtain ⟨done, sound⟩ := Feed.sound_run orders calls schedule
  constructor
  · rintro ⟨count, finished⟩
    have goes :
        Feed.Goes (fun party => party = .caller) feed
          (feedAfter orders calls
            (schedule ++ List.replicate count .caller)) := by
      refine ⟨List.replicate count .caller, ?_, ?_⟩
      · intro party member
        exact List.eq_of_mem_replicate member
      · rw [feedAfter, LabelledRun.run_append]
        rfl
    obtain ⟨done, soundLast⟩ := goes.sound sound
    obtain ⟨-, -, delivered⟩ := soundLast.finished finished
    have room := soundLast.capacity ▸ (Feed.tradeChan _).bounded
    rw [← delivered, List.length_append, goes.received_eq]
    omega
  · intro enough
    have makesRoom :
        Feed.MakesRoom (fun party => party = .caller) feed := by
      intro middle goes
      refine ⟨middle, Feed.Goes.refl middle, rfl, ?_⟩
      intro c following isSubmitting step
      obtain ⟨done, soundMiddle⟩ := goes.sound sound
      have fewer := soundMiddle.delivered_lt isSubmitting step
      rw [goes.received_eq] at fewer
      omega
    obtain ⟨last, ⟨more, callers, rfl⟩, finished⟩ :=
      @Feed.Sound.exists_finished _ _ _ _ (fun party => party = .caller) sound
        rfl makesRoom
    refine ⟨more.length, ?_⟩
    rw [feedAfter, LabelledRun.run_append,
      ← List.eq_replicate_of_mem callers]
    exact finished

end Goroutines

end AeroRisk.Orderbook
