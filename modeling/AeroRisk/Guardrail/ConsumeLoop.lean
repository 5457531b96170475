import AeroRisk.Guardrail.KafkaConsumer
import AeroRisk.Library.LabelledRun

/-!
# The loop of the Kafka consumer

`consume_loop` awaits one message, decodes it and awaits its handler, until it
finds that the consumer was stopped.  Every exception is caught in the loop: a
timeout leads to the next message at once, any other one after a second.  The
position of the consumer is past a message which it received, so a message is
never received again.

The signals of a run are what the awaits come to and the calls which stop and
start the consumer meanwhile.
-/

namespace AeroRisk.Guardrail.KafkaEventConsumer

open AeroRisk.Library
open AeroRisk.Library.FallibleFilter

/-- The exceptions, as far as the loop tells them apart. -/
inductive Raised where
  | timeoutError
  | other (error : String)
deriving DecidableEq, Repr

/-- What the consumer does with events. -/
structure EventHandling (TransactionEvent : Type) where
  decoder : EventDecoder TransactionEvent
  /-- The attributes of the span, which are read from the event. -/
  spanAttributes : TransactionEvent → Except String Unit
  /-- `event.event_type.value`. -/
  eventType : TransactionEvent → String

/-- The await at which the loop is. -/
inductive Await (TransactionEvent : Type) where
  | getone
  | handler (event : TransactionEvent)
  | sleep
  | returned
deriving DecidableEq, Repr

/-- The consumer and its loop, with what they received and handled. -/
structure Loop (TransactionEvent : Type) where
  running : Bool
  await : Await TransactionEvent
  /-- `metrics.events_processed_total`, by event type and status. -/
  eventsProcessed : String → String → Nat
  received : List ConsumerRecord
  handled : List TransactionEvent

/-- What happens at an await, and meanwhile. -/
inductive Signal where
  /-- `getone` returns, within its time. -/
  | message (msg : Option ConsumerRecord)
  | pollRaises (exception : Raised)
  /-- The handler returns, or raises an exception. -/
  | handlerEnds (exception : Option Raised)
  | slept
  | stop
  | start

variable {TransactionEvent : Type}

/-- `start` and then `consume_loop`. -/
def startedLoop : Loop TransactionEvent where
  running := true
  await := .getone
  eventsProcessed := fun _ _ => 0
  received := []
  handled := []

namespace Loop

/-- `while self.running`. -/
def again (loop : Loop TransactionEvent) : Loop TransactionEvent :=
  { loop with await := if loop.running then .getone else .returned }

/-- The exception handlers of the loop. -/
def handleException (loop : Loop TransactionEvent) :
    Raised → Loop TransactionEvent
  | .timeoutError => loop.again
  | .other _ => { loop with await := .sleep }

/-- `metrics.events_processed_total.labels(…).inc()`. -/
def increment (loop : Loop TransactionEvent) (eventType status : String) :
    Loop TransactionEvent :=
  { loop with
    eventsProcessed := fun otherType otherStatus =>
      if otherType = eventType ∧ otherStatus = status then
        loop.eventsProcessed otherType otherStatus + 1
      else
        loop.eventsProcessed otherType otherStatus }

variable (handling : EventHandling TransactionEvent)

/-- The event which a message has for the handler. -/
def eventFor (msg : ConsumerRecord) : Except String TransactionEvent := do
  let event ← eventOf handling.decoder msg
  handling.spanAttributes event
  return event

/-- The loop has a message. -/
def receive (loop : Loop TransactionEvent) :
    Option ConsumerRecord → Loop TransactionEvent
  | none => loop.again
  | some msg =>
      let loop := { loop with received := loop.received ++ [msg] }
      match eventFor handling msg with
      | .error error => loop.handleException (.other error)
      | .ok event =>
          { loop with
            await := .handler event
            handled := loop.handled ++ [event] }

/-- The handler of an event has returned or raised. -/
def finish (loop : Loop TransactionEvent) (event : TransactionEvent) :
    Option Raised → Loop TransactionEvent
  | none => (loop.increment (handling.eventType event) "success").again
  | some exception =>
      (loop.increment (handling.eventType event) "error").handleException
        exception

/-- A signal, at the await which it is for. -/
def next (loop : Loop TransactionEvent) (signal : Signal) :
    Loop TransactionEvent :=
  match signal, loop.await with
  | .stop, _ => { loop with running := false }
  | .start, _ => { loop with running := true }
  | .message msg, .getone => loop.receive handling msg
  | .pollRaises exception, .getone => loop.handleException exception
  | .handlerEnds exception, .handler event =>
      loop.finish handling event exception
  | .slept, .sleep => loop.again
  | _, _ => loop

/-- The loop after some signals. -/
def afterSignals (signals : List Signal) : Loop TransactionEvent :=
  LabelledRun.run (next handling) startedLoop signals

/-- The events of a type whose handler runs. -/
def inProgress (loop : Loop TransactionEvent) (eventType : String) : Nat :=
  match loop.await with
  | .handler event => if handling.eventType event = eventType then 1 else 0
  | _ => 0

/-- What holds between any two signals. -/
structure Sound (loop : Loop TransactionEvent) : Prop where
  handled :
    loop.handled = loop.received.filterMap (success (eventFor handling))
  counted :
    ∀ eventType,
      loop.eventsProcessed eventType "success" +
            loop.eventsProcessed eventType "error" +
          loop.inProgress handling eventType =
        loop.handled.countP fun event => handling.eventType event = eventType

variable {handling} {loop : Loop TransactionEvent}

/-! ## One signal -/

theorem inProgress_of_idle (idle : ∀ event, loop.await ≠ .handler event)
    (eventType : String) : loop.inProgress handling eventType = 0 := by
  rw [inProgress]
  split
  · next event isHandler => exact absurd isHandler (idle event)
  · rfl

/-- No handler runs when the loop goes on. -/
theorem again_idle (event : TransactionEvent) :
    loop.again.await ≠ .handler event := by
  rw [again]
  dsimp only
  split <;> simp

/-- Where the loop goes on, it changes nothing but its await. -/
theorem sound_again (loop : Loop TransactionEvent)
    (handled :
      loop.handled = loop.received.filterMap (success (eventFor handling)))
    (counted :
      ∀ eventType,
        loop.eventsProcessed eventType "success" +
            loop.eventsProcessed eventType "error" =
          loop.handled.countP fun event =>
            handling.eventType event = eventType) :
    loop.again.Sound handling where
  handled := handled
  counted := by
    intro eventType
    rw [inProgress_of_idle again_idle]
    exact counted eventType

theorem sound_handleException (loop : Loop TransactionEvent)
    (handled :
      loop.handled = loop.received.filterMap (success (eventFor handling)))
    (counted :
      ∀ eventType,
        loop.eventsProcessed eventType "success" +
            loop.eventsProcessed eventType "error" =
          loop.handled.countP fun event =>
            handling.eventType event = eventType)
    (exception : Raised) : (loop.handleException exception).Sound handling := by
  cases exception with
  | timeoutError => exact sound_again loop handled counted
  | other error =>
      refine ⟨handled, fun eventType => ?_⟩
      rw [inProgress_of_idle (by simp [handleException])]
      exact counted eventType

/-- Without a handler which runs, all events are counted. -/
theorem Sound.counted_of_idle (sound : loop.Sound handling)
    (idle : ∀ event, loop.await ≠ .handler event) (eventType : String) :
    loop.eventsProcessed eventType "success" +
        loop.eventsProcessed eventType "error" =
      loop.handled.countP fun event =>
        handling.eventType event = eventType := by
  have counted := sound.counted eventType
  rwa [inProgress_of_idle idle, Nat.add_zero] at counted

theorem Sound.receive (sound : loop.Sound handling)
    (isPolling : loop.await = .getone) (msg : Option ConsumerRecord) :
    (loop.receive handling msg).Sound handling := by
  have counted := sound.counted_of_idle (by simp [isPolling])
  cases msg with
  | none => exact sound_again loop sound.handled counted
  | some msg =>
      rw [Loop.receive]
      cases decoded : eventFor handling msg with
      | error error =>
          have noEvent : success (eventFor handling) msg = none := by
            rw [success, decoded]
            rfl
          refine
            sound_handleException
              { loop with received := loop.received ++ [msg] } ?_ counted
              (.other error)
          rw [List.filterMap_append, ← sound.handled,
            List.filterMap_cons_none noEvent, List.filterMap_nil,
            List.append_nil]
      | ok event =>
          have hasEvent : success (eventFor handling) msg = some event := by
            rw [success, decoded]
            rfl
          refine ⟨?_, fun eventType => ?_⟩
          · dsimp only
            rw [List.filterMap_append, ← sound.handled,
              List.filterMap_cons_some hasEvent, List.filterMap_nil]
          · dsimp only [inProgress]
            rw [List.countP_append, ← counted eventType]
            simp [List.countP_singleton]

/-- One status of an event type is counted once more. -/
theorem increment_sum (eventType status : String)
    (isStatus : status = "success" ∨ status = "error") (otherType : String) :
    let counted := (loop.increment eventType status).eventsProcessed otherType
    counted "success" + counted "error" =
      loop.eventsProcessed otherType "success" +
          loop.eventsProcessed otherType "error" +
        if eventType = otherType then 1 else 0 := by
  by_cases same : otherType = eventType
  · subst same
    rcases isStatus with rfl | rfl
    · simp [increment]
      omega
    · simp [increment]
      omega
  · simp [increment, same, Ne.symm same]

theorem Sound.finish (sound : loop.Sound handling) {event : TransactionEvent}
    (isHandling : loop.await = .handler event) (exception : Option Raised) :
    (loop.finish handling event exception).Sound handling := by
  have counted (status : String)
      (isStatus : status = "success" ∨ status = "error")
      (eventType : String) :
      let counted :=
        (loop.increment (handling.eventType event) status).eventsProcessed
          eventType
      counted "success" + counted "error" =
        loop.handled.countP fun event =>
          handling.eventType event = eventType := by
    intro counts
    rw [← sound.counted eventType, inProgress, isHandling]
    exact increment_sum _ status isStatus eventType
  cases exception with
  | none =>
      exact
        sound_again (loop.increment (handling.eventType event) "success")
          sound.handled (counted "success" (.inl rfl))
  | some exception =>
      exact
        sound_handleException
          (loop.increment (handling.eventType event) "error") sound.handled
          (counted "error" (.inr rfl)) exception

theorem Sound.next (sound : loop.Sound handling) (signal : Signal) :
    (loop.next handling signal).Sound handling := by
  unfold Loop.next
  split
  · exact ⟨sound.handled, sound.counted⟩
  · exact ⟨sound.handled, sound.counted⟩
  · next isPolling => exact sound.receive isPolling _
  · next isPolling =>
      exact
        sound_handleException loop sound.handled
          (sound.counted_of_idle (by simp [isPolling])) _
  · next isHandling => exact sound.finish isHandling _
  · next isSleeping =>
      exact
        sound_again loop sound.handled
          (sound.counted_of_idle (by simp [isSleeping]))
  · exact sound

theorem sound_startedLoop :
    (startedLoop : Loop TransactionEvent).Sound handling where
  handled := rfl
  counted := fun _ => rfl

variable (handling) in
theorem sound_afterSignals (signals : List Signal) :
    (afterSignals handling signals).Sound handling :=
  LabelledRun.run_invariant_of_every
    (fun _ signal sound => sound.next signal) signals sound_startedLoop

/-! ## The end of the loop -/

/-- The signal is one for the await at which the loop is. -/
def Answers (loop : Loop TransactionEvent) (signal : Signal) : Prop :=
  match signal, loop.await with
  | .message _, .getone => True
  | .pollRaises _, .getone => True
  | .handlerEnds _, .handler _ => True
  | .slept, .sleep => True
  | _, _ => False

/-- The loop goes on from an await. -/
structure Advances (loop later : Loop TransactionEvent) : Prop where
  running : later.running = loop.running
  isAwaiting : loop.await ≠ .returned
  await :
    later.await = loop.again.await ∨
      later.await = .sleep ∧ loop.await ≠ .sleep ∨
      loop.await = .getone ∧ ∃ event, later.await = .handler event
  received :
    later.received = loop.received ∨
      loop.await = .getone ∧ later.await ≠ .getone ∧
        later.received.length = loop.received.length + 1

theorem advances_handleException (isAwaiting : loop.await ≠ .returned)
    (notSleeping : loop.await ≠ .sleep) (exception : Raised) :
    loop.Advances (loop.handleException exception) := by
  cases exception with
  | timeoutError => exact ⟨rfl, isAwaiting, .inl rfl, .inl rfl⟩
  | other error =>
      exact ⟨rfl, isAwaiting, .inr (.inl ⟨rfl, notSleeping⟩), .inl rfl⟩

theorem advances_receive (isPolling : loop.await = .getone)
    (msg : Option ConsumerRecord) :
    loop.Advances (loop.receive handling msg) := by
  have isAwaiting : loop.await ≠ .returned := by simp [isPolling]
  cases msg with
  | none => exact ⟨rfl, isAwaiting, .inl rfl, .inl rfl⟩
  | some msg =>
      have longer :
          (loop.received ++ [msg]).length = loop.received.length + 1 :=
        List.length_append
      rw [Loop.receive]
      dsimp only
      split
      · exact
          ⟨rfl, isAwaiting, .inr (.inl ⟨rfl, by simp [isPolling]⟩),
            .inr ⟨isPolling, by simp [handleException], longer⟩⟩
      · exact
          ⟨rfl, isAwaiting, .inr (.inr ⟨isPolling, _, rfl⟩),
            .inr ⟨isPolling, by simp, longer⟩⟩

theorem advances_finish {event : TransactionEvent}
    (isHandling : loop.await = .handler event) (exception : Option Raised) :
    loop.Advances (loop.finish handling event exception) := by
  have isAwaiting : loop.await ≠ .returned := by simp [isHandling]
  rcases exception with _ | _ | error
  · exact ⟨rfl, isAwaiting, .inl rfl, .inl rfl⟩
  · exact ⟨rfl, isAwaiting, .inl rfl, .inl rfl⟩
  · exact
      ⟨rfl, isAwaiting, .inr (.inl ⟨rfl, by simp [isHandling]⟩), .inl rfl⟩

variable (handling) in
/-- What a signal does which neither stops nor starts the consumer. -/
theorem next_cases {signal : Signal} (noStop : signal ≠ .stop)
    (noStart : signal ≠ .start) :
    ¬ loop.Answers signal ∧ loop.next handling signal = loop ∨
      loop.Advances (loop.next handling signal) := by
  cases signal with
  | message msg =>
      cases isAwait : loop.await with
      | getone =>
          simp only [Loop.next, isAwait]
          exact .inr (advances_receive isAwait msg)
      | _ =>
          exact .inl ⟨by simp [Answers, isAwait], by simp [Loop.next, isAwait]⟩
  | pollRaises exception =>
      cases isAwait : loop.await with
      | getone =>
          simp only [Loop.next, isAwait]
          exact
            .inr
              (advances_handleException (by simp [isAwait])
                (by simp [isAwait]) exception)
      | _ =>
          exact .inl ⟨by simp [Answers, isAwait], by simp [Loop.next, isAwait]⟩
  | handlerEnds exception =>
      cases isAwait : loop.await with
      | handler event =>
          simp only [Loop.next, isAwait]
          exact .inr (advances_finish isAwait exception)
      | _ =>
          exact .inl ⟨by simp [Answers, isAwait], by simp [Loop.next, isAwait]⟩
  | slept =>
      cases isAwait : loop.await with
      | sleep =>
          simp only [Loop.next, isAwait]
          exact .inr ⟨rfl, by simp [isAwait], .inl rfl, .inl rfl⟩
      | _ =>
          exact .inl ⟨by simp [Answers, isAwait], by simp [Loop.next, isAwait]⟩
  | stop => exact absurd rfl noStop
  | start => exact absurd rfl noStart

/-- The consumer runs, and so does the loop. -/
structure GoesOn (loop : Loop TransactionEvent) : Prop where
  running : loop.running = true
  await : loop.await ≠ .returned

/-- No signal but `stop` ends the loop. -/
theorem GoesOn.next (goesOn : loop.GoesOn) {signal : Signal}
    (noStop : signal ≠ .stop) : (loop.next handling signal).GoesOn := by
  by_cases isStart : signal = .start
  · subst isStart
    exact ⟨rfl, goesOn.await⟩
  rcases next_cases handling noStop isStart with
    ⟨-, same⟩ | advances
  · rw [same]
    exact goesOn
  · refine ⟨advances.running.trans goesOn.running, ?_⟩
    rcases advances.await with again | ⟨sleeps, -⟩ | ⟨-, event, handles⟩
    · rw [again, Loop.again, if_pos goesOn.running]
      simp
    · simp [sleeps]
    · simp [handles]

theorem goesOn_afterSignals {signals : List Signal}
    (noStop : .stop ∉ signals) : (afterSignals handling signals).GoesOn := by
  have goesOn (loop : Loop TransactionEvent) (initially : loop.GoesOn) :
      (LabelledRun.run (Loop.next handling) loop signals).GoesOn := by
    induction signals generalizing loop with
    | nil => exact initially
    | cons signal rest inductionHypothesis =>
        rw [List.mem_cons, not_or] at noStop
        exact
          inductionHypothesis noStop.2 _ (initially.next (Ne.symm noStop.1))
  exact goesOn startedLoop ⟨rfl, by simp [startedLoop]⟩

/-! ## After `stop` -/

/-- The awaits which are left when the consumer is stopped. -/
def remaining (loop : Loop TransactionEvent) : Nat :=
  match loop.await with
  | .getone => 3
  | .handler _ => 2
  | .sleep => 1
  | .returned => 0

theorem remaining_le (loop : Loop TransactionEvent) : loop.remaining ≤ 3 := by
  rw [remaining]
  split <;> omega

/-- The messages which the loop received, and the one which it awaits. -/
def receivable (loop : Loop TransactionEvent) : Nat :=
  loop.received.length + if loop.remaining = 3 then 1 else 0

/-- Where a stopped loop goes on there is less left. -/
theorem Advances.remaining_lt {later : Loop TransactionEvent}
    (advances : loop.Advances later) (isStopped : loop.running = false) :
    later.remaining < loop.remaining := by
  have isAwaiting := advances.isAwaiting
  rcases advances.await with again | ⟨sleeps, notSleeping⟩ |
    ⟨isPolling, event, handles⟩
  · rw [Loop.again, isStopped] at again
    simp only [Loop.remaining, again]
    cases isAwait : loop.await <;> simp_all
  · simp only [Loop.remaining, sleeps]
    cases isAwait : loop.await <;> simp_all
  · simp only [Loop.remaining, handles, isPolling]
    omega

theorem Advances.receivable_le {later : Loop TransactionEvent}
    (advances : loop.Advances later) (isStopped : loop.running = false) :
    later.receivable ≤ loop.receivable := by
  have less := advances.remaining_lt isStopped
  have atMost := loop.remaining_le
  have isLater : later.remaining ≠ 3 := by omega
  rw [receivable, receivable, if_neg isLater]
  rcases advances.received with same | ⟨isPolling, -, longer⟩
  · rw [same]
    omega
  · rw [longer, Loop.remaining, isPolling]
    exact le_refl _

/-- A signal to a consumer which is stopped, and not started again. -/
structure Winds (loop later : Loop TransactionEvent) : Prop where
  running : later.running = false
  remaining : later.remaining ≤ loop.remaining
  receivable : later.receivable ≤ loop.receivable

variable (handling) in
theorem winds_next (isStopped : loop.running = false) {signal : Signal}
    (noStart : signal ≠ .start) : loop.Winds (loop.next handling signal) := by
  by_cases isStop : signal = .stop
  · subst isStop
    exact ⟨rfl, le_refl _, le_refl _⟩
  rcases next_cases handling isStop noStart with ⟨-, same⟩ | advances
  · rw [same]
    exact ⟨isStopped, le_refl _, le_refl _⟩
  · exact
      ⟨advances.running.trans isStopped, (advances.remaining_lt isStopped).le,
        advances.receivable_le isStopped⟩

/-- At most one more message is received. -/
theorem received_of_stopped (isStopped : loop.running = false)
    {later : List Signal} (noStart : .start ∉ later) :
    (LabelledRun.run (Loop.next handling) loop later).received.length ≤
      loop.received.length + 1 := by
  have winds (reached : Loop TransactionEvent)
      (isReached : reached.running = false) :
      reached.Winds (LabelledRun.run (Loop.next handling) reached later) := by
    induction later generalizing reached with
    | nil => exact ⟨isReached, le_refl _, le_refl _⟩
    | cons signal rest inductionHypothesis =>
        rw [List.mem_cons, not_or] at noStart
        have first := winds_next handling isReached (Ne.symm noStart.1)
        have second := inductionHypothesis noStart.2 _ first.running
        exact
          ⟨second.running, second.remaining.trans first.remaining,
            second.receivable.trans first.receivable⟩
  have bound := (winds loop isStopped).receivable
  rw [receivable, receivable] at bound
  split at bound <;> split at bound <;> omega

/-- The signal answers the await of the loop, unless it has returned. -/
def Serves (loop : Loop TransactionEvent) (signal : Signal) : Prop :=
  signal ≠ .start ∧ (loop.await = .returned ∨ loop.Answers signal)

theorem remaining_of_serves (isStopped : loop.running = false)
    {later : List Signal}
    (serves : LabelledRun.Along (Loop.next handling) Serves loop later) :
    (LabelledRun.run (Loop.next handling) loop later).remaining ≤
      loop.remaining - later.length := by
  induction later generalizing loop with
  | nil => exact le_refl _
  | cons signal rest inductionHypothesis =>
      obtain ⟨⟨noStart, isServed⟩, later⟩ := serves
      have winds := winds_next handling isStopped noStart
      have rest := inductionHypothesis winds.running later
      have less :
          (loop.next handling signal).remaining ≤ loop.remaining - 1 := by
        rcases isServed with returned | answers
        · have nothing : loop.remaining = 0 := by
            rw [Loop.remaining, returned]
          have stillNothing := winds.remaining
          omega
        · have notStop : signal ≠ .stop := by
            rintro rfl
            exact answers
          rcases next_cases handling notStop noStart with
            ⟨noAnswer, -⟩ | advances
          · exact absurd answers noAnswer
          · exact Nat.le_sub_one_of_lt (advances.remaining_lt isStopped)
      rw [LabelledRun.run_cons, List.length_cons]
      omega

end Loop

end AeroRisk.Guardrail.KafkaEventConsumer
