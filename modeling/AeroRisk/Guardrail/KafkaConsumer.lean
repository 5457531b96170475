import AeroRisk.Event
import AeroRisk.Library.Commands
import AeroRisk.Library.FallibleFilter

/-!
# Batches of the Kafka consumer

`process_batch` fetches the next messages of every partition and decodes them
one after the other.  The position of the consumer is already past all of
them.  One exception handler encloses both loops, so the first message which
cannot be decoded ends the batch.
-/

namespace AeroRisk.Guardrail

open AeroRisk.Library
open AeroRisk.Library.FallibleFilter

/-- `TopicPartition`. -/
structure TopicPartition where
  topic : String
  partition : Int
deriving DecidableEq, Repr

/-- A message; a tombstone has no value. -/
structure ConsumerRecord where
  value : Option ByteArray

/-- What `getmany` returns: the messages of each partition. -/
abbrev Fetched := List (TopicPartition × List ConsumerRecord)

/-- `json.loads` and `TransactionEvent.model_validate`. -/
structure EventDecoder (TransactionEvent : Type) where
  loads : String → Except String Json
  modelValidate : Json → Except String TransactionEvent

namespace KafkaEventConsumer

variable {TransactionEvent : Type} (decoder : EventDecoder TransactionEvent)

/-- `msg.value.decode("utf-8")`. -/
def decodeUtf8 (msg : ConsumerRecord) : Except String String :=
  match msg.value with
  | none => .error "'NoneType' object has no attribute 'decode'"
  | some bytes =>
      match String.fromUTF8? bytes with
      | none => .error "'utf-8' codec can't decode"
      | some text => .ok text

/-- The event of a message which decodes and validates. -/
def eventOf (msg : ConsumerRecord) : Except String TransactionEvent := do
  let text ← decodeUtf8 msg
  let eventData ← decoder.loads text
  decoder.modelValidate eventData

/-- One iteration of the inner loop. -/
def appendEvent (msg : ConsumerRecord) :
    EStateM String (List TransactionEvent) Unit := do
  let event ← MonadExcept.ofExcept (eventOf decoder msg)
  modify (· ++ [event])

/-- Both loops. -/
def appendEvents (msgs : Fetched) :
    EStateM String (List TransactionEvent) Unit :=
  msgs.forM fun (_, messages) => messages.forM (appendEvent decoder)

/--
`process_batch`, with what `getmany` comes to and what the metric for the size
of the batch does.
-/
def processBatch (started : Bool) (getmany : Except String Fetched)
    (observe : Nat → Except String Unit) :
    Except String (List TransactionEvent) :=
  if started then
    .ok
      (Commands.after
        (tryCatch
          (do
            let msgs ← MonadExcept.ofExcept getmany
            appendEvents decoder msgs
            let events ← get
            MonadExcept.ofExcept (observe events.length))
          fun _ => pure ())
        [])
  else
    .error "Consumer not started"

/-- The messages of a fetch, in partition and message order. -/
def messagesOf (msgs : Fetched) : List ConsumerRecord :=
  msgs.flatMap Prod.snd

/-- The events of all messages which decode and validate. -/
def validEvents (msgs : Fetched) : List TransactionEvent :=
  (messagesOf msgs).filterMap (success (eventOf decoder))

/-- No message which decodes and validates comes after one which does not. -/
def MalformedLast (msgs : Fetched) : Prop :=
  (messagesOf msgs).Pairwise fun earlier later =>
    success (eventOf decoder) later ≠ none →
      success (eventOf decoder) earlier ≠ none

/-! ## What a batch returns -/

variable {decoder}

theorem appendEvent_of_ok {msg : ConsumerRecord} {event : TransactionEvent}
    (decoded : eventOf decoder msg = .ok event)
    (events : List TransactionEvent) :
    appendEvent decoder msg events = .ok () (events ++ [event]) := by
  rw [appendEvent, decoded]
  rfl

theorem appendEvent_of_error {msg : ConsumerRecord} {error : String}
    (malformed : eventOf decoder msg = .error error)
    (events : List TransactionEvent) :
    appendEvent decoder msg events = .error error events := by
  rw [appendEvent, malformed]
  rfl

/-- The loops over partitions and messages are one loop over the messages. -/
theorem appendEvents_eq_forM (msgs : Fetched) :
    appendEvents decoder msgs =
      (messagesOf msgs).forM (appendEvent decoder) := by
  induction msgs with
  | nil => rfl
  | cons partition rest inductionHypothesis =>
      have split :
          messagesOf (partition :: rest) = partition.2 ++ messagesOf rest :=
        List.flatMap_cons
      have outer :
          appendEvents decoder (partition :: rest) =
            (do
              partition.2.forM (appendEvent decoder)
              appendEvents decoder rest) :=
        rfl
      rw [split, outer, inductionHypothesis]
      exact List.forM_append.symm

/-- The loop keeps the events before the first malformed message. -/
theorem after_forM_appendEvent (messages : List ConsumerRecord)
    (events : List TransactionEvent) :
    Commands.after (messages.forM (appendEvent decoder)) events =
      events ++ beforeFailure (eventOf decoder) messages := by
  induction messages generalizing events with
  | nil => exact (List.append_nil events).symm
  | cons msg rest inductionHypothesis =>
      show
        Commands.after
          (appendEvent decoder msg >>= fun _ =>
            rest.forM (appendEvent decoder))
          events = _
      cases decoded : eventOf decoder msg with
      | ok event =>
          rw [Commands.after_bind_of_ok (appendEvent_of_ok decoded events),
            inductionHypothesis, beforeFailure_cons_of_ok decoded,
            List.append_assoc, List.singleton_append]
      | error error =>
          rw [Commands.after_bind_of_error
              (appendEvent_of_error decoded events),
            beforeFailure_cons_of_error decoded, List.append_nil]

/-- A batch returns the events before the first malformed message. -/
theorem processBatch_eq (msgs : Fetched)
    (observe : Nat → Except String Unit) :
    processBatch decoder true (.ok msgs) observe =
      .ok (beforeFailure (eventOf decoder) (messagesOf msgs)) := by
  rw [processBatch, if_pos rfl, Commands.after_tryCatch_pure]
  have fetched (events : List TransactionEvent) :
      (MonadExcept.ofExcept (.ok msgs) :
          EStateM String (List TransactionEvent) Fetched) events =
        .ok msgs events :=
    rfl
  have metric (events reached : List TransactionEvent) :
      Commands.after
          (MonadExcept.ofExcept (observe events.length) :
            EStateM String (List TransactionEvent) Unit) reached =
        reached := by
    cases observe events.length <;> rfl
  rw [Commands.after_bind_of_ok (fetched []), Commands.after_bind_of_leaves,
    appendEvents_eq_forM, after_forM_appendEvent, List.nil_append]
  intro _ reached
  exact metric reached reached

/--
For every fetch, `process_batch` returns the events of all messages which
decode and validate if and only if none of these comes after a message which
does not.
-/
theorem processBatch_complete_iff (decoder : EventDecoder TransactionEvent)
    (msgs : Fetched) (observe : Nat → Except String Unit) :
    processBatch decoder true (.ok msgs) observe =
        .ok (validEvents decoder msgs) ↔
      MalformedLast decoder msgs := by
  rw [processBatch_eq, Except.ok.injEq, validEvents,
    beforeFailure_eq_filterMap_iff, MalformedLast]

/-- A decoder which knows one object. -/
def heartbeatDecoder : EventDecoder String where
  loads := fun text =>
    if text = "{}" then .ok (.object []) else .error "Expecting value"
  modelValidate := fun _ => .ok "heartbeat"

/-- A message of the partition. -/
def heartbeat : ConsumerRecord where
  value := some "{}".toUTF8

/-- A tombstone before a message which is well formed. -/
def poisoned : Fetched :=
  [({ topic := "events", partition := 0 }, [{ value := none }, heartbeat])]

/-- The message after the tombstone is lost. -/
theorem processBatch_complete_fails :
    ¬ ∀ (decoder : EventDecoder String) (msgs : Fetched)
        (observe : Nat → Except String Unit),
        processBatch decoder true (.ok msgs) observe =
          .ok (validEvents decoder msgs) := by
  intro complete
  have returned := complete heartbeatDecoder poisoned fun _ => .ok ()
  exact absurd returned (by decide)

end KafkaEventConsumer

end AeroRisk.Guardrail
