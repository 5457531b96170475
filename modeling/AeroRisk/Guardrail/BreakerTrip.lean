import AeroRisk.Cache.CircuitBreaker
import AeroRisk.Guardrail.CircuitBreakerWriter

/-!
# From the guardrail to the engine

The guardrail writes the status of a breaker under its own keys, and the
engine reads the record under the key of the account.  The two share no key.
-/

namespace AeroRisk.Guardrail

open AeroRisk.Cache
open AeroRisk.Library

namespace CircuitBreakerWriter

/-- No key of the engine is one of the writer. -/
theorem foreign_circuitBreakKey (subject : String) :
    Foreign (circuitBreakKey subject) := by
  intro symbol tail same
  have sameLetters := congrArg String.toList same
  simp [circuitBreakKey, keyPrefix, String.toList_append] at sameLetters

variable
    {Score : Type}
    (unmarshal : RedisValue → Except String (CircuitBreaker Score))

/-- What the engine finds for a subject is not changed by the writer. -/
theorem holdsOpenRecord_run (store : RedisStore) (calls : List WriterCall)
    (now : Nat) (subject : String) :
    CircuitBreakerManager.HoldsOpenRecord unmarshal
        (LabelledRun.run next store calls) now subject ↔
      CircuitBreakerManager.HoldsOpenRecord unmarshal store now subject := by
  have same :=
    find_run (foreign_circuitBreakKey subject) store calls (milliseconds now)
  simp only [CircuitBreakerManager.HoldsOpenRecord, ExpiringStore.get, same]

variable [OfScientific Score]

/--
After every run of the writer, also after one which leaves the breaker of a
subject open, the engine blocks the subject exactly when the store already held
an open record of the engine before the run.
-/
theorem trip_reaches_engine_iff (store : RedisStore)
    (calls : List WriterCall) (now : Nat) (subject : String) :
    (CircuitBreakerManager.isBlocked unmarshal
        (LabelledRun.run next store calls) now subject).1 = true ↔
      CircuitBreakerManager.HoldsOpenRecord unmarshal store now subject := by
  rw [CircuitBreakerManager.isBlocked_iff, holdsOpenRecord_run]

/-- Five triggers of a symbol at one time, all commands of which succeed. -/
def fiveTriggers : List WriterCall :=
  List.replicate 5
    { method := .incrementTriggerCount "AAPL", now := 0, faults := [] }

/-- A decoder which is given no record. -/
def decodesNothing : RedisValue → Except String (CircuitBreaker Float) :=
  fun _ => .error "unexpected end of JSON input"

theorem trip_reaches_engine_iff_sample :
    (statusAt (LabelledRun.run next ∅ fiveTriggers) (milliseconds 0)
          "AAPL").map BreakerStatus.status =
        some "OPEN" ∧
      ((CircuitBreakerManager.isBlocked decodesNothing
          (LabelledRun.run next ∅ fiveTriggers) 0 "AAPL").1 = true ↔
        CircuitBreakerManager.HoldsOpenRecord decodesNothing ∅ 0 "AAPL") :=
  ⟨by decide,
    trip_reaches_engine_iff decodesNothing ∅ fiveTriggers 0 "AAPL"⟩

/-- The breaker of the guardrail is open and the engine blocks nobody. -/
theorem trip_reaches_engine_fails :
    ¬ ∀ (unmarshal : RedisValue → Except String (CircuitBreaker Float))
        (store : RedisStore) (calls : List WriterCall) (now : Nat)
        (subject : String),
        (statusAt (LabelledRun.run next store calls) (milliseconds now)
            subject).map BreakerStatus.status = some "OPEN" →
          (CircuitBreakerManager.isBlocked unmarshal
            (LabelledRun.run next store calls) now subject).1 = true := by
  intro reaches
  have blocked := reaches decodesNothing ∅ fiveTriggers 0 "AAPL" (by decide)
  exact absurd blocked (by decide)

end CircuitBreakerWriter

end AeroRisk.Guardrail
