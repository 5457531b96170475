import AeroRisk.Guardrail.TriggerWindow

/-!
# Counters which do not expire

The trigger counter of a symbol gets its expiry in a command of its own, after
the first trigger.  When this command fails the counter stays for ever: a
later trigger finds it, so it is not a first one.
-/

namespace AeroRisk.Guardrail.CircuitBreakerWriter

open AeroRisk.Library

/-- Every trigger counter in the store carries an expiry. -/
def CountersExpire (store : RedisStore) : Prop :=
  ∀ symbol entry,
    store.lookup (triggerKey symbol) = some entry →
      entry.expiresAt ≠ none

/-- A first trigger is counted, but the command for its expiry fails. -/
def Abandons (store : RedisStore) (call : WriterCall) : Prop :=
  ∃ symbol,
    call.method = .incrementTriggerCount symbol ∧
      ExpiringStore.find store call.now (triggerKey symbol) = none ∧
      call.faults.headD false = false ∧
      call.faults.tail.headD false = true

/-- `CountersExpire`, for what a method works on. -/
def Expiring (connection : RedisConnection) : Prop :=
  CountersExpire connection.store

variable {store : RedisStore} {symbol : String}

/-- What happens to other keys does not matter. -/
theorem CountersExpire.set_of_ne {key : String} (expire : CountersExpire store)
    (notTrigger : ∀ symbol, triggerKey symbol ≠ key) (value : RedisValue)
    (expiresAt : Option Nat) :
    CountersExpire (ExpiringStore.set store key value expiresAt) := by
  intro symbol entry stored
  rw [ExpiringStore.set, AList.lookup_insert_ne (notTrigger symbol)] at stored
  exact expire symbol entry stored

/-- A value with an expiry may be stored anywhere. -/
theorem CountersExpire.set {key : String} (expire : CountersExpire store)
    (value : RedisValue) {expiresAt : Option Nat}
    (expires : expiresAt ≠ none) :
    CountersExpire (ExpiringStore.set store key value expiresAt) := by
  intro symbol entry stored
  by_cases same : triggerKey symbol = key
  · subst same
    rw [ExpiringStore.set, AList.lookup_insert] at stored
    cases stored
    exact expires
  · rw [ExpiringStore.set, AList.lookup_insert_ne same] at stored
    exact expire symbol entry stored

theorem CountersExpire.expireAt (expire : CountersExpire store) (now : Nat)
    (key : String) (expiry : Nat) :
    CountersExpire (ExpiringStore.expireAt store now key expiry) := by
  rw [ExpiringStore.expireAt]
  split
  · exact expire
  · exact expire.set _ (Option.some_ne_none _)

theorem CountersExpire.delete (expire : CountersExpire store)
    (key : String) : CountersExpire (ExpiringStore.delete store key) := by
  intro symbol entry stored
  by_cases same : triggerKey symbol = key
  · subst same
    rw [ExpiringStore.delete, AList.lookup_erase] at stored
    cases stored
  · rw [ExpiringStore.delete, AList.lookup_erase_ne same] at stored
    exact expire symbol entry stored

/-- A counter which gets its expiry after its first value. -/
theorem CountersExpire.start (expire : CountersExpire store) (now : Nat)
    (key : String) (expiry : Nat) :
    CountersExpire
      (ExpiringStore.expireAt
        (ExpiringStore.set store key (.integer 1) none) now key expiry) := by
  intro symbol entry stored
  rw [ExpiringStore.expireAt, ExpiringStore.find_set] at stored
  by_cases same : triggerKey symbol = key
  · subst same
    simp only [Option.filter_some, Entry.live, Option.all_none, if_true,
      ExpiringStore.set, AList.lookup_insert] at stored
    cases stored
    exact Option.some_ne_none _
  · simp only [Option.filter_some, Entry.live, Option.all_none, if_true,
      ExpiringStore.set, AList.lookup_insert_ne same] at stored
    exact expire symbol entry stored

/-! ## What keeps the expiries -/

theorem expiring_setStatus (symbol : String) (value : RedisValue)
    (ex : Option Nat) :
    Commands.Preserves Expiring (RedisM.set (statusKey symbol) value ex) := by
  apply RedisM.preserves_command_of_store
  rintro now before _ after expire executed
  cases executed
  exact expire.set_of_ne (fun other => triggerKey_ne_statusKey other symbol)
    value _

theorem expiring_publishCircuitEvent :
    Commands.Preserves Expiring publishCircuitEvent := by
  apply RedisM.preserves_command_of_store
  rintro now before _ after expire executed
  cases executed
  exact expire

theorem expiring_openCircuit (symbol : String) :
    Commands.Preserves Expiring (openCircuit symbol) := by
  apply Commands.preserves_tryCatch
  · apply Commands.preserves_bind
    · exact expiring_setStatus symbol _ _
    · exact fun _ => expiring_publishCircuitEvent
  · exact fun _ => Commands.preserves_pure ()

theorem expiring_closeCircuit (symbol : String) :
    Commands.Preserves Expiring (closeCircuit symbol) := by
  have deleted :
      Commands.Preserves Expiring (RedisM.delete (triggerKey symbol)) := by
    apply RedisM.preserves_command_of_store
    rintro now before _ after expire executed
    cases executed
    exact expire.delete _
  apply Commands.preserves_tryCatch
  · apply Commands.preserves_bind
    · exact expiring_setStatus symbol _ _
    intro _
    apply Commands.preserves_bind deleted
    exact fun _ => expiring_publishCircuitEvent
  · exact fun _ => Commands.preserves_pure ()

theorem expiring_getStatus (symbol : String) :
    Commands.Preserves Expiring (getStatus symbol) := by
  have read (key : String) :
      Commands.Preserves Expiring (RedisM.get key) := by
    apply RedisM.preserves_command_of_store
    rintro now before _ after expire executed
    cases executed
    exact expire
  apply Commands.preserves_tryCatch
  · apply Commands.preserves_bind (read _)
    intro status
    apply Commands.preserves_bind (read _)
    intro triggers
    apply Commands.preserves_bind
    · exact Commands.preserves_ofExcept (countOf triggers)
    exact fun _ => Commands.preserves_pure _
  · exact fun _ => Commands.preserves_pure _

theorem expiring_resetAll : Commands.Preserves Expiring resetAll := by
  apply Commands.preserves_tryCatch
  · apply Commands.preserves_bind
    · apply RedisM.preserves_command_of_store
      rintro now before _ after expire executed
      cases executed
      exact expire
    intro keys
    apply Commands.preserves_forM
    exact fun key => expiring_closeCircuit (symbolOfKey key)
  · exact fun _ => Commands.preserves_pure ()

/-- The rest of `increment_trigger_count`, after the count. -/
def afterCount (symbol : String) (newCount : Int) : RedisM Int := do
  expireFirst symbol newCount
  openIfReached symbol newCount
  pure newCount

theorem expiring_afterCount (symbol : String) (newCount : Int) :
    Commands.Preserves Expiring (afterCount symbol newCount) := by
  apply Commands.preserves_bind
  · apply Commands.preserves_ite
    · apply RedisM.preserves_command_of_store
      rintro now before _ after expire executed
      cases executed
      exact expire.expireAt now _ _
    · exact Commands.preserves_pure ()
  intro _
  apply Commands.preserves_bind
  · apply Commands.preserves_ite
    · exact expiring_openCircuit symbol
    · exact Commands.preserves_pure ()
  exact fun _ => Commands.preserves_pure newCount

/-! ## One call -/

/-- What a call works on. -/
def connectionOf (store : RedisStore) (call : WriterCall) :
    RedisConnection where
  store := store
  now := call.now
  faults := call.faults

theorem next_increment {call : WriterCall}
    (increments : call.method = .incrementTriggerCount symbol) :
    next store call =
      (Commands.after (RedisM.incr (triggerKey symbol) >>= afterCount symbol)
        (connectionOf store call)).store := by
  have started :
      next store call =
        (Commands.after
          (incrementTriggerCount symbol >>= fun _ => pure ())
          (connectionOf store call)).store := by
    rw [next, increments]
    rfl
  rw [started, Commands.after_bind_pure]
  exact congrArg RedisConnection.store
    (Commands.after_tryCatch_pure _ _ (connectionOf store call))

/-- A failed expiry leaves the new counter as `INCR` stored it. -/
theorem next_of_abandons {call : WriterCall}
    (increments : call.method = .incrementTriggerCount symbol)
    (absent :
      ExpiringStore.find store call.now (triggerKey symbol) = none)
    (counted : call.faults.headD false = false)
    (fails : call.faults.tail.headD false = true) :
    next store call =
      ExpiringStore.set store (triggerKey symbol) (.integer 1) none := by
  have incremented :=
    @RedisM.incr_of_absent _ (connectionOf store call) counted absent
  rw [next_increment increments, Commands.after_bind_of_ok incremented]
  simp only [Commands.after, afterCount, expireFirst, RedisM.expire,
    RedisM.command, bind, EStateM.bind, connectionOf, fails, if_true]

/-- Every other increment keeps the expiries. -/
theorem expire_next_of_increment {call : WriterCall}
    (increments : call.method = .incrementTriggerCount symbol)
    (expire : CountersExpire store) (kept : ¬ Abandons store call) :
    CountersExpire (next store call) := by
  rw [next_increment increments]
  cases executed :
      RedisM.incr (triggerKey symbol) (connectionOf store call) with
  | error error reached =>
      have unchanged : reached.store = store :=
        RedisM.store_of_command_eq_error executed
      rw [Commands.after_bind_of_error executed, unchanged]
      exact expire
  | ok newCount reached =>
      rw [Commands.after_bind_of_ok executed]
      rcases RedisM.incr_eq_ok executed with
        ⟨absent, rfl, rfl⟩ | ⟨entry, found, rfl⟩
      · have works : call.faults.tail.headD false = false := by
          by_contra fails
          exact kept
            ⟨symbol, increments, absent,
              RedisM.noFault_of_command_eq_ok executed,
              by simpa using fails⟩
        rw [afterCount, Commands.after_bind_of_ok (expireFirst_one works)]
        exact expire.start call.now (triggerKey symbol) _
      · apply expiring_afterCount symbol newCount
        apply expire.set
        have stored : store.lookup (triggerKey symbol) = some entry := by
          rw [ExpiringStore.find, Option.filter_eq_some_iff] at found
          exact found.1
        exact expire symbol entry stored

/-- A call keeps the expiries unless it abandons a counter. -/
theorem expire_next_iff {call : WriterCall} (expire : CountersExpire store) :
    CountersExpire (next store call) ↔ ¬ Abandons store call := by
  constructor
  · rintro kept ⟨symbol, increments, absent, counted, fails⟩
    rw [next_of_abandons increments absent counted fails] at kept
    exact kept symbol _ (AList.lookup_insert store) rfl
  · intro kept
    cases method : call.method with
    | incrementTriggerCount symbol =>
        exact expire_next_of_increment method expire kept
    | closeCircuit symbol =>
        rw [next, method]
        exact expiring_closeCircuit symbol _ expire
    | getStatus symbol =>
        rw [next, method]
        have preserved :
            Commands.Preserves Expiring (program (.getStatus symbol)) := by
          apply Commands.preserves_bind (expiring_getStatus symbol)
          exact fun _ => Commands.preserves_pure ()
        exact preserved _ expire
    | resetAll =>
        rw [next, method]
        exact expiring_resetAll _ expire

/--
In a run of the writer from any store every trigger counter carries an expiry
in every state exactly when this is so in the first one and no call counts a
first trigger without setting its expiry.
-/
theorem counters_expire (store : RedisStore) (calls : List WriterCall) :
    LabelledRun.Always next CountersExpire store calls ↔
      CountersExpire store ∧
        LabelledRun.Along next (fun store call => ¬ Abandons store call)
          store calls := by
  have exactly (initially : CountersExpire store) :
      LabelledRun.Always next CountersExpire store calls ↔
        LabelledRun.Along next (fun store call => ¬ Abandons store call)
          store calls := by
    apply LabelledRun.always_iff_along
    · exact fun _ expire => expire
    · exact fun _ _ expire kept => (expire_next_iff expire).mpr kept
    · exact fun _ _ expire after => (expire_next_iff expire).mp after
    · exact initially
  constructor
  · intro always
    have initially : CountersExpire store := always [] List.nil_prefix
    exact ⟨initially, (exactly initially).mp always⟩
  · rintro ⟨initially, along⟩
    exact (exactly initially).mpr along

/-- A first trigger whose second command fails. -/
def failedExpiry : WriterCall where
  method := .incrementTriggerCount "AAPL"
  now := 0
  faults := [false, true]

/-- From an empty store it leaves a counter which does not expire. -/
theorem counters_expire_fails :
    ¬ ∀ (calls : List WriterCall),
        LabelledRun.Always next CountersExpire (∅ : RedisStore) calls := by
  intro always
  have expire : CountersExpire (next ∅ failedExpiry) :=
    always [failedExpiry] [failedExpiry] List.prefix_rfl
  have abandoned : Abandons (∅ : RedisStore) failedExpiry :=
    ⟨"AAPL", rfl, rfl, rfl, rfl⟩
  have empty : CountersExpire (∅ : RedisStore) := by
    intro symbol entry stored
    cases stored
  exact (expire_next_iff empty).mp expire abandoned

end AeroRisk.Guardrail.CircuitBreakerWriter
