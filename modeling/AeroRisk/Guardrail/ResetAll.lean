import AeroRisk.Guardrail.TriggerExpiry

/-!
# What `reset_all` resets

`reset_all` looks for the status keys and closes the breaker of the symbol
which it reads off each of them.  A symbol has a status key only once its
breaker was opened or closed, so a counter which is still running has none.
This module finds the states from which everything is reset.
-/

namespace AeroRisk.Guardrail.CircuitBreakerWriter

open AeroRisk.Library

variable {store : RedisStore} {symbol : String} {now : Nat}

/-! ## The keys of the writer -/

theorem length_statusKey (symbol : String) :
    (statusKey symbol).length =
      keyPrefix.length + symbol.length + ":status".length := by
  simp [statusKey]

/-- The pattern matches the status keys only. -/
theorem matchesStar_iff (key : String) :
    RedisM.matchesStar keyPrefix ":status" key = true ↔
      ∃ symbol, key = statusKey symbol := by
  simp only [RedisM.matchesStar, Bool.and_eq_true, decide_eq_true_iff,
    List.isPrefixOf_iff_prefix, List.isSuffixOf_iff_suffix]
  constructor
  · rintro ⟨⟨⟨rest, hasPrefix⟩, ⟨front, hasSuffix⟩⟩, long⟩
    have letters : key.toList.length = key.length := String.length_toList
    have same : keyPrefix.toList ++ rest = front ++ ":status".toList :=
      hasPrefix.trans hasSuffix.symm
    have fits : keyPrefix.toList.length ≤ front.length := by
      have total := congrArg List.length hasSuffix
      rw [List.length_append, letters] at total
      have bound : keyPrefix.toList.length + ":status".toList.length ≤
          key.length := by
        rw [String.length_toList, String.length_toList]
        exact long
      omega
    rcases List.append_eq_append_iff.mp same with
      ⟨middle, rfl, ends⟩ | ⟨middle, short, _⟩
    · refine ⟨String.ofList middle, ?_⟩
      apply String.toList_inj.mp
      rw [← hasPrefix, ends]
      simp [statusKey]
    · have none : middle = [] := by
        rw [short, List.length_append] at fits
        exact List.length_eq_zero_iff.mp (by omega)
      subst none
      refine ⟨"", ?_⟩
      apply String.toList_inj.mp
      rw [← hasSuffix]
      simpa [statusKey] using short.symm
  · rintro ⟨symbol, rfl⟩
    refine ⟨⟨?_, ?_⟩, ?_⟩
    · exact ⟨(symbol ++ ":status").toList, by simp [statusKey]⟩
    · exact ⟨(keyPrefix ++ symbol).toList, by simp [statusKey]⟩
    · rw [length_statusKey]
      omega

/-- What the writer stores under its keys. -/
inductive Wrote : String → RedisValue → Prop where
  | opened (symbol : String) : Wrote (statusKey symbol) (.text "OPEN")
  | closed (symbol : String) : Wrote (statusKey symbol) (.text "CLOSED")
  | counted (symbol : String) (number : Int) (positive : 1 ≤ number) :
      Wrote (triggerKey symbol) (.integer number)

/-- The store holds what the writer stores. -/
def Written (store : RedisStore) : Prop :=
  ∀ key entry, store.lookup key = some entry → Wrote key entry.value

theorem Written.wrote_of_find (written : Written store) {key : String}
    {entry : Entry RedisValue}
    (found : ExpiringStore.find store now key = some entry) :
    Wrote key entry.value := by
  rw [ExpiringStore.find, Option.filter_eq_some_iff] at found
  exact written key entry found.1

theorem Written.set (written : Written store) {key : String}
    {value : RedisValue} (wrote : Wrote key value)
    (expiresAt : Option Nat) :
    Written (ExpiringStore.set store key value expiresAt) := by
  intro other entry stored
  by_cases same : other = key
  · subst same
    rw [ExpiringStore.set, AList.lookup_insert] at stored
    cases stored
    exact wrote
  · rw [ExpiringStore.set, AList.lookup_insert_ne same] at stored
    exact written other entry stored

theorem Written.expireAt (written : Written store) (now : Nat)
    (key : String) (expiry : Nat) :
    Written (ExpiringStore.expireAt store now key expiry) := by
  rw [ExpiringStore.expireAt]
  cases found : ExpiringStore.find store now key with
  | none => exact written
  | some entry => exact written.set (written.wrote_of_find found) _

theorem Written.delete (written : Written store) (key : String) :
    Written (ExpiringStore.delete store key) := by
  intro other entry stored
  by_cases same : other = key
  · subst same
    rw [ExpiringStore.delete, AList.lookup_erase] at stored
    cases stored
  · rw [ExpiringStore.delete, AList.lookup_erase_ne same] at stored
    exact written other entry stored

theorem statusOf_wrote {value : RedisValue}
    (wrote : Wrote (statusKey symbol) value) :
    value = .text "OPEN" ∨ value = .text "CLOSED" := by
  generalize key_eq : statusKey symbol = key at wrote
  cases wrote with
  | opened other => exact Or.inl rfl
  | closed other => exact Or.inr rfl
  | counted other number positive =>
      exact absurd key_eq.symm (triggerKey_ne_statusKey other symbol)

theorem counterOf_wrote {value : RedisValue}
    (wrote : Wrote (triggerKey symbol) value) :
    ∃ number : Int, 1 ≤ number ∧ value = .integer number := by
  generalize key_eq : triggerKey symbol = key at wrote
  cases wrote with
  | opened other =>
      exact absurd key_eq (triggerKey_ne_statusKey symbol other)
  | closed other =>
      exact absurd key_eq (triggerKey_ne_statusKey symbol other)
  | counted other number positive => exact ⟨number, positive, rfl⟩

/-! ## Every run keeps the keys of the writer -/

/-- `Written`, for what a method works on. -/
def Writes (connection : RedisConnection) : Prop :=
  Written connection.store

theorem writes_incr (symbol : String) :
    Commands.Preserves Writes (RedisM.incr (triggerKey symbol)) := by
  apply RedisM.preserves_command_of_store
  rintro now before newCount after written executed
  cases found : ExpiringStore.find before now (triggerKey symbol) with
  | none =>
      rw [found] at executed
      cases executed
      exact written.set (.counted symbol 1 (Int.le_refl 1)) none
  | some entry =>
      rcases counterOf_wrote (written.wrote_of_find found) with
        ⟨number, positive, isNumber⟩
      rcases entry with ⟨value, expiresAt⟩
      dsimp only at isNumber
      subst isNumber
      rw [found] at executed
      dsimp only at executed
      split at executed
      · cases executed
        exact written.set (.counted symbol _ (by omega)) expiresAt
      · cases executed

theorem writes_read {Value : Type}
    {effect : Nat → RedisStore → Except String (Value × RedisStore)}
    (reads :
      ∀ now store value next,
        effect now store = .ok (value, next) → next = store) :
    Commands.Preserves Writes (RedisM.command effect) := by
  apply RedisM.preserves_command_of_store
  intro now before value after written executed
  rw [reads now before value after executed]
  exact written

theorem writes_publishCircuitEvent :
    Commands.Preserves Writes publishCircuitEvent := by
  apply writes_read
  rintro now store value next executed
  cases executed
  rfl

theorem writes_setStatus {value : RedisValue}
    (wrote : Wrote (statusKey symbol) value) (ex : Option Nat) :
    Commands.Preserves Writes (RedisM.set (statusKey symbol) value ex) := by
  apply RedisM.preserves_command_of_store
  rintro now before _ after written executed
  cases executed
  exact written.set wrote _

theorem writes_openCircuit (symbol : String) :
    Commands.Preserves Writes (openCircuit symbol) := by
  apply Commands.preserves_tryCatch
  · apply Commands.preserves_bind
    · exact writes_setStatus (.opened symbol) _
    · exact fun _ => writes_publishCircuitEvent
  · exact fun _ => Commands.preserves_pure ()

theorem writes_incrementTriggerCount (symbol : String) :
    Commands.Preserves Writes (incrementTriggerCount symbol) := by
  apply Commands.preserves_tryCatch
  · apply Commands.preserves_bind (writes_incr symbol)
    intro newCount
    apply Commands.preserves_bind
    · apply Commands.preserves_ite
      · apply RedisM.preserves_command_of_store
        rintro now before _ after written executed
        cases executed
        exact written.expireAt now _ _
      · exact Commands.preserves_pure ()
    intro _
    apply Commands.preserves_bind
    · apply Commands.preserves_ite
      · exact writes_openCircuit symbol
      · exact Commands.preserves_pure ()
    exact fun _ => Commands.preserves_pure newCount
  · exact fun _ => Commands.preserves_pure (-1)

theorem writes_closeCircuit (symbol : String) :
    Commands.Preserves Writes (closeCircuit symbol) := by
  apply Commands.preserves_tryCatch
  · apply Commands.preserves_bind
    · exact writes_setStatus (.closed symbol) none
    intro _
    apply Commands.preserves_bind
    · apply RedisM.preserves_command_of_store
      rintro now before _ after written executed
      cases executed
      exact written.delete _
    exact fun _ => writes_publishCircuitEvent
  · exact fun _ => Commands.preserves_pure ()

theorem writes_getStatus (symbol : String) :
    Commands.Preserves Writes (getStatus symbol) := by
  have read (key : String) : Commands.Preserves Writes (RedisM.get key) := by
    apply writes_read
    rintro now store value next executed
    cases executed
    rfl
  apply Commands.preserves_tryCatch
  · apply Commands.preserves_bind (read _)
    intro status
    apply Commands.preserves_bind (read _)
    intro triggers
    apply Commands.preserves_bind
    · exact Commands.preserves_ofExcept (countOf triggers)
    exact fun _ => Commands.preserves_pure _
  · exact fun _ => Commands.preserves_pure _

theorem writes_resetAll : Commands.Preserves Writes resetAll := by
  apply Commands.preserves_tryCatch
  · apply Commands.preserves_bind
    · apply writes_read
      rintro now store value next executed
      cases executed
      rfl
    intro keys
    apply Commands.preserves_forM
    exact fun key => writes_closeCircuit (symbolOfKey key)
  · exact fun _ => Commands.preserves_pure ()

theorem writes_program (method : WriterMethod) :
    Commands.Preserves Writes (program method) := by
  cases method with
  | incrementTriggerCount symbol =>
      apply Commands.preserves_bind (writes_incrementTriggerCount symbol)
      exact fun _ => Commands.preserves_pure ()
  | closeCircuit symbol => exact writes_closeCircuit symbol
  | getStatus symbol =>
      apply Commands.preserves_bind (writes_getStatus symbol)
      exact fun _ => Commands.preserves_pure ()
  | resetAll => exact writes_resetAll

theorem written_run (calls : List WriterCall) :
    Written (LabelledRun.run next ∅ calls) := by
  apply LabelledRun.run_invariant_of_every
  · exact fun before call written => writes_program call.method _ written
  · intro key entry stored
    cases stored

/-! ## What a reset does -/

/-- The faults of a loop over `close_circuit` where only publishing fails. -/
def faultsOf (publishFails : List Bool) : List Bool :=
  publishFails.flatMap fun fails => [false, false, fails]

/-- A call of `reset_all` whose Redis commands succeed. -/
def resetCall (now : Nat) (publishFails : List Bool) : WriterCall where
  method := .resetAll
  now := now
  faults := false :: faultsOf publishFails

/-- The store after `close_circuit`. -/
def closed (store : RedisStore) (symbol : String) : RedisStore :=
  ExpiringStore.delete
    (ExpiringStore.set store (statusKey symbol) (.text "CLOSED") none)
    (triggerKey symbol)

/-- The keys which `reset_all` finds. -/
def statusKeys (store : RedisStore) (now : Nat) : List String :=
  (ExpiringStore.liveKeys store now).filter
    (RedisM.matchesStar keyPrefix ":status")

theorem closeCircuit_apply (symbol : String) (store : RedisStore) (now : Nat)
    (publishFails : List Bool) :
    closeCircuit symbol { store, now, faults := faultsOf publishFails } =
      .ok ()
        { store := closed store symbol
          now
          faults := faultsOf publishFails.tail } := by
  cases publishFails with
  | nil => rfl
  | cons fails rest => cases fails <;> rfl

/-- Publishing may fail; the loop closes every breaker all the same. -/
theorem store_forM_closeCircuit (keys : List String) (store : RedisStore)
    (now : Nat) (publishFails : List Bool) :
    (Commands.after (keys.forM fun key => closeCircuit (symbolOfKey key))
        { store, now, faults := faultsOf publishFails }).store =
      keys.foldl (fun store key => closed store (symbolOfKey key)) store := by
  refine
    Commands.observe_after_forM
      (fun connection =>
        ∃ publishFails, connection.faults = faultsOf publishFails)
      RedisConnection.store ?_ keys ⟨publishFails, rfl⟩
  rintro key ⟨before, time, faults⟩ ⟨publishFails, rfl⟩
  exact
    ⟨_, closeCircuit_apply (symbolOfKey key) before time publishFails,
      ⟨publishFails.tail, rfl⟩, rfl⟩

theorem next_resetCall (store : RedisStore) (now : Nat)
    (publishFails : List Bool) :
    next store (resetCall now publishFails) =
      ((statusKeys store now).map symbolOfKey).foldl closed store := by
  have listed :
      RedisM.keys keyPrefix ":status"
          { store, now, faults := false :: faultsOf publishFails } =
        .ok (statusKeys store now)
          { store, now, faults := faultsOf publishFails } :=
    RedisM.command_ok rfl rfl
  rw [List.foldl_map,
    ← store_forM_closeCircuit (statusKeys store now) store now publishFails,
    next]
  show
    (Commands.after resetAll
      { store, now, faults := false :: faultsOf publishFails }).store = _
  rw [resetAll, Commands.after_tryCatch_pure,
    Commands.after_bind_of_ok listed]

theorem find_closed_self (store : RedisStore) (later : Nat)
    (symbol : String) :
    ExpiringStore.find (closed store symbol) later (statusKey symbol) =
        some { value := .text "CLOSED", expiresAt := none } ∧
      ExpiringStore.find (closed store symbol) later (triggerKey symbol) =
        none := by
  constructor
  · rw [closed,
      ExpiringStore.find_delete_of_ne _ _ (triggerKey_ne_statusKey _ _).symm,
      ExpiringStore.find_set]
    rfl
  · rw [closed, ExpiringStore.find, ExpiringStore.delete, AList.lookup_erase]
    rfl

/-- Two stores have the same status and the same counter of a symbol. -/
def Agree (symbol : String) (other store : RedisStore) : Prop :=
  ∀ later,
    ExpiringStore.find other later (statusKey symbol) =
        ExpiringStore.find store later (statusKey symbol) ∧
      ExpiringStore.find other later (triggerKey symbol) =
        ExpiringStore.find store later (triggerKey symbol)

theorem Agree.trans {first second third : RedisStore}
    (agree : Agree symbol first second)
    (agreeLater : Agree symbol second third) :
    Agree symbol first third := by
  intro later
  rcases agree later with ⟨status, counter⟩
  rcases agreeLater later with ⟨statusLater, counterLater⟩
  exact ⟨status.trans statusLater, counter.trans counterLater⟩

theorem agree_closed {other : String} (ne : symbol ≠ other)
    (store : RedisStore) : Agree symbol (closed store other) store := by
  intro later
  constructor
  · rw [closed,
      ExpiringStore.find_delete_of_ne _ _ (triggerKey_ne_statusKey _ _).symm,
      ExpiringStore.find_set_of_ne _ _ (mt statusKey_inj ne)]
  · rw [closed,
      ExpiringStore.find_delete_of_ne _ _ (mt triggerKey_inj ne),
      ExpiringStore.find_set_of_ne _ _ (triggerKey_ne_statusKey _ _)]

/-- The symbols which are not read off a key are left alone. -/
theorem agree_foldl {symbols : List String} (notFound : symbol ∉ symbols)
    (store : RedisStore) :
    Agree symbol (symbols.foldl closed store) store := by
  induction symbols generalizing store with
  | nil => exact fun _ => ⟨rfl, rfl⟩
  | cons other rest inductionHypothesis =>
      rw [List.mem_cons, not_or] at notFound
      exact
        (inductionHypothesis notFound.2 (closed store other)).trans
          (agree_closed notFound.1 store)

/-- The symbols which are read off a key are closed, and have no counter. -/
theorem find_foldl_of_mem {symbols : List String}
    (found : symbol ∈ symbols) (store : RedisStore) (later : Nat) :
    ExpiringStore.find (symbols.foldl closed store) later
          (statusKey symbol) =
        some { value := .text "CLOSED", expiresAt := none } ∧
      ExpiringStore.find (symbols.foldl closed store) later
          (triggerKey symbol) = none := by
  induction symbols generalizing store with
  | nil => cases found
  | cons other rest inductionHypothesis =>
      by_cases again : symbol ∈ rest
      · exact inductionHypothesis again (closed store other)
      · have same : symbol = other := by
          simpa [again] using List.mem_cons.mp found
        subst same
        rcases agree_foldl again (closed store symbol) later with
          ⟨status, counter⟩
        rcases find_closed_self store later symbol with
          ⟨isClosed, noCounter⟩
        exact ⟨status.trans isClosed, counter.trans noCounter⟩

/-! ## The symbols a reset finds -/

/-- Some status key is read off as this symbol. -/
def ReadOff (store : RedisStore) (now : Nat) (symbol : String) : Prop :=
  ∃ other,
    ExpiringStore.find store now (statusKey other) ≠ none ∧
      symbolOfKey (statusKey other) = symbol

theorem mem_liveKeys_iff (key : String) :
    key ∈ ExpiringStore.liveKeys store now ↔
      ExpiringStore.find store now key ≠ none := by
  rw [ExpiringStore.liveKeys, List.mem_filter, Option.isSome_iff_ne_none,
    and_iff_right_iff_imp]
  intro found
  by_contra absent
  have missing : store.lookup key = none :=
    AList.lookup_eq_none.mpr absent
  exact found (by rw [ExpiringStore.find, missing]; rfl)

theorem mem_statusKeys_iff :
    symbol ∈ (statusKeys store now).map symbolOfKey ↔
      ReadOff store now symbol := by
  simp only [List.mem_map, statusKeys, List.mem_filter, mem_liveKeys_iff,
    matchesStar_iff, ReadOff]
  constructor
  · rintro ⟨key, ⟨found, other, rfl⟩, readsOff⟩
    exact ⟨other, found, readsOff⟩
  · rintro ⟨other, found, readsOff⟩
    exact ⟨statusKey other, ⟨found, other, rfl⟩, readsOff⟩

/-! ## Breakers which are reset -/

/--
The breaker is not open and at most `bound` triggers are counted, from a time
on.
-/
structure Calm (store : RedisStore) (now : Nat) (symbol : String)
    (bound : Int) : Prop where
  status :
    ∀ later, now ≤ later → ∀ entry,
      ExpiringStore.find store later (statusKey symbol) = some entry →
        entry.value = .text "CLOSED"
  counter :
    ∀ later, now ≤ later → ∀ entry,
      ExpiringStore.find store later (triggerKey symbol) = some entry →
        ∃ number : Int,
          0 ≤ number ∧ number ≤ bound ∧ entry.value = .integer number

variable {bound : Int}

theorem Calm.mono (calm : Calm store now symbol bound) {more : Int}
    (le : bound ≤ more) : Calm store now symbol more where
  status := calm.status
  counter := by
    intro later reached entry found
    rcases calm.counter later reached entry found with
      ⟨number, nonneg, fits, isNumber⟩
    exact ⟨number, nonneg, Int.le_trans fits le, isNumber⟩

theorem Calm.congr {other : RedisStore}
    (calm : Calm store now symbol bound) (agree : Agree symbol other store) :
    Calm other now symbol bound where
  status := by
    intro later reached entry found
    rw [(agree later).1] at found
    exact calm.status later reached entry found
  counter := by
    intro later reached entry found
    rw [(agree later).2] at found
    exact calm.counter later reached entry found

/-- A missing counter counts nothing. -/
theorem countOf_of_absent {later : Nat}
    (absent : ExpiringStore.find store later (triggerKey symbol) = none) :
    countOf (ExpiringStore.get store later (triggerKey symbol)) = .ok 0 := by
  rw [ExpiringStore.get, absent]
  rfl

theorem countOf_of_integer {later : Nat} {entry : Entry RedisValue}
    {number : Int}
    (found : ExpiringStore.find store later (triggerKey symbol) = some entry)
    (isNumber : entry.value = .integer number) :
    countOf (ExpiringStore.get store later (triggerKey symbol)) =
      .ok number := by
  rw [ExpiringStore.get, found, Option.map_some, isNumber]
  rfl

/-- What `get_status` reports of a calm breaker. -/
theorem Calm.statusAt (calm : Calm store now symbol bound) {later : Nat}
    (reached : now ≤ later) :
    ∃ number : Int, 0 ≤ number ∧ (number = 0 ∨ number ≤ bound) ∧
      CircuitBreakerWriter.statusAt store later symbol =
        some
          { symbol
            status := "CLOSED"
            triggerCount := number
            threshold := triggerThreshold } := by
  have status :
      statusOr (ExpiringStore.get store later (statusKey symbol)) =
        "CLOSED" := by
    rw [ExpiringStore.get]
    cases found : ExpiringStore.find store later (statusKey symbol) with
    | none => rfl
    | some entry =>
        rw [Option.map_some, calm.status later reached entry found]
        rfl
  cases found : ExpiringStore.find store later (triggerKey symbol) with
  | none =>
      refine ⟨0, Int.le_refl 0, Or.inl rfl, ?_⟩
      rw [statusAt_of_count (countOf_of_absent found), status]
  | some entry =>
      rcases calm.counter later reached entry found with
        ⟨number, nonneg, fits, isNumber⟩
      refine ⟨number, nonneg, Or.inr fits, ?_⟩
      rw [statusAt_of_count (countOf_of_integer found isNumber), status]

theorem Calm.set_counter (calm : Calm store now symbol bound) {number : Int}
    (nonneg : 0 ≤ number) (fits : number ≤ bound) (expiresAt : Option Nat) :
    Calm
      (ExpiringStore.set store (triggerKey symbol) (.integer number)
        expiresAt)
      now symbol bound where
  status := by
    intro later reached entry found
    rw [ExpiringStore.find_set_of_ne _ _ (triggerKey_ne_statusKey _ _).symm]
      at found
    exact calm.status later reached entry found
  counter := by
    intro later reached entry found
    rw [ExpiringStore.find_set, Option.filter_eq_some_iff] at found
    cases found.1
    exact ⟨number, nonneg, fits, rfl⟩

/-- A counter which is found may get another expiry time. -/
theorem Calm.expireAt (calm : Calm store now symbol bound) {time : Nat}
    (reached : now ≤ time) (expiry : Nat) :
    Calm (ExpiringStore.expireAt store time (triggerKey symbol) expiry) now
      symbol bound := by
  rw [ExpiringStore.expireAt]
  cases found : ExpiringStore.find store time (triggerKey symbol) with
  | none => exact calm
  | some entry =>
      rcases calm.counter time reached entry found with
        ⟨number, nonneg, fits, isNumber⟩
      dsimp only
      rw [isNumber]
      exact calm.set_counter nonneg fits _

/-- What follows a count below the threshold opens nothing. -/
theorem Calm.afterCount {connection : RedisConnection}
    (calm : Calm connection.store now symbol bound)
    (reached : now ≤ connection.now) {newCount : Int}
    (below : newCount < triggerThreshold) :
    Calm
      (Commands.after (CircuitBreakerWriter.afterCount symbol newCount)
        connection).store
      now symbol bound := by
  have closes :
      ∀ connection : RedisConnection,
        (openIfReached symbol newCount >>= fun _ => pure newCount)
            connection =
          .ok newCount connection := by
    intro connection
    rw [openIfReached, if_neg (Int.not_le.mpr below)]
    rfl
  by_cases first : newCount = 1
  · subst first
    cases fails : connection.faults.headD false with
    | false =>
        rw [CircuitBreakerWriter.afterCount,
          Commands.after_bind_of_ok (expireFirst_one fails), Commands.after,
          closes]
        exact calm.expireAt reached _
    | true =>
        have failed :
            expireFirst symbol 1 connection =
              .error "connection error"
                { connection with faults := connection.faults.tail } := by
          simp only [expireFirst, if_true, RedisM.expire, RedisM.command,
            fails]
        rw [CircuitBreakerWriter.afterCount,
          Commands.after_bind_of_error failed]
        exact calm
  · rw [CircuitBreakerWriter.afterCount,
      Commands.after_bind_of_ok (expireFirst_of_ne first connection),
      Commands.after, closes]
    exact calm

/-- A trigger below the threshold counts one more. -/
theorem Calm.increment (calm : Calm store now symbol bound)
    {call : WriterCall}
    (increments : call.method = .incrementTriggerCount symbol)
    (reached : now ≤ call.now) (nonneg : 0 ≤ bound)
    (below : bound + 1 < triggerThreshold) :
    Calm (next store call) now symbol (bound + 1) := by
  have more := calm.mono (Int.le_add_one (Int.le_refl bound))
  rw [next_increment increments]
  cases executed :
      RedisM.incr (triggerKey symbol) (connectionOf store call) with
  | error error after =>
      rw [Commands.after_bind_of_error executed,
        RedisM.store_of_command_eq_error executed]
      exact more
  | ok newCount after =>
      rw [Commands.after_bind_of_ok executed]
      rcases RedisM.incr_eq_ok executed with
        ⟨absent, rfl, rfl⟩ | ⟨entry, found, rfl⟩
      · apply Calm.afterCount _ reached (Int.lt_of_le_of_lt _ below)
        · exact more.set_counter Int.one_nonneg (by omega) none
        · omega
      · rcases calm.counter call.now reached entry found with
          ⟨number, numberNonneg, fits, isNumber⟩
        have counted : newCount = number + 1 := by
          rcases entry with ⟨value, expiresAt⟩
          dsimp only at isNumber
          subst isNumber
          exact RedisM.count_of_incr found executed
        subst counted
        apply Calm.afterCount _ reached (by omega)
        exact more.set_counter (by omega) (by omega) _

/-- A trigger of another symbol is not noticed. -/
theorem Calm.other (calm : Calm store now symbol bound)
    {call : WriterCall} {other : String}
    (increments : call.method = .incrementTriggerCount other)
    (ne : symbol ≠ other) :
    Calm (next store call) now symbol bound := by
  have same (key : String) (notTrigger : key ≠ triggerKey other)
      (notStatus : key ≠ statusKey other) (later : Nat) :
      ExpiringStore.find (next store call) later key =
        ExpiringStore.find store later key := by
    have preserved :
        Commands.Preserves
          (RedisM.Holds key fun now => ExpiringStore.find store now key)
          (program (.incrementTriggerCount other)) := by
      apply Commands.preserves_bind
      · exact preserves_incrementTriggerCount notTrigger notStatus
      · exact fun _ => Commands.preserves_pure ()
    rw [next, increments]
    exact preserved (connectionOf store call) (fun _ => rfl) later
  exact
    calm.congr fun later =>
      ⟨same (statusKey symbol) (triggerKey_ne_statusKey _ _).symm
          (mt statusKey_inj ne) later,
        same (triggerKey symbol) (mt triggerKey_inj ne)
          (triggerKey_ne_statusKey _ _) later⟩

/-- A trigger of some symbol, not before a time. -/
def TriggerSince (now : Nat) (call : WriterCall) : Prop :=
  now ≤ call.now ∧ ∃ symbol, call.method = .incrementTriggerCount symbol

/-- The triggers of a symbol in a run. -/
def triggersOf (symbol : String) (calls : List WriterCall) : Nat :=
  calls.countP fun call => call.method = .incrementTriggerCount symbol

/-- Fewer triggers than the threshold leave a calm breaker calm. -/
theorem Calm.run (calls : List WriterCall) {store : RedisStore} {bound : Int}
    (calm : Calm store now symbol bound) (nonneg : 0 ≤ bound)
    (triggers : ∀ call ∈ calls, TriggerSince now call)
    (few : bound + triggersOf symbol calls < triggerThreshold) :
    Calm (LabelledRun.run next store calls) now symbol
      (bound + triggersOf symbol calls) := by
  induction calls generalizing store bound with
  | nil => simpa [triggersOf] using calm
  | cons call rest inductionHypothesis =>
      rw [List.forall_mem_cons] at triggers
      rcases triggers with ⟨⟨reached, other, increments⟩, triggers⟩
      rw [LabelledRun.run_cons]
      by_cases same : other = symbol
      · subst same
        have counted :
            triggersOf other (call :: rest) = triggersOf other rest + 1 := by
          simp [triggersOf, increments]
        rw [counted] at few ⊢
        have after :=
          calm.increment increments reached nonneg (by omega)
        have run :=
          inductionHypothesis after (by omega) triggers (by omega)
        rw [show bound + ((triggersOf other rest + 1 : Nat) : Int) =
          bound + 1 + triggersOf other rest by omega]
        exact run
      · have counted :
            triggersOf symbol (call :: rest) = triggersOf symbol rest := by
          simp [triggersOf, increments, same]
        rw [counted] at few ⊢
        have after := calm.other increments (Ne.symm same)
        exact inductionHypothesis after nonneg triggers few

/-! ## Which states are reset -/

/--
The breaker is closed without a trigger from a time on, and needs as many
triggers as the threshold to open again.
-/
structure IsReset (store : RedisStore) (now : Nat) (symbol : String) :
    Prop where
  status :
    ∀ later, now ≤ later →
      statusAt store later symbol =
        some
          { symbol
            status := "CLOSED"
            triggerCount := 0
            threshold := triggerThreshold }
  stays :
    ∀ calls : List WriterCall,
      (∀ call ∈ calls, TriggerSince now call) →
        triggersOf symbol calls < triggerThreshold →
          ∀ later, now ≤ later →
            (statusAt (LabelledRun.run next store calls) later symbol).map
                BreakerStatus.status =
              some "CLOSED"

/-- The breaker is open, or its counter is running. -/
def Active (store : RedisStore) (now : Nat) (symbol : String) : Prop :=
  ExpiringStore.get store now (statusKey symbol) = some (.text "OPEN") ∨
    ExpiringStore.find store now (triggerKey symbol) ≠ none

theorem Calm.isReset (calm : Calm store now symbol 0) :
    IsReset store now symbol where
  status := by
    intro later reached
    rcases calm.statusAt reached with ⟨number, nonneg, fits, reports⟩
    have none : number = 0 := by omega
    rw [reports, none]
  stays := by
    intro calls triggers few later reached
    have after := calm.run calls (Int.le_refl 0) triggers (by omega)
    rcases after.statusAt reached with ⟨number, _, _, reports⟩
    rw [reports]
    rfl

/-- A breaker which is not active has nothing to reset. -/
theorem Written.calm_of_inactive (written : Written store)
    (inactive : ¬ Active store now symbol) : Calm store now symbol 0 where
  status := by
    intro later reached entry found
    have foundNow := ExpiringStore.find_of_le reached found
    rcases statusOf_wrote (written.wrote_of_find foundNow) with
      isOpen | isClosed
    · refine absurd (Or.inl ?_) inactive
      rw [ExpiringStore.get, foundNow, Option.map_some, isOpen]
    · exact isClosed
  counter := by
    intro later reached entry found
    have foundNow := ExpiringStore.find_of_le reached found
    refine absurd (Or.inr ?_) inactive
    rw [foundNow]
    exact Option.some_ne_none entry

/-- An active breaker is reported open, or with a trigger. -/
theorem Written.not_isReset_of_active (written : Written store)
    (active : Active store now symbol) : ¬ IsReset store now symbol := by
  intro isReset
  have reports := isReset.status now (Nat.le_refl now)
  cases found : ExpiringStore.find store now (triggerKey symbol) with
  | none =>
      have isOpen := active.resolve_right (not_not.mpr found)
      rw [statusAt_of_count (countOf_of_absent found), isOpen] at reports
      exact absurd reports (by simp [statusOr, RedisValue.content])
  | some entry =>
      rcases counterOf_wrote (written.wrote_of_find found) with
        ⟨number, positive, isNumber⟩
      rw [statusAt_of_count (countOf_of_integer found isNumber)] at reports
      have zero : number = 0 := by
        simpa using congrArg (Option.map BreakerStatus.triggerCount) reports
      omega

/-- A symbol which is read off a key is calm after the reset. -/
theorem calm_of_readOff (readOff : ReadOff store now symbol)
    (publishFails : List Bool) :
    Calm (next store (resetCall now publishFails)) now symbol 0 := by
  have found := find_foldl_of_mem (mem_statusKeys_iff.mpr readOff) store
  rw [next_resetCall]
  constructor
  · intro later _ entry isFound
    rw [(found later).1] at isFound
    cases isFound
    rfl
  · intro later _ entry isFound
    rw [(found later).2] at isFound
    cases isFound

/--
In every state which a run of the writer reaches from an empty store, a reset
without a Redis error resets every breaker if and only if each symbol whose
breaker is open or whose counter is running is the symbol read off some
status key.
-/
theorem resetAll_resets_iff (calls : List WriterCall) (now : Nat)
    (publishFails : List Bool) :
    (∀ symbol,
        IsReset
          (next (LabelledRun.run next ∅ calls) (resetCall now publishFails))
          now symbol) ↔
      ∀ symbol,
        Active (LabelledRun.run next ∅ calls) now symbol →
          ReadOff (LabelledRun.run next ∅ calls) now symbol := by
  have written := written_run calls
  generalize LabelledRun.run next ∅ calls = store at written
  have writtenAfter : Written (next store (resetCall now publishFails)) :=
    writes_program _ _ written
  have same (symbol : String) (unread : ¬ ReadOff store now symbol) :=
    agree_foldl (mt mem_statusKeys_iff.mp unread) store
  constructor
  · intro reset symbol active
    by_contra unread
    refine writtenAfter.not_isReset_of_active ?_ (reset symbol)
    rw [Active, ExpiringStore.get, next_resetCall, (same symbol unread now).1,
      (same symbol unread now).2]
    exact active
  · intro everyRead symbol
    by_cases readOff : ReadOff store now symbol
    · exact (calm_of_readOff readOff publishFails).isReset
    · have calm :=
        written.calm_of_inactive (mt (everyRead symbol) readOff)
      rw [next_resetCall]
      exact (calm.congr (same symbol readOff)).isReset

/-- A symbol with a plain name is read off its own key. -/
example : symbolOfKey (statusKey "AAPL") = "AAPL" := by decide

/-- One trigger, whose counter has no status key. -/
def oneTrigger : WriterCall where
  method := .incrementTriggerCount "AAPL"
  now := 0
  faults := []

/-- After one trigger and a reset the trigger is still counted. -/
theorem resetAll_resets_fails :
    ¬ ∀ (calls : List WriterCall) (now : Nat) (publishFails : List Bool)
        (symbol : String),
        IsReset
          (next (LabelledRun.run next ∅ calls) (resetCall now publishFails))
          now symbol := by
  intro resets
  have reports :=
    (resets [oneTrigger] 1000 [] "AAPL").status 1000 (Nat.le_refl 1000)
  exact absurd reports (by decide)

end AeroRisk.Guardrail.CircuitBreakerWriter
