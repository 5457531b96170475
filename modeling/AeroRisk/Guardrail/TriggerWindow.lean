import AeroRisk.Guardrail.CircuitBreakerWriter
import AeroRisk.Library.ExpiryWindows

/-!
# Bursts of triggers

The trigger counter of a symbol expires five minutes after its first trigger.
Five triggers close to each other open the breaker unless the counter expires
between them.  This module follows the counter and the status of a symbol
through any run of triggers and finds the bursts which leave the breaker open.
-/

namespace AeroRisk.Guardrail

open AeroRisk.Library
open AeroRisk.Library.ExpiryWindows

/--
A call of `increment_trigger_count` whose Redis commands succeed.  At most two
come before the event is published, and the publication may fail.
-/
structure Trigger where
  symbol : String
  now : Nat
  publishFails : Bool
deriving DecidableEq, Repr

namespace Trigger

/-- The call of the writer. -/
def call (trigger : Trigger) : WriterCall where
  method := .incrementTriggerCount trigger.symbol
  now := trigger.now
  faults := [false, false, trigger.publishFails]

/-- What the call works on. -/
def connection (trigger : Trigger) (store : RedisStore) : RedisConnection where
  store := store
  now := trigger.now
  faults := trigger.call.faults

/-- The times of the triggers of a symbol. -/
def timesOf (symbol : String) (triggers : List Trigger) : List Nat :=
  (triggers.filter fun trigger => trigger.symbol = symbol).map Trigger.now

end Trigger

namespace CircuitBreakerWriter

/-- The store after a trigger. -/
def afterTrigger (store : RedisStore) (trigger : Trigger) : RedisStore :=
  next store trigger.call

/-- The counter of the symbol can be incremented. -/
def incrSucceeds (store : RedisStore) (trigger : Trigger) : Bool :=
  match RedisM.incr (triggerKey trigger.symbol)
      (trigger.connection store) with
  | .ok _ _ => true
  | .error _ _ => false

/-- `_open_duration`, in milliseconds. -/
def openMilliseconds : Nat :=
  1000 * openDuration

/-- The last five of the triggers fall within one open duration. -/
def Burst (times : List Nat) : Prop :=
  ∃ earlier first second third fourth fifth,
    times = earlier ++ [first, second, third, fourth, fifth] ∧
      fifth ≤ first + openMilliseconds

/-- The window of a counter has as many triggers as open the breaker. -/
def Reaches (window : Window) : Prop :=
  triggerThreshold ≤ window.count

instance (window : Window) : Decidable (Reaches window) :=
  inferInstanceAs (Decidable (triggerThreshold ≤ _))

/-- The latest window whose counter opened the breaker. -/
def latestReaching (windows : List Window) : Option Window :=
  windows.find? fun window => Reaches window

/--
The counter which the last trigger incremented, or the counter before it,
reached the threshold.
-/
def CounterReached (times : List Nat) : Prop :=
  ∃ window ∈ (windows openMilliseconds times).take 2, Reaches window

instance (times : List Nat) : Decidable (CounterReached times) :=
  inferInstanceAs (Decidable (∃ window ∈ _, Reaches window))

theorem latestReaching_cons_of_reaches {window : Window}
    (reaches : Reaches window) (older : List Window) :
    latestReaching (window :: older) = some window :=
  List.find?_cons_of_pos (by rwa [decide_eq_true_iff])

theorem latestReaching_cons_of_not {window : Window}
    (short : ¬ Reaches window) (older : List Window) :
    latestReaching (window :: older) = latestReaching older :=
  List.find?_cons_of_neg (by rwa [decide_eq_true_iff])

/-! ## The keys of different symbols -/

theorem triggerKey_inj {symbol other : String}
    (same : triggerKey symbol = triggerKey other) : symbol = other := by
  have letters := congrArg String.toList same
  apply String.toList_inj.mp
  simpa [triggerKey, keyPrefix, String.toList_append] using letters

theorem statusKey_inj {symbol other : String}
    (same : statusKey symbol = statusKey other) : symbol = other := by
  have letters := congrArg String.toList same
  apply String.toList_inj.mp
  simpa [statusKey, keyPrefix, String.toList_append] using letters

theorem triggerKey_ne_statusKey (symbol other : String) :
    triggerKey symbol ≠ statusKey other := by
  intro same
  have letters := congrArg (fun key => key.toList.reverse) same
  simp [triggerKey, statusKey, String.toList_append] at letters

/-! ## One trigger -/

variable {store : RedisStore} {trigger : Trigger}

theorem expireFirst_one {symbol : String} {reached : RedisConnection}
    (noFault : reached.faults.headD false = false) :
    expireFirst symbol 1 reached =
      .ok ()
        { reached with
          store :=
            ExpiringStore.expireAt reached.store reached.now
              (triggerKey symbol) (reached.now + openMilliseconds)
          faults := reached.faults.tail } := by
  rw [expireFirst, if_pos rfl]
  exact RedisM.command_ok noFault rfl

theorem expireFirst_of_ne {symbol : String} {newCount : Int}
    (notFirst : newCount ≠ 1) (reached : RedisConnection) :
    expireFirst symbol newCount reached = .ok () reached := by
  rw [expireFirst, if_neg notFirst]
  rfl

/-- The status is written even when the publication fails. -/
theorem store_openCircuit {symbol : String} {reached : RedisConnection}
    (noFault : reached.faults.headD false = false) :
    (Commands.after (openCircuit symbol) reached).store =
      ExpiringStore.set reached.store (statusKey symbol) (.text "OPEN")
        (some (reached.now + openMilliseconds)) := by
  have sets :
      RedisM.set (statusKey symbol) (.text "OPEN") (some openDuration)
          reached =
        .ok ()
          { reached with
            store :=
              ExpiringStore.set reached.store (statusKey symbol)
                (.text "OPEN") (some (reached.now + openMilliseconds))
            faults := reached.faults.tail } :=
    RedisM.command_ok noFault rfl
  simp only [Commands.after, openCircuit, bind, EStateM.bind,
    Commands.tryCatch_apply, sets]
  cases fails : reached.faults.tail.headD false <;>
    simp only [publishCircuitEvent, RedisM.command, fails, if_true,
      Bool.false_eq_true, if_false]
  all_goals rfl

/-- The store after a trigger is that which the body leaves. -/
theorem afterTrigger_of_body {newCount : Int} {incremented expired : RedisStore}
    {incrementedFaults expiredFaults : List Bool}
    (increments :
      RedisM.incr (triggerKey trigger.symbol) (trigger.connection store) =
        .ok newCount
          { store := incremented
            now := trigger.now
            faults := incrementedFaults })
    (expires :
      expireFirst trigger.symbol newCount
          { store := incremented
            now := trigger.now
            faults := incrementedFaults } =
        .ok ()
          { store := expired
            now := trigger.now
            faults := expiredFaults }) :
    afterTrigger store trigger =
      (Commands.after (openIfReached trigger.symbol newCount)
        { store := expired
          now := trigger.now
          faults := expiredFaults }).store := by
  change
    (Commands.after
      (incrementTriggerCount trigger.symbol >>= fun _ => pure ())
      (trigger.connection store)).store = _
  simp only [Commands.after, incrementTriggerCount, bind, EStateM.bind,
    Commands.tryCatch_apply, increments, expires]
  cases openIfReached trigger.symbol newCount
      { store := expired, now := trigger.now, faults := expiredFaults } with
  | ok value reached => rfl
  | error error reached => rfl

/-- A trigger which finds no counter starts one which expires. -/
theorem afterTrigger_of_absent
    (absent :
      ExpiringStore.find store trigger.now (triggerKey trigger.symbol) =
        none) :
    afterTrigger store trigger =
      ExpiringStore.expireAt
        (ExpiringStore.set store (triggerKey trigger.symbol) (.integer 1)
          none)
        trigger.now (triggerKey trigger.symbol)
        (trigger.now + openMilliseconds) := by
  have increments :=
    @RedisM.incr_of_absent _ (trigger.connection store) rfl absent
  rw [afterTrigger_of_body increments (expireFirst_one rfl)]
  rfl

/-- A trigger which finds a counter increments it, and may open the breaker. -/
theorem afterTrigger_of_found {number : Int} {expiresAt : Option Nat}
    (found :
      ExpiringStore.find store trigger.now (triggerKey trigger.symbol) =
        some { value := .integer number, expiresAt })
    (positive : 0 < number) (below : number < Int64.maxValue.toInt) :
    afterTrigger store trigger =
      (let counted :=
        ExpiringStore.set store (triggerKey trigger.symbol)
          (.integer (number + 1)) expiresAt
      if triggerThreshold ≤ number + 1 then
        ExpiringStore.set counted (statusKey trigger.symbol) (.text "OPEN")
          (some (trigger.now + openMilliseconds))
      else
        counted) := by
  have increments :=
    @RedisM.incr_of_found _ (trigger.connection store) rfl _ _ found below
  have notFirst : number + 1 ≠ 1 := by omega
  rw [afterTrigger_of_body increments (expireFirst_of_ne notFirst _),
    openIfReached]
  split
  · exact store_openCircuit rfl
  · rfl

/-- A counter which can be incremented is below the largest integer. -/
theorem below_of_incrSucceeds {number : Int} {expiresAt : Option Nat}
    (succeeds : incrSucceeds store trigger = true)
    (found :
      ExpiringStore.find store trigger.now (triggerKey trigger.symbol) =
        some { value := .integer number, expiresAt }) :
    number < Int64.maxValue.toInt := by
  by_contra overflows
  have fails :
      RedisM.incr (triggerKey trigger.symbol) (trigger.connection store) =
        .error "ERR increment or decrement would overflow"
          { trigger.connection store with
            faults := [false, trigger.publishFails] } := by
    simp only [RedisM.incr, RedisM.command, Trigger.connection,
      Trigger.call, List.headD_cons, Bool.false_eq_true, if_false, found,
      if_neg overflows]
    rfl
  rw [incrSucceeds, fails] at succeeds
  cases succeeds

/-- A trigger leaves the keys of other symbols alone. -/
theorem find_afterTrigger_of_ne {key : String}
    (notTrigger : key ≠ triggerKey trigger.symbol)
    (notStatus : key ≠ statusKey trigger.symbol) (now : Nat) :
    ExpiringStore.find (afterTrigger store trigger) now key =
      ExpiringStore.find store now key := by
  have preserved :
      Commands.Preserves
        (RedisM.Holds key fun now => ExpiringStore.find store now key)
        (program trigger.call.method) := by
    apply Commands.preserves_bind
    · exact preserves_incrementTriggerCount notTrigger notStatus
    · exact fun _ => Commands.preserves_pure ()
  exact preserved (trigger.connection store) (fun _ => rfl) now

/-! ## The two keys of a symbol -/

/-- The counter of a symbol with these windows. -/
def counterEntry : List Window → Option (Entry RedisValue)
  | [] => none
  | window :: _ =>
      some
        { value := .integer window.count
          expiresAt := some (window.first + openMilliseconds) }

/-- The status of a symbol with these windows. -/
def statusEntry (windows : List Window) : Option (Entry RedisValue) :=
  (latestReaching windows).map fun window =>
    { value := .text "OPEN"
      expiresAt := some (window.last + openMilliseconds) }

/-- A store which holds the counter and the status of a symbol. -/
structure Tracks (store : RedisStore) (symbol : String)
    (windows : List Window) : Prop where
  counter :
    ∀ now,
      ExpiringStore.find store now (triggerKey symbol) =
        (counterEntry windows).filter fun entry => entry.live now
  status :
    ∀ now,
      ExpiringStore.find store now (statusKey symbol) =
        (statusEntry windows).filter fun entry => entry.live now

namespace Tracks

variable {symbol : String} {windows older : List Window} {window : Window}

/-- A trigger of another symbol is not noticed. -/
theorem of_ne (tracks : Tracks store symbol windows)
    (other : symbol ≠ trigger.symbol) :
    Tracks (afterTrigger store trigger) symbol windows where
  counter := by
    intro now
    rw [← tracks.counter now]
    exact
      find_afterTrigger_of_ne (mt triggerKey_inj other)
        (triggerKey_ne_statusKey _ _) now
  status := by
    intro now
    rw [← tracks.status now]
    exact
      find_afterTrigger_of_ne (triggerKey_ne_statusKey _ _).symm
        (mt statusKey_inj other) now

/-- A trigger which finds no counter starts a window. -/
theorem start (tracks : Tracks store trigger.symbol windows)
    (absent :
      ExpiringStore.find store trigger.now (triggerKey trigger.symbol) =
        none) :
    Tracks (afterTrigger store trigger) trigger.symbol
      ({ first := trigger.now, last := trigger.now, count := 1 } ::
        windows) where
  counter := by
    intro now
    have counted :
        ExpiringStore.find
            (ExpiringStore.set store (triggerKey trigger.symbol)
              (.integer 1) none)
            trigger.now (triggerKey trigger.symbol) =
          some { value := .integer 1, expiresAt := none } :=
      ExpiringStore.find_set store trigger.now _ _ _
    rw [afterTrigger_of_absent absent,
      ExpiringStore.find_expireAt _ _ counted]
    rfl
  status := by
    intro now
    rw [afterTrigger_of_absent absent,
      ExpiringStore.find_expireAt_of_ne _ _
        (triggerKey_ne_statusKey _ _).symm,
      ExpiringStore.find_set_of_ne _ _ (triggerKey_ne_statusKey _ _).symm,
      tracks.status now]
    rfl

/-- A trigger which finds a counter goes on with its window. -/
theorem extend (tracks : Tracks store trigger.symbol (window :: older))
    (running : trigger.now ≤ window.first + openMilliseconds)
    (positive : 0 < window.count)
    (succeeds : incrSucceeds store trigger = true) :
    Tracks (afterTrigger store trigger) trigger.symbol
      ({ window with last := trigger.now, count := window.count + 1 } ::
        older) := by
  have found :
      ExpiringStore.find store trigger.now (triggerKey trigger.symbol) =
        some
          { value := .integer window.count
            expiresAt := some (window.first + openMilliseconds) } := by
    rw [tracks.counter, counterEntry, Option.filter_some, if_pos]
    exact decide_eq_true running
  have counted :=
    afterTrigger_of_found found (Int.natCast_pos.mpr positive)
      (below_of_incrSucceeds succeeds found)
  by_cases reached : triggerThreshold ≤ (window.count : Int) + 1
  · rw [if_pos reached] at counted
    have reachesNow :
        Reaches
          { window with last := trigger.now, count := window.count + 1 } :=
      reached
    constructor
    · intro now
      rw [counted,
        ExpiringStore.find_set_of_ne _ _ (triggerKey_ne_statusKey _ _),
        ExpiringStore.find_set]
      rfl
    · intro now
      rw [counted, ExpiringStore.find_set, statusEntry,
        latestReaching_cons_of_reaches reachesNow]
      rfl
  · rw [if_neg reached] at counted
    have shortNow :
        ¬ Reaches
          { window with last := trigger.now, count := window.count + 1 } :=
      reached
    have before : ¬ Reaches window := by
      intro reachedBefore
      exact
        reached
          (Int.le_trans reachedBefore (Int.le_add_one (Int.le_refl _)))
    constructor
    · intro now
      rw [counted, ExpiringStore.find_set]
      rfl
    · intro now
      rw [counted,
        ExpiringStore.find_set_of_ne _ _ (triggerKey_ne_statusKey _ _).symm,
        tracks.status, statusEntry, statusEntry,
        latestReaching_cons_of_not before,
        latestReaching_cons_of_not shortNow]

/-- A trigger of the symbol is recorded in its windows. -/
theorem record (tracks : Tracks store trigger.symbol windows)
    (positive : ∀ window ∈ windows, 0 < window.count)
    (succeeds : incrSucceeds store trigger = true) :
    Tracks (afterTrigger store trigger) trigger.symbol
      (ExpiryWindows.record openMilliseconds windows trigger.now) := by
  cases windows with
  | nil =>
      apply tracks.start
      rw [tracks.counter, counterEntry, Option.filter_none]
  | cons window older =>
      rw [ExpiryWindows.record]
      split
      · next running =>
          exact tracks.extend running (positive window List.mem_cons_self)
            succeeds
      · next expired =>
          apply tracks.start
          rw [tracks.counter, counterEntry, Option.filter_some, if_neg]
          simpa [Entry.live] using expired

/-- The two keys follow the windows of the triggers of the symbol. -/
theorem run (fresh : Tracks store symbol []) (triggers : List Trigger)
    (succeeds :
      LabelledRun.Along afterTrigger
        (fun store trigger => incrSucceeds store trigger = true)
        store triggers) :
    Tracks (LabelledRun.run afterTrigger store triggers) symbol
      (ExpiryWindows.windows openMilliseconds
        (Trigger.timesOf symbol triggers)) := by
  induction triggers using List.reverseRecOn with
  | nil => exact fresh
  | append_singleton earlier trigger inductionHypothesis =>
      rw [LabelledRun.along_append] at succeeds
      have before := inductionHypothesis succeeds.1
      rw [LabelledRun.run_append, Trigger.timesOf, List.filter_append,
        List.map_append]
      by_cases same : trigger.symbol = symbol
      · subst same
        rw [List.filter_cons_of_pos (by simp), List.filter_nil,
          List.map_singleton, ExpiryWindows.windows_concat]
        exact
          before.record
            (fun window member =>
              (ExpiryWindows.count_pos_and_last_le window member).1)
            succeeds.2.1
      · rw [List.filter_cons_of_neg (by simpa using same), List.filter_nil,
          List.map_nil, List.append_nil]
        exact before.of_ne (Ne.symm same)

end Tracks

/-! ## The status after a burst -/

/-- While no command fails the status is read from its key. -/
theorem statusAt_of_count {symbol : String} {now : Nat} {number : Int}
    (counts :
      countOf (ExpiringStore.get store now (triggerKey symbol)) =
        .ok number) :
    statusAt store now symbol =
      some
        { symbol
          status :=
            statusOr (ExpiringStore.get store now (statusKey symbol))
          triggerCount := number
          threshold := triggerThreshold } := by
  have reads :
      ∀ key,
        RedisM.get key { store, now, faults := [] } =
          .ok (ExpiringStore.get store now key)
            { store, now, faults := [] } :=
    fun _ => RedisM.command_ok rfl rfl
  simp only [statusAt, getStatus, Commands.tryCatch_apply, bind,
    EStateM.bind, reads, counts]
  rfl

/-- The status is `OPEN` while the last opening did not expire. -/
theorem statusAt_eq_open_iff {symbol : String} {windows : List Window}
    (tracks : Tracks store symbol windows) (now : Nat) :
    (statusAt store now symbol).map BreakerStatus.status = some "OPEN" ↔
      ∃ window ∈ latestReaching windows,
        now ≤ window.last + openMilliseconds := by
  have counts :
      ∃ number,
        countOf (ExpiringStore.get store now (triggerKey symbol)) =
          .ok number := by
    rw [ExpiringStore.get, tracks.counter]
    cases windows with
    | nil => exact ⟨0, rfl⟩
    | cons window older =>
        rw [counterEntry, Option.filter_some]
        split
        · exact ⟨window.count, rfl⟩
        · exact ⟨0, rfl⟩
  obtain ⟨number, counts⟩ := counts
  rw [statusAt_of_count counts, Option.map_some, Option.some_inj,
    ExpiringStore.get, tracks.status, statusEntry]
  cases latestReaching windows with
  | none => simp [statusOr]
  | some window =>
      rw [Option.map_some, Option.filter_some]
      by_cases live : now ≤ window.last + openMilliseconds
      · refine iff_of_true ?_ ⟨window, rfl, live⟩
        rw [if_pos]
        · rfl
        · exact decide_eq_true live
      · rw [if_neg (by simpa [Entry.live] using live)]
        simp [statusOr, live]

/-- The latest window ends with the last event. -/
theorem last_of_latest {times : List Nat} {now : Nat} {window : Window}
    {older : List Window}
    (latest : windows openMilliseconds (times ++ [now]) = window :: older) :
    window.last = now := by
  obtain ⟨before, current, split, -, -⟩ := exists_split latest
  rw [← List.append_assoc] at split
  exact (List.singleton_inj.mp (List.append_inj' split rfl).2).symm

/-- An opening two windows ago expired before the latest window started. -/
theorem expired_of_older {times : List Nat} {now : Nat}
    {window previous other : Window} {older : List Window}
    (sorted : (times ++ [now]).Pairwise (· ≤ ·))
    (latest :
      windows openMilliseconds (times ++ [now]) =
        window :: previous :: older)
    (member : other ∈ older) :
    other.last + openMilliseconds < now := by
  have chain :
      (window :: previous :: older).Pairwise fun newer older =>
        older.first + openMilliseconds < newer.first :=
    latest ▸ separated
  have members :
      ∀ found ∈ window :: previous :: older,
        found ∈ windows openMilliseconds (times ++ [now]) := by
    rw [latest]
    exact fun _ found => found
  have beforePrevious : other.first + openMilliseconds < previous.first :=
    (List.pairwise_cons.mp (List.pairwise_cons.mp chain).2).1 other member
  have beforeLatest : previous.first + openMilliseconds < window.first :=
    (List.pairwise_cons.mp chain).1 previous List.mem_cons_self
  have ends : other.last ≤ other.first + openMilliseconds :=
    (count_pos_and_last_le other (members other (by simp [member]))).2
  have started : window.first ≤ now := by
    rcases List.mem_append.mp
      (first_mem window (members window List.mem_cons_self)) with
      earlier | isLast
    · exact (List.pairwise_append.mp sorted).2.2 _ earlier now (by simp)
    · exact Nat.le_of_eq (List.mem_singleton.mp isLast)
  calc
    other.last + openMilliseconds
        ≤ other.first + openMilliseconds + openMilliseconds :=
      Nat.add_le_add_right ends _
    _ < previous.first + openMilliseconds :=
      Nat.add_lt_add_right beforePrevious _
    _ < window.first := beforeLatest
    _ ≤ now := started

/-- After a burst an opening by the counter before did not expire. -/
theorem le_of_burst {times : List Nat} {now : Nat}
    {window previous : Window} {older : List Window}
    (sorted : (times ++ [now]).Pairwise (· ≤ ·))
    (burst : Burst (times ++ [now]))
    (latest :
      windows openMilliseconds (times ++ [now]) =
        window :: previous :: older)
    (short : ¬ Reaches window) :
    now ≤ previous.last + openMilliseconds := by
  obtain ⟨earlier, first, second, third, fourth, fifth, split, within⟩ :=
    burst
  have isLast : now = fifth := by
    have same := congrArg List.getLast? split
    simpa using same
  have few : window.count ≤ [second, third, fourth, fifth].length := by
    have below : (window.count : Int) < triggerThreshold := Int.not_le.mp short
    exact Int.ofNat_lt.mp below |> Nat.le_of_lt_succ
  have reaches : first ≤ previous.last :=
    le_last_of_straddling sorted split latest few
  rw [isLast]
  exact Nat.le_trans within (Nat.add_le_add_right reaches _)

/--
After a burst the breaker is open exactly when the latest counter or the one
before it reached the threshold.
-/
theorem open_iff_counterReached {times : List Nat} {now : Nat}
    (sorted : (times ++ [now]).Pairwise (· ≤ ·))
    (burst : Burst (times ++ [now])) :
    (∃ window ∈
        latestReaching (windows openMilliseconds (times ++ [now])),
        now ≤ window.last + openMilliseconds) ↔
      CounterReached (times ++ [now]) := by
  rw [CounterReached]
  cases latest : windows openMilliseconds (times ++ [now]) with
  | nil => simp [latestReaching]
  | cons window older =>
      have ends := last_of_latest latest
      by_cases reaches : Reaches window
      · rw [latestReaching_cons_of_reaches reaches]
        refine iff_of_true ⟨window, rfl, ?_⟩ ⟨window, by simp, reaches⟩
        exact ends ▸ Nat.le_add_right _ _
      · rw [latestReaching_cons_of_not reaches]
        cases older with
        | nil => simp [latestReaching, reaches]
        | cons previous older =>
            by_cases previousReaches : Reaches previous
            · rw [latestReaching_cons_of_reaches previousReaches]
              refine
                iff_of_true ⟨previous, rfl, ?_⟩
                  ⟨previous, by simp, previousReaches⟩
              exact le_of_burst sorted burst latest reaches
            · rw [latestReaching_cons_of_not previousReaches]
              refine iff_of_false ?_ (by simp [reaches, previousReaches])
              rintro ⟨other, found, live⟩
              have member := List.mem_of_find?_eq_some found
              exact
                Nat.not_le.mpr (expired_of_older sorted latest member) live

/-- A store in which neither key of the symbol is found. -/
def Fresh (store : RedisStore) (symbol : String) : Prop :=
  Tracks store symbol []

/--
In every run of triggers of any symbols, at times which do not decrease and
without a failing Redis command: right after the last of five triggers of a
symbol within one open duration, `get_status` reports `OPEN` if and only if
the counter of that trigger or the counter before it reached the threshold.
-/
theorem burst_opens_iff (store : RedisStore) (earlier : List Trigger)
    (last : Trigger) (fresh : Fresh store last.symbol)
    (ordered :
      ((earlier ++ [last]).map Trigger.now).Pairwise (· ≤ ·))
    (succeeds :
      LabelledRun.Along afterTrigger
        (fun store trigger => incrSucceeds store trigger = true)
        store (earlier ++ [last]))
    (burst : Burst (Trigger.timesOf last.symbol (earlier ++ [last]))) :
    (statusAt (LabelledRun.run afterTrigger store (earlier ++ [last]))
        last.now last.symbol).map BreakerStatus.status = some "OPEN" ↔
      CounterReached (Trigger.timesOf last.symbol (earlier ++ [last])) := by
  have tracks := Tracks.run fresh (earlier ++ [last]) succeeds
  have times :
      Trigger.timesOf last.symbol (earlier ++ [last]) =
        Trigger.timesOf last.symbol earlier ++ [last.now] := by
    simp [Trigger.timesOf]
  have sorted :
      (Trigger.timesOf last.symbol (earlier ++ [last])).Pairwise
        (· ≤ ·) :=
    ordered.sublist (List.Sublist.map _ List.filter_sublist)
  rw [statusAt_eq_open_iff tracks]
  rw [times] at burst sorted ⊢
  exact open_iff_counterReached sorted burst

theorem fresh_empty (symbol : String) : Fresh ∅ symbol where
  counter := fun _ => rfl
  status := fun _ => rfl

/-- A trigger at a time in seconds. -/
def triggerAt (second : Nat) : Trigger where
  symbol := "AAPL"
  now := 1000 * second
  publishFails := false

/-- Five triggers within 110 seconds: the counter expires before the fourth. -/
def straddling : List Trigger :=
  [triggerAt 0, triggerAt 200, triggerAt 200, triggerAt 200, triggerAt 310]

theorem burst_straddling :
    Burst (Trigger.timesOf "AAPL" (straddling ++ [triggerAt 310])) :=
  ⟨[0], 200000, 200000, 200000, 310000, 310000, by decide, by decide⟩

theorem burst_opens_iff_sample :
    (statusAt
        (LabelledRun.run afterTrigger ∅ (straddling ++ [triggerAt 310]))
        310000 "AAPL").map BreakerStatus.status = some "OPEN" ↔
      CounterReached
        (Trigger.timesOf "AAPL" (straddling ++ [triggerAt 310])) :=
  burst_opens_iff ∅ straddling (triggerAt 310) (fresh_empty "AAPL")
    (by decide) (by decide) burst_straddling

/-- After the straddling burst `get_status` reports `CLOSED`. -/
theorem burst_opens_fails :
    ¬ ∀ (store : RedisStore) (earlier : List Trigger) (last : Trigger),
        Fresh store last.symbol →
          ((earlier ++ [last]).map Trigger.now).Pairwise (· ≤ ·) →
            LabelledRun.Along afterTrigger
                (fun store trigger => incrSucceeds store trigger = true)
                store (earlier ++ [last]) →
              Burst (Trigger.timesOf last.symbol (earlier ++ [last])) →
                (statusAt
                    (LabelledRun.run afterTrigger store (earlier ++ [last]))
                    last.now last.symbol).map BreakerStatus.status =
                  some "OPEN" := by
  intro opens
  have isOpen :=
    opens ∅ straddling (triggerAt 310) (fresh_empty "AAPL") (by decide)
      (by decide) burst_straddling
  exact absurd isOpen (by decide)

end CircuitBreakerWriter

end AeroRisk.Guardrail
