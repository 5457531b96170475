import AeroRisk.Library.LabelledRun
import Mathlib.Data.List.Basic
import Mathlib.Logic.Function.Basic

/-!
# A database connection which threads share

Threads make calls on one connection.  A call executes one statement, and a
call which writes then commits; the statement and the commit are two steps, so
those of other threads come between them.  All threads share the transaction of
the connection: a commit commits what any of them executed, and a statement
which fails takes back what none of them committed.  After it every statement
fails, until somebody commits, which ends the transaction.

A sequence gives the numbers of new rows; it is not part of the transaction, so
a step has the number which its statement gets.  The entries of two logs say
which statements are in the transaction and which are committed.  The statement
of a call is committed in the end exactly when no statement fails before anybody
commits, whether its call reports it or not.
-/

namespace AeroRisk.Library.SharedConnection

universe u v w x

/-- What the statements of the calls do. -/
structure Database (Table : Type u) (Call : Type v) (Result : Type w)
    (Error : Type x) where
  /-- The call commits after its statement. -/
  writes : Call → Bool
  /--
  The statement of a call in a transaction which began at some time, with the
  number which it gets.
  -/
  execute : Call → Int → Nat → Table → Except Error (Table × Result)
  /-- The error of a statement in a transaction which failed. -/
  inFailedTransaction : Error

/-- The transaction of a connection. -/
inductive Transaction where
  | none
  | since (start : Int)
  | failed
deriving DecidableEq, Repr

/-- A statement which was executed; the stamps number the statements. -/
structure Entry (Call : Type v) where
  stamp : Nat
  call : Call
  start : Int
  number : Nat

/-- The connection, what the threads have to commit, and what returned. -/
structure Connection (Thread : Type*) (Table : Type u) (Call : Type v)
    (Result : Type w) (Error : Type x) where
  committed : Table
  /-- The table as it is in the transaction. -/
  working : Table
  transaction : Transaction
  /-- The result of a call which has to commit. -/
  committing : Thread → Option (Call × Result)
  returned : List (Thread × Call × Except Error Result)
  /-- The number of statements which were executed. -/
  executed : Nat
  /-- The statements which made `working`. -/
  log : List (Entry Call)
  /-- The statements which made `committed`. -/
  kept : List (Entry Call)

/-- A step of a thread, which makes a call if it has none to commit. -/
structure Label (Thread : Type*) (Call : Type v) where
  thread : Thread
  call : Call
  time : Int
  number : Nat

variable
    {Thread : Type*} {Table : Type u} {Call : Type v} {Result : Type w}
    {Error : Type x}

/-- A connection to a database with a table. -/
def connect (table : Table) : Connection Thread Table Call Result Error where
  committed := table
  working := table
  transaction := .none
  committing := fun _ => none
  returned := []
  executed := 0
  log := []
  kept := []

variable [DecidableEq Thread] (database : Database Table Call Result Error)

namespace Connection

/-- The start of the transaction which a statement joins or begins. -/
def startOf (transaction : Transaction) (time : Int) : Int :=
  match transaction with
  | .since start => start
  | _ => time

/-- The statement of a call fails, and its transaction with it. -/
def abort (c : Connection Thread Table Call Result Error) (thread : Thread)
    (call : Call) (error : Error) :
    Connection Thread Table Call Result Error :=
  { c with
    working := c.committed
    log := c.kept
    transaction := .failed
    returned := c.returned ++ [(thread, call, .error error)] }

/-- A thread executes the statement of a call. -/
def execute (c : Connection Thread Table Call Result Error)
    (label : Label Thread Call) : Connection Thread Table Call Result Error :=
  if c.transaction = .failed then
    c.abort label.thread label.call database.inFailedTransaction
  else
    let start := startOf c.transaction label.time
    match database.execute label.call start label.number c.working with
    | .error error => c.abort label.thread label.call error
    | .ok (working, result) =>
        { c with
          working
          transaction := .since start
          executed := c.executed + 1
          log :=
            c.log ++
              [{ stamp := c.executed
                 call := label.call
                 start
                 number := label.number }]
          committing :=
            if database.writes label.call then
              Function.update c.committing label.thread
                (some (label.call, result))
            else
              c.committing
          returned :=
            if database.writes label.call then c.returned
            else c.returned ++ [(label.thread, label.call, .ok result)] }

/-- A thread commits, which in a failed transaction takes everything back. -/
def commit (c : Connection Thread Table Call Result Error) (thread : Thread)
    (call : Call) (result : Result) :
    Connection Thread Table Call Result Error :=
  { c with
    committed := if c.transaction = .failed then c.committed else c.working
    working := if c.transaction = .failed then c.committed else c.working
    kept := if c.transaction = .failed then c.kept else c.log
    log := if c.transaction = .failed then c.kept else c.log
    transaction := .none
    committing := Function.update c.committing thread none
    returned := c.returned ++ [(thread, call, .ok result)] }

/-- A step of a thread. -/
def next (c : Connection Thread Table Call Result Error)
    (label : Label Thread Call) : Connection Thread Table Call Result Error :=
  match c.committing label.thread with
  | none => c.execute database label
  | some (call, result) => c.commit label.thread call result

/-- The step is a commit. -/
def Commits (c : Connection Thread Table Call Result Error)
    (label : Label Thread Call) : Prop :=
  (c.committing label.thread).isSome

/-- The step executes a statement which fails. -/
def Fails (c : Connection Thread Table Call Result Error)
    (label : Label Thread Call) : Prop :=
  c.committing label.thread = none ∧
    (c.transaction = .failed ∨
      ∃ error,
        database.execute label.call (startOf c.transaction label.time)
          label.number c.working = .error error)

/-- The table which statements make of another one. -/
def replay (table : Table) (entries : List (Entry Call)) : Table :=
  entries.foldl
    (fun table entry =>
      match database.execute entry.call entry.start entry.number table with
      | .ok (later, _) => later
      | .error _ => table)
    table

theorem replay_concat (table : Table) (entries : List (Entry Call))
    (entry : Entry Call) :
    replay database table (entries ++ [entry]) =
      match
        database.execute entry.call entry.start entry.number
          (replay database table entries) with
      | .ok (later, _) => later
      | .error _ => replay database table entries := by
  rw [replay, List.foldl_append]
  rfl

/-- No statement of a log failed. -/
def Accepted (initially : Table) (entries : List (Entry Call)) : Prop :=
  ∀ before entry, before ++ [entry] <+: entries →
    ∃ later result,
      database.execute entry.call entry.start entry.number
        (replay database initially before) = .ok (later, result)

/-- The logs tell how the tables were made. -/
structure Sound (initially : Table)
    (c : Connection Thread Table Call Result Error) : Prop where
  committed : c.committed = replay database initially c.kept
  working : c.working = replay database initially c.log
  isPrefixOf : c.kept <+: c.log
  accepted : Accepted database initially c.log
  stamps : ∀ entry ∈ c.log, entry.stamp < c.executed
  failed : c.transaction = .failed → c.log = c.kept

variable {database} {initially : Table}
    {c : Connection Thread Table Call Result Error} {label : Label Thread Call}

theorem Accepted.of_isPrefix {entries later : List (Entry Call)}
    (accepted : Accepted database initially later)
    (isPrefixOf : entries <+: later) :
    Accepted database initially entries :=
  fun before entry isPart => accepted before entry (isPart.trans isPrefixOf)

theorem Accepted.concat {entries : List (Entry Call)} {entry : Entry Call}
    (accepted : Accepted database initially entries)
    (executes :
      ∃ later result,
        database.execute entry.call entry.start entry.number
          (replay database initially entries) = .ok (later, result)) :
    Accepted database initially (entries ++ [entry]) := by
  intro before last isPart
  rcases List.prefix_concat_iff.mp isPart with same | isOld
  · obtain ⟨rfl, sameEntry⟩ := List.append_inj' same rfl
    obtain rfl := List.singleton_inj.mp sameEntry
    exact executes
  · exact accepted before last isOld

omit [DecidableEq Thread] in
theorem sound_connect :
    (connect initially : Connection Thread Table Call Result Error).Sound
      database initially where
  committed := rfl
  working := rfl
  isPrefixOf := List.prefix_rfl
  accepted := by
    intro before entry isPrefixOf
    cases before <;> cases List.prefix_nil.mp isPrefixOf
  stamps := by
    intro entry member
    cases member
  failed := fun _ => rfl

/-! ## One step -/

omit [DecidableEq Thread] in
theorem Sound.abort (sound : c.Sound database initially) (thread : Thread)
    (call : Call) (error : Error) :
    (c.abort thread call error).Sound database initially where
  committed := sound.committed
  working := sound.committed
  isPrefixOf := List.prefix_rfl
  accepted := sound.accepted.of_isPrefix sound.isPrefixOf
  stamps := fun entry member =>
    sound.stamps entry (sound.isPrefixOf.mem member)
  failed := fun _ => rfl

theorem Sound.execute (sound : c.Sound database initially)
    (label : Label Thread Call) :
    (c.execute database label).Sound database initially := by
  rw [Connection.execute]
  split
  · exact sound.abort _ _ _
  · dsimp only
    split
    · exact sound.abort _ _ _
    · next isFailed working result executes =>
        refine ⟨sound.committed, ?_, ?_, ?_, ?_, ?_⟩
        · rw [replay_concat, ← sound.working, executes]
        · exact sound.isPrefixOf.trans (List.prefix_append _ _)
        · exact sound.accepted.concat ⟨working, result, sound.working ▸ executes⟩
        · intro entry member
          rcases List.mem_append.mp member with isOld | isNew
          · exact (sound.stamps entry isOld).trans (Nat.lt_succ_self _)
          · rw [List.mem_singleton.mp isNew]
            exact Nat.lt_succ_self _
        · intro isFailed
          cases isFailed

theorem Sound.commit (sound : c.Sound database initially) (thread : Thread)
    (call : Call) (result : Result) :
    (c.commit thread call result).Sound database initially := by
  by_cases isFailed : c.transaction = .failed
  · simp only [Connection.commit, if_pos isFailed]
    exact
      { committed := sound.committed
        working := sound.committed
        isPrefixOf := List.prefix_rfl
        accepted := sound.accepted.of_isPrefix sound.isPrefixOf
        stamps := fun entry member =>
          sound.stamps entry (sound.isPrefixOf.mem member)
        failed := fun _ => rfl }
  · simp only [Connection.commit, if_neg isFailed]
    exact
      { committed := sound.working
        working := sound.working
        isPrefixOf := List.prefix_rfl
        accepted := sound.accepted
        stamps := sound.stamps
        failed := fun _ => rfl }

theorem Sound.next (sound : c.Sound database initially)
    (label : Label Thread Call) :
    (c.next database label).Sound database initially := by
  rw [Connection.next]
  split
  · exact sound.execute label
  · exact sound.commit _ _ _

/-- The connection after some steps. -/
def run (database : Database Table Call Result Error)
    (c : Connection Thread Table Call Result Error)
    (schedule : List (Label Thread Call)) :
    Connection Thread Table Call Result Error :=
  LabelledRun.run (Connection.next database) c schedule

theorem Sound.run (sound : c.Sound database initially)
    (schedule : List (Label Thread Call)) :
    (c.run database schedule).Sound database initially :=
  LabelledRun.run_invariant_of_every
    (fun _ label sound => sound.next label) schedule sound

/-! ## Where a statement is -/

/-- What is committed stays committed. -/
theorem Sound.kept_isPrefix_next (sound : c.Sound database initially)
    (label : Label Thread Call) : c.kept <+: (c.next database label).kept := by
  rw [Connection.next]
  split
  · rw [Connection.execute]
    split
    · exact List.prefix_rfl
    · dsimp only
      split <;> exact List.prefix_rfl
  · rw [Connection.commit]
    dsimp only
    split
    · exact List.prefix_rfl
    · exact sound.isPrefixOf

theorem Sound.kept_isPrefix_run (sound : c.Sound database initially)
    (schedule : List (Label Thread Call)) :
    c.kept <+: (c.run database schedule).kept := by
  induction schedule generalizing c with
  | nil => exact List.prefix_rfl
  | cons label rest inductionHypothesis =>
      exact
        (sound.kept_isPrefix_next label).trans
          (inductionHypothesis (sound.next label))

theorem executed_le_next (label : Label Thread Call) :
    c.executed ≤ (c.next database label).executed := by
  rw [Connection.next]
  split
  · rw [Connection.execute]
    split
    · exact le_refl _
    · dsimp only
      split
      · exact le_refl _
      · exact Nat.le_succ _
  · exact le_refl _

theorem executed_le_run (schedule : List (Label Thread Call)) :
    c.executed ≤ (c.run database schedule).executed := by
  induction schedule generalizing c with
  | nil => exact le_refl _
  | cons label rest inductionHypothesis =>
      exact (executed_le_next label).trans inductionHypothesis

/-- A statement which is neither new nor in the log never comes back. -/
theorem not_mem_next {entry : Entry Call} (sound : c.Sound database initially)
    (isOld : entry.stamp < c.executed) (isLost : entry ∉ c.log)
    (label : Label Thread Call) : entry ∉ (c.next database label).log := by
  have notKept : entry ∉ c.kept :=
    fun member => isLost (sound.isPrefixOf.mem member)
  rw [Connection.next]
  split
  · rw [Connection.execute]
    split
    · exact notKept
    · dsimp only
      split
      · exact notKept
      · intro member
        rcases List.mem_append.mp member with isOldEntry | isNew
        · exact isLost isOldEntry
        · rw [List.mem_singleton.mp isNew] at isOld
          exact Nat.lt_irrefl _ isOld
  · rw [Connection.commit]
    dsimp only
    split
    · exact notKept
    · exact isLost

theorem not_mem_run {entry : Entry Call} (sound : c.Sound database initially)
    (isOld : entry.stamp < c.executed) (isLost : entry ∉ c.log)
    (schedule : List (Label Thread Call)) :
    entry ∉ (c.run database schedule).log := by
  induction schedule generalizing c with
  | nil => exact isLost
  | cons label rest inductionHypothesis =>
      exact
        inductionHypothesis (sound.next label)
          (isOld.trans_le (executed_le_next label))
          (not_mem_next sound isOld isLost label)

/-! ## Executing -/

/-- The entry of the statement which a step executes. -/
def entry (c : Connection Thread Table Call Result Error)
    (label : Label Thread Call) : Entry Call where
  stamp := c.executed
  call := label.call
  start := startOf c.transaction label.time
  number := label.number

/-- A statement which does not fail is in the log, and to be committed. -/
theorem execute_of_not_fails (idle : c.committing label.thread = none)
    (executes : ¬ c.Fails database label) :
    ∃ working result,
      c.next database label =
        { c with
          working
          transaction := .since (startOf c.transaction label.time)
          executed := c.executed + 1
          log := c.log ++ [c.entry label]
          committing :=
            if database.writes label.call then
              Function.update c.committing label.thread
                (some (label.call, result))
            else
              c.committing
          returned :=
            if database.writes label.call then c.returned
            else c.returned ++ [(label.thread, label.call, .ok result)] } := by
  rw [Fails, not_and, not_or, not_exists] at executes
  obtain ⟨notFailed, noError⟩ := executes idle
  cases executed :
      database.execute label.call (startOf c.transaction label.time)
        label.number c.working with
  | error error => exact absurd executed (noError error)
  | ok outcome =>
      obtain ⟨working, result⟩ := outcome
      refine ⟨working, result, ?_⟩
      simp only [Connection.next, idle, execute, if_neg notFailed, executed,
        entry]

/-- A result which an execution reports is the one of the statement. -/
theorem execute_of_reports {result : Result}
    (reports :
      (c.execute database label).returned =
        c.returned ++ [(label.thread, label.call, .ok result)]) :
    ∃ start working,
      database.execute label.call start label.number c.working =
        .ok (working, result) := by
  rw [execute] at reports
  split at reports
  · have sameLast := List.append_cancel_left reports
    cases sameLast
  · dsimp only at reports
    split at reports
    · have sameLast := List.append_cancel_left reports
      cases sameLast
    · next executed =>
        dsimp only at reports
        split at reports
        · have isEmpty := List.self_eq_append_right.mp reports
          cases isEmpty
        · have sameLast := List.append_cancel_left reports
          cases sameLast
          exact ⟨_, _, executed⟩

/-- A statement which fails takes the log back to what is committed. -/
theorem log_of_fails (fails : c.Fails database label) :
    (c.next database label).log = c.kept := by
  obtain ⟨idle, isFailed | ⟨error, executed⟩⟩ := fails
  · simp only [Connection.next, idle, execute, if_pos isFailed, abort]
  · simp only [Connection.next, idle, execute, executed]
    split <;> rfl

/-- A commit outside a failed transaction keeps the log. -/
theorem kept_of_commits (commits : c.Commits label)
    (notFailed : c.transaction ≠ .failed) :
    (c.next database label).kept = c.log := by
  obtain ⟨⟨call, result⟩, isCommitting⟩ :=
    Option.isSome_iff_exists.mp commits
  simp only [Connection.next, isCommitting, commit, if_neg notFailed]

variable (database) in
/-- Some statement fails before anybody commits. -/
def FailsFirst (c : Connection Thread Table Call Result Error) :
    List (Label Thread Call) → Prop
  | [] => False
  | label :: rest =>
      c.Fails database label ∨
        ¬ c.Commits label ∧ FailsFirst (c.next database label) rest

/-- A statement in the log stays there unless another one fails first. -/
theorem Sound.mem_run_of_not_failsFirst {entry : Entry Call}
    (sound : c.Sound database initially) (member : entry ∈ c.log)
    {schedule : List (Label Thread Call)}
    (keeps : ¬ c.FailsFirst database schedule) :
    entry ∈ (c.run database schedule).log := by
  induction schedule generalizing c with
  | nil => exact member
  | cons label rest inductionHypothesis =>
      rw [FailsFirst, not_or, not_and] at keeps
      obtain ⟨executes, restKeeps⟩ := keeps
      have soundNext := sound.next label
      have fromKept (isKept : entry ∈ (c.next database label).kept) :
          entry ∈ ((c.next database label).run database rest).log :=
        (soundNext.run rest).isPrefixOf.mem
          ((soundNext.kept_isPrefix_run rest).mem isKept)
      by_cases isKept : entry ∈ c.kept
      · exact fromKept ((sound.kept_isPrefix_next label).mem isKept)
      by_cases commits : c.Commits label
      · have notFailed : c.transaction ≠ .failed := by
          intro isFailed
          exact isKept (sound.failed isFailed ▸ member)
        exact fromKept (kept_of_commits commits notFailed ▸ member)
      · have idle : c.committing label.thread = none :=
          Option.not_isSome_iff_eq_none.mp commits
        obtain ⟨working, result, isNext⟩ := execute_of_not_fails idle executes
        refine inductionHypothesis soundNext ?_ (restKeeps commits)
        rw [isNext]
        exact List.mem_append_left _ member

/-- A statement which is not committed is lost when another one fails first. -/
theorem Sound.not_mem_run_of_failsFirst {entry : Entry Call}
    (sound : c.Sound database initially) (isOld : entry.stamp < c.executed)
    (notKept : entry ∉ c.kept) {schedule : List (Label Thread Call)}
    (failsFirst : c.FailsFirst database schedule) :
    entry ∉ (c.run database schedule).log := by
  induction schedule generalizing c with
  | nil => exact failsFirst.elim
  | cons label rest inductionHypothesis =>
      have soundNext := sound.next label
      by_cases fails : c.Fails database label
      · have isLost : entry ∉ (c.next database label).log := by
          rw [log_of_fails fails]
          exact notKept
        exact
          not_mem_run soundNext (isOld.trans_le (executed_le_next label))
            isLost rest
      · obtain ⟨noCommit, restFails⟩ := failsFirst.resolve_left fails
        have idle : c.committing label.thread = none :=
          Option.not_isSome_iff_eq_none.mp noCommit
        obtain ⟨working, result, isNext⟩ := execute_of_not_fails idle fails
        refine inductionHypothesis soundNext ?_ ?_ restFails
        · rw [isNext]
          exact isOld.trans (Nat.lt_succ_self _)
        · rw [isNext]
          exact notKept

/-! ## Committing -/

/-- The steps of the others leave what a thread has to commit. -/
theorem committing_next_of_ne {thread : Thread}
    (isOther : thread ≠ label.thread) :
    (c.next database label).committing thread = c.committing thread := by
  rw [Connection.next]
  split
  · rw [Connection.execute]
    split
    · rfl
    · dsimp only
      split
      · rfl
      · dsimp only
        split
        · exact Function.update_of_ne isOther _ _
        · rfl
  · exact Function.update_of_ne isOther _ _

theorem committing_run_of_others {thread : Thread}
    {schedule : List (Label Thread Call)}
    (others : ∀ label ∈ schedule, label.thread ≠ thread) :
    (c.run database schedule).committing thread = c.committing thread := by
  induction schedule generalizing c with
  | nil => rfl
  | cons label rest inductionHypothesis =>
      rw [List.forall_mem_cons] at others
      exact
        (inductionHypothesis others.2).trans
          (committing_next_of_ne others.1.symm)

/-- A statement which was not committed is in the end when none fails first. -/
theorem Sound.kept_iff (sound : c.Sound database initially)
    {entry : Entry Call} (member : entry ∈ c.log) (notKept : entry ∉ c.kept)
    {thread : Thread} {call : Call} {result : Result}
    (isCommitting : c.committing thread = some (call, result))
    {between : List (Label Thread Call)}
    (others : ∀ other ∈ between, other.thread ≠ thread)
    {last : Label Thread Call} (same : last.thread = thread)
    (later : List (Label Thread Call)) :
    let before := c.run database between
    let after := before.next database last
    after.returned = before.returned ++ [(thread, call, .ok result)] ∧
      (entry ∈ (after.run database later).kept ↔
        ¬ c.FailsFirst database between) := by
  intro before after
  have soundBefore : before.Sound database initially := sound.run between
  have soundAfter : after.Sound database initially := soundBefore.next last
  have stillCommitting :
      before.committing last.thread = some (call, result) := by
    rw [same]
    exact (committing_run_of_others others).trans isCommitting
  have isAfter : after = before.commit last.thread call result := by
    simp only [after, Connection.next, stillCommitting]
  refine ⟨?_, ?_, ?_⟩
  · rw [isAfter, Connection.commit, same]
  · intro isKept failsFirst
    have isOld := sound.stamps entry member
    have isLost : entry ∉ before.log :=
      sound.not_mem_run_of_failsFirst isOld notKept failsFirst
    have stillOld : entry.stamp < before.executed :=
      isOld.trans_le (executed_le_run between)
    have inLog : entry ∈ (before.run database (last :: later)).log :=
      (soundAfter.run later).isPrefixOf.mem isKept
    exact not_mem_run soundBefore stillOld isLost (last :: later) inLog
  · intro keeps
    have stays : entry ∈ before.log :=
      sound.mem_run_of_not_failsFirst member keeps
    refine (soundAfter.kept_isPrefix_run later).mem ?_
    rw [isAfter, Connection.commit]
    dsimp only
    split
    · next isFailed => exact soundBefore.failed isFailed ▸ stays
    · exact stays

/--
A call which writes reports success when it commits; its statement is then
committed for good exactly when no statement failed before anybody committed.
-/
theorem Sound.durable_iff (sound : c.Sound database initially)
    (idle : c.committing label.thread = none)
    (executes : ¬ c.Fails database label)
    (isWrite : database.writes label.call = true)
    {between : List (Label Thread Call)}
    (others : ∀ other ∈ between, other.thread ≠ label.thread)
    {last : Label Thread Call} (same : last.thread = label.thread)
    (later : List (Label Thread Call)) :
    let executed := c.next database label
    let before := executed.run database between
    let after := before.next database last
    (∃ result,
        after.returned =
          before.returned ++ [(label.thread, label.call, .ok result)]) ∧
      (c.entry label ∈ (after.run database later).kept ↔
        ¬ executed.FailsFirst database between) := by
  obtain ⟨working, result, isNext⟩ := execute_of_not_fails idle executes
  have isCommitting :
      (c.next database label).committing label.thread =
        some (label.call, result) := by
    rw [isNext, if_pos isWrite]
    exact Function.update_self _ _ _
  have member : c.entry label ∈ (c.next database label).log := by
    rw [isNext]
    exact List.mem_append_right _ (List.mem_singleton_self _)
  have notKept : c.entry label ∉ (c.next database label).kept := by
    rw [isNext]
    intro isOld
    exact
      Nat.lt_irrefl _ (sound.stamps _ (sound.isPrefixOf.mem isOld))
  obtain ⟨reported, isKept⟩ :=
    (sound.next label).kept_iff member notKept isCommitting others same later
  exact ⟨⟨result, reported⟩, isKept⟩

/-! ## What statements keep -/

section Follows

variable {follows : Table → Table → Prop}

theorem replay_append (entries more : List (Entry Call)) :
    replay database initially (entries ++ more) =
      replay database (replay database initially entries) more :=
  List.foldl_append

variable
    (refl : ∀ table, follows table table)
    (trans :
      ∀ {last later table}, follows last later → follows later table →
        follows last table)
    (statement :
      ∀ {call start number table later result},
        database.execute call start number table = .ok (later, result) →
          follows later table)

include refl trans statement

theorem replay_follows (table : Table) (entries : List (Entry Call)) :
    follows (replay database table entries) table := by
  induction entries using List.reverseRecOn with
  | nil => exact refl table
  | append_singleton entries entry inductionHypothesis =>
      rw [replay_concat]
      split
      · next executes => exact trans (statement executes) inductionHypothesis
      · exact inductionHypothesis

/-- What is committed follows what was committed before. -/
theorem Sound.committed_follows (sound : c.Sound database initially)
    (schedule : List (Label Thread Call)) :
    follows (c.run database schedule).committed c.committed := by
  obtain ⟨more, isKept⟩ := sound.kept_isPrefix_run schedule
  rw [(sound.run schedule).committed, sound.committed, ← isKept,
    replay_append]
  exact replay_follows refl trans statement _ _

omit [DecidableEq Thread] in
/-- The transaction follows what is committed. -/
theorem Sound.working_follows (sound : c.Sound database initially) :
    follows c.working c.committed := by
  obtain ⟨more, isLog⟩ := sound.isPrefixOf
  rw [sound.working, sound.committed, ← isLog, replay_append]
  exact replay_follows refl trans statement _ _

omit [DecidableEq Thread] in
/-- What is committed follows the table which a committed statement made. -/
theorem Sound.committed_follows_of_mem (sound : c.Sound database initially)
    {entry : Entry Call} (member : entry ∈ c.kept) :
    ∃ table later result,
      database.execute entry.call entry.start entry.number table =
          .ok (later, result) ∧
        follows c.committed later := by
  obtain ⟨before, after, isKept⟩ := List.append_of_mem member
  have isPart : before ++ [entry] <+: c.kept := by
    rw [isKept]
    exact ⟨after, by rw [List.append_assoc, List.singleton_append]⟩
  obtain ⟨later, result, executes⟩ :=
    sound.accepted before entry (isPart.trans sound.isPrefixOf)
  refine ⟨_, later, result, executes, ?_⟩
  have isLater :
      replay database initially (before ++ [entry]) = later := by
    rw [replay_concat, executes]
  rw [sound.committed, isKept, ← List.singleton_append, ← List.append_assoc,
    replay_append, isLater]
  exact replay_follows refl trans statement _ _

end Follows

/-! ## A transaction which failed -/

variable (database) in
/-- In a failed transaction with nobody to commit every call fails. -/
theorem next_of_stuck (isFailed : c.transaction = .failed)
    (idle : ∀ thread, c.committing thread = none)
    (label : Label Thread Call) :
    c.next database label =
      c.abort label.thread label.call database.inFailedTransaction := by
  simp only [Connection.next, idle, execute, if_pos isFailed]

/-- A statement which fails leaves its transaction failed. -/
theorem transaction_of_fails (fails : c.Fails database label) :
    (c.next database label).transaction = .failed ∧
      (c.next database label).committing = c.committing ∧
      (c.next database label).committed = c.committed := by
  obtain ⟨idle, isFailed | ⟨error, executed⟩⟩ := fails
  · simp only [Connection.next, idle, execute, if_pos isFailed, abort,
      and_self]
  · simp only [Connection.next, idle, execute, executed]
    split <;> exact ⟨rfl, rfl, rfl⟩

variable (database) in
/-- After a failure with nobody to commit every later call fails. -/
theorem run_of_stuck (isFailed : c.transaction = .failed)
    (idle : ∀ thread, c.committing thread = none)
    (schedule : List (Label Thread Call)) :
    (c.run database schedule).committed = c.committed ∧
      (c.run database schedule).returned =
        c.returned ++
          schedule.map fun label =>
            (label.thread, label.call,
              .error database.inFailedTransaction) := by
  induction schedule generalizing c with
  | nil => exact ⟨rfl, (List.append_nil _).symm⟩
  | cons label rest inductionHypothesis =>
      have isNext := next_of_stuck database isFailed idle label
      have stillFailed : (c.next database label).transaction = .failed := by
        rw [isNext, abort]
      have stillIdle :
          ∀ thread, (c.next database label).committing thread = none := by
        intro thread
        rw [isNext]
        exact idle thread
      obtain ⟨sameTable, errors⟩ := inductionHypothesis stillFailed stillIdle
      refine ⟨sameTable.trans (by rw [isNext, abort]), errors.trans ?_⟩
      rw [isNext, abort, List.map_cons, List.append_assoc]
      rfl

end Connection

end AeroRisk.Library.SharedConnection
