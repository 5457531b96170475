import AeroRisk.Cache.AccountState
import AeroRisk.Cache.RedisClient
import Mathlib.Algebra.BigOperators.Pi

/-!
# Concurrent cash updates

`UpdateCash` gets the state of an account, changes its cash and sets it, with
nothing between the two messages that keeps other calls out.  A `Set` then
replaces whatever was set since its own `Get`, and the cash which that added
is lost.
-/

namespace AeroRisk.Cache

open AeroRisk.Library
open AeroRisk.Library.Messages
open AeroRisk.Library.ReadModifyWrite
open scoped AeroRisk.Ledger

/-- `AccountKey`. -/
def accountKey (accountID : String) : String :=
  "acct:" ++ accountID

/-- The records of `AccountStateManager`. -/
def accountStateManager (codec : RecordCodec AccountState) :
    RecordManager AccountState where
  codec := codec
  key := accountKey
  accountID := AccountState.accountID
  newRecord := newAccountState
  accountID_newRecord := fun _ _ => rfl

namespace AccountStateManager

variable (codec : RecordCodec AccountState) (now : Nat) (accountID : String)

/-- `AccountStateManager.Get`. -/
def get : RedisProgram (Except String AccountState) :=
  (accountStateManager codec).get now accountID

/-- `AccountStateManager.Set`. -/
def set (state : AccountState) (expiration : Nat) :
    RedisProgram (Option String) :=
  (accountStateManager codec).set state expiration

/-- `AccountStateManager.UpdateCash`. -/
def updateCash (delta : Int64) : RedisProgram (Option String) :=
  (accountStateManager codec).modify now accountID fun state =>
    state.updateCash delta

end AccountStateManager

/-- The cash balance and the available cash. -/
def AccountState.balances (a : AccountState) : Int64 × Int64 :=
  (a.cashBalance, a.availableCash)

section Updates

variable
    {Client : Type}
    (codec : RecordCodec AccountState)
    (accountID : String)
    (clock : Client → Nat)
    (delta : Client → Int64)

/-- The clients of an account before their calls of `UpdateCash`. -/
def cashUpdates (store : RedisStore) :
    System Client RedisStore RedisRequest RedisResponse (Option String) :=
  System.start store fun client =>
    AccountStateManager.updateCash codec (clock client) accountID
      (delta client)

/-- The balances which were last set for the account. -/
def storedBalances (store : RedisStore) : Int64 × Int64 :=
  ((accountStateManager codec).stored store accountID).balances

/-- The clients as clients which read, modify and write the account. -/
def cashProtocol :
    Protocol Client RedisRequest RedisResponse AccountState String :=
  (accountStateManager codec).protocol clock accountID fun client state =>
    state.updateCash (delta client)

/--
The balances which a message loses.  A `Set` loses what the balances have
changed since its client got them; no other message loses anything.
-/
def lostBalances
    (system :
      System Client RedisStore RedisRequest RedisResponse (Option String))
    (label : Client × Nat) : Int64 × Int64 :=
  (cashProtocol codec accountID clock delta).loss
    (storedBalances codec accountID) AccountState.balances system label

variable {codec accountID clock delta}

theorem cashUpdates_eq_start (store : RedisStore) :
    cashUpdates codec accountID clock delta store =
      System.start store
        (cashProtocol codec accountID clock delta).program := by
  rw [cashUpdates]
  congr 1
  funext client
  rw [cashProtocol, RecordManager.program_eq_modify]
  rfl

variable [DecidableEq Client]

variable (codec accountID clock delta) in
/-- The clients of an account after some messages, each at its time. -/
def afterUpdates (store : RedisStore) (schedule : List (Client × Nat)) :
    System Client RedisStore RedisRequest RedisResponse (Option String) :=
  LabelledRun.run (System.next serve)
    (cashUpdates codec accountID clock delta store) schedule

theorem storedBalances_afterUpdates [Fintype Client] {store : RedisStore}
    (owned : (accountStateManager codec).Owned accountID store)
    (schedule : List (Client × Nat))
    (returned :
      ∀ client,
        (afterUpdates codec accountID clock delta store schedule).Returned
          client none) :
    storedBalances codec accountID
        (afterUpdates codec accountID clock delta store schedule).store =
      storedBalances codec accountID store +
          (∑ client, delta client, ∑ client, delta client) -
        (LabelledRun.outputs (System.next serve)
          (lostBalances codec accountID clock delta)
          (cashUpdates codec accountID clock delta store) schedule).sum := by
  have kept :
      (cashProtocol codec accountID clock delta).Kept serve
        (storedBalances codec accountID) AccountState.balances
        ((accountStateManager codec).Owned accountID)
        (fun state => state.accountID = accountID) := by
    apply RecordManager.kept
    intro client state
    rfl
  have adds :
      ∀ client (state : AccountState),
        (state.updateCash (delta client)).balances =
          state.balances + (delta client, delta client) :=
    fun _ _ => rfl
  have deltas :
      ∑ client, (delta client, delta client) =
        (∑ client, delta client, ∑ client, delta client) :=
    (prod_mk_sum Finset.univ delta delta).symm
  rw [afterUpdates, cashUpdates_eq_start] at returned ⊢
  rw [Protocol.view_run_of_returned kept adds owned schedule returned, deltas]
  rfl

end Updates

/--
Once all calls have returned without an error, the balances are the initial
ones plus all deltas exactly when what the messages lost adds up to nothing;
so they are when every `Set` finds the balances which its client got.
-/
theorem cash_updates {Client : Type} [Fintype Client] [DecidableEq Client]
    (codec : RecordCodec AccountState) (accountID : String)
    (clock : Client → Nat) (delta : Client → Int64) (store : RedisStore)
    (owned : (accountStateManager codec).Owned accountID store)
    (schedule : List (Client × Nat))
    (returned :
      ∀ client,
        (afterUpdates codec accountID clock delta store schedule).Returned
          client none) :
    (storedBalances codec accountID
          (afterUpdates codec accountID clock delta store schedule).store =
        storedBalances codec accountID store +
          (∑ client, delta client, ∑ client, delta client) ↔
      (LabelledRun.outputs (System.next serve)
        (lostBalances codec accountID clock delta)
        (cashUpdates codec accountID clock delta store) schedule).sum = 0) ∧
      (LabelledRun.Along (System.next serve)
          (fun system label =>
            lostBalances codec accountID clock delta system label = 0)
          (cashUpdates codec accountID clock delta store) schedule →
        storedBalances codec accountID
            (afterUpdates codec accountID clock delta store schedule).store =
          storedBalances codec accountID store +
            (∑ client, delta client, ∑ client, delta client)) := by
  have balances := storedBalances_afterUpdates owned schedule returned
  constructor
  · rw [balances]
    exact sub_eq_self
  · intro nothingLost
    rw [balances, Postings.sum_outputs_eq_zero nothingLost, sub_zero]

/-- A new account to which some cash was added. -/
def fundedAccount (cash : Int64) : AccountState :=
  (newAccountState 0 "acc-123").updateCash cash

/-- The JSON text of such an account. -/
def fundedText (cash : String) : String :=
  "\x7b\"account_id\":\"acc-123\",\"cash_balance\":" ++ cash ++
    ",\"available_cash\":" ++ cash ++
    ",\"pending_orders\":\x7b\x7d,\"positions\":\x7b\x7d," ++
    "\"risk_level\":\"normal\",\"circuit_broken\":false," ++
    "\"last_updated\":0\x7d"

/-- The codec of accounts, for the accounts of two deposits. -/
def fundedCodec : RecordCodec AccountState :=
  .ofRows
    [(fundedAccount 10, fundedText "10"), (fundedAccount 20, fundedText "20"),
      (fundedAccount 30, fundedText "30")]
    (by decide)

/-- One client deposits 10 and the other one 20. -/
def deposits (client : Bool) : Int64 :=
  if client then 10 else 20

/-- The clients get the account in turn and then set it in turn. -/
def overlapping : List (Bool × Nat) :=
  [(true, 1), (false, 2), (true, 3), (false, 4)]

/-- The clients get and set the account one after the other. -/
def separate : List (Bool × Nat) :=
  [(true, 1), (true, 2), (false, 3), (false, 4)]

theorem cash_updates_sample :
    (storedBalances fundedCodec "acc-123"
          (afterUpdates fundedCodec "acc-123" (fun _ => 0) deposits ∅
            separate).store =
        storedBalances fundedCodec "acc-123" ∅ + (30, 30)) := by
  have updates :=
    cash_updates fundedCodec "acc-123" (fun _ => 0) deposits ∅
      (fun entry record stored => by cases stored) separate
      (by decide +kernel)
  exact updates.2 (by decide +kernel)

/-- The second `Set` replaces the first one. -/
theorem cash_updates_fails :
    ¬ ∀ (Client : Type) [Fintype Client] [DecidableEq Client]
        (codec : RecordCodec AccountState) (accountID : String)
        (clock : Client → Nat) (delta : Client → Int64) (store : RedisStore)
        (schedule : List (Client × Nat)),
        (accountStateManager codec).Owned accountID store →
        (∀ client,
          (afterUpdates codec accountID clock delta store schedule).Returned
            client none) →
        storedBalances codec accountID
            (afterUpdates codec accountID clock delta store schedule).store =
          storedBalances codec accountID store +
            (∑ client, delta client, ∑ client, delta client) := by
  intro updates
  have atEnd :=
    updates Bool fundedCodec "acc-123" (fun _ => 0) deposits ∅ overlapping
      (fun entry record stored => by cases stored)
      (by decide +kernel)
  exact absurd atEnd (by decide +kernel)

end AeroRisk.Cache
