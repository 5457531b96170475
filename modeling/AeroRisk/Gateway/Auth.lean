import AeroRisk.Library.LabelledRun
import Mathlib.Data.Finmap

/-!
# Tokens of the gateway

`AuthManager` maps the tokens which it generated to the users they were
generated for.  The string of a token comes from `randomString`, which takes
the letters in order.
-/

namespace AeroRisk.Gateway

open AeroRisk.Library

/-- The error of the package for tokens. -/
inductive AuthError where
  | invalidToken
deriving DecidableEq, Repr

/-- The constant of `randomString`. -/
def letters : List Char :=
  "abcdefghijklmnopqrstuvwxyzABCDEFGHIJKLMNOPQRSTUVWXYZ0123456789".toList

theorem letters_pos : 0 < letters.length := by decide

/-- `randomString`: the letter at `i` is `letters[i%len(letters)]`. -/
def randomString (n : Nat) : String :=
  String.ofList
    ((List.range n).map fun i =>
      letters.get ⟨i % letters.length, Nat.mod_lt i letters_pos⟩)

/-- `generateToken`. -/
def generateToken : String :=
  "token_" ++ randomString 32

/-- `AuthManager`: the user of every token. -/
structure AuthManager where
  tokens : Finmap fun _ : String => UInt64
deriving DecidableEq

/-- `NewAuthManager`. -/
def newAuthManager : AuthManager where
  tokens := ∅

/-- A call on the manager. -/
inductive Call where
  | generateToken (userID : UInt64)
  | revokeToken (token : String)
  | validateToken (token : String)
deriving DecidableEq, Repr

/-- The call is one of `GenerateToken`. -/
def Call.generates : Call → Bool
  | .generateToken _ => true
  | _ => false

namespace AuthManager

/-- `ValidateToken`. -/
def validateToken (a : AuthManager) (token : String) :
    UInt64 × Option AuthError :=
  match a.tokens.lookup token with
  | some userID => (userID, none)
  | none => (0, some .invalidToken)

/-- `GenerateToken`, with the token which it returns. -/
def generateToken (a : AuthManager) (userID : UInt64) :
    AuthManager × String :=
  let token := Gateway.generateToken
  ({ a with tokens := a.tokens.insert token userID }, token)

/-- `RevokeToken`. -/
def revokeToken (a : AuthManager) (token : String) : AuthManager :=
  { a with tokens := a.tokens.erase token }

/-- The manager after a call. -/
def next (a : AuthManager) : Call → AuthManager
  | .generateToken userID => (a.generateToken userID).1
  | .revokeToken token => a.revokeToken token
  | .validateToken _ => a

/-- The token which a call returns, if it is one of `GenerateToken`. -/
def returnedToken (a : AuthManager) : Call → Option String
  | .generateToken userID => some (a.generateToken userID).2
  | _ => none

/-- All tokens returned by a run. -/
def returnedTokens (calls : List Call) : List String :=
  (LabelledRun.outputs next returnedToken newAuthManager calls).filterMap id

/--
Whenever `GenerateToken` has returned a token for a user and the token was not
revoked since, it validates as that user.
-/
def TokenIdentity (calls : List Call) : Prop :=
  ∀ earlier userID later,
    earlier ++ .generateToken userID :: later <+: calls →
      ∀ token,
        returnedToken (LabelledRun.run next newAuthManager earlier)
            (.generateToken userID) = some token →
          .revokeToken token ∉ later →
            (LabelledRun.run next newAuthManager
              (earlier ++ .generateToken userID :: later)).validateToken
                token = (userID, none)

/-- The tokens of different calls are different. -/
def DistinctTokens (calls : List Call) : Prop :=
  (returnedTokens calls).Nodup

/-- A token is generated only while no other user has one. -/
def OnlyHolder (a : AuthManager) : Call → Prop
  | .generateToken userID =>
      ∀ token other, a.tokens.lookup token = some other → other = userID
  | _ => True

/-! ## The one token -/

/-- A call leaves the user of the token which it generates, if it does. -/
theorem lookup_next (a : AuthManager) (call : Call) (token : String) :
    (a.next call).tokens.lookup token =
      match call with
      | .generateToken userID =>
          if token = Gateway.generateToken then some userID
          else a.tokens.lookup token
      | .revokeToken revoked =>
          if token = revoked then none else a.tokens.lookup token
      | .validateToken _ => a.tokens.lookup token := by
  cases call with
  | generateToken userID =>
      simp only [next, generateToken]
      split
      · next same => rw [same, Finmap.lookup_insert]
      · next other => rw [Finmap.lookup_insert_of_ne _ other]
  | revokeToken revoked =>
      simp only [next, revokeToken]
      split
      · next same => rw [same, Finmap.lookup_erase]
      · next other => rw [Finmap.lookup_erase_ne other]
  | validateToken validated => rfl

theorem validateToken_eq_iff (a : AuthManager) (token : String)
    (userID : UInt64) :
    a.validateToken token = (userID, none) ↔
      a.tokens.lookup token = some userID := by
  rw [validateToken]
  split <;> simp_all

/-- A token has a user when it was generated for the user and not revoked. -/
theorem exists_generated {calls : List Call} {token : String}
    {userID : UInt64}
    (found :
      (LabelledRun.run next newAuthManager calls).tokens.lookup token =
        some userID) :
    token = Gateway.generateToken ∧
      ∃ earlier later,
        calls = earlier ++ .generateToken userID :: later ∧
          .revokeToken token ∉ later := by
  induction calls using List.reverseRecOn with
  | nil => simp [newAuthManager] at found
  | append_singleton calls call inductionHypothesis =>
      rw [LabelledRun.run_append, LabelledRun.run_cons, LabelledRun.run_nil,
        lookup_next] at found
      have older
          (before :
            (LabelledRun.run next newAuthManager calls).tokens.lookup token =
              some userID)
          (kept : call ≠ .revokeToken token) :
          token = Gateway.generateToken ∧
            ∃ earlier later,
              calls ++ [call] = earlier ++ .generateToken userID :: later ∧
                .revokeToken token ∉ later := by
        obtain ⟨same, earlier, later, rfl, unrevoked⟩ :=
          inductionHypothesis before
        refine ⟨same, earlier, later ++ [call], by simp, ?_⟩
        simp [unrevoked, Ne.symm kept]
      cases call with
      | generateToken other =>
          simp only at found
          split at found
          · next same =>
              cases found
              exact ⟨same, calls, [], rfl, List.not_mem_nil⟩
          · exact older found (by simp)
      | revokeToken revoked =>
          simp only at found
          split at found
          · cases found
          · next other =>
              exact older found (by simpa using Ne.symm other)
      | validateToken validated => exact older found (by simp)

/-- While only its user generates tokens, an unrevoked token stays valid. -/
theorem lookup_run_of_unrevoked {a : AuthManager} {calls : List Call}
    {userID : UInt64}
    (onlyHolder : LabelledRun.Along next OnlyHolder a calls)
    (unrevoked : .revokeToken Gateway.generateToken ∉ calls)
    (valid : a.tokens.lookup Gateway.generateToken = some userID) :
    (LabelledRun.run next a calls).tokens.lookup Gateway.generateToken =
      some userID := by
  induction calls generalizing a with
  | nil => exact valid
  | cons call rest inductionHypothesis =>
      rw [List.mem_cons, not_or] at unrevoked
      refine inductionHypothesis onlyHolder.2 unrevoked.2 ?_
      rw [lookup_next]
      cases call with
      | generateToken other =>
          simp only [if_true]
          rw [onlyHolder.1 _ userID valid]
      | revokeToken revoked =>
          have kept : Gateway.generateToken ≠ revoked := by
            rintro rfl
            exact unrevoked.1 rfl
          simpa only [if_neg kept] using valid
      | validateToken validated => exact valid

theorem tokenIdentity_iff (calls : List Call) :
    TokenIdentity calls ↔
      LabelledRun.Along next OnlyHolder newAuthManager calls := by
  constructor
  · intro identity
    rw [LabelledRun.along_iff_of_split]
    rintro before call after rfl
    cases call with
    | generateToken userID =>
        intro token other found
        obtain ⟨rfl, earlier, later, rfl, unrevoked⟩ :=
          exists_generated found
        have validates :=
          identity earlier other (later ++ [.generateToken userID])
            (by simp) Gateway.generateToken rfl (by simpa using unrevoked)
        rw [validateToken_eq_iff, ← List.cons_append, ← List.append_assoc,
          LabelledRun.run_append, LabelledRun.run_cons, LabelledRun.run_nil,
          lookup_next] at validates
        simpa using validates.symm
    | _ => trivial
  · rintro onlyHolder earlier userID later isPrefixOf token returned unrevoked
    cases returned
    rw [validateToken_eq_iff, LabelledRun.run_append, LabelledRun.run_cons]
    have along := onlyHolder.of_prefix isPrefixOf
    rw [LabelledRun.along_append, LabelledRun.along_cons] at along
    apply lookup_run_of_unrevoked along.2.2 unrevoked
    rw [lookup_next]
    simp

/-- Every call of `GenerateToken` returns the same string. -/
theorem returnedTokens_eq (calls : List Call) :
    returnedTokens calls =
      List.replicate (calls.countP Call.generates) Gateway.generateToken := by
  suffices ∀ a : AuthManager,
      (LabelledRun.outputs next returnedToken a calls).filterMap id =
        List.replicate (calls.countP Call.generates)
          Gateway.generateToken from this newAuthManager
  induction calls with
  | nil => intro a; rfl
  | cons call rest inductionHypothesis =>
      intro a
      rw [LabelledRun.outputs_cons]
      cases call with
      | generateToken userID =>
          rw [List.countP_cons_of_pos rfl, List.replicate_succ,
            ← inductionHypothesis]
          rfl
      | revokeToken token =>
          rw [List.countP_cons_of_neg Bool.false_ne_true,
            ← inductionHypothesis]
          rfl
      | validateToken token =>
          rw [List.countP_cons_of_neg Bool.false_ne_true,
            ← inductionHypothesis]
          rfl

theorem distinctTokens_iff (calls : List Call) :
    DistinctTokens calls ↔ calls.countP Call.generates ≤ 1 := by
  rw [DistinctTokens, returnedTokens_eq, List.nodup_replicate]

/-- The first token of all is generated while nobody has one. -/
theorem onlyHolder_of_single {calls : List Call}
    (single : calls.countP Call.generates ≤ 1) :
    LabelledRun.Along next OnlyHolder newAuthManager calls := by
  rw [LabelledRun.along_iff_of_split]
  rintro before call after rfl
  cases call with
  | generateToken userID =>
      intro token other found
      obtain ⟨-, earlier, later, rfl, -⟩ := exists_generated found
      simp only [List.countP_append, List.countP_cons, Call.generates,
        if_true] at single
      omega
  | _ => trivial

/--
Tokens identify their users and differ from each other in exactly the runs
with at most one call of `GenerateToken`.  They identify their users in
exactly the runs in which each call of `GenerateToken` is made while every
unrevoked token belongs to the same user.
-/
theorem token_identity (calls : List Call) :
    (TokenIdentity calls ∧ DistinctTokens calls ↔
        calls.countP Call.generates ≤ 1) ∧
      (TokenIdentity calls ↔
        LabelledRun.Along next OnlyHolder newAuthManager calls) := by
  refine ⟨?_, tokenIdentity_iff calls⟩
  rw [distinctTokens_iff]
  refine ⟨And.right, fun single => ⟨?_, single⟩⟩
  exact (tokenIdentity_iff calls).mpr (onlyHolder_of_single single)

/-- Two users get the same token, which then belongs to the second one. -/
theorem token_identity_fails :
    ¬ ∀ calls, TokenIdentity calls ∧ DistinctTokens calls := by
  intro always
  have validates :=
    (always [.generateToken 1, .generateToken 2]).1 [] 1
      [.generateToken 2] (List.prefix_rfl) Gateway.generateToken rfl
      (by decide)
  exact absurd validates (by decide)

end AuthManager

end AeroRisk.Gateway
