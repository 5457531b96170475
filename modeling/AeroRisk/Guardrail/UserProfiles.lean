import AeroRisk.Guardrail.EventModels
import AeroRisk.Library.EventLoop

/-!
# The profiles of users

`UserProfileService` reads the profile of a user from the database, keeps it
for five minutes, and checks the velocity and the risk of a user by it.  The
database is awaited, so other calls run while one of them waits; its answers
are arbitrary.

The service makes a profile without four fields which the model requires, so
no profile is ever made: whatever the database has, every check of the velocity
allows and every risk score is the default.
-/

namespace AeroRisk.Guardrail.Agent2

open AeroRisk.Event
open AeroRisk.Guardrail
open AeroRisk.Library

/-- `UserProfile`, the model of a profile. -/
def userProfile : Model :=
  [ required "user_id" .str,
    required "account_type" .str,
    required "risk_tolerance" .str,
    required "trading_experience_years" .int,
    required "avg_daily_volume" .int,
    required "max_position_size" .int,
    defaulting "restricted_symbols" .listOfStr (.array []),
    required "kyc_status" .str,
    optional "sanctions_checked_at" .float ]

/-- What the service awaits of the database. -/
inductive ProfileRequest where
  | getUserProfile (userID : String)
  | countRecentOrders (userID : String) (minutes : Int)

/-- What the database answers, or the exception which it raises. -/
def ProfileAnswer : ProfileRequest → Type
  | .getUserProfile _ => Except String (Option Members)
  | .countRecentOrders _ _ => Except String Int

/-- The memory of the service, with the readings of the clock. -/
structure ProfileMemory where
  profileCache : String → Option (Members × Int)
  /-- The times in microseconds which `datetime.now()` is going to return. -/
  clock : Nat → Int

abbrev ProfileTask := Coroutine ProfileMemory ProfileAnswer

open Coroutine (read modify request)

/-- `postgres.get_user_profile`. -/
def getUserProfile (userID : String) :
    ProfileTask (Except String (Option Members)) :=
  request (ProfileRequest.getUserProfile userID)

/-- `postgres.count_recent_orders`. -/
def countRecentOrders (userID : String) (minutes : Int) :
    ProfileTask (Except String Int) :=
  request (ProfileRequest.countRecentOrders userID minutes)

/-- `datetime.now()`. -/
def datetimeNow : ProfileTask Int := do
  let memory ← read
  modify fun memory =>
    { memory with clock := fun reading => memory.clock (reading + 1) }
  pure (memory.clock 0)

/-- `self._cache_ttl`. -/
def cacheTTL : Int := 5 * 60 * 1000000

/-- `data.get(name, default)`. -/
def fieldOr (data : Members) (name : String) (default : Json) : Json :=
  (data.lookup name).getD default

/-- The fields with which a profile is constructed. -/
def profileFields (userID : String) (data : Members) : Members :=
  [ ("user_id", .string userID),
    ("risk_tier", fieldOr data "risk_tier" (.string "standard")),
    ("account_type", fieldOr data "account_type" (.string "individual")),
    ("trading_limits",
      .object
        [ ("daily_limit", fieldOr data "daily_limit" (.integer 1000000)),
          ("single_order_limit",
            fieldOr data "single_order_limit" (.integer 100000)),
          ("max_orders_per_minute",
            fieldOr data "max_orders_per_minute" (.integer 60)) ]),
    ("historical_flags", fieldOr data "historical_flags" (.array [])),
    ("kyc_status", fieldOr data "kyc_status" (.string "verified")),
    ("jurisdiction", fieldOr data "jurisdiction" (.string "US")) ]

section Service

variable (coerce : FieldType → Json → Option Json)

/-- `get_profile` after the look into the cache. -/
def fetchProfile (userID : String) : ProfileTask (Option Members) := do
  match ← getUserProfile userID with
  | .error _ => pure none
  | .ok none => pure none
  | .ok (some []) => pure none
  | .ok (some (member :: rest)) =>
      match RecordSchema.validate coerce userProfile
          (profileFields userID (member :: rest)) with
      | .error _ => pure none
      | .ok profile =>
          let cachedAt ← datetimeNow
          modify fun memory =>
            { memory with
              profileCache :=
                Function.update memory.profileCache userID
                  (some (profile, cachedAt)) }
          pure (some profile)

/-- `get_profile`. -/
def getProfile (userID : String) : ProfileTask (Option Members) := do
  let memory ← read
  match memory.profileCache userID with
  | none => fetchProfile coerce userID
  | some (profile, cachedAt) =>
      let now ← datetimeNow
      if now - cachedAt < cacheTTL then
        pure (some profile)
      else
        fetchProfile coerce userID

/-- `profile.name`, an attribute of a profile. -/
def readAttribute (profile : Members) (name : String) : Except String Json :=
  match profile.lookup name with
  | some value => .ok value
  | none => .error ("object has no attribute " ++ name)

/-- The most orders which a profile allows in a minute. -/
def maxOrders (profile : Members) : Except String Int :=
  match readAttribute profile "trading_limits" with
  | .ok (.object limits) =>
      match fieldOr limits "max_orders_per_minute" (.integer 60) with
      | .integer maxOrders => .ok maxOrders
      | _ => .error "unsupported operand type"
  | .ok _ => .error "object has no attribute get"
  | .error error => .error error

/-- What a check of the velocity returns. -/
structure VelocityCheck where
  allowed : Bool
  reason : String
  /-- The recent orders, the limit and what remains of it. -/
  counts : Option (Int × Int × Int)
deriving DecidableEq, Repr

/-- The check of the recent orders against a limit. -/
def velocityOf (maxOrders recentCount : Int) : VelocityCheck :=
  let remaining := maxOrders - recentCount
  { allowed := decide (0 < remaining)
    reason := if 0 < remaining then "within_limits" else "velocity_exceeded"
    counts := some (recentCount, maxOrders, max 0 remaining) }

/-- A check without a profile allows. -/
def profileNotFound : VelocityCheck where
  allowed := true
  reason := "profile_not_found"
  counts := none

/-- A check which fails allows. -/
def velocityError : VelocityCheck where
  allowed := true
  reason := "error"
  counts := none

/-- `check_velocity_limits`. -/
def checkVelocityLimits (userID : String) (windowMinutes : Int) :
    ProfileTask VelocityCheck := do
  match ← getProfile coerce userID with
  | none => pure profileNotFound
  | some profile =>
      match maxOrders profile with
      | .error _ => pure velocityError
      | .ok maxOrders =>
          match ← countRecentOrders userID windowMinutes with
          | .error _ => pure velocityError
          | .ok recentCount => pure (velocityOf maxOrders recentCount)

/-- `tier_scores.get(tier, 0.3)`. -/
def tierScore : Json → Float
  | .string "low" => 0.1
  | .string "standard" => 0.3
  | .string "elevated" => 0.6
  | .string "high" => 0.9
  | _ => 0.3

/-- The risk score of a profile. -/
def riskScoreOf (profile : Members) : Except String Float := do
  let tier ← readAttribute profile "risk_tier"
  let flags ← readAttribute profile "historical_flags"
  let status ← readAttribute profile "kyc_status"
  match flags with
  | .array flags =>
      let score := tierScore tier * 0.4
      let score := score + min (flags.length.toFloat * 0.1) 0.4
      let verified :=
        match status with
        | .string status => decide (status = "verified")
        | _ => false
      let score := if verified then score else score + 0.2
      return min score 1.0
  | _ => throw "object has no len()"

/-- `get_risk_score`. -/
def getRiskScore (userID : String) : ProfileTask Float := do
  match ← getProfile coerce userID with
  | none => pure 0.5
  | some profile =>
      match riskScoreOf profile with
      | .ok score => pure score
      | .error _ => pure 0.5

end Service

/-! ## Profiles are not made -/

/-- The fields which the model requires and the service does not give. -/
theorem missing_profileFields (userID : String) (data : Members) :
    RecordSchema.missing userProfile (profileFields userID data) =
      ["risk_tolerance", "trading_experience_years", "avg_daily_volume",
        "max_position_size"] := by
  rfl

/-- No profile is cached. -/
def NoneCached (memory : ProfileMemory) : Prop :=
  ∀ userID, memory.profileCache userID = none

section Ensures

variable (coerce : FieldType → Json → Option Json) (userID : String)

theorem fetchProfile_ensures :
    (fetchProfile coerce userID).Ensures NoneCached (· = none) := by
  refine (Coroutine.ensures_request _).bind fun answer _ => ?_
  rcases answer with error | _ | _ | ⟨member, rest⟩
  · exact Coroutine.ensures_pure rfl
  · exact Coroutine.ensures_pure rfl
  · exact Coroutine.ensures_pure rfl
  · have isMissing :
        "risk_tolerance" ∈
          RecordSchema.missing userProfile
            (profileFields userID (member :: rest)) := by
      rw [missing_profileFields]
      exact List.mem_cons_self
    dsimp only
    cases validated :
        RecordSchema.validate coerce userProfile
          (profileFields userID (member :: rest)) with
    | error errors => exact Coroutine.ensures_pure rfl
    | ok profile =>
        exact
          absurd validated
            (RecordSchema.validate_ne_ok_of_missing coerce userProfile _
              isMissing profile)

theorem getProfile_ensures :
    (getProfile coerce userID).Ensures NoneCached (· = none) := by
  refine Coroutine.ensures_read.bind fun memory noneCached => ?_
  rw [noneCached userID]
  exact fetchProfile_ensures coerce userID

theorem checkVelocityLimits_ensures (windowMinutes : Int) :
    (checkVelocityLimits coerce userID windowMinutes).Ensures NoneCached
      (· = profileNotFound) := by
  refine (getProfile_ensures coerce userID).bind ?_
  rintro _ rfl
  exact Coroutine.ensures_pure rfl

theorem getRiskScore_ensures :
    (getRiskScore coerce userID).Ensures NoneCached (· = 0.5) := by
  refine (getProfile_ensures coerce userID).bind ?_
  rintro _ rfl
  exact Coroutine.ensures_pure rfl

end Ensures

/-! ## The calls of the service -/

/-- A call of the service. -/
inductive ProfileCall where
  | getProfile (userID : String)
  | checkVelocityLimits (userID : String) (windowMinutes : Int)
  | getRiskScore (userID : String)

/-- What the calls return. -/
inductive ProfileResult where
  | profile (profile : Option Members)
  | velocity (check : VelocityCheck)
  | score (score : Float)

/-- A call as a task. -/
def profileTask (coerce : FieldType → Json → Option Json) :
    ProfileCall → ProfileTask ProfileResult
  | .getProfile userID => do
      let profile ← getProfile coerce userID
      pure (.profile profile)
  | .checkVelocityLimits userID windowMinutes => do
      let check ← checkVelocityLimits coerce userID windowMinutes
      pure (.velocity check)
  | .getRiskScore userID => do
      let score ← getRiskScore coerce userID
      pure (.score score)

/-- What a call returns for a user without a profile. -/
def withoutProfile : ProfileCall → ProfileResult
  | .getProfile _ => .profile none
  | .checkVelocityLimits _ _ => .velocity profileNotFound
  | .getRiskScore _ => .score 0.5

theorem profileTask_ensures (coerce : FieldType → Json → Option Json)
    (call : ProfileCall) :
    (profileTask coerce call).Ensures NoneCached (· = withoutProfile call) := by
  cases call with
  | getProfile userID =>
      refine (getProfile_ensures coerce userID).bind ?_
      rintro _ rfl
      exact Coroutine.ensures_pure rfl
  | checkVelocityLimits userID windowMinutes =>
      refine (checkVelocityLimits_ensures coerce userID windowMinutes).bind ?_
      rintro _ rfl
      exact Coroutine.ensures_pure rfl
  | getRiskScore userID =>
      refine (getRiskScore_ensures coerce userID).bind ?_
      rintro _ rfl
      exact Coroutine.ensures_pure rfl

/-- A new service with its calls. -/
def newProfileService {Client : Type} (coerce : FieldType → Json → Option Json)
    (clock : Nat → Int) (calls : Client → ProfileCall) :
    EventLoop Client ProfileMemory ProfileAnswer ProfileResult :=
  .start { profileCache := fun _ => none, clock }
    fun client => profileTask coerce (calls client)

/--
Whatever the database answers and however the calls take turns, no profile is
cached or returned, every check of the velocity allows and every risk score is
the default; and a call which is resumed often enough returns.
-/
theorem profiles_never_made {Client : Type} [DecidableEq Client]
    (coerce : FieldType → Json → Option Json) (clock : Nat → Int)
    (calls : Client → ProfileCall)
    (schedule :
      List (Client × ((request : ProfileRequest) → ProfileAnswer request))) :
    let reached := (newProfileService coerce clock calls).resumeAll schedule
    (∀ userID, reached.memory.profileCache userID = none) ∧
      (∀ client result, reached.tasks client = .done result →
        result = withoutProfile (calls client)) ∧
      ∀ client answers, ∃ count,
        (reached.resumeAll (List.replicate count (client, answers))).tasks
            client =
          .done (withoutProfile (calls client)) := by
  have initially :
      (newProfileService coerce clock calls).Guarantees NoneCached
        fun client => (· = withoutProfile (calls client)) :=
    ⟨fun _ => rfl, fun client => profileTask_ensures coerce (calls client)⟩
  have guarantees := initially.resumeAll schedule
  refine ⟨guarantees.memory, fun client result => guarantees.returned, ?_⟩
  intro client answers
  obtain ⟨count, result, isDone⟩ :=
    EventLoop.exists_done
      ((newProfileService coerce clock calls).resumeAll schedule) client
      answers
  have isDefault := (guarantees.resumeAll _).returned isDone
  exact ⟨count, isDone.trans (congrArg _ isDefault)⟩

end AeroRisk.Guardrail.Agent2
