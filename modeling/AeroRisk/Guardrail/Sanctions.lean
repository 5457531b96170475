import AeroRisk.Library.EventLoop
import AeroRisk.Library.LabelledRun

/-!
# Sanctions screening

`screen_user` reads its cache, awaits the details of the user from Postgres and
then one search in Qdrant for every identifier among them, and stores what it
found in the cache.  Every await may raise an exception, and the screening of
an identifier turns it into the absence of a match.

The class of the matches is a parameter here; the one of the repository has a
module of its own.
-/

namespace AeroRisk.Guardrail.Agent2

open AeroRisk.Library

/-- What `get_user_details` returns: a value or `None` for each of its keys. -/
abbrev UserInfo :=
  List (String × Option String)

/-- A point which a search found; it may be without a payload. -/
structure Hit (Value Score : Type) where
  payload : Option (List (String × Value))
  score : Score

/-- The requests to Postgres and Qdrant. -/
inductive Request (Score : Type) where
  | getUserDetails (userID : String)
  | searchSimilar (collectionName queryText : String) (limit : Nat)
      (scoreThreshold : Score)

/-- An exception, or what the request returns. -/
@[reducible]
def Answer (Value Score : Type) : Request Score → Type
  | .getUserDetails _ => Except String (Option UserInfo)
  | .searchSimilar _ _ _ _ => Except String (List (Hit Value Score))

variable {Value Score Match : Type}

/-- `payload.get(key, default)`. -/
def Hit.get (hit : Hit Value Score) (key : String) (default : Value) :
    Except String Value :=
  match hit.payload with
  | none => .error "'NoneType' object has no attribute 'get'"
  | some payload => .ok ((payload.lookup key).getD default)

/--
A class of matches: the strings among the values of its fields, and its
constructor, which may raise an exception.
-/
structure MatchClass (Value Score Match : Type) where
  string : String → Value
  construct (matchedName listSource : Value) (matchScore : Score)
      (entityID : Value) :
    Except String Match

/-- The match for a point, with a default for its list. -/
def MatchClass.matchOf (matchClass : MatchClass Value Score Match)
    (defaultListSource : String) (hit : Hit Value Score) :
    Except String Match := do
  let matchedName ← hit.get "name" (matchClass.string "")
  let listSource ←
    hit.get "list_source" (matchClass.string defaultListSource)
  let entityID ← hit.get "entity_id" (matchClass.string "")
  matchClass.construct matchedName listSource hit.score entityID

/-- The match for the first point of a search, if there is one. -/
def MatchClass.topMatch (matchClass : MatchClass Value Score Match)
    (defaultListSource : String) :
    Except String (List (Hit Value Score)) → Option Match
  | .error _ => none
  | .ok [] => none
  | .ok (hit :: _) => (matchClass.matchOf defaultListSource hit).toOption

/-- `_match_cache`. -/
abbrev Cache (Match : Type) :=
  String → Option (Option Match × Bool)

/-- A coroutine of a `SanctionsScreener`. -/
abbrev Screening (Value Score Match : Type) :=
  Coroutine (Cache Match) (Answer Value Score)

/-- `SanctionsScreener`: its parameters. -/
structure SanctionsScreener (Value Score Match : Type)
    [OfScientific Score] where
  matchClass : MatchClass Value Score Match
  threshold : Score := 0.85

namespace SanctionsScreener

/-- The identifiers of a user which are neither `None` nor empty. -/
def identifiers (userInfo : UserInfo) : List String :=
  let fields :=
    ["full_name", "email", "phone", "passport_number", "national_id"]
  (fields.filterMap fun field => (userInfo.lookup field).join).filter
    fun identifier => identifier ≠ ""

/-- Store an entry in the cache. -/
def store (userID : String) (entry : Option Match × Bool) :
    Screening Value Score Match PUnit :=
  Coroutine.modify fun cache => Function.update cache userID (some entry)

variable [OfScientific Score] (screener : SanctionsScreener Value Score Match)

/-- The search for an identifier. -/
def search (identifier : String) : Request Score :=
  .searchSimilar "sanctions_list" identifier 3 screener.threshold

/-- `_screen_identifier`. -/
def screenIdentifier (identifier : String) :
    Screening Value Score Match (Option Match) := do
  let results ← Coroutine.request (screener.search identifier)
  return screener.matchClass.topMatch "UNKNOWN" results

/-- The loop of `screen_user` over the identifiers, and what follows it. -/
def screenIdentifiers (userID : String) :
    List String → Screening Value Score Match (Bool × Option Match)
  | [] => do
      store userID (none, false)
      return (false, none)
  | identifier :: identifiers => do
      match ← screener.screenIdentifier identifier with
      | some found =>
          store userID (some found, true)
          return (true, some found)
      | none => screenIdentifiers userID identifiers

/-- `screen_user` with the details of the user. -/
def screenDetails (userID : String) :
    Except String (Option UserInfo) →
      Screening Value Score Match (Bool × Option Match)
  | .error _ => return (false, none)
  | .ok none => return (false, none)
  | .ok (some userInfo) =>
      if userInfo.isEmpty then
        return (false, none)
      else
        screener.screenIdentifiers userID (identifiers userInfo)

/-- `screen_user` after its look into the cache. -/
def screenUncleared (userID : String) :
    Screening Value Score Match (Bool × Option Match) := do
  let userInfo ← Coroutine.request (.getUserDetails userID)
  screener.screenDetails userID userInfo

/-- `screen_user`. -/
def screenUser (userID : String) :
    Screening Value Score Match (Bool × Option Match) := do
  match (← Coroutine.read) userID with
  | some (_, false) => return (false, none)
  | _ => screener.screenUncleared userID

/-- `clear_cache`. -/
def clearCache (userID : Option String) (cache : Cache Match) : Cache Match :=
  match userID with
  | none => fun _ => none
  | some userID =>
      if userID = "" then
        fun _ => none
      else
        Function.update cache userID none

/-! ## The sections between two awaits -/

/-- The places at which a call of `screen_user` can be. -/
inductive Place (userID : String) :
    Screening Value Score Match (Bool × Option Match) → Prop where
  | called : Place userID (screener.screenUser userID)
  | details : Place userID (screener.screenUncleared userID)
  | identifier (identifier : String) (rest : List String) :
      Place userID
        (screener.screenIdentifiers userID (identifier :: rest))
  | returned (outcome : Bool × Option Match) : Place userID (.done outcome)

/-- What a call does from its place up to its next await. -/
inductive Turn (userID : String)
    (answers : (request : Request Score) → Answer Value Score request)
    (cache : Cache Match) :
    Screening Value Score Match (Bool × Option Match) →
      Screening Value Score Match (Bool × Option Match) × Cache Match →
        Prop where
  | cleared {entry : Option Match}
      (cached : cache userID = some (entry, false)) :
      Turn userID answers cache (screener.screenUser userID)
        (.done (false, none), cache)
  | uncleared (uncached : ∀ entry, cache userID ≠ some (entry, false)) :
      Turn userID answers cache (screener.screenUser userID)
        (screener.screenUncleared userID, cache)
  | unknown
      (noDetails :
        ∀ userInfo, answers (.getUserDetails userID) = .ok (some userInfo) →
          userInfo = []) :
      Turn userID answers cache (screener.screenUncleared userID)
        (.done (false, none), cache)
  | known {userInfo : UserInfo}
      (details : answers (.getUserDetails userID) = .ok (some userInfo))
      (nonempty : userInfo ≠ []) :
      Turn userID answers cache (screener.screenUncleared userID)
        ((screener.screenIdentifiers userID
          (identifiers userInfo)).untilAwait cache)
  | matched {identifier : String} {rest : List String} {found : Match}
      (isMatch :
        screener.matchClass.topMatch "UNKNOWN"
          (answers (screener.search identifier)) = some found) :
      Turn userID answers cache
        (screener.screenIdentifiers userID (identifier :: rest))
        (.done (true, some found),
          Function.update cache userID (some (some found, true)))
  | unmatched {identifier : String} {rest : List String}
      (noMatch :
        screener.matchClass.topMatch "UNKNOWN"
          (answers (screener.search identifier)) = none) :
      Turn userID answers cache
        (screener.screenIdentifiers userID (identifier :: rest))
        ((screener.screenIdentifiers userID rest).untilAwait cache)
  | returned (outcome : Bool × Option Match) :
      Turn userID answers cache (.done outcome) (.done outcome, cache)

variable {screener}
    {answers : (request : Request Score) → Answer Value Score request}
    {userID other : String} {cache : Cache Match}
    {task : Screening Value Score Match (Bool × Option Match)}
    {after : Screening Value Score Match (Bool × Option Match) × Cache Match}

/-- After the last identifier the negative result is stored. -/
theorem untilAwait_screenIdentifiers_nil :
    (screener.screenIdentifiers userID []).untilAwait cache =
      (.done (false, none),
        Function.update cache userID (some (none, false))) :=
  rfl

/-- Before an identifier the call awaits its search. -/
theorem untilAwait_screenIdentifiers_cons (identifier : String)
    (rest : List String) :
    (screener.screenIdentifiers userID (identifier :: rest)).untilAwait
        cache =
      (screener.screenIdentifiers userID (identifier :: rest), cache) :=
  rfl

theorem screenIdentifiers_cons (identifier : String) (rest : List String) :
    screener.screenIdentifiers userID (identifier :: rest) =
      Coroutine.request (screener.search identifier) >>= fun results =>
        match screener.matchClass.topMatch "UNKNOWN" results with
        | some found => do
            store userID (some found, true)
            return (true, some found)
        | none => screener.screenIdentifiers userID rest :=
  rfl

section Resumed

variable (screener userID answers cache)

/-- A call returns at once when the user is cleared in the cache. -/
theorem resume_screenUser :
    (∃ entry, cache userID = some (entry, false)) ∧
        (screener.screenUser userID).resume answers cache =
          (.done (false, none), cache) ∨
      (∀ entry, cache userID ≠ some (entry, false)) ∧
        (screener.screenUser userID).resume answers cache =
          (screener.screenUncleared userID, cache) := by
  rw [screenUser, Coroutine.resume_read_bind]
  split
  · next entry cached => exact Or.inl ⟨⟨entry, cached⟩, rfl⟩
  · next uncached => exact Or.inr ⟨uncached, rfl⟩

/-- With the details of the user a call goes on to the identifiers. -/
theorem resume_screenUncleared :
    (∀ userInfo, answers (.getUserDetails userID) = .ok (some userInfo) →
          userInfo = []) ∧
        (screener.screenUncleared userID).resume answers cache =
          (.done (false, none), cache) ∨
      ∃ userInfo,
        answers (.getUserDetails userID) = .ok (some userInfo) ∧
          userInfo ≠ [] ∧
            (screener.screenUncleared userID).resume answers cache =
              (screener.screenIdentifiers userID
                (identifiers userInfo)).untilAwait cache := by
  rw [screenUncleared, Coroutine.resume_request_bind]
  cases details : answers (.getUserDetails userID) with
  | error error => simp [screenDetails]
  | ok userInfo =>
      cases userInfo with
      | none => simp [screenDetails]
      | some userInfo =>
          cases userInfo with
          | nil => simp [screenDetails]
          | cons field fields => simp [screenDetails]

/-- With the answer of a search a call returns or goes on. -/
theorem resume_screenIdentifiers (identifier : String) (rest : List String) :
    (∃ found,
        screener.matchClass.topMatch "UNKNOWN"
              (answers (screener.search identifier)) = some found ∧
          (screener.screenIdentifiers userID
              (identifier :: rest)).resume answers cache =
            (.done (true, some found),
              Function.update cache userID (some (some found, true)))) ∨
      screener.matchClass.topMatch "UNKNOWN"
            (answers (screener.search identifier)) = none ∧
        (screener.screenIdentifiers userID
            (identifier :: rest)).resume answers cache =
          (screener.screenIdentifiers userID rest).untilAwait cache := by
  rw [screenIdentifiers_cons, Coroutine.resume_request_bind]
  cases found :
      screener.matchClass.topMatch "UNKNOWN"
        (answers (screener.search identifier)) with
  | some result => exact Or.inl ⟨result, rfl, rfl⟩
  | none => exact Or.inr ⟨rfl, rfl⟩

end Resumed

/-- The section which a call runs when it is resumed. -/
theorem Place.turn (place : screener.Place userID task) :
    screener.Turn userID answers cache task (task.resume answers cache) := by
  cases place with
  | called =>
      rcases resume_screenUser screener answers userID cache with
        ⟨⟨entry, cached⟩, after⟩ | ⟨uncached, after⟩ <;> rw [after]
      · exact .cleared cached
      · exact .uncleared uncached
  | details =>
      rcases resume_screenUncleared screener answers userID cache with
        ⟨noDetails, after⟩ | ⟨userInfo, details, nonempty, after⟩ <;>
        rw [after]
      · exact .unknown noDetails
      · exact .known details nonempty
  | identifier identifier rest =>
      rcases resume_screenIdentifiers screener answers userID cache identifier
          rest with
        ⟨found, isMatch, after⟩ | ⟨noMatch, after⟩ <;> rw [after]
      · exact .matched isMatch
      · exact .unmatched noMatch
  | returned outcome => exact .returned outcome

theorem place_screenIdentifiers (identifiers : List String) :
    screener.Place userID
      ((screener.screenIdentifiers userID identifiers).untilAwait cache).1 := by
  cases identifiers with
  | nil => exact .returned _
  | cons identifier rest => exact .identifier identifier rest

/-- A call which runs a section is at a place again. -/
theorem Turn.place
    (turn : screener.Turn userID answers cache task after) :
    screener.Place userID after.1 := by
  cases turn with
  | cleared cached => exact .returned _
  | uncleared uncached => exact .details
  | unknown noDetails => exact .returned _
  | known details nonempty => exact place_screenIdentifiers _
  | matched isMatch => exact .returned _
  | unmatched noMatch => exact place_screenIdentifiers _
  | returned outcome => exact .returned outcome

/-- What remains to be screened after a section leaves other users alone. -/
theorem untilAwait_screenIdentifiers_of_ne (isOther : other ≠ userID)
    (identifiers : List String) :
    ((screener.screenIdentifiers userID identifiers).untilAwait cache).2
        other =
      cache other := by
  cases identifiers with
  | nil => exact Function.update_of_ne isOther _ _
  | cons identifier rest => rfl

/-- A call does not touch the entries of other users. -/
theorem Turn.cache_of_ne (turn : screener.Turn userID answers cache task after)
    (isOther : other ≠ userID) :
    after.2 other = cache other := by
  cases turn with
  | cleared cached => rfl
  | uncleared uncached => rfl
  | unknown noDetails => rfl
  | known details nonempty => exact untilAwait_screenIdentifiers_of_ne isOther _
  | matched isMatch => exact Function.update_of_ne isOther _ _
  | unmatched noMatch => exact untilAwait_screenIdentifiers_of_ne isOther _
  | returned outcome => rfl

/-! ## Runs -/

/-- The calls of `screen_user`, the cache and the answers of the backends. -/
abbrev Screenings (Client Value Score Match : Type) :=
  EventLoop Client (Cache Match) (Answer Value Score) (Bool × Option Match)

/-- A call is resumed with answers of the backends, or the cache is cleared. -/
inductive Step (Client Value Score : Type) where
  | resume (client : Client)
      (answers : (request : Request Score) → Answer Value Score request)
  | clearCache (userID : Option String)

variable {Client : Type}

/-- The cache is cleared for the user. -/
def Step.Clears (userID : String) : Step Client Value Score → Prop
  | .resume _ _ => False
  | .clearCache cleared =>
      cleared = some userID ∨ cleared = some "" ∨ cleared = none

instance decidableClears (userID : String) :
    ∀ step : Step Client Value Score, Decidable (step.Clears userID)
  | .resume _ _ => isFalse id
  | .clearCache _ => inferInstanceAs (Decidable (_ ∨ _))

/-- The calls, each for a user, before any of them runs. -/
def initial (screener : SanctionsScreener Value Score Match)
    (users : Client → String) : Screenings Client Value Score Match :=
  EventLoop.start (fun _ => none) fun client =>
    screener.screenUser (users client)

variable [DecidableEq Client]

/-- The calls and the cache after a step. -/
def next (screenings : Screenings Client Value Score Match) :
    Step Client Value Score → Screenings Client Value Score Match
  | .resume client answers => screenings.resume client answers
  | .clearCache userID =>
      { screenings with memory := clearCache userID screenings.memory }

/-- The user and the result of the call which a step makes return. -/
def emit (users : Client → String)
    (screenings : Screenings Client Value Score Match) :
    Step Client Value Score → Option (String × Bool × Option Match)
  | .resume client answers =>
      (screenings.returns client answers).map fun outcome =>
        (users client, outcome)
  | .clearCache _ => none

/-- Every call is at one of its places. -/
def InPlace (screener : SanctionsScreener Value Score Match)
    (users : Client → String)
    (screenings : Screenings Client Value Score Match) : Prop :=
  ∀ client, screener.Place (users client) (screenings.tasks client)

theorem InPlace.next {users : Client → String}
    {screenings : Screenings Client Value Score Match}
    (inPlace : InPlace screener users screenings)
    (step : Step Client Value Score) :
    InPlace screener users (next screenings step) := by
  intro client
  cases step with
  | clearCache userID => exact inPlace client
  | resume resumed answers =>
      by_cases isResumed : client = resumed
      · subst isResumed
        rw [SanctionsScreener.next, EventLoop.tasks_resume_self]
        exact (inPlace client).turn.place
      · rw [SanctionsScreener.next, EventLoop.tasks_resume_of_ne isResumed]
        exact inPlace client

/-- In every run every call is at one of its places. -/
theorem inPlace_run (screener : SanctionsScreener Value Score Match)
    (users : Client → String) (steps : List (Step Client Value Score)) :
    InPlace screener users
      (LabelledRun.run next (initial screener users) steps) :=
  LabelledRun.run_invariant_of_every
    (fun _ step inPlace => inPlace.next step) steps fun _ => .called

variable {users : Client → String}
    {screenings : Screenings Client Value Score Match}

/-- A step of a call leaves the cache entries of other users as they were. -/
theorem memory_next_of_ne (inPlace : InPlace screener users screenings)
    {client : Client}
    {answers : (request : Request Score) → Answer Value Score request}
    (isOther : userID ≠ users client) :
    (next screenings (.resume client answers)).memory userID =
      screenings.memory userID :=
  (inPlace client).turn.cache_of_ne isOther

omit [OfScientific Score] in
/-- Clearing the cache removes the entries for which it is cleared. -/
theorem memory_next_clearCache (cleared : Option String) :
    (next screenings (.clearCache cleared)).memory userID =
      if (Step.clearCache cleared : Step Client Value Score).Clears userID then
        none
      else
        screenings.memory userID := by
  rw [next]
  cases cleared with
  | none => simp [clearCache, Step.Clears]
  | some other =>
      by_cases isEmpty : other = ""
      · simp [clearCache, Step.Clears, isEmpty]
      · by_cases isOther : userID = other
        · simp [clearCache, Step.Clears, isEmpty, isOther]
        · simp [clearCache, Step.Clears, isEmpty, isOther, Ne.symm isOther]

end SanctionsScreener

end AeroRisk.Guardrail.Agent2
