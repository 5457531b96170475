import AeroRisk.Guardrail.SanctionsMatch

/-!
# Hits of the sanctions screening

A call which found a match stores it in the cache, but a later call for the
user screens again, and what it finds then is what it returns and stores.  For
any class of matches it is known in which runs a hit stays all the same; with
the class of the repository there is no hit.
-/

namespace AeroRisk.Guardrail.Agent2

open AeroRisk.Event
open AeroRisk.Guardrail
open AeroRisk.Library

variable {Client Value Score Match : Type} [OfScientific Score]

namespace SanctionsScreener

/-- The cache holds a match for the user. -/
def Blocked (userID : String) (cache : Cache Match) : Prop :=
  ∃ found, cache userID = some (some found, true)

/--
The answers do not end a call without a match: details with an identifier,
and a match for the last identifier.
-/
structure Confirmed (screener : SanctionsScreener Value Score Match)
    (userID : String)
    (answers : (request : Request Score) → Answer Value Score request)
    (task : Screening Value Score Match (Bool × Option Match)) : Prop where
  details :
    task = screener.screenUncleared userID →
      ∃ userInfo,
        answers (.getUserDetails userID) = .ok (some userInfo) ∧
          identifiers userInfo ≠ []
  lastIdentifier :
    ∀ identifier, task = screener.screenIdentifiers userID [identifier] →
      ∃ found,
        screener.matchClass.topMatch "UNKNOWN"
          (answers (screener.search identifier)) = some found

section Turns

variable {screener : SanctionsScreener Value Score Match}
    {userID other : String} {cache : Cache Match}
    {answers : (request : Request Score) → Answer Value Score request}
    {task : Screening Value Score Match (Bool × Option Match)}
    {after : Screening Value Score Match (Bool × Option Match) × Cache Match}

theorem not_blocked_of_negative {entry : Option Match}
    (cached : cache userID = some (entry, false)) :
    ¬ Blocked userID cache := by
  rintro ⟨found, blocked⟩
  simp [cached] at blocked

/-- With identifiers left, a call neither returns nor stores. -/
theorem awaits_of_ne_nil {identifiers : List String}
    (nonempty : identifiers ≠ []) :
    ((screener.screenIdentifiers userID identifiers).untilAwait
        cache).1.value? = none ∧
      ((screener.screenIdentifiers userID identifiers).untilAwait
        cache).2 = cache := by
  cases identifiers with
  | nil => exact absurd rfl nonempty
  | cons identifier rest => exact ⟨rfl, rfl⟩

/-- Confirming details have an identifier. -/
theorem Confirmed.identifiers_ne_nil {userInfo : UserInfo}
    (confirmed :
      Confirmed screener userID answers (screener.screenUncleared userID))
    (details : answers (.getUserDetails userID) = .ok (some userInfo)) :
    identifiers userInfo ≠ [] := by
  obtain ⟨confirming, given, someIdentifier⟩ := confirmed.details rfl
  cases details.symm.trans given
  exact someIdentifier

/-- An identifier without a match is not the last one of a confirmed call. -/
theorem Confirmed.rest_ne_nil {identifier : String} {rest : List String}
    (confirmed :
      Confirmed screener userID answers
        (screener.screenIdentifiers userID (identifier :: rest)))
    (noMatch :
      screener.matchClass.topMatch "UNKNOWN"
        (answers (screener.search identifier)) = none) :
    rest ≠ [] := by
  rintro rfl
  obtain ⟨found, isMatch⟩ := confirmed.lastIdentifier identifier rfl
  cases noMatch.symm.trans isMatch

/-- A call whose answers confirm a cached match leaves it in the cache. -/
theorem Turn.blocked_of_confirmed
    (turn : screener.Turn userID answers cache task after)
    (blocked : Blocked userID cache)
    (confirmed : Confirmed screener userID answers task) :
    Blocked userID after.2 := by
  cases turn with
  | cleared cached => exact blocked
  | uncleared uncached => exact blocked
  | unknown noDetails => exact blocked
  | known details nonempty =>
      have someIdentifier := confirmed.identifiers_ne_nil details
      rw [(awaits_of_ne_nil someIdentifier).2]
      exact blocked
  | matched isMatch => exact ⟨_, Function.update_self _ _ _⟩
  | unmatched noMatch =>
      have identifiersLeft := confirmed.rest_ne_nil noMatch
      rw [(awaits_of_ne_nil identifiersLeft).2]
      exact blocked
  | returned outcome => exact blocked

/-- Such a call does not return without a match. -/
theorem Turn.returns_of_confirmed
    (turn : screener.Turn userID answers cache task after)
    (blocked : Blocked userID cache)
    (confirmed : Confirmed screener userID answers task)
    {outcome : Bool × Option Match} (running : task.value? = none)
    (returns : after.1.value? = some outcome) : outcome.1 = true := by
  cases turn with
  | cleared cached => exact absurd blocked (not_blocked_of_negative cached)
  | uncleared uncached => cases returns
  | unknown noDetails =>
      obtain ⟨userInfo, given, someIdentifier⟩ := confirmed.details rfl
      cases noDetails userInfo given
      exact absurd rfl someIdentifier
  | known details nonempty =>
      have someIdentifier := confirmed.identifiers_ne_nil details
      rw [(awaits_of_ne_nil someIdentifier).1] at returns
      cases returns
  | matched isMatch => cases returns; rfl
  | unmatched noMatch =>
      have identifiersLeft := confirmed.rest_ne_nil noMatch
      rw [(awaits_of_ne_nil identifiersLeft).1] at returns
      cases returns
  | returned result => cases running

/-- A call which returns a match has stored it. -/
theorem Turn.stored_of_match
    (turn : screener.Turn userID answers cache task after)
    (running : task.value? = none) {found : Match}
    (returns : after.1.value? = some (true, some found)) :
    Blocked userID after.2 := by
  cases turn with
  | cleared cached => cases returns
  | uncleared uncached => cases returns
  | unknown noDetails => cases returns
  | @known userInfo details nonempty =>
      cases found : identifiers userInfo <;> rw [found] at returns <;>
        cases returns
  | matched isMatch => exact ⟨_, Function.update_self _ _ _⟩
  | @unmatched identifier rest noMatch => cases rest <;> cases returns
  | returned result => cases running

/-- A match in the cache was there before, or is one which is returned. -/
theorem Turn.blocked_or_match
    (turn : screener.Turn userID answers cache task after)
    (blocked : Blocked userID after.2) :
    Blocked userID cache ∨
      task.value? = none ∧
        ∃ found, after.1.value? = some (true, some found) := by
  cases turn with
  | cleared cached => exact Or.inl blocked
  | uncleared uncached => exact Or.inl blocked
  | unknown noDetails => exact Or.inl blocked
  | @known userInfo details nonempty =>
      cases identified : identifiers userInfo with
      | nil =>
          rw [identified, untilAwait_screenIdentifiers_nil] at blocked
          exact absurd blocked
            (not_blocked_of_negative (Function.update_self _ _ _))
      | cons identifier rest =>
          rw [identified, untilAwait_screenIdentifiers_cons] at blocked
          exact Or.inl blocked
  | matched isMatch => exact Or.inr ⟨rfl, _, rfl⟩
  | @unmatched identifier rest noMatch =>
      cases rest with
      | nil =>
          exact absurd blocked
            (not_blocked_of_negative (Function.update_self _ _ _))
      | cons identifier rest => exact Or.inl blocked
  | returned outcome => exact Or.inl blocked

/-- Without any identifier a call returns without a match. -/
theorem returns_of_no_identifier
    (noIdentifier :
      ∀ userInfo, answers (.getUserDetails userID) = .ok (some userInfo) →
        identifiers userInfo = []) :
    ((screener.screenUncleared userID).resume answers cache).1.value? =
      some (false, none) := by
  rcases resume_screenUncleared screener answers userID cache with
    ⟨-, after⟩ | ⟨userInfo, details, -, after⟩ <;> rw [after]
  · rfl
  · rw [noIdentifier userInfo details]
    rfl

/-- Without the confirming answers a call returns without a match. -/
theorem returns_of_not_confirmed
    (unconfirmed : ¬ Confirmed screener userID answers task) :
    task.value? = none ∧
      (task.resume answers cache).1.value? = some (false, none) := by
  by_cases noIdentifier :
      task = screener.screenUncleared userID ∧
        ∀ userInfo, answers (.getUserDetails userID) = .ok (some userInfo) →
          identifiers userInfo = []
  · obtain ⟨rfl, noIdentifier⟩ := noIdentifier
    exact ⟨rfl, returns_of_no_identifier noIdentifier⟩
  by_cases noMatch :
      ∃ identifier,
        task = screener.screenIdentifiers userID [identifier] ∧
          screener.matchClass.topMatch "UNKNOWN"
            (answers (screener.search identifier)) = none
  · obtain ⟨identifier, rfl, noMatch⟩ := noMatch
    refine ⟨rfl, ?_⟩
    rw [screenIdentifiers_cons, Coroutine.resume_request_bind, noMatch]
    rfl
  refine absurd ⟨fun awaitsDetails => ?_, fun identifier awaits => ?_⟩
    unconfirmed
  · by_contra noDetails
    refine noIdentifier ⟨awaitsDetails, fun userInfo given => ?_⟩
    by_contra nonempty
    exact noDetails ⟨userInfo, given, nonempty⟩
  · exact
      Option.ne_none_iff_exists'.mp fun isNone =>
        noMatch ⟨identifier, awaits, isNone⟩

end Turns

variable [DecidableEq Client]

/--
A call for a user with a match in the cache is not answered in a way which
ends it without a match.
-/
def Confirms (screener : SanctionsScreener Value Score Match)
    (users : Client → String)
    (screenings : Screenings Client Value Score Match) :
    Step Client Value Score → Prop
  | .clearCache _ => True
  | .resume client answers =>
      Blocked (users client) screenings.memory →
        Confirmed screener (users client) answers (screenings.tasks client)

section Steps

variable {screener : SanctionsScreener Value Score Match}
    {users : Client → String} {userID : String}
    {screenings : Screenings Client Value Score Match}
    {step : Step Client Value Score}

/-- A confirmed match stays in the cache until it is cleared. -/
theorem blocked_next (inPlace : InPlace screener users screenings)
    (blocked : Blocked userID screenings.memory)
    (confirms : Confirms screener users screenings step)
    (kept : ¬ step.Clears userID) :
    Blocked userID (next screenings step).memory := by
  cases step with
  | resume client answers =>
      by_cases isUser : userID = users client
      · subst isUser
        exact
          (inPlace client).turn.blocked_of_confirmed blocked
            (confirms blocked)
      · rw [Blocked, memory_next_of_ne inPlace isUser]
        exact blocked
  | clearCache cleared =>
      rw [Blocked, memory_next_clearCache, if_neg kept]
      exact blocked

omit [OfScientific Score] [DecidableEq Client] in
/-- What a step returns, it returns for the user of the resumed call. -/
theorem emit_eq_some_iff {outcome : Bool × Option Match} :
    emit users screenings step = some (userID, outcome) ↔
      ∃ client answers,
        step = .resume client answers ∧ users client = userID ∧
          (screenings.tasks client).value? = none ∧
            ((screenings.tasks client).resume answers
              screenings.memory).1.value? = some outcome := by
  cases step with
  | clearCache cleared => simp [emit]
  | resume client answers =>
      simp only [emit, Option.map_eq_some_iff, EventLoop.returns_eq_some,
        Prod.mk.injEq, ← Coroutine.value?_eq_some]
      constructor
      · rintro ⟨_, returns, sameUser, rfl⟩
        exact ⟨client, answers, rfl, sameUser, returns⟩
      · rintro ⟨_, _, same, sameUser, returns⟩
        cases same
        exact ⟨outcome, returns, sameUser, rfl⟩

/-- A returned match is in the cache. -/
theorem blocked_of_emit (inPlace : InPlace screener users screenings)
    {found : Match}
    (hit : emit users screenings step = some (userID, true, some found)) :
    Blocked userID (next screenings step).memory := by
  obtain ⟨client, answers, rfl, rfl, running, returns⟩ :=
    emit_eq_some_iff.mp hit
  exact (inPlace client).turn.stored_of_match running returns

/-- A match in the cache stayed there or was just returned. -/
theorem blocked_source (inPlace : InPlace screener users screenings)
    (blocked : Blocked userID (next screenings step).memory) :
    Blocked userID screenings.memory ∧ ¬ step.Clears userID ∨
      ∃ found,
        emit users screenings step = some (userID, true, some found) := by
  cases step with
  | resume client answers =>
      by_cases isUser : userID = users client
      · subst isUser
        rcases (inPlace client).turn.blocked_or_match blocked with
          before | ⟨running, found, returns⟩
        · exact Or.inl ⟨before, id⟩
        · exact
            Or.inr
              ⟨found,
                emit_eq_some_iff.mpr
                  ⟨client, answers, rfl, rfl, running, returns⟩⟩
      · rw [Blocked, memory_next_of_ne inPlace isUser] at blocked
        exact Or.inl ⟨blocked, id⟩
  | clearCache cleared =>
      rw [Blocked, memory_next_clearCache] at blocked
      split at blocked
      · obtain ⟨found, cached⟩ := blocked
        cases cached
      · next kept => exact Or.inl ⟨blocked, kept⟩

omit [DecidableEq Client] in
/-- A call for a user with a confirmed match does not return without one. -/
theorem isBlocked_of_confirms (inPlace : InPlace screener users screenings)
    (blocked : Blocked userID screenings.memory)
    (confirms : Confirms screener users screenings step)
    {outcome : Bool × Option Match}
    (returns : emit users screenings step = some (userID, outcome)) :
    outcome.1 = true := by
  obtain ⟨client, answers, rfl, rfl, running, returns⟩ :=
    emit_eq_some_iff.mp returns
  exact
    (inPlace client).turn.returns_of_confirmed blocked (confirms blocked)
      running returns

omit [DecidableEq Client] in
/-- An unconfirmed step returns without a match despite one in the cache. -/
theorem emit_of_not_confirms
    (unconfirmed : ¬ Confirms screener users screenings step) :
    ∃ userID,
      Blocked userID screenings.memory ∧
        emit users screenings step = some (userID, false, none) := by
  cases step with
  | clearCache cleared => exact absurd trivial unconfirmed
  | resume client answers =>
      rw [Confirms, Classical.not_imp] at unconfirmed
      obtain ⟨blocked, unconfirmed⟩ := unconfirmed
      exact
        ⟨users client, blocked,
          emit_eq_some_iff.mpr
            ⟨client, answers, rfl, rfl,
              returns_of_not_confirmed unconfirmed⟩⟩

end Steps

open LabelledRun

/--
Once a call for a user has returned a match, and until the cache is cleared
for the user, every call for the user which returns is blocked.
-/
def HitsStay (screener : SanctionsScreener Value Score Match)
    (users : Client → String) (steps : List (Step Client Value Score)) :
    Prop :=
  ∀ earlier hit between step later userID found isBlocked result,
    steps = earlier ++ hit :: between ++ step :: later →
    emit users (run next (initial screener users) earlier) hit =
        some (userID, true, some found) →
      (∀ other ∈ between, ¬ other.Clears userID) →
        emit users
            (run next (initial screener users) (earlier ++ hit :: between))
            step =
          some (userID, isBlocked, result) →
        isBlocked = true

variable {screener : SanctionsScreener Value Score Match}
    {users : Client → String}

/-- A match in the cache was returned since the cache was last cleared. -/
theorem exists_hit_of_blocked {userID : String}
    (steps : List (Step Client Value Score))
    (blocked :
      Blocked userID (run next (initial screener users) steps).memory) :
    ∃ earlier hit between found,
      steps = earlier ++ hit :: between ∧
        emit users (run next (initial screener users) earlier) hit =
            some (userID, true, some found) ∧
          ∀ other ∈ between, ¬ other.Clears userID := by
  induction steps using List.reverseRecOn with
  | nil =>
      obtain ⟨found, cached⟩ := blocked
      cases cached
  | append_singleton steps step inductionHypothesis =>
      rw [run_append] at blocked
      rcases blocked_source (inPlace_run screener users steps) blocked with
        ⟨before, kept⟩ | ⟨found, hit⟩
      · obtain ⟨earlier, hit, between, found, rfl, isHit, allKept⟩ :=
          inductionHypothesis before
        refine ⟨earlier, hit, between ++ [step], found, by simp, isHit, ?_⟩
        intro other member
        rcases List.mem_append.mp member with old | new
        · exact allKept other old
        · cases List.mem_singleton.mp new
          exact kept
      · exact ⟨steps, step, [], found, rfl, hit, by simp⟩

/-- A confirmed match is in the cache as long as it is not cleared. -/
theorem blocked_run {userID : String}
    {screenings : Screenings Client Value Score Match}
    {steps : List (Step Client Value Score)}
    (inPlace : InPlace screener users screenings)
    (blocked : Blocked userID screenings.memory)
    (confirms : Along next (Confirms screener users) screenings steps)
    (kept : ∀ step ∈ steps, ¬ step.Clears userID) :
    Blocked userID (run next screenings steps).memory := by
  induction steps generalizing screenings with
  | nil => exact blocked
  | cons step steps inductionHypothesis =>
      rw [List.forall_mem_cons] at kept
      exact
        inductionHypothesis (inPlace.next step)
          (blocked_next inPlace blocked confirms.1 kept.1) confirms.2 kept.2

/--
Hits stay in exactly the runs in which no call for a user with a match in the
cache is answered in a way which ends it without a match.
-/
theorem hits_stay_iff (screener : SanctionsScreener Value Score Match)
    (users : Client → String) (steps : List (Step Client Value Score)) :
    HitsStay screener users steps ↔
      Along next (Confirms screener users) (initial screener users)
        steps := by
  constructor
  · intro stays
    rw [along_iff_of_split]
    rintro earlier step later rfl
    by_contra unconfirmed
    obtain ⟨userID, blocked, returns⟩ := emit_of_not_confirms unconfirmed
    obtain ⟨before, hit, between, found, rfl, isHit, kept⟩ :=
      exists_hit_of_blocked earlier blocked
    have isBlocked :=
      stays before hit between step later userID found false none rfl isHit
        kept returns
    cases isBlocked
  · rintro confirms earlier hit between step later userID found isBlocked
      result rfl isHit kept returns
    rw [along_append, along_append, along_cons, along_cons] at confirms
    obtain ⟨⟨-, -, along⟩, confirmed, -⟩ := confirms
    have inPlace := inPlace_run screener users earlier
    have blocked :=
      blocked_run (inPlace.next hit) (blocked_of_emit inPlace isHit) along
        kept
    rw [run_append, run_cons] at returns confirmed
    exact
      isBlocked_of_confirms
        (by
          simpa only [run_append, run_cons] using
            inPlace_run screener users (earlier ++ hit :: between))
        blocked confirmed returns

/-! ## The class of the repository -/

/-- A call whose searches have no match returns without one. -/
theorem Turn.returns_of_no_match {userID : String} {cache : Cache Match}
    {answers : (request : Request Score) → Answer Value Score request}
    {task : Screening Value Score Match (Bool × Option Match)}
    {after :
      Screening Value Score Match (Bool × Option Match) × Cache Match}
    (turn : screener.Turn userID answers cache task after)
    (noMatch :
      ∀ results, screener.matchClass.topMatch "UNKNOWN" results = none)
    {outcome : Bool × Option Match} (running : task.value? = none)
    (returns : after.1.value? = some outcome) : outcome = (false, none) := by
  cases turn with
  | cleared cached => cases returns; rfl
  | uncleared uncached => cases returns
  | unknown noDetails => cases returns; rfl
  | @known userInfo details nonempty =>
      cases found : identifiers userInfo with
      | nil =>
          rw [found, untilAwait_screenIdentifiers_nil] at returns
          cases returns
          rfl
      | cons identifier rest =>
          rw [found, untilAwait_screenIdentifiers_cons] at returns
          cases returns
  | matched isMatch => cases (noMatch _).symm.trans isMatch
  | @unmatched identifier rest unmatched =>
      cases rest with
      | nil =>
          rw [untilAwait_screenIdentifiers_nil] at returns
          cases returns
          rfl
      | cons next rest =>
          rw [untilAwait_screenIdentifiers_cons] at returns
          cases returns
  | returned result => cases running

variable (coerce : FieldType → Json → Option Json) (ofScore : Score → Json)
    (threshold : Score)

omit [DecidableEq Client] in
/-- No step makes a call return with a match. -/
theorem emit_sanctionsScreener
    {screenings : Screenings Client Json Score Members}
    {step : Step Client Json Score} {userID : String}
    {outcome : Bool × Option Members}
    (inPlace :
      InPlace (sanctionsScreener coerce ofScore threshold) users screenings)
    (returns : emit users screenings step = some (userID, outcome)) :
    outcome = (false, none) := by
  obtain ⟨client, answers, rfl, rfl, running, returns⟩ :=
    emit_eq_some_iff.mp returns
  exact
    (inPlace client).turn.returns_of_no_match
      (topMatch_sanctionsMatchClass coerce ofScore "UNKNOWN") running returns

/--
In every run hits stay, since there are none: every call which returns does so
without a match, and the cache never holds one.
-/
theorem hits_stay (users : Client → String)
    (steps : List (Step Client Json Score)) :
    let screener := sanctionsScreener coerce ofScore threshold
    HitsStay screener users steps ∧
      (∀ earlier step later userID outcome,
        steps = earlier ++ step :: later →
          emit users (run next (initial screener users) earlier) step =
              some (userID, outcome) →
            outcome = (false, none)) ∧
        ∀ userID,
          ¬ Blocked userID (run next (initial screener users) steps).memory := by
  intro screener
  have returnsNothing (earlier : List (Step Client Json Score))
      (step : Step Client Json Score) (userID : String)
      (outcome : Bool × Option Members) :=
    @emit_sanctionsScreener _ _ _ users coerce ofScore threshold
      (run next (initial screener users) earlier) step userID outcome
      (inPlace_run screener users earlier)
  have noneBlocked (earlier : List (Step Client Json Score))
      (userID : String) :
      ¬ Blocked userID
          (run next (initial screener users) earlier).memory := by
    intro blocked
    obtain ⟨before, hit, between, found, -, isHit, -⟩ :=
      exists_hit_of_blocked earlier blocked
    cases returnsNothing before hit userID _ isHit
  refine ⟨?_, ?_, noneBlocked steps⟩
  · rw [hits_stay_iff, along_iff_of_split]
    intro earlier step later _
    cases step with
    | clearCache cleared => trivial
    | resume client answers =>
        exact fun blocked => absurd blocked (noneBlocked earlier _)
  · exact fun earlier step _ userID outcome _ =>
      returnsNothing earlier step userID outcome

end SanctionsScreener

end AeroRisk.Guardrail.Agent2
