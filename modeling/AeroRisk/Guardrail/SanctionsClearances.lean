import AeroRisk.Guardrail.SanctionsMatch

/-!
# Clearances of the sanctions screening

A call which screened all identifiers without a match stores a clearance of
the user.  The screening of an identifier whose search raised an exception is
one without a match.
-/

namespace AeroRisk.Guardrail.Agent2

open AeroRisk.Event
open AeroRisk.Guardrail
open AeroRisk.Library LabelledRun

variable {Client Value Score Match : Type} [OfScientific Score]

/-- The requests of a call and their answers, the last one first. -/
abbrev Exchanges (Value Score : Type) :=
  List ((request : Request Score) × Answer Value Score request)

namespace SanctionsScreener

/-- The call received details of the user. -/
def Detailed (userID : String) (userInfo : UserInfo)
    (answered : Exchanges Value Score) : Prop :=
  userInfo ≠ [] ∧
    ⟨.getUserDetails userID, .ok (some userInfo)⟩ ∈ answered

/-- Every search of the call succeeded and found nothing. -/
def FoundNothing (screener : SanctionsScreener Value Score Match)
    (answered : Exchanges Value Score) : Prop :=
  ∀ identifier answer, ⟨screener.search identifier, answer⟩ ∈ answered →
    answer = .ok []

/-- The call received an empty answer for every identifier of the user. -/
def Cleared (screener : SanctionsScreener Value Score Match) (userID : String)
    (answered : Exchanges Value Score) : Prop :=
  ∃ userInfo,
    Detailed userID userInfo answered ∧
      ∀ identifier ∈ identifiers userInfo,
        ⟨screener.search identifier, .ok []⟩ ∈ answered

/-- The call received details and returned, and so stored, no match. -/
def StoredClearance (userID : String)
    (task : Screening Value Score Match (Bool × Option Match))
    (answered : Exchanges Value Score) : Prop :=
  task = .done (false, none) ∧
    ∃ userInfo, Detailed userID userInfo answered

/--
When the last identifier has no match, then all searches of the call succeeded
and found nothing.
-/
def EndsClean (screener : SanctionsScreener Value Score Match)
    (userID : String)
    (answers : (request : Request Score) → Answer Value Score request)
    (task : Screening Value Score Match (Bool × Option Match))
    (answered : Exchanges Value Score) : Prop :=
  ∀ identifier, task = screener.screenIdentifiers userID [identifier] →
    screener.matchClass.topMatch "UNKNOWN"
        (answers (screener.search identifier)) = none →
      answers (screener.search identifier) = .ok [] ∧
        FoundNothing screener answered

section Calls

variable {screener : SanctionsScreener Value Score Match}
    {userID : String} {userInfo : UserInfo} {identifier : String}
    {cache : Cache Match} {answered : Exchanges Value Score}
    {answers : (request : Request Score) → Answer Value Score request}
    {task : Screening Value Score Match (Bool × Option Match)}

/-- The call received details and an answer for each of these identifiers. -/
structure Searched (screener : SanctionsScreener Value Score Match)
    (userID : String) (userInfo : UserInfo) (screened : List String)
    (answered : Exchanges Value Score) : Prop where
  detailed : Detailed userID userInfo answered
  searched :
    ∀ identifier ∈ screened,
      ∃ answer, ⟨screener.search identifier, answer⟩ ∈ answered

/-- What a call received until it came to its place. -/
inductive Reached (screener : SanctionsScreener Value Score Match)
    (userID : String) :
    Screening Value Score Match (Bool × Option Match) →
      Exchanges Value Score → Prop where
  | called : Reached screener userID (screener.screenUser userID) []
  | details : Reached screener userID (screener.screenUncleared userID) []
  | identifier {userInfo : UserInfo} (screened : List String)
      (identifier : String) (rest : List String)
      {answered : Exchanges Value Score}
      (split : identifiers userInfo = screened ++ identifier :: rest)
      (searched : Searched screener userID userInfo screened answered) :
      Reached screener userID
        (screener.screenIdentifiers userID (identifier :: rest)) answered
  | screened {userInfo : UserInfo} {answered : Exchanges Value Score}
      (searched :
        Searched screener userID userInfo (identifiers userInfo) answered) :
      Reached screener userID (.done (false, none)) answered
  | unscreened {answered : Exchanges Value Score}
      (undetailed : ∀ userInfo, ¬ Detailed userID userInfo answered) :
      Reached screener userID (.done (false, none)) answered
  | matched (found : Match) (answered : Exchanges Value Score) :
      Reached screener userID (.done (true, some found)) answered

theorem Searched.cons {screened : List String}
    (searched : Searched screener userID userInfo screened answered)
    (identifier : String)
    (answer : Except String (List (Hit Value Score))) :
    Searched screener userID userInfo (screened ++ [identifier])
      (⟨screener.search identifier, answer⟩ :: answered) where
  detailed := ⟨searched.detailed.1, List.mem_cons_of_mem _ searched.detailed.2⟩
  searched := by
    intro other member
    rcases List.mem_append.mp member with earlier | last
    · obtain ⟨given, answeredBefore⟩ := searched.searched other earlier
      exact ⟨given, List.mem_cons_of_mem _ answeredBefore⟩
    · cases List.mem_singleton.mp last
      exact ⟨answer, List.mem_cons_self⟩

/-- Where a call comes to with these identifiers left. -/
theorem reached_screenIdentifiers {screened rest : List String}
    (split : identifiers userInfo = screened ++ rest)
    (searched : Searched screener userID userInfo screened answered) :
    Reached screener userID
      ((screener.screenIdentifiers userID rest).untilAwait cache).1
      answered := by
  cases rest with
  | nil =>
      rw [List.append_nil] at split
      exact .screened (split ▸ searched)
  | cons identifier rest =>
      exact .identifier screened identifier rest split searched

omit [OfScientific Score] in
/-- Details which are not in the only answer of a call are not given. -/
theorem not_detailed
    (noDetails :
      ∀ userInfo, answers (.getUserDetails userID) = .ok (some userInfo) →
        userInfo = []) :
    ¬ Detailed userID userInfo
      [⟨.getUserDetails userID, answers (.getUserDetails userID)⟩] := by
  rintro ⟨nonempty, given⟩
  have answer := eq_of_heq (Sigma.mk.inj (List.mem_singleton.mp given)).2
  exact nonempty (noDetails userInfo answer.symm)

/-- A call which is resumed comes to a place with what it received. -/
theorem Reached.resume (reached : Reached screener userID task answered) :
    Reached screener userID (task.resume answers cache).1
      (task.exchange answers ++ answered) := by
  cases reached with
  | called =>
      rcases resume_screenUser screener answers userID cache with
        ⟨-, after⟩ | ⟨-, after⟩ <;> rw [after]
      · exact .unscreened fun userInfo detailed => by cases detailed.2
      · exact .details
  | details =>
      rcases resume_screenUncleared screener answers userID cache with
        ⟨noDetails, after⟩ | ⟨userInfo, details, nonempty, after⟩ <;>
        rw [after]
      · exact .unscreened fun userInfo => not_detailed noDetails
      · have detailed :
            Detailed userID userInfo
              ((screener.screenUncleared userID).exchange answers ++ []) :=
          ⟨nonempty, details ▸ List.mem_singleton_self _⟩
        have split : identifiers userInfo = [] ++ identifiers userInfo := rfl
        exact
          reached_screenIdentifiers split
            ⟨detailed, fun identifier member => by cases member⟩
  | identifier screened identifier rest split searched =>
      rcases resume_screenIdentifiers screener answers userID cache identifier
          rest with
        ⟨found, -, after⟩ | ⟨-, after⟩ <;> rw [after]
      · exact .matched found _
      · exact
          reached_screenIdentifiers (by simpa using split)
            (searched.cons identifier _)
  | screened searched => exact .screened searched
  | unscreened undetailed => exact .unscreened undetailed
  | matched found answered => exact .matched found _

/-- Searches which found nothing, for every identifier, clear the user. -/
theorem Searched.cleared
    (searched :
      Searched screener userID userInfo (identifiers userInfo) answered)
    (foundNothing : FoundNothing screener answered) :
    Cleared screener userID answered := by
  refine ⟨userInfo, searched.detailed, fun identifier member => ?_⟩
  obtain ⟨answer, given⟩ := searched.searched identifier member
  exact foundNothing identifier answer given ▸ given

/-- An empty answer keeps to searches which found nothing. -/
theorem FoundNothing.cons (foundNothing : FoundNothing screener answered)
    (identifier : String) :
    FoundNothing screener
      (⟨screener.search identifier, .ok []⟩ :: answered) := by
  intro other answer member
  rcases List.mem_cons.mp member with last | earlier
  · exact eq_of_heq (Sigma.mk.inj last).2
  · exact foundNothing other answer earlier

/-- A call which has only asked for details had no search. -/
theorem foundNothing_details
    (answer : Except String (Option UserInfo)) :
    FoundNothing screener [⟨.getUserDetails userID, answer⟩] := by
  intro other answer member
  cases (Sigma.mk.inj (List.mem_singleton.mp member)).1

/-- What a call received with the empty answer for its last identifier. -/
theorem Searched.clearance {screened : List String}
    (split : identifiers userInfo = screened ++ [identifier])
    (searched : Searched screener userID userInfo screened answered)
    (foundNothing : FoundNothing screener answered)
    (isEmpty : answers (screener.search identifier) = .ok []) :
    Cleared screener userID
        ((screener.screenIdentifiers userID [identifier]).exchange answers ++
          answered) ∧
      FoundNothing screener
        ((screener.screenIdentifiers userID [identifier]).exchange answers ++
          answered) := by
  have exchanged :
      (screener.screenIdentifiers userID [identifier]).exchange answers =
        [⟨screener.search identifier, .ok []⟩] :=
    isEmpty ▸ rfl
  have allFoundNothing := foundNothing.cons identifier
  have allSearched := split ▸ searched.cons identifier (.ok [])
  rw [exchanged]
  exact ⟨allSearched.cleared allFoundNothing, allFoundNothing⟩

/--
A call which ends clean stores a clearance only when all its searches found
nothing.
-/
theorem Reached.clearance (reached : Reached screener userID task answered)
    (cache : Cache Match)
    (endsClean : EndsClean screener userID answers task answered) :
    Cleared screener userID (task.exchange answers ++ answered) ∧
        FoundNothing screener (task.exchange answers ++ answered) ∨
      ((task.resume answers cache).2 userID = some (none, false) →
          cache userID = some (none, false)) ∧
        (StoredClearance userID (task.resume answers cache).1
            (task.exchange answers ++ answered) →
          StoredClearance userID task answered) := by
  cases reached with
  | called =>
      right
      rcases resume_screenUser screener answers userID cache with
        ⟨-, after⟩ | ⟨-, after⟩ <;> rw [after]
      · refine ⟨id, ?_⟩
        rintro ⟨-, userInfo, -, given⟩
        cases given
      · exact ⟨id, fun stored => by cases stored.1⟩
  | details =>
      rcases resume_screenUncleared screener answers userID cache with
        ⟨noDetails, after⟩ | ⟨userInfo, details, nonempty, after⟩ <;>
        rw [after]
      · refine Or.inr ⟨id, ?_⟩
        rintro ⟨-, userInfo, detailed⟩
        exact absurd detailed (not_detailed noDetails)
      · cases identified : identifiers userInfo with
        | nil =>
            refine Or.inl ⟨⟨userInfo, ⟨nonempty, ?_⟩, ?_⟩, ?_⟩
            · exact details ▸ List.mem_singleton_self _
            · simp [identified]
            · exact foundNothing_details _
        | cons identifier rest =>
            exact Or.inr ⟨id, fun stored => by cases stored.1⟩
  | identifier screened identifier rest split searched =>
      rcases resume_screenIdentifiers screener answers userID cache identifier
          rest with
        ⟨found, -, after⟩ | ⟨noMatch, after⟩ <;> rw [after]
      · right
        refine ⟨fun negative => ?_, fun stored => by cases stored.1⟩
        cases (Function.update_self userID _ cache).symm.trans negative
      · cases rest with
        | nil =>
            obtain ⟨isEmpty, foundNothing⟩ := endsClean identifier rfl noMatch
            exact Or.inl (searched.clearance split foundNothing isEmpty)
        | cons next rest =>
            exact Or.inr ⟨id, fun stored => by cases stored.1⟩
  | screened searched => exact Or.inr ⟨id, id⟩
  | unscreened undetailed => exact Or.inr ⟨id, id⟩
  | matched found answered => exact Or.inr ⟨id, id⟩

/-- What a call received does not matter for its place. -/
theorem Reached.place (reached : Reached screener userID task answered) :
    screener.Place userID task := by
  cases reached with
  | called => exact .called
  | details => exact .details
  | identifier screened identifier rest split searched =>
      exact .identifier identifier rest
  | screened searched => exact .returned _
  | unscreened undetailed => exact .returned _
  | matched found answered => exact .returned _

/-- A call which is about to search for an identifier received details. -/
theorem Reached.detailed_of_identifier
    (reached : Reached screener userID task answered) {identifier : String}
    (awaits : task = screener.screenIdentifiers userID [identifier]) :
    ∃ userInfo, Detailed userID userInfo answered := by
  cases reached with
  | called => injection awaits
  | details => injection awaits with sameRequest; cases sameRequest
  | identifier screened identifier rest split searched =>
      exact ⟨_, searched.detailed⟩
  | screened searched => injection awaits
  | unscreened undetailed => injection awaits
  | matched found answered => injection awaits

omit [OfScientific Score] in
/-- What a call received it keeps. -/
theorem Detailed.append (detailed : Detailed userID userInfo answered)
    (exchanged : Exchanges Value Score) :
    Detailed userID userInfo (exchanged ++ answered) :=
  ⟨detailed.1, List.mem_append_right _ detailed.2⟩

theorem Cleared.append (cleared : Cleared screener userID answered)
    (exchanged : Exchanges Value Score) :
    Cleared screener userID (exchanged ++ answered) := by
  obtain ⟨userInfo, detailed, searched⟩ := cleared
  exact
    ⟨userInfo, detailed.append exchanged, fun identifier member =>
      List.mem_append_right _ (searched identifier member)⟩

end Calls

variable [DecidableEq Client]

/--
A clearance in the cache is one which some call for the user received, and a
call which stored a clearance had no search which raised an exception or found
something.
-/
structure SoundClearances (screener : SanctionsScreener Value Score Match)
    (users : Client → String)
    (screenings : Screenings Client Value Score Match) : Prop where
  cached :
    ∀ userID, screenings.memory userID = some (none, false) →
      ∃ client,
        users client = userID ∧
          Cleared screener userID (screenings.answered client)
  stored :
    ∀ client,
      StoredClearance (users client) (screenings.tasks client)
          (screenings.answered client) →
        FoundNothing screener (screenings.answered client)

/-- The call which a step resumes ends clean. -/
def KeepsClean (screener : SanctionsScreener Value Score Match)
    (users : Client → String)
    (screenings : Screenings Client Value Score Match) :
    Step Client Value Score → Prop
  | .clearCache _ => True
  | .resume client answers =>
      EndsClean screener (users client) answers (screenings.tasks client)
        (screenings.answered client)

/-- Every call received what led it to its place. -/
def AllReached (screener : SanctionsScreener Value Score Match)
    (users : Client → String)
    (screenings : Screenings Client Value Score Match) : Prop :=
  ∀ client,
    Reached screener (users client) (screenings.tasks client)
      (screenings.answered client)

section Steps

variable {screener : SanctionsScreener Value Score Match}
    {users : Client → String}
    {screenings : Screenings Client Value Score Match}
    {step : Step Client Value Score}

omit [DecidableEq Client] in
/-- Every call is at one of its places. -/
theorem AllReached.inPlace (reached : AllReached screener users screenings) :
    InPlace screener users screenings :=
  fun client => (reached client).place

theorem AllReached.next (reached : AllReached screener users screenings)
    (step : Step Client Value Score) :
    AllReached screener users (next screenings step) := by
  intro client
  cases step with
  | clearCache cleared => exact reached client
  | resume resumed answers =>
      rw [SanctionsScreener.next]
      by_cases isResumed : client = resumed
      · subst isResumed
        rw [EventLoop.tasks_resume_self, EventLoop.answered_resume_self]
        exact (reached client).resume
      · rw [EventLoop.tasks_resume_of_ne isResumed,
          EventLoop.answered_resume_of_ne isResumed]
        exact reached client

/-- What a call received it keeps. -/
theorem cleared_next {client : Client} {userID : String}
    (cleared : Cleared screener userID (screenings.answered client))
    (step : Step Client Value Score) :
    Cleared screener userID ((next screenings step).answered client) := by
  cases step with
  | clearCache other => exact cleared
  | resume resumed answers =>
      rw [next]
      by_cases isResumed : client = resumed
      · subst isResumed
        rw [EventLoop.answered_resume_self]
        exact cleared.append _
      · rw [EventLoop.answered_resume_of_ne isResumed]
        exact cleared

/-- What the calls received still clears the users whom it cleared. -/
theorem SoundClearances.kept
    (sound : SoundClearances screener users screenings)
    (step : Step Client Value Score) {userID : String}
    (negative : screenings.memory userID = some (none, false)) :
    ∃ client,
      users client = userID ∧
        Cleared screener userID
          ((next screenings step).answered client) := by
  obtain ⟨client, isUser, cleared⟩ := sound.cached userID negative
  exact ⟨client, isUser, cleared_next cleared step⟩

/-- Clearances stay sound when a call which ends clean is resumed. -/
theorem SoundClearances.resume
    (sound : SoundClearances screener users screenings)
    (reached : AllReached screener users screenings) {client : Client}
    {answers : (request : Request Score) → Answer Value Score request}
    (endsClean :
      EndsClean screener (users client) answers (screenings.tasks client)
        (screenings.answered client)) :
    SoundClearances screener users
      (next screenings (.resume client answers)) := by
  have clearance :=
    (reached client).clearance screenings.memory endsClean
  constructor
  · intro userID negative
    by_cases isUser : userID = users client
    · subst isUser
      rcases clearance with ⟨cleared, -⟩ | ⟨before, -⟩
      · refine ⟨client, rfl, ?_⟩
        rw [next, EventLoop.answered_resume_self]
        exact cleared
      · exact sound.kept _ (before negative)
    · rw [memory_next_of_ne reached.inPlace isUser] at negative
      exact sound.kept _ negative
  · intro other stored
    rw [next] at stored ⊢
    by_cases isResumed : other = client
    · subst isResumed
      rw [EventLoop.tasks_resume_self, EventLoop.answered_resume_self]
        at stored
      rw [EventLoop.answered_resume_self]
      rcases clearance with ⟨-, foundNothing⟩ | ⟨-, before⟩
      · exact foundNothing
      · have storedBefore := before stored
        rw [storedBefore.1]
        exact sound.stored other storedBefore
    · rw [EventLoop.tasks_resume_of_ne isResumed,
        EventLoop.answered_resume_of_ne isResumed] at stored
      rw [EventLoop.answered_resume_of_ne isResumed]
      exact sound.stored other stored

/-- Clearances stay sound when the resumed call ends clean. -/
theorem sound_next (reached : AllReached screener users screenings)
    (sound : SoundClearances screener users screenings)
    (keepsClean : KeepsClean screener users screenings step) :
    SoundClearances screener users (next screenings step) := by
  cases step with
  | resume client answers => exact sound.resume reached keepsClean
  | clearCache cleared =>
      refine ⟨fun userID negative => sound.kept _ ?_, sound.stored⟩
      rw [memory_next_clearCache] at negative
      split at negative
      · cases negative
      · exact negative

/-- When clearances stay sound, the resumed call ends clean. -/
theorem keepsClean_of_sound (reached : AllReached screener users screenings)
    (sound : SoundClearances screener users (next screenings step)) :
    KeepsClean screener users screenings step := by
  cases step with
  | clearCache cleared => trivial
  | resume client answers =>
      intro identifier awaits noMatch
      have detailed := (reached client).detailed_of_identifier awaits
      have exchanged :
          (screenings.tasks client).exchange answers =
            [⟨screener.search identifier,
              answers (screener.search identifier)⟩] := by
        rw [awaits]
        rfl
      have returned :
          ((screenings.tasks client).resume answers screenings.memory).1 =
            .done (false, none) := by
        rw [awaits]
        rcases resume_screenIdentifiers screener answers (users client)
            screenings.memory identifier [] with
          ⟨found, isMatch, -⟩ | ⟨-, after⟩
        · cases noMatch.symm.trans isMatch
        · rw [after, untilAwait_screenIdentifiers_nil]
      have foundNothing := sound.stored client
      rw [next, EventLoop.tasks_resume_self, EventLoop.answered_resume_self,
        returned, exchanged] at foundNothing
      have allFoundNothing :=
        foundNothing
          ⟨rfl, detailed.imp fun _ given => given.append [_]⟩
      exact
        ⟨allFoundNothing identifier _ List.mem_cons_self,
          fun other answer member =>
            allFoundNothing other answer (List.mem_cons_of_mem _ member)⟩

end Steps

/--
Clearances are sound in exactly the runs in which no call ends without a match
after a search which raised an exception or found something.
-/
theorem clearances_sound_iff (screener : SanctionsScreener Value Score Match)
    (users : Client → String) (steps : List (Step Client Value Score)) :
    Always next (SoundClearances screener users) (initial screener users)
        steps ↔
      Along next (KeepsClean screener users) (initial screener users)
        steps := by
  have initially :
      AllReached screener users (initial screener users) ∧
        SoundClearances screener users (initial screener users) := by
    refine ⟨fun client => .called, ⟨fun userID negative => ?_, ?_⟩⟩
    · cases negative
    · rintro client ⟨isDone, -⟩
      injection isDone
  exact
    always_iff_along
      (fun screenings
          (both :
            AllReached screener users screenings ∧
              SoundClearances screener users screenings) =>
        both.2)
      (fun screenings step both keepsClean =>
        ⟨both.1.next step, sound_next both.1 both.2 keepsClean⟩)
      (fun screenings step both sound => keepsClean_of_sound both.1 sound)
      steps initially

/-- A user with a name whose search raises an exception. -/
def searchFails : (request : Request Rat) → Answer Json Rat request
  | .getUserDetails _ => .ok (some [("full_name", some "Blocked Entity")])
  | .searchSimilar _ _ _ _ => .error "timed out"

/-- The screener with its default threshold, whose values are not coerced. -/
def defaultScreener : SanctionsScreener Json Rat Members :=
  sanctionsScreener (fun _ value => some value) (fun _ => .null) 0.85

/-- A search which raises an exception clears the user. -/
theorem clearances_sound_fails :
    ¬ ∀ (Value Score Match : Type) (_ : OfScientific Score)
        (screener : SanctionsScreener Value Score Match)
        (users : Unit → String) (steps : List (Step Unit Value Score)),
        Always next (SoundClearances screener users)
          (initial screener users) steps := by
  intro sound
  have soundInTheEnd :=
    sound Json Rat _ _ defaultScreener (fun _ => "user-1")
      [.resume () searchFails, .resume () searchFails,
        .resume () searchFails]
      _ (List.prefix_refl _)
  obtain ⟨client, -, userInfo, ⟨-, given⟩, searched⟩ :=
    soundInTheEnd.cached "user-1" rfl
  cases client
  have answered :
      (run next (initial defaultScreener fun _ : Unit => "user-1")
          [.resume () searchFails, .resume () searchFails,
            .resume () searchFails]).answered () =
        [ ⟨defaultScreener.search "Blocked Entity", .error "timed out"⟩,
          ⟨.getUserDetails "user-1",
            .ok (some [("full_name", some "Blocked Entity")])⟩ ] :=
    rfl
  rw [answered] at given searched
  have isRecord : userInfo = [("full_name", some "Blocked Entity")] := by
    simpa [search] using given
  subst isRecord
  have found := searched "Blocked Entity" (by decide)
  simp [search] at found

end SanctionsScreener

end AeroRisk.Guardrail.Agent2
