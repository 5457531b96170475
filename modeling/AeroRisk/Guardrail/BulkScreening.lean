import AeroRisk.Guardrail.Sanctions
import AeroRisk.Library.Semaphores
import AeroRisk.Library.Upserts

/-!
# Screening of many users

`bulk_screen` gathers one call of `screen_user` for every user ID, and each
call waits for a semaphore of ten.  The calls share the cache of the screener,
which others may clear in between.  When all calls have returned, their
results are stored by user ID in the order of the list.
-/

namespace AeroRisk.Guardrail.Agent2.SanctionsScreener

open AeroRisk.Library

variable {Value Score Match : Type} [OfScientific Score]
    {userIDs : List String}

/-- The calls of one `bulk_screen`, by their positions in the list. -/
abbrev BulkScreening (userIDs : List String) (Value Score Match : Type) :=
  GuardedLoop (Fin userIDs.length) (Cache Match) (Answer Value Score)
    (Bool × Option Match)

/-- `screen_with_semaphore` for all user IDs, before any of them runs. -/
def bulkStart (screener : SanctionsScreener Value Score Match)
    (cache : Cache Match) (userIDs : List String) :
    BulkScreening userIDs Value Score Match :=
  GuardedLoop.start 10 cache fun position =>
    screener.screenUser (userIDs.get position)

omit [OfScientific Score] in
/-- The calls and the cache after a step. -/
def bulkNext (bulk : BulkScreening userIDs Value Score Match) :
    Step (Fin userIDs.length) Value Score →
      BulkScreening userIDs Value Score Match
  | .resume position answers => bulk.resume position answers
  | .clearCache userID => bulk.change (clearCache userID)

omit [OfScientific Score] in
/-- What `gather` has from the calls, with their user IDs. -/
def completed (bulk : BulkScreening userIDs Value Score Match) :
    List (String × Bool × Option Match) :=
  (List.finRange userIDs.length).filterMap fun position =>
    (bulk.loop.tasks position).value?.map fun result =>
      (userIDs.get position, result)

omit [OfScientific Score] in
/-- What `bulk_screen` returns, once all calls have returned. -/
def bulkResults (bulk : BulkScreening userIDs Value Score Match) :
    Option (AList fun _ : String => Bool × Option Match) :=
  if bulk.finished = Finset.univ then
    some (Upserts.overwriteAll (completed bulk))
  else
    none

variable (screener : SanctionsScreener Value Score Match)
    (cache : Cache Match)

/-- A running `bulk_screen`, after some steps. -/
def bulkScreen (userIDs : List String)
    (steps : List (Step (Fin userIDs.length) Value Score)) :
    BulkScreening userIDs Value Score Match :=
  LabelledRun.run bulkNext (bulkStart screener cache userIDs) steps

/-- The step clears the cache. -/
def Step.isClear : Step (Fin userIDs.length) Value Score → Bool
  | .resume _ _ => false
  | .clearCache _ => true

variable (steps : List (Step (Fin userIDs.length) Value Score))

theorem sound_bulkScreen :
    GuardedLoop.Sound 10
      (fun position => screener.screenUser (userIDs.get position))
      (bulkScreen screener cache userIDs steps) := by
  apply LabelledRun.run_invariant_of_every
  · intro bulk step sound
    cases step with
    | resume position answers => exact sound.resume position answers
    | clearCache userID => exact sound.change (clearCache userID)
  · exact GuardedLoop.sound_start 10 cache _

/-- The calls behind the semaphore are calls of the plain `screen_user`. -/
theorem exists_sublist_bulkScreen :
    ∃ taken : List (Step (Fin userIDs.length) Value Score),
      taken.Sublist steps ∧
        taken.filter Step.isClear = steps.filter Step.isClear ∧
        (bulkScreen screener cache userIDs steps).loop =
          LabelledRun.run next
            (EventLoop.start cache fun position =>
              screener.screenUser (userIDs.get position))
            taken := by
  refine LabelledRun.exists_sublist_run GuardedLoop.loop Step.isClear
    ?_ (bulkStart screener cache userIDs) steps
  intro bulk step
  cases step with
  | resume position answers =>
      rcases bulk.loop_resume position answers with runs | stays
      · exact Or.inl runs
      · exact Or.inr ⟨rfl, stays⟩
  | clearCache userID => exact Or.inl rfl

omit [OfScientific Score] in
/-- Once all calls have returned there is an item for every position. -/
theorem getElem?_completed {bulk : BulkScreening userIDs Value Score Match}
    (all : ∀ position, ∃ result, bulk.loop.tasks position = .done result)
    (index : Nat) (item : String × Bool × Option Match) :
    (completed bulk)[index]? = some item ↔
      ∃ position : Fin userIDs.length, position.val = index ∧
        userIDs.get position = item.1 ∧
        bulk.loop.tasks position = .done item.2 := by
  choose result isDone using all
  have items :
      completed bulk =
        (List.finRange userIDs.length).map fun position =>
          (userIDs.get position, result position) := by
    rw [completed, ← List.filterMap_eq_map]
    congr 1
    funext position
    simp [isDone, Coroutine.value?]
  rw [items, List.getElem?_map]
  constructor
  · intro found
    obtain ⟨position, isAt, rfl⟩ := Option.map_eq_some_iff.mp found
    obtain ⟨inside, rfl⟩ := List.getElem?_eq_some_iff.mp isAt
    exact ⟨_, by simp, rfl, isDone _⟩
  · rintro ⟨position, rfl, isUser, returned⟩
    rw [isDone, Coroutine.done.injEq] at returned
    rw [List.getElem?_eq_getElem (by simp)]
    simpa [Prod.ext_iff, returned] using isUser

/-! ## The results -/

/--
At most ten calls of a `bulk_screen` are between their start and their
return; the calls do what calls without the semaphore do, and never wait for
each other forever; and the result for a user ID is that of its last
occurrence in the list.
-/
theorem bulk_screen_runs (screener : SanctionsScreener Value Score Match)
    (cache : Cache Match) (userIDs : List String)
    (steps : List (Step (Fin userIDs.length) Value Score)) :
    (∃ running : Finset (Fin userIDs.length), running.card ≤ 10 ∧
      ∀ position, position ∉ running →
        (bulkScreen screener cache userIDs steps).loop.tasks position =
            screener.screenUser (userIDs.get position) ∨
          ∃ result,
            (bulkScreen screener cache userIDs steps).loop.tasks position =
              .done result) ∧
    (∃ taken : List (Step (Fin userIDs.length) Value Score),
      taken.Sublist steps ∧
        taken.filter Step.isClear = steps.filter Step.isClear ∧
        (bulkScreen screener cache userIDs steps).loop =
          LabelledRun.run next
            (EventLoop.start cache fun position =>
              screener.screenUser (userIDs.get position))
            taken) ∧
    (∀ answers : (request : Request Score) → Answer Value Score request,
      ∃ positions : List (Fin userIDs.length),
        (bulkResults
          (bulkScreen screener cache userIDs
            (steps ++ positions.map fun position =>
              .resume position answers))).isSome) ∧
    ∀ results,
      bulkResults (bulkScreen screener cache userIDs steps) = some results →
        ∀ userID result,
          results.lookup userID = some result ↔
            ∃ position, userIDs.get position = userID ∧
              (∀ later > position, userIDs.get later ≠ userID) ∧
              (bulkScreen screener cache userIDs steps).loop.tasks position =
                .done result := by
  have sound := sound_bulkScreen screener cache steps
  refine
    ⟨⟨(bulkScreen screener cache userIDs steps).holders, ?_, ?_⟩,
      exists_sublist_bulkScreen screener cache steps, ?_, ?_⟩
  · have permits := sound.permits
    omega
  · intro position notRunning
    by_cases isFinished :
        position ∈ (bulkScreen screener cache userIDs steps).finished
    · exact Or.inr (sound.finished position isFinished)
    · exact Or.inl (sound.outside position notRunning isFinished)
  · intro answers
    obtain ⟨positions, all⟩ :=
      sound.exists_all_finished (by decide) answers
    refine ⟨positions, ?_⟩
    have reached :
        bulkScreen screener cache userIDs
            (steps ++ positions.map fun position =>
              .resume position answers) =
          (bulkScreen screener cache userIDs steps).resumeAll
            (positions.map fun position => (position, answers)) := by
      rw [bulkScreen, LabelledRun.run_append, GuardedLoop.resumeAll,
        LabelledRun.run, LabelledRun.run, List.foldl_map, List.foldl_map]
      rfl
    rw [bulkResults, reached, if_pos all]
    rfl
  · intro results returned userID result
    rw [bulkResults] at returned
    split at returned
    · next allFinished =>
        cases returned
        have all := fun position =>
          sound.finished position (allFinished ▸ Finset.mem_univ position)
        rw [Upserts.lookup_overwriteAll_iff]
        simp only [ne_eq, getElem?_completed all]
        constructor
        · rintro ⟨_, ⟨position, rfl, isUser, isDone⟩, last⟩
          refine ⟨position, isUser, fun later isLater isSame => ?_, isDone⟩
          obtain ⟨other, otherDone⟩ := all later
          exact last later isLater other ⟨later, rfl, isSame, otherDone⟩
        · rintro ⟨position, isUser, last, isDone⟩
          refine ⟨position, ⟨position, rfl, isUser, isDone⟩, ?_⟩
          rintro _ isLater other ⟨later, rfl, isSame, -⟩
          exact last later isLater isSame
    · cases returned

end AeroRisk.Guardrail.Agent2.SanctionsScreener
