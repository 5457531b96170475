import AeroRisk.Guardrail.SanctionsMatch

/-!
# The two sanctions checks

`RAGAgent` checks a user on its own, with the same search and threshold as
`SanctionsScreener`, but only for the name of the user.  With a class of matches
which accepts its fields the two differ for users who are found by another
identifier; with the class of the repository neither ever has a match.
-/

namespace AeroRisk.Guardrail.Agent2

open AeroRisk.Event
open AeroRisk.Guardrail
open AeroRisk.Library

variable {Value Score Match : Type}

/-- `RAGAgent`, with the class of its matches. -/
structure RAGAgent (Value Score Match : Type) where
  matchClass : MatchClass Value Score Match

/-- `sanctions_cache`. -/
abbrev SanctionsCache (Match : Type) :=
  String → Option Match

/-- A coroutine of a `RAGAgent`. -/
abbrev Retrieval (Value Score Match : Type) :=
  Coroutine (SanctionsCache Match) (Answer Value Score)

namespace RAGAgent

variable [OfScientific Score] (agent : RAGAgent Value Score Match)

/-- The search of `_check_sanctions` for a name, and what it makes of it. -/
def checkName (userID name : String) :
    Retrieval Value Score Match (Option Match) := do
  let results ← Coroutine.request (.searchSimilar "sanctions_list" name 3 0.85)
  match agent.matchClass.topMatch "OFAC" results with
  | none => return none
  | some found =>
      Coroutine.modify fun cache => Function.update cache userID (some found)
      return some found

/-- `_check_sanctions` with the details of the user. -/
def checkDetails (userID : String) :
    Except String (Option UserInfo) →
      Retrieval Value Score Match (Option Match)
  | .error _ => return none
  | .ok none => return none
  | .ok (some userInfo) =>
      if userInfo.isEmpty then
        return none
      else
        match (userInfo.lookup "full_name").getD (some "") with
        | none => return none
        | some name =>
            if name = "" then return none else agent.checkName userID name

/-- `_check_sanctions`. -/
def checkSanctions (userID : String) :
    Retrieval Value Score Match (Option Match) := do
  match (← Coroutine.read) userID with
  | some found => return some found
  | none =>
      let userInfo ← Coroutine.request (.getUserDetails userID)
      agent.checkDetails userID userInfo

end RAGAgent

/-- The class accepts every string as the list of a match. -/
def MatchClass.AcceptsLists (matchClass : MatchClass Value Score Match) :
    Prop :=
  ∀ matchedName matchScore entityID (first second : String),
    (matchClass.construct matchedName (matchClass.string first) matchScore
        entityID).toOption.isSome =
      (matchClass.construct matchedName (matchClass.string second) matchScore
        entityID).toOption.isSome

theorem MatchClass.matchOf_payload
    (matchClass : MatchClass Value Score Match) (defaultListSource : String)
    (payload : List (String × Value)) (score : Score) :
    matchClass.matchOf defaultListSource ⟨some payload, score⟩ =
      matchClass.construct
        ((payload.lookup "name").getD (matchClass.string ""))
        ((payload.lookup "list_source").getD
          (matchClass.string defaultListSource))
        score ((payload.lookup "entity_id").getD (matchClass.string "")) :=
  rfl

/-- Whether a search has a match does not depend on the default of its list. -/
theorem MatchClass.AcceptsLists.isSome_topMatch
    {matchClass : MatchClass Value Score Match}
    (acceptsLists : matchClass.AcceptsLists) (first second : String)
    (results : Except String (List (Hit Value Score))) :
    (matchClass.topMatch first results).isSome =
      (matchClass.topMatch second results).isSome := by
  rcases results with error | ⟨⟩ | ⟨⟨payload, score⟩, hits⟩
  · rfl
  · rfl
  · cases payload with
    | none => rfl
    | some payload =>
        rw [topMatch, topMatch, matchOf_payload, matchOf_payload]
        cases payload.lookup "list_source" with
        | none => exact acceptsLists _ score _ first second
        | some listSource => rfl

section Checks

variable [OfScientific Score] (matchClass : MatchClass Value Score Match)

/-- The screener for the class, with the threshold of the agent. -/
def screenerFor : SanctionsScreener Value Score Match where
  matchClass := matchClass

/-- The agent for the class. -/
def agentFor : RAGAgent Value Score Match where
  matchClass := matchClass

variable {matchClass}
    (answers : (request : Request Score) → Answer Value Score request)

/-- The search for the text has a match. -/
def Listed (matchClass : MatchClass Value Score Match)
    (answers : (request : Request Score) → Answer Value Score request)
    (text : String) : Prop :=
  (matchClass.topMatch "UNKNOWN"
    (answers (.searchSimilar "sanctions_list" text 3 0.85))).isSome

/-- The identifiers block a user when the search for one has a match. -/
theorem isBlocked_screenIdentifiers (userID : String) (cache : Cache Match)
    (identifiers : List String) :
    (Coroutine.exec answers
        ((screenerFor matchClass).screenIdentifiers userID identifiers)
        cache).1.1 = true ↔
      ∃ identifier ∈ identifiers, Listed matchClass answers identifier := by
  induction identifiers with
  | nil => simp [SanctionsScreener.screenIdentifiers]
  | cons identifier rest inductionHypothesis =>
      have isListed :
          Listed matchClass answers identifier ↔
            ((screenerFor matchClass).matchClass.topMatch "UNKNOWN"
              (answers ((screenerFor matchClass).search identifier))).isSome :=
        Iff.rfl
      rw [SanctionsScreener.screenIdentifiers_cons, Coroutine.exec_bind,
        Coroutine.exec_request, List.exists_mem_cons_iff, isListed]
      cases (screenerFor matchClass).matchClass.topMatch "UNKNOWN"
          (answers ((screenerFor matchClass).search identifier)) with
      | some found => simp [SanctionsScreener.store]
      | none => simpa using inductionHypothesis

/-- The user has a name, and the search for it has a match. -/
def NameListed (matchClass : MatchClass Value Score Match)
    (answers : (request : Request Score) → Answer Value Score request)
    (userInfo : UserInfo) : Prop :=
  ∃ name,
    userInfo.lookup "full_name" = some (some name) ∧ name ≠ "" ∧
      Listed matchClass answers name

/-- The name of a user is one of the identifiers. -/
theorem NameListed.exists_identifier {userInfo : UserInfo}
    (nameListed : NameListed matchClass answers userInfo) :
    ∃ identifier ∈ SanctionsScreener.identifiers userInfo,
      Listed matchClass answers identifier := by
  obtain ⟨name, given, nonempty, listed⟩ := nameListed
  refine ⟨name, ?_, listed⟩
  simp [SanctionsScreener.identifiers, given, nonempty]

/-- What the screener with an empty cache decides. -/
theorem isBlocked_screenUser (userID : String) :
    (Coroutine.exec answers ((screenerFor matchClass).screenUser userID)
        fun _ => none).1.1 = true ↔
      ∃ userInfo,
        answers (.getUserDetails userID) = .ok (some userInfo) ∧
          ∃ identifier ∈ SanctionsScreener.identifiers userInfo,
            Listed matchClass answers identifier := by
  rw [SanctionsScreener.screenUser, Coroutine.exec_bind, Coroutine.exec_read]
  simp only [SanctionsScreener.screenUncleared, Coroutine.exec_bind,
    Coroutine.exec_request]
  cases answers (.getUserDetails userID) with
  | error error => simp [SanctionsScreener.screenDetails]
  | ok userInfo =>
      cases userInfo with
      | none => simp [SanctionsScreener.screenDetails]
      | some userInfo =>
          rw [SanctionsScreener.screenDetails]
          split
          · next isEmpty =>
              cases List.isEmpty_iff.mp isEmpty
              simp [SanctionsScreener.identifiers]
          · simp [isBlocked_screenIdentifiers]

/-- The agent finds a match for a name which is listed. -/
theorem isSome_checkName (acceptsLists : matchClass.AcceptsLists)
    (userID name : String) (cache : SanctionsCache Match) :
    (Coroutine.exec answers ((agentFor matchClass).checkName userID name)
        cache).1.isSome = true ↔
      Listed matchClass answers name := by
  have isListed :
      Listed matchClass answers name ↔
        ((agentFor matchClass).matchClass.topMatch "OFAC"
          (answers (.searchSimilar "sanctions_list" name 3 0.85))).isSome := by
    rw [Listed, acceptsLists.isSome_topMatch "UNKNOWN" "OFAC"]
    rfl
  rw [RAGAgent.checkName, Coroutine.exec_bind, Coroutine.exec_request, isListed]
  cases (agentFor matchClass).matchClass.topMatch "OFAC"
      (answers (.searchSimilar "sanctions_list" name 3 0.85)) with
  | none => simp
  | some found => simp

/-- What the agent with an empty cache decides, for a class of any lists. -/
theorem isSome_checkSanctions (acceptsLists : matchClass.AcceptsLists)
    (userID : String) :
    (Coroutine.exec answers ((agentFor matchClass).checkSanctions userID)
        fun _ => none).1.isSome ↔
      ∃ userInfo,
        answers (.getUserDetails userID) = .ok (some userInfo) ∧
          NameListed matchClass answers userInfo := by
  rw [RAGAgent.checkSanctions, Coroutine.exec_bind, Coroutine.exec_read]
  simp only [Coroutine.exec_bind, Coroutine.exec_request]
  cases answers (.getUserDetails userID) with
  | error error => simp [RAGAgent.checkDetails]
  | ok userInfo =>
      cases userInfo with
      | none => simp [RAGAgent.checkDetails]
      | some userInfo =>
          rw [RAGAgent.checkDetails]
          split
          · next isEmpty =>
              cases List.isEmpty_iff.mp isEmpty
              simp [NameListed]
          · cases given : userInfo.lookup "full_name" with
            | none => simp [NameListed, given]
            | some name =>
                cases name with
                | none => simp [NameListed, given]
                | some name =>
                    by_cases isEmpty : name = ""
                    · simp [NameListed, given, isEmpty]
                    · simp [NameListed, given, isEmpty,
                        isSome_checkName answers acceptsLists]

/--
The two checks agree on exactly the users whose name is listed when any of
their identifiers is.
-/
theorem checks_agree_iff (acceptsLists : matchClass.AcceptsLists)
    (userID : String) :
    ((Coroutine.exec answers ((agentFor matchClass).checkSanctions userID)
          fun _ => none).1.isSome ↔
        (Coroutine.exec answers ((screenerFor matchClass).screenUser userID)
          fun _ => none).1.1 = true) ↔
      ∀ userInfo,
        answers (.getUserDetails userID) = .ok (some userInfo) →
          ∀ identifier ∈ SanctionsScreener.identifiers userInfo,
            Listed matchClass answers identifier →
              NameListed matchClass answers userInfo := by
  rw [isBlocked_screenUser, isSome_checkSanctions answers acceptsLists]
  constructor
  · intro agree userInfo details identifier member listed
    obtain ⟨found, given, nameListed⟩ :=
      agree.mpr ⟨userInfo, details, identifier, member, listed⟩
    cases given.symm.trans details
    exact nameListed
  · intro named
    constructor
    · rintro ⟨userInfo, details, nameListed⟩
      exact ⟨userInfo, details, nameListed.exists_identifier⟩
    · rintro ⟨userInfo, details, identifier, member, listed⟩
      exact
        ⟨userInfo, details,
          named userInfo details identifier member listed⟩

end Checks

/-! ## The class of the repository -/

section SanctionsMatches

variable {Score : Type} (coerce : FieldType → Json → Option Json)
    (ofScore : Score → Json)
    (answers : (request : Request Score) → Answer Json Score request)

theorem acceptsLists_sanctionsMatchClass :
    (sanctionsMatchClass coerce ofScore).AcceptsLists := by
  intro matchedName matchScore entityID first second
  have rejects (listSource : Json) :
      ((sanctionsMatchClass coerce ofScore).construct matchedName listSource
        matchScore entityID).toOption.isSome = false := by
    cases made :
        (sanctionsMatchClass coerce ofScore).construct matchedName listSource
          matchScore entityID with
    | error error => rfl
    | ok found =>
        exact absurd made (construct_ne_ok coerce ofScore _ _ _ _ found)
  exact (rejects _).trans (rejects _).symm

variable [OfScientific Score]

theorem not_listed (text : String) :
    ¬ Listed (sanctionsMatchClass coerce ofScore) answers text := by
  rw [Listed, topMatch_sanctionsMatchClass]
  exact Bool.false_ne_true

/-- What the agent returns for a user, with an empty cache. -/
def agentMatch (userID : String) : Option Members :=
  (Coroutine.exec answers
    ((agentFor (sanctionsMatchClass coerce ofScore)).checkSanctions userID)
    fun _ => none).1

/-- What the screener returns for a user, with an empty cache. -/
def screenedUser (userID : String) : Bool × Option Members :=
  (Coroutine.exec answers
    ((screenerFor (sanctionsMatchClass coerce ofScore)).screenUser userID)
    fun _ => none).1

/--
The agent and the screener agree on every user, whatever the backends answer:
neither of them has a match.
-/
theorem checks_agree (userID : String) :
    ((agentMatch coerce ofScore answers userID).isSome ↔
        (screenedUser coerce ofScore answers userID).1 = true) ∧
      agentMatch coerce ofScore answers userID = none ∧
        (screenedUser coerce ofScore answers userID).1 = false := by
  have acceptsLists := acceptsLists_sanctionsMatchClass coerce ofScore
  have agree :
      (agentMatch coerce ofScore answers userID).isSome ↔
        (screenedUser coerce ofScore answers userID).1 = true :=
    (checks_agree_iff answers acceptsLists userID).mpr
      fun userInfo _ identifier _ listed =>
        absurd listed (not_listed coerce ofScore answers identifier)
  have noMatch :
      ¬ (agentMatch coerce ofScore answers userID).isSome = true := by
    rw [agentMatch, isSome_checkSanctions answers acceptsLists userID]
    rintro ⟨userInfo, -, name, -, -, listed⟩
    exact not_listed coerce ofScore answers name listed
  refine ⟨agree, Option.not_isSome_iff_eq_none.mp noMatch, ?_⟩
  exact Bool.eq_false_iff.mpr fun blocked => noMatch (agree.mpr blocked)

end SanctionsMatches

end AeroRisk.Guardrail.Agent2
