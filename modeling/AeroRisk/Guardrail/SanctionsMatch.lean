import AeroRisk.Guardrail.EventModels
import AeroRisk.Guardrail.Sanctions
import AeroRisk.Library.StateGraph

/-!
# The class of the sanctions matches

The screener and the agent construct a `SanctionsMatch` with names of fields
which the model does not have, and without four fields which it requires.  The
constructor raises an exception, which counts as the absence of a match, so no
search ever has one.
-/

namespace AeroRisk.Guardrail.Agent2

open AeroRisk.Event
open AeroRisk.Guardrail
open AeroRisk.Library

/-- `SanctionsMatch`, the model of a match. -/
def sanctionsMatch : Model :=
  [ required "match_id" .str,
    required "entity_name" .str,
    required "list_name" .str,
    required "match_score" (.floatWithin 0 1),
    required "match_type" .str,
    defaulting "source_details" .dict (.object []) ]

/-- The fields with which a match is constructed. -/
def matchFields (matchedName listSource matchScore entityID : Json) :
    Members :=
  [ ("matched_name", matchedName),
    ("list_source", listSource),
    ("match_score", matchScore),
    ("entity_id", entityID) ]

variable {Score : Type} (coerce : FieldType → Json → Option Json)
    (ofScore : Score → Json)

/-- The class, with the coercion of its fields and the values of the scores. -/
def sanctionsMatchClass : MatchClass Json Score Members where
  string := .string
  construct matchedName listSource matchScore entityID :=
    match RecordSchema.validate coerce sanctionsMatch
        (matchFields matchedName listSource (ofScore matchScore) entityID) with
    | .ok record => .ok record
    | .error errors =>
        .error
          (toString errors.length ++ " validation errors for SanctionsMatch")

/-- The fields which the model requires and the checks do not give. -/
theorem missing_matchFields
    (matchedName listSource matchScore entityID : Json) :
    RecordSchema.missing sanctionsMatch
        (matchFields matchedName listSource matchScore entityID) =
      ["match_id", "entity_name", "list_name", "match_type"] := by
  rfl

theorem construct_ne_ok (matchedName listSource : Json) (matchScore : Score)
    (entityID : Json) (found : Members) :
    (sanctionsMatchClass coerce ofScore).construct matchedName listSource
        matchScore entityID ≠ .ok found := by
  have isMissing :
      "match_id" ∈
        RecordSchema.missing sanctionsMatch
          (matchFields matchedName listSource (ofScore matchScore)
            entityID) := by
    rw [missing_matchFields]
    exact List.mem_cons_self
  intro constructed
  dsimp only [sanctionsMatchClass] at constructed
  split at constructed
  · next record validated =>
      exact
        RecordSchema.validate_ne_ok_of_missing coerce sanctionsMatch _
          isMissing record validated
  · cases constructed

/-- No answer of a search has a match. -/
theorem topMatch_sanctionsMatchClass (defaultListSource : String)
    (results : Except String (List (Hit Json Score))) :
    (sanctionsMatchClass coerce ofScore).topMatch defaultListSource results =
      none := by
  rcases results with error | ⟨⟩ | ⟨hit, hits⟩
  · rfl
  · rfl
  · rw [MatchClass.topMatch]
    cases made :
        (sanctionsMatchClass coerce ofScore).matchOf defaultListSource hit with
    | error error => rfl
    | ok found =>
        obtain ⟨matchedName, -, made⟩ := bind_eq_ok_iff.mp made
        obtain ⟨listSource, -, made⟩ := bind_eq_ok_iff.mp made
        obtain ⟨entityID, -, made⟩ := bind_eq_ok_iff.mp made
        exact absurd made (construct_ne_ok coerce ofScore _ _ _ _ found)

/-- `SanctionsScreener`, with the class of the repository. -/
def sanctionsScreener [OfScientific Score] (threshold : Score) :
    SanctionsScreener Json Score Members where
  matchClass := sanctionsMatchClass coerce ofScore
  threshold := threshold

end AeroRisk.Guardrail.Agent2
