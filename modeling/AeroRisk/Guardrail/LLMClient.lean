import AeroRisk.Guardrail.Orchestrator

/-!
# The client of the language model

`LLMClient.generate_decision` posts a prompt, reads the decision out of the
reply, completes it and returns it as a text, which `DecisionOrchestrator`
reads again.  The service and the JSON functions are parameters which may
raise an exception.

Both sides have defaults for what the model leaves out.  The client comes
first, so its `FLAG` and its score count, and neither the `ALLOW` nor the base
score of the orchestrator ever does.
-/

namespace AeroRisk.Guardrail.Agent3

open AeroRisk.Event (Members)
open AeroRisk.Library

/-- `value[name]`. -/
def item (value : Json) (name : String) : Except String Json :=
  match value with
  | .object members =>
      match members.lookup name with
      | some found => .ok found
      | none => .error name
  | _ => .error "indices must be integers"

/-- `value[0]`; a text has a first letter, but the letter has no members. -/
def firstItem (value : Json) : Except String Json :=
  match value with
  | .array (first :: _) => .ok first
  | _ => .error "no first item"

/-- `if name not in members: members[name] = default`. -/
def setDefault (members : Members) (name : String) (default : Json) :
    Members :=
  match members.lookup name with
  | some _ => members
  | none => members ++ [(name, default)]

/-- `members[name] = value`. -/
def setItem (members : Members) (name : String) (value : Json) : Members :=
  match members with
  | [] => [(name, value)]
  | member :: rest =>
      if name = member.1 then (name, value) :: rest
      else member :: setItem rest name value

/-- The response of the service. -/
structure HTTPResponse where
  status : Int
  /-- `response.json()`. -/
  json : Except String Json

/-- `LLMClient`, with what it calls. -/
structure LLMClient where
  modelName : String
  /-- `session.post`, with the payload made from a prompt. -/
  post : String → Except String HTTPResponse
  /-- `json.loads`. -/
  loads : String → Except String Json
  /-- `json.dumps`. -/
  dumps : Json → Except String String

namespace LLMClient

variable (client : LLMClient)

/-- `json.loads(content)`, which only takes a text. -/
def loadContent : Json → Except String Json
  | .string content => client.loads content
  | _ => .error "the JSON object must be str"

/-- The result of the service and the decision which the model wrote. -/
def readReply (prompt : String) : Except String (Json × Json) := do
  let response ← client.post prompt
  if response.status ≠ 200 then
    throw ("LLM API returned " ++ toString response.status)
  let result ← response.json
  let choice ← firstItem (← item result "choices")
  let content ← item (← item choice "message") "content"
  let decisionData ← client.loadContent content
  return (result, decisionData)

/-- The decision with the fields which are required and the token usage. -/
def complete (result decisionData : Json) : Except String Members :=
  match decisionData with
  | .object members => do
      let members := setDefault members "action" (.string "FLAG")
      let members := setDefault members "risk_score" (.number 0.5)
      let usage ← getOr result "usage" (.object [])
      let tokens ← getOr usage "total_tokens" (.integer 0)
      return setItem members "tokens_used" tokens
  -- A list or a text may contain the names, but takes no items by name.
  | _ => .error "object does not support item assignment"

/-- `generate_decision`. -/
def generateDecision (prompt : String) : Except String String := do
  let (result, decisionData) ← client.readReply prompt
  let members ← complete result decisionData
  client.dumps (.object members)

/-- The model wrote a decision with the action `ALLOW`. -/
def SaysAllow (prompt : String) : Prop :=
  ∃ result members,
    client.readReply prompt = .ok (result, .object members) ∧
      members.lookup "action" = some (.string "ALLOW")

end LLMClient

/-! ## The fields of a completed decision -/

section Fields

variable (members : Members) (name other : String) (value : Json)

theorem lookup_setDefault :
    (setDefault members name value).lookup other =
      if other = name then some ((members.lookup name).getD value)
      else members.lookup other := by
  rw [setDefault]
  by_cases same : other = name
  · subst same
    rw [if_pos rfl]
    cases found : members.lookup other with
    | some present => simp [found]
    | none => simp [List.lookup_append, found]
  · have noMatch : (other == name) = false := beq_false_of_ne same
    rw [if_neg same]
    cases members.lookup name with
    | some present => rfl
    | none => simp [List.lookup_append, List.lookup_cons, noMatch]

theorem lookup_setItem :
    (setItem members name value).lookup other =
      if other = name then some value else members.lookup other := by
  induction members with
  | nil => by_cases same : other = name <;> simp [setItem, same]
  | cons member rest inductionHypothesis =>
      obtain ⟨key, present⟩ := member
      rw [setItem]
      by_cases isName : name = key
      · subst isName
        rw [if_pos rfl, List.lookup_cons, List.lookup_cons]
        by_cases same : other = name
        · simp [same]
        · have noMatch : (other == name) = false := beq_false_of_ne same
          simp [same, noMatch]
      · rw [if_neg isName, List.lookup_cons, inductionHypothesis,
          List.lookup_cons]
        by_cases same : other = name
        · have noMatch : (name == key) = false := beq_false_of_ne isName
          simp [same, noMatch]
        · simp [same]

end Fields

namespace LLMClient

variable {client : LLMClient} {prompt : String} {result : Json}
    {members completed : Members}

/-- What a completed decision has where the orchestrator looks. -/
theorem lookup_complete
    (completes : complete result (.object members) = .ok completed) :
    completed.lookup "action" =
        some ((members.lookup "action").getD (.string "FLAG")) ∧
      completed.lookup "risk_score" =
        some ((members.lookup "risk_score").getD (.number 0.5)) := by
  rw [complete] at completes
  obtain ⟨usage, -, completes⟩ := bind_eq_ok_iff.mp completes
  obtain ⟨tokens, -, completes⟩ := bind_eq_ok_iff.mp completes
  cases completes
  constructor <;>
    simp [lookup_setItem, lookup_setDefault]

/-- The text which is returned is that of a completed decision. -/
theorem exists_of_generated {text : String}
    (generated : client.generateDecision prompt = .ok text) :
    ∃ result members completed,
      client.readReply prompt = .ok (result, .object members) ∧
        complete result (.object members) = .ok completed ∧
          client.dumps (.object completed) = .ok text := by
  obtain ⟨⟨result, decisionData⟩, isRead, generated⟩ :=
    bind_eq_ok_iff.mp generated
  obtain ⟨completed, completes, isText⟩ := bind_eq_ok_iff.mp generated
  cases decisionData with
  | object members =>
      exact ⟨result, members, completed, isRead, completes, isText⟩
  | _ => cases completes

end LLMClient

/-! ## The decision of the model -/

namespace DecisionOrchestrator

variable {background : Background}
    {orchestrator : DecisionOrchestrator background}
    {event : TransactionEvent background}
    {context : ContextBundle background}
    {anomalyFlags : List AnomalyFlag}
    {client : LLMClient} {prompt : String} {baseScore : Float}

/-- The orchestrator with a client, whose texts it reads back. -/
structure Uses (orchestrator : DecisionOrchestrator background)
    (client : LLMClient) : Prop where
  generateDecision :
    orchestrator.generateDecision = client.generateDecision
  roundTrip :
    ∀ value text, client.dumps value = .ok text →
      orchestrator.loads text = .ok value

/-- The base score is no part of the decision which a reply describes. -/
theorem llmDecision_baseScore (uses : orchestrator.Uses client)
    (baseScore other : Float) (prompt : String) :
    orchestrator.llmDecision event baseScore prompt =
      orchestrator.llmDecision event other prompt := by
  rw [llmDecision, llmDecision, uses.generateDecision]
  cases generated : client.generateDecision prompt with
  | error error => rfl
  | ok text =>
      obtain ⟨result, members, completed, -, completes, isText⟩ :=
        LLMClient.exists_of_generated generated
      have isScore := (LLMClient.lookup_complete completes).2
      have isLoaded := uses.roundTrip _ _ isText
      have sameScore :
          ∀ score : Float,
            getOr (.object completed) "risk_score" (.number score) =
              .ok ((members.lookup "risk_score").getD (.number 0.5)) := by
        intro score
        rw [getOr, isScore, Option.getD_some]
      simp only [bind, Except.bind, isLoaded, sameScore]

/-- The action of a reply is the one it names, and `FLAG` if it names none. -/
theorem action_llmDecision (uses : orchestrator.Uses client)
    {decision : RiskDecision}
    (decides :
      orchestrator.llmDecision event baseScore prompt = .ok decision) :
    ∃ result members,
      client.readReply prompt = .ok (result, .object members) ∧
        decisionAction ((members.lookup "action").getD (.string "FLAG")) =
          .ok decision.action := by
  rw [llmDecision, uses.generateDecision] at decides
  obtain ⟨text, generated, decides⟩ := bind_eq_ok_iff.mp decides
  obtain ⟨result, members, completed, isRead, completes, isText⟩ :=
    LLMClient.exists_of_generated generated
  obtain ⟨decisionData, isLoaded, decides⟩ := bind_eq_ok_iff.mp decides
  rw [uses.roundTrip _ _ isText] at isLoaded
  cases isLoaded
  have isNamed :
      getOr (.object completed) "action" (.string "ALLOW") =
        .ok ((members.lookup "action").getD (.string "FLAG")) := by
    rw [getOr, (LLMClient.lookup_complete completes).1, Option.getD_some]
  obtain ⟨named, isOther, decides⟩ := bind_eq_ok_iff.mp decides
  obtain ⟨action, isAction, decides⟩ := bind_eq_ok_iff.mp decides
  rw [isNamed, Except.ok.injEq] at isOther
  rw [← isOther] at isAction
  obtain ⟨_, -, decides⟩ := bind_eq_ok_iff.mp decides
  obtain ⟨level, -, decides⟩ := bind_eq_ok_iff.mp decides
  obtain ⟨riskScore, -, decides⟩ := bind_eq_ok_iff.mp decides
  obtain ⟨reason, -, decides⟩ := bind_eq_ok_iff.mp decides
  obtain ⟨limits, -, decides⟩ := bind_eq_ok_iff.mp decides
  obtain ⟨tokens, -, decides⟩ := bind_eq_ok_iff.mp decides
  obtain ⟨confidence, -, decides⟩ := bind_eq_ok_iff.mp decides
  refine ⟨result, members, isRead, ?_⟩
  rw [action_riskDecision decides]
  exact isAction

/-- A reply without an action flags the event. -/
theorem flag_of_no_action (uses : orchestrator.Uses client)
    {decision : RiskDecision}
    (decides :
      orchestrator.llmDecision event baseScore prompt = .ok decision)
    {result : Json} {members : Members}
    (isRead : client.readReply prompt = .ok (result, .object members))
    (noAction : members.lookup "action" = none) :
    decision.action = .flag := by
  obtain ⟨_, _, isOther, isAction⟩ := action_llmDecision uses decides
  rw [isRead] at isOther
  cases isOther
  rw [noAction] at isAction
  exact (Except.ok.inj isAction).symm

/-- A reply allows an event exactly when it names the action `ALLOW`. -/
theorem decisionAction_eq_allow_iff (named : Json) :
    decisionAction named = .ok .allow ↔ named = .string "ALLOW" := by
  constructor
  · intro isAllow
    cases named with
    | string name =>
        by_cases same : "ALLOW" = name
        · rw [← same]
        · rw [decisionAction, ofValue] at isAllow
          split at isAllow
          · next found isFound =>
              cases isAllow
              have value := List.find?_some isFound
              exact absurd (of_decide_eq_true value) same
          · cases isAllow
    | _ => cases isAllow
  · rintro rfl
    rfl

theorem llmDecision_allow_iff (uses : orchestrator.Uses client)
    {decision : RiskDecision}
    (decides :
      orchestrator.llmDecision event baseScore prompt = .ok decision) :
    decision.action = .allow ↔ client.SaysAllow prompt := by
  obtain ⟨result, members, isRead, isAction⟩ :=
    action_llmDecision uses decides
  have allows :
      decision.action = .allow ↔
        (members.lookup "action").getD (.string "FLAG") =
          .string "ALLOW" := by
    rw [← decisionAction_eq_allow_iff, isAction, Except.ok.injEq]
  rw [allows]
  constructor
  · intro named
    refine ⟨result, members, isRead, ?_⟩
    cases found : members.lookup "action" with
    | none => simp [found] at named
    | some action =>
        rw [found, Option.getD_some] at named
        rw [named]
  · rintro ⟨_, _, isOther, named⟩
    rw [isRead] at isOther
    cases isOther
    rw [named]
    rfl

theorem fallbackDecision_allow_iff {decision : RiskDecision}
    (decides : orchestrator.fallbackDecision event baseScore = .ok decision) :
    decision.action = .allow ↔ ¬ baseScore ≥ 0.8 ∧ ¬ baseScore ≥ 0.5 := by
  rw [fallbackDecision] at decides
  by_cases high : baseScore ≥ 0.8
  · rw [if_pos high] at decides
    simp [action_riskDecision decides, high]
  · by_cases medium : baseScore ≥ 0.5
    · rw [if_neg high, if_pos medium] at decides
      simp [action_riskDecision decides, medium]
    · rw [if_neg high, if_neg medium] at decides
      simp [action_riskDecision decides, high, medium]

/-- Whether the reply of the model or the fallback allows an event. -/
theorem allow_iff_of_scored (uses : orchestrator.Uses client)
    {decision : RiskDecision}
    (decides :
      tryCatch (orchestrator.llmDecision event baseScore prompt)
          (fun _ => orchestrator.fallbackDecision event baseScore) =
        .ok decision) :
    decision.action = .allow ↔
      (∃ reply,
          orchestrator.llmDecision event baseScore prompt = .ok reply) ∧
          client.SaysAllow prompt ∨
        (∃ error,
          orchestrator.llmDecision event baseScore prompt = .error error) ∧
          ¬ baseScore ≥ 0.8 ∧ ¬ baseScore ≥ 0.5 := by
  cases replies : orchestrator.llmDecision event baseScore prompt with
  | ok reply =>
      rw [replies] at decides
      cases decides
      rw [llmDecision_allow_iff uses replies]
      simp
  | error error =>
      rw [replies] at decides
      have falls :
          orchestrator.fallbackDecision event baseScore = .ok decision :=
        decides
      rw [fallbackDecision_allow_iff falls]
      simp

/-- Where the decision of `evaluate` comes from. -/
theorem scored_of_evaluate {decision : RiskDecision} {effects : List Effect}
    (noMatch : context.sanctionsMatch = none)
    (evaluated :
      orchestrator.evaluate event context anomalyFlags [] =
        .ok decision effects) :
    ∃ scored,
      orchestrator.scoredDecision event context anomalyFlags = .ok scored ∧
        decision.action = scored.action := by
  rw [evaluate, noMatch] at evaluated
  obtain ⟨scored, _, isScored, evaluated⟩ :=
    Commands.bind_eq_ok_iff.mp evaluated
  obtain ⟨recorded, stored, reported, evaluated⟩ :=
    Commands.bind_eq_ok_iff.mp evaluated
  obtain ⟨_, counted, updated, returned⟩ :=
    Commands.bind_eq_ok_iff.mp evaluated
  cases returned
  exact
    ⟨scored, (Commands.ofExcept_eq_ok_iff.mp isScored).1,
      (reportIfNeeded_spec reported).1⟩

/--
An event is allowed exactly when no sanctions match, and either the model is
used and wrote `ALLOW` itself, or its reply raised an exception and the base
score is below the thresholds of the fallback.  A reply without an action flags
the event, and the base score is no part of a decision of the model, whatever
the model leaves out.
-/
theorem allowed_iff (uses : orchestrator.Uses client)
    {decision : RiskDecision} {effects : List Effect}
    (evaluated :
      orchestrator.evaluate event context anomalyFlags [] =
        .ok decision effects) :
    (decision.action = .allow ↔
      context.sanctionsMatch = none ∧
        ∃ baseScore prompt,
          orchestrator.calculateScore event context anomalyFlags =
              .ok baseScore ∧
            orchestrator.prompt event context anomalyFlags baseScore =
                .ok prompt ∧
              ((∃ reply,
                  orchestrator.llmDecision event baseScore prompt =
                    .ok reply) ∧ client.SaysAllow prompt ∨
                (∃ error,
                  orchestrator.llmDecision event baseScore prompt =
                    .error error) ∧
                  ¬ baseScore ≥ 0.8 ∧ ¬ baseScore ≥ 0.5)) ∧
      (∀ baseScore prompt reply result members,
        orchestrator.llmDecision event baseScore prompt = .ok reply →
          client.readReply prompt = .ok (result, .object members) →
            members.lookup "action" = none →
              reply.action = .flag) ∧
      ∀ baseScore other prompt,
        orchestrator.llmDecision event baseScore prompt =
          orchestrator.llmDecision event other prompt := by
  refine
    ⟨?_,
      fun _ _ _ _ _ decides isRead noAction =>
        flag_of_no_action uses decides isRead noAction,
      llmDecision_baseScore uses⟩
  cases isMatch : context.sanctionsMatch with
  | some sanctionsMatch =>
      rw [evaluate, isMatch] at evaluated
      have decides := (Commands.ofExcept_eq_ok_iff.mp evaluated).1
      have blocks := action_riskDecision decides
      simp [blocks]
  | none =>
      obtain ⟨scored, isScored, sameAction⟩ :=
        scored_of_evaluate isMatch evaluated
      obtain ⟨baseScore, isScore, isScored⟩ := bind_eq_ok_iff.mp isScored
      obtain ⟨prompt, isPrompt, isScored⟩ := bind_eq_ok_iff.mp isScored
      rw [sameAction, allow_iff_of_scored uses isScored]
      constructor
      · exact fun decided => ⟨rfl, baseScore, prompt, isScore, isPrompt, decided⟩
      · rintro ⟨-, other, otherPrompt, isOther, isOtherPrompt, decided⟩
        rw [isScore] at isOther
        cases isOther
        rw [isPrompt] at isOtherPrompt
        cases isOtherPrompt
        exact decided

/-- The reply of a model which allows an event. -/
def allowingReply : Json :=
  .object
    [("choices",
        .array
          [.object
            [("message", .object [("content", .string "allowing")])]])]

/-- What the model wrote, and what the client makes of it. -/
def allowingDecision (tokens : Members) : Json :=
  .object
    ([("action", .string "ALLOW"), ("risk_score", .integer 0)] ++ tokens)

/-- A client of a service which gives that reply. -/
def allowingClient : LLMClient where
  modelName := "gpt-4"
  post := fun _ => .ok { status := 200, json := .ok allowingReply }
  loads := fun _ => .ok (allowingDecision [])
  dumps := fun
    | .object
        [("action", .string "ALLOW"), ("risk_score", .integer 0),
          ("tokens_used", .integer 0)] => .ok "allowed"
    | _ => .error "not serializable"

/-- An orchestrator with that client. -/
def allowingOrchestrator : DecisionOrchestrator noBackground where
  calculateScore := fun _ _ _ => .ok 0.9
  promptData := fun _ _ => .ok ()
  promptTexts := fun _ _ => .ok ⟨"", "", "", ""⟩
  formatPrompt := fun _ _ => ""
  generateDecision := allowingClient.generateDecision
  modelName := allowingClient.modelName
  loads := fun _ => .ok (allowingDecision [("tokens_used", .integer 0)])
  checkDecision := fun decision => .ok decision.details
  checkReport := fun _ => .ok "report-1"
  insertIncidentReport := fun _ => .ok ()
  incrementTriggerCount := fun _ => .ok ()

theorem uses_allowingClient : allowingOrchestrator.Uses allowingClient where
  generateDecision := rfl
  roundTrip := by
    intro value text isText
    rw [allowingClient] at isText
    dsimp only at isText
    split at isText
    · rfl
    · cases isText

theorem allowed_iff_sample :
    let event : TransactionEvent noBackground :=
      { eventID := "event-1", userID := "user-1", symbol := "AAPL"
        data := () }
    let context : ContextBundle noBackground :=
      { sanctionsMatch := none, data := () }
    context.sanctionsMatch = none ∧
      ∃ baseScore prompt,
        allowingOrchestrator.calculateScore event context [] =
            .ok baseScore ∧
          allowingOrchestrator.prompt event context [] baseScore =
              .ok prompt ∧
            ((∃ reply,
                allowingOrchestrator.llmDecision event baseScore prompt =
                  .ok reply) ∧ allowingClient.SaysAllow prompt ∨
              (∃ error,
                allowingOrchestrator.llmDecision event baseScore prompt =
                  .error error) ∧
                ¬ baseScore ≥ 0.8 ∧ ¬ baseScore ≥ 0.5) := by
  intro event context
  refine
    (@allowed_iff _ allowingOrchestrator event context [] allowingClient
      uses_allowingClient _ _ rfl).1.mp rfl

end DecisionOrchestrator

end AeroRisk.Guardrail.Agent3
