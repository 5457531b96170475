import AeroRisk.Library.Sections

/-!
# Parsing compliance rules

Both parsers of `ComplianceLoader` go through the stripped lines of a text
which are not empty.  They keep a pending rule and put it away at the next
heading and at the end.
-/

namespace AeroRisk.Guardrail.Agent2.ComplianceLoader

open AeroRisk.Library.Sections

/-! ## Python's strings -/

/-- `str.isspace()`, for one character. -/
def isSpace (c : Char) : Bool :=
  let code := c.toNat
  (0x09 ≤ code && code ≤ 0x0D) || (0x1C ≤ code && code ≤ 0x20) ||
    (0x2000 ≤ code && code ≤ 0x200A) ||
      [0x85, 0xA0, 0x1680, 0x2028, 0x2029, 0x202F, 0x205F, 0x3000].contains
        code

/-- `str.strip()`. -/
def strip (line : String) : String :=
  String.ofList
    ((line.toList.dropWhile isSpace).reverse.dropWhile isSpace).reverse

/-- `line.split(":", 1)`. -/
def splitColon (line : String) : List String :=
  match line.toList.dropWhile fun c => c ≠ ':' with
  | [] => [line]
  | _ :: after =>
      [ String.ofList (line.toList.takeWhile fun c => c ≠ ':'),
        String.ofList after ]

/-- The stripped lines of a text which are not empty. -/
def strippedLines (content : String) : List String :=
  ((content.splitOn "\n").map strip).filter fun line => line ≠ ""

/-- A loop over the lines which strips them and skips the empty ones. -/
theorem foldl_strippedLines {State : Type} (content : String)
    (step : State → String → State) (start : State) :
    (content.splitOn "\n").foldl
        (fun state line =>
          if strip line = "" then state else step state (strip line))
        start =
      (strippedLines content).foldl step start := by
  rw [strippedLines, List.foldl_filter, List.foldl_map]
  congr 1
  funext state line
  by_cases blank : strip line = ""
  · simp [blank]
  · simp [blank]

/-! ## MiFID II -/

/-- A rule of `parse_mifid2_rules`; the first one has no title. -/
structure Mifid2Rule where
  title : Option String
  sections : List String
deriving DecidableEq, Repr

/-- `current_rule.get("title")`, as a condition. -/
def Mifid2Rule.titled (rule : Mifid2Rule) : Bool :=
  match rule.title with
  | none => false
  | some title => title ≠ ""

/-- The local variables of `parse_mifid2_rules`. -/
structure Mifid2State where
  rules : List Mifid2Rule
  currentRule : Mifid2Rule
deriving DecidableEq, Repr

/-- `line.startswith("Article") or line.startswith("Section")`. -/
def isMifid2Heading (line : String) : Bool :=
  line.startsWith "Article" || line.startsWith "Section"

/-- `if current_rule.get("title"): rules.append(current_rule)`. -/
def Mifid2State.flush (state : Mifid2State) : List Mifid2Rule :=
  if state.currentRule.titled then
    state.rules ++ [state.currentRule]
  else
    state.rules

/-- The loop body, for a line which is stripped and not empty. -/
def parseMifid2Line (state : Mifid2State) (line : String) : Mifid2State :=
  if isMifid2Heading line then
    { rules := state.flush
      currentRule := { title := some line, sections := [] } }
  else
    { state with
      currentRule :=
        { state.currentRule with
          sections := state.currentRule.sections ++ [line] } }

/-- `parse_mifid2_rules`. -/
def parseMifid2Rules (content : String) : List Mifid2Rule :=
  let state :=
    (content.splitOn "\n").foldl
      (fun state line =>
        if strip line = "" then state
        else parseMifid2Line state (strip line))
      { rules := [], currentRule := { title := none, sections := [] } }
  state.flush

/-! ## FINRA -/

/-- A rule of `parse_finra_rules`. -/
structure FinraRule where
  ruleNumber : String
  title : String
  content : List String
deriving DecidableEq, Repr

/-- The local variables of `parse_finra_rules`. -/
structure FinraState where
  rules : List FinraRule
  currentRule : Option FinraRule
deriving DecidableEq, Repr

/-- `line.startswith("Rule ") and ":" in line`. -/
def isFinraHeading (line : String) : Bool :=
  line.startsWith "Rule " && line.contains ':'

/-- The rule which a heading begins. -/
def finraRule (line : String) : FinraRule :=
  let parts := splitColon line
  { ruleNumber := (parts.getD 0 "").replace "Rule " ""
    title := if 1 < parts.length then parts.getD 1 "" else ""
    content := [] }

/-- `if current_rule: rules.append(current_rule)`. -/
def FinraState.flush (state : FinraState) : List FinraRule :=
  match state.currentRule with
  | none => state.rules
  | some rule => state.rules ++ [rule]

/-- The loop body, for a line which is stripped and not empty. -/
def parseFinraLine (state : FinraState) (line : String) : FinraState :=
  if isFinraHeading line then
    { rules := state.flush
      currentRule := some (finraRule line) }
  else
    match state.currentRule with
    | none => state
    | some rule =>
        { state with
          currentRule :=
            some { rule with content := rule.content ++ [line] } }

/-- `parse_finra_rules`. -/
def parseFinraRules (content : String) : List FinraRule :=
  let state :=
    (content.splitOn "\n").foldl
      (fun state line =>
        if strip line = "" then state
        else parseFinraLine state (strip line))
      { rules := [], currentRule := none }
  state.flush

/-! ## Both parsers find the sections -/

/-- The rule of a section. -/
def mifid2RuleOf (part : Section String) : Mifid2Rule where
  title := some part.heading
  sections := part.body

@[inherit_doc mifid2RuleOf]
def finraRuleOf (part : Section String) : FinraRule :=
  { finraRule part.heading with content := part.body }

def startMifid2 (line : String) : Mifid2Rule where
  title := some line
  sections := []

def addMifid2 (rule : Mifid2Rule) (line : String) : Mifid2Rule :=
  { rule with sections := rule.sections ++ [line] }

def addFinra (rule : FinraRule) (line : String) : FinraRule :=
  { rule with content := rule.content ++ [line] }

theorem block_mifid2 (part : Section String) :
    part.block startMifid2 addMifid2 = mifid2RuleOf part := by
  apply
    @Section.block_eq _ _ startMifid2 addMifid2 fun heading body =>
      mifid2RuleOf ⟨heading, body⟩
  · exact fun _ => rfl
  · exact fun _ _ _ => rfl

theorem block_finra (part : Section String) :
    part.block finraRule addFinra = finraRuleOf part := by
  apply
    @Section.block_eq _ _ finraRule addFinra fun heading body =>
      finraRuleOf ⟨heading, body⟩
  · exact fun _ => rfl
  · exact fun _ _ _ => rfl

/-- A rule without a title counts as none. -/
structure Mifid2State.Follows (state : Mifid2State)
    (progress : Progress Mifid2Rule) : Prop where
  rules : state.rules = progress.finished
  pending :
    (progress.pending = none ∧ state.currentRule.titled = false) ∨
      (progress.pending = some state.currentRule ∧
        state.currentRule.titled = true)

namespace Mifid2State.Follows

variable {state : Mifid2State} {progress : Progress Mifid2Rule}

theorem flush_eq (follows : state.Follows progress) :
    state.flush = progress.blocks := by
  rcases follows.pending with ⟨absent, untitled⟩ | ⟨present, titled⟩
  · rw [flush, if_neg (by simp [untitled]), follows.rules, Progress.blocks,
      absent, Option.toList_none, List.append_nil]
  · rw [flush, if_pos titled, follows.rules, Progress.blocks, present,
      Option.toList_some]

theorem parseLine (follows : state.Follows progress) {line : String}
    (notEmpty : line ≠ "") :
    (parseMifid2Line state line).Follows
      (progress.advance isMifid2Heading startMifid2 addMifid2 line) := by
  rw [parseMifid2Line, Progress.advance]
  split
  · refine ⟨follows.flush_eq, .inr ⟨rfl, ?_⟩⟩
    simpa [Mifid2Rule.titled] using notEmpty
  · refine ⟨follows.rules, ?_⟩
    rcases follows.pending with ⟨absent, untitled⟩ | ⟨present, titled⟩
    · exact .inl ⟨by rw [absent, Option.map_none], untitled⟩
    · exact .inr ⟨by rw [present, Option.map_some, addMifid2], titled⟩

theorem foldl (follows : state.Follows progress) {lines : List String}
    (notEmpty : ∀ line ∈ lines, line ≠ "") :
    (lines.foldl parseMifid2Line state).Follows
      (lines.foldl
        (Progress.advance isMifid2Heading startMifid2 addMifid2)
        progress) := by
  induction lines generalizing state progress with
  | nil => exact follows
  | cons line rest inductionHypothesis =>
      rw [List.forall_mem_cons] at notEmpty
      exact
        inductionHypothesis (follows.parseLine notEmpty.1) notEmpty.2

end Mifid2State.Follows

/-- The progress of `parse_finra_rules`. -/
def FinraState.progress (state : FinraState) : Progress FinraRule where
  finished := state.rules
  pending := state.currentRule

theorem FinraState.flush_eq (state : FinraState) :
    state.flush = state.progress.blocks := by
  rcases state with ⟨rules, _ | rule⟩
  · exact (List.append_nil rules).symm
  · rfl

theorem progress_parseFinraLine (state : FinraState) (line : String) :
    state.progress.advance isFinraHeading finraRule addFinra line =
      (parseFinraLine state line).progress := by
  rw [parseFinraLine, Progress.advance]
  split
  · rw [← state.flush_eq]
    rfl
  · rcases state with ⟨rules, _ | rule⟩
    · rfl
    · rfl

theorem ne_empty_of_strippedLines {content line : String}
    (member : line ∈ strippedLines content) : line ≠ "" := by
  simpa using (List.mem_filter.mp member).2

theorem exists_mifid2_sections (content : String) :
    ∃ parts,
      Divides isMifid2Heading (strippedLines content) parts ∧
        parseMifid2Rules content = parts.map mifid2RuleOf := by
  rcases @Progress.exists_tracks _ _ isMifid2Heading startMifid2 addMifid2
      (strippedLines content) with
    ⟨parts, tracks⟩
  have initially :
      Mifid2State.Follows ⟨[], ⟨none, []⟩⟩ ⟨[], none⟩ :=
    ⟨rfl, .inl ⟨rfl, rfl⟩⟩
  have follows :=
    initially.foldl fun line => @ne_empty_of_strippedLines content line
  refine ⟨parts, tracks.divides, ?_⟩
  rw [parseMifid2Rules, foldl_strippedLines, follows.flush_eq, tracks.blocks]
  exact List.map_congr_left fun part _ => block_mifid2 part

theorem exists_finra_sections (content : String) :
    ∃ parts,
      Divides isFinraHeading (strippedLines content) parts ∧
        parseFinraRules content = parts.map finraRuleOf := by
  rcases @Progress.exists_tracks _ _ isFinraHeading finraRule addFinra
      (strippedLines content) with
    ⟨parts, tracks⟩
  have blocks := tracks.blocks
  refine ⟨parts, tracks.divides, ?_⟩
  rw [parseFinraRules, foldl_strippedLines, FinraState.flush_eq,
    ← List.foldl_hom FinraState.progress progress_parseFinraLine]
  refine blocks.trans ?_
  exact List.map_congr_left fun part _ => block_finra part

/--
Each parser divides the stripped lines of a text into sections, and returns
one rule for every heading, in order, with the lines below the heading.
Only the lines before the first heading are in no rule.
-/
theorem rules_of_sections (content : String) :
    (∃ parts,
        Divides isMifid2Heading (strippedLines content) parts ∧
          parts.map Section.heading =
              (strippedLines content).filter isMifid2Heading ∧
            parseMifid2Rules content = parts.map mifid2RuleOf) ∧
      ∃ parts,
        Divides isFinraHeading (strippedLines content) parts ∧
          parts.map Section.heading =
              (strippedLines content).filter isFinraHeading ∧
            parseFinraRules content = parts.map finraRuleOf := by
  rcases exists_mifid2_sections content with ⟨mifid2, divides, isParse⟩
  rcases exists_finra_sections content with ⟨finra, finraDivides, finraParse⟩
  exact
    ⟨⟨mifid2, divides, divides.map_heading, isParse⟩,
      finra, finraDivides, finraDivides.map_heading, finraParse⟩

end AeroRisk.Guardrail.Agent2.ComplianceLoader
