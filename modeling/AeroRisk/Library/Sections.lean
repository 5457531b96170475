import Mathlib.Data.List.Induction

/-!
# Lines below headings

A list of lines is divided into sections: a heading with the lines up to the
next one.  A parser which keeps one pending block, adds lines to it, and puts
it away at the next heading and at the end finds these sections.
-/

namespace AeroRisk.Library.Sections

universe u v

variable {Line : Type u} {Block : Type v}

/-- A heading with the lines below it. -/
structure Section (Line : Type u) where
  heading : Line
  body : List Line

namespace Section

/-- The lines of a section, its heading first. -/
def lines (part : Section Line) : List Line :=
  part.heading :: part.body

/-- A further line. -/
def add (part : Section Line) (line : Line) : Section Line where
  heading := part.heading
  body := part.body ++ [line]

@[simp]
theorem lines_add (part : Section Line) (line : Line) :
    (part.add line).lines = part.lines ++ [line] :=
  rfl

/-- The block a parser builds from a section. -/
def block (start : Line → Block) (add : Block → Line → Block)
    (part : Section Line) : Block :=
  part.body.foldl add (start part.heading)

@[simp]
theorem block_add (start : Line → Block) (add : Block → Line → Block)
    (part : Section Line) (line : Line) :
    (part.add line).block start add = add (part.block start add) line := by
  simp [block, Section.add]

/-- A parser whose blocks are built from a heading and its lines. -/
theorem block_eq {start : Line → Block} {add : Block → Line → Block}
    {build : Line → List Line → Block}
    (started : ∀ heading, start heading = build heading [])
    (added :
      ∀ heading body line,
        add (build heading body) line = build heading (body ++ [line]))
    (part : Section Line) :
    part.block start add = build part.heading part.body := by
  rcases part with ⟨heading, body⟩
  induction body using List.reverseRecOn with
  | nil => exact started heading
  | append_singleton body line inductionHypothesis =>
      have last := block_add start add ⟨heading, body⟩ line
      rw [inductionHypothesis, added] at last
      exact last

end Section

variable (isHeading : Line → Bool)

/--
Every line is in exactly one place: before the first heading, or in the
section of the nearest heading above it, in the order of the lines.
-/
structure Divides (lines : List Line) (parts : List (Section Line)) :
    Prop where
  complete :
    ∃ preface : List Line,
      (∀ line ∈ preface, isHeading line = false) ∧
        preface ++ parts.flatMap Section.lines = lines
  headings : ∀ part ∈ parts, isHeading part.heading = true
  bodies :
    ∀ part ∈ parts, ∀ line ∈ part.body, isHeading line = false

namespace Divides

variable {isHeading} {lines : List Line} {parts : List (Section Line)}
variable {line : Line}

theorem nil : Divides isHeading [] [] where
  complete := ⟨[], by simp, rfl⟩
  headings := by simp
  bodies := by simp

/-- A heading begins a section. -/
theorem heading (divides : Divides isHeading lines parts)
    (isHead : isHeading line = true) :
    Divides isHeading (lines ++ [line]) (parts ++ [⟨line, []⟩]) where
  complete := by
    rcases divides.complete with ⟨preface, before, rfl⟩
    exact ⟨preface, before, by simp [Section.lines]⟩
  headings := by
    intro part member
    rcases List.mem_append.mp member with old | new
    · exact divides.headings part old
    · rw [List.mem_singleton.mp new]
      exact isHead
  bodies := by
    intro part member other inBody
    rcases List.mem_append.mp member with old | new
    · exact divides.bodies part old other inBody
    · rw [List.mem_singleton.mp new] at inBody
      cases inBody

/-- Before the first heading a line belongs to no section. -/
theorem preface (divides : Divides isHeading lines [])
    (notHead : isHeading line = false) :
    Divides isHeading (lines ++ [line]) [] where
  complete := by
    rcases divides.complete with ⟨preface, before, rfl⟩
    refine ⟨preface ++ [line], ?_, by simp⟩
    intro other member
    rcases List.mem_append.mp member with old | new
    · exact before other old
    · rw [List.mem_singleton.mp new]
      exact notHead
  headings := divides.headings
  bodies := divides.bodies

/-- A line goes to the end of the last section. -/
theorem below {part : Section Line}
    (divides : Divides isHeading lines (parts ++ [part]))
    (notHead : isHeading line = false) :
    Divides isHeading (lines ++ [line]) (parts ++ [part.add line]) where
  complete := by
    rcases divides.complete with ⟨preface, before, rfl⟩
    exact ⟨preface, before, by simp⟩
  headings := by
    intro other member
    rcases List.mem_append.mp member with old | new
    · exact divides.headings other (List.mem_append_left _ old)
    · rw [List.mem_singleton.mp new]
      exact divides.headings part (by simp)
  bodies := by
    intro other member inside inBody
    rcases List.mem_append.mp member with old | new
    · exact
        divides.bodies other (List.mem_append_left _ old) inside inBody
    · rw [List.mem_singleton.mp new] at inBody
      rcases List.mem_append.mp inBody with earlier | last
      · exact divides.bodies part (by simp) inside earlier
      · rw [List.mem_singleton.mp last]
        exact notHead

theorem filter_eq_nil (none : ∀ line ∈ lines, isHeading line = false) :
    lines.filter isHeading = [] := by
  rw [List.filter_eq_nil_iff]
  intro line member
  rw [none line member]
  exact Bool.false_ne_true

/-- Of the lines of sections, their headings are headings. -/
theorem filter_lines
    (headings : ∀ part ∈ parts, isHeading part.heading = true)
    (bodies : ∀ part ∈ parts, ∀ line ∈ part.body, isHeading line = false) :
    (parts.flatMap Section.lines).filter isHeading =
      parts.map Section.heading := by
  induction parts with
  | nil => rfl
  | cons part rest inductionHypothesis =>
      rw [List.forall_mem_cons] at headings bodies
      rw [List.flatMap_cons, List.filter_append,
        inductionHypothesis headings.2 bodies.2, Section.lines,
        List.filter_cons_of_pos headings.1, filter_eq_nil bodies.1]
      rfl

/-- The sections are those of the headings, in order. -/
theorem map_heading (divides : Divides isHeading lines parts) :
    parts.map Section.heading = lines.filter isHeading := by
  rcases divides.complete with ⟨preface, before, rfl⟩
  rw [List.filter_append, filter_eq_nil before, List.nil_append,
    filter_lines divides.headings divides.bodies]

end Divides

/-! ## Parsers with a pending block -/

/-- The blocks put away so far, and the pending one. -/
structure Progress (Block : Type v) where
  finished : List Block
  pending : Option Block

namespace Progress

/-- All blocks, when the lines end. -/
def blocks (progress : Progress Block) : List Block :=
  progress.finished ++ progress.pending.toList

/-- A heading puts the pending block away, and another line is added to it. -/
def advance (start : Line → Block) (add : Block → Line → Block)
    (progress : Progress Block) (line : Line) : Progress Block :=
  if isHeading line then
    { finished := progress.blocks
      pending := some (start line) }
  else
    { finished := progress.finished
      pending := progress.pending.map fun block => add block line }

variable {isHeading}

/-- The progress and its sections so far. -/
structure Tracks (isHeading : Line → Bool) (start : Line → Block)
    (add : Block → Line → Block) (lines : List Line)
    (parts : List (Section Line)) (progress : Progress Block) : Prop where
  divides : Divides isHeading lines parts
  blocks : progress.blocks = parts.map (Section.block start add)
  started : progress.pending = none → progress.finished = []

variable {start : Line → Block} {add : Block → Line → Block}

/-- A pending block is the one of the last section. -/
theorem Tracks.exists_last {lines : List Line}
    {parts : List (Section Line)} {finished : List Block} {block : Block}
    (tracks :
      Tracks isHeading start add lines parts ⟨finished, some block⟩) :
    ∃ earlier part,
      parts = earlier ++ [part] ∧
        finished = earlier.map (Section.block start add) ∧
          block = part.block start add := by
  have blocks := tracks.blocks
  rcases List.eq_nil_or_concat parts with rfl | ⟨earlier, part, rfl⟩
  · simp [Progress.blocks] at blocks
  · rw [Progress.blocks, Option.toList_some, List.concat_eq_append,
      List.map_append, List.map_singleton] at blocks
    rcases List.append_inj' blocks rfl with ⟨same, last⟩
    exact
      ⟨earlier, part, List.concat_eq_append, same,
        List.singleton_inj.mp last⟩

/-- One line keeps the track. -/
theorem Tracks.advance {lines : List Line} {parts : List (Section Line)}
    {progress : Progress Block}
    (tracks : Tracks isHeading start add lines parts progress)
    (line : Line) :
    ∃ parts',
      Tracks isHeading start add (lines ++ [line]) parts'
        (progress.advance isHeading start add line) := by
  rw [Progress.advance]
  cases isHead : isHeading line with
  | true =>
      rw [if_pos rfl]
      refine
        ⟨parts ++ [⟨line, []⟩], tracks.divides.heading isHead, ?_,
          fun absent => absurd absent (Option.some_ne_none _)⟩
      rw [Progress.blocks, tracks.blocks, List.map_append]
      rfl
  | false =>
      rw [if_neg Bool.false_ne_true]
      rcases progress with ⟨finished, _ | block⟩
      · have nothing : parts = [] := by
          have blocks := tracks.blocks
          rw [Progress.blocks, tracks.started rfl] at blocks
          exact List.map_eq_nil_iff.mp blocks.symm
        subst nothing
        exact
          ⟨[], tracks.divides.preface isHead, tracks.blocks,
            tracks.started⟩
      · rcases tracks.exists_last with ⟨earlier, part, rfl, rfl, rfl⟩
        refine
          ⟨earlier ++ [part.add line], tracks.divides.below isHead, ?_,
            fun absent => absurd absent (Option.some_ne_none _)⟩
        simp [Progress.blocks]

/-- A run of the parser finds the sections of the lines. -/
theorem exists_tracks (start : Line → Block) (add : Block → Line → Block)
    (lines : List Line) :
    ∃ parts,
      Tracks isHeading start add lines parts
        (lines.foldl (Progress.advance isHeading start add) ⟨[], none⟩) := by
  induction lines using List.reverseRecOn with
  | nil => exact ⟨[], Divides.nil, rfl, fun _ => rfl⟩
  | append_singleton earlier line inductionHypothesis =>
      rcases inductionHypothesis with ⟨parts, tracks⟩
      rw [List.foldl_append, List.foldl_cons, List.foldl_nil]
      exact tracks.advance line

end Progress

end AeroRisk.Library.Sections
