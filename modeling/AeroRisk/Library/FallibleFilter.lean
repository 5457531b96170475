import Mathlib.Data.List.Basic

/-!
# Filters and maps which may fail

The monadic filter of the library searches a list from the front and stops at
the first test which fails.  If none fails it finds what the pure filter does.
A monadic map which does not fail has the result of every item at its place.

A loop which collects results and stops at the first failure has the results
before it.  These are all results if and only if none comes after a failure.
-/

namespace AeroRisk.Library.FallibleFilter

variable {Item Error : Type}
variable {test : Item → Except Error Bool}
variable {items before found : List Item}

/-- The test did not fail, and its answer is yes. -/
def accepts : Except Error Bool → Bool
  | .ok answer => answer
  | .error _ => false

/-- The auxiliary loop puts what it finds in front of what it has found. -/
theorem filterAuxM_eq_ok
    (isFound : List.filterAuxM test items before = .ok found) :
    found =
      (items.filter fun item => accepts (test item)).reverse ++ before := by
  induction items generalizing before with
  | nil =>
      cases isFound
      rfl
  | cons item rest inductionHypothesis =>
      rw [List.filterAuxM] at isFound
      cases answer : test item with
      | error error =>
          rw [answer] at isFound
          cases isFound
      | ok answered =>
          rw [answer] at isFound
          have later := inductionHypothesis isFound
          cases answered with
          | true => simpa [answer, accepts] using later
          | false => simpa [answer, accepts] using later

theorem exists_filterAuxM
    (answers : ∀ item ∈ items, ∃ answer, test item = .ok answer) :
    ∃ found, List.filterAuxM test items before = .ok found := by
  induction items generalizing before with
  | nil => exact ⟨before, rfl⟩
  | cons item rest inductionHypothesis =>
      rw [List.forall_mem_cons] at answers
      rcases answers with ⟨⟨answer, answered⟩, restAnswers⟩
      rw [List.filterAuxM, answered]
      exact inductionHypothesis restAnswers

/-- A loop which does not fail has had an answer for every item. -/
theorem answers_of_filterAuxM
    (isFound : List.filterAuxM test items before = .ok found) :
    ∀ item ∈ items, ∃ answer, test item = .ok answer := by
  induction items generalizing before with
  | nil =>
      intro item member
      exact absurd member List.not_mem_nil
  | cons item rest inductionHypothesis =>
      rw [List.filterAuxM] at isFound
      cases answered : test item with
      | error error =>
          rw [answered] at isFound
          cases isFound
      | ok answer =>
          rw [answered] at isFound
          rw [List.forall_mem_cons]
          exact ⟨⟨answer, answered⟩, inductionHypothesis isFound⟩

/-- A filter which does not fail finds the accepted items. -/
theorem eq_filter_of_filterM (isFound : items.filterM test = .ok found) :
    found = items.filter fun item => accepts (test item) := by
  rw [List.filterM] at isFound
  cases searched : List.filterAuxM test items [] with
  | error error =>
      rw [searched] at isFound
      cases isFound
  | ok reversed =>
      rw [searched] at isFound
      cases isFound
      rw [filterAuxM_eq_ok searched, List.append_nil, List.reverse_reverse]

/-- A filter whose tests do not fail does not fail. -/
theorem filterM_of_answers
    (answers : ∀ item ∈ items, ∃ answer, test item = .ok answer) :
    items.filterM test =
      .ok (items.filter fun item => accepts (test item)) := by
  obtain ⟨reversed, searched⟩ :
      ∃ reversed, List.filterAuxM test items [] = .ok reversed :=
    exists_filterAuxM answers
  have isFound : items.filterM test = .ok reversed.reverse := by
    rw [List.filterM, searched]
    rfl
  rw [isFound, eq_filter_of_filterM isFound]

/-- A filter does not fail when none of its tests does. -/
theorem exists_filterM_iff :
    (∃ found, items.filterM test = .ok found) ↔
      ∀ item ∈ items, ∃ answer, test item = .ok answer := by
  constructor
  · rintro ⟨found, isFound⟩
    rw [List.filterM] at isFound
    cases searched : List.filterAuxM test items [] with
    | error error =>
        rw [searched] at isFound
        cases isFound
    | ok reversed => exact answers_of_filterAuxM searched
  · exact fun answers => ⟨_, filterM_of_answers answers⟩

/-! ## Maps -/

variable {Result : Type} {function : Item → Except Error Result}
variable {results : List Result}

/-- A map which does not fail relates items and results. -/
theorem forall₂_of_mapM (mapped : items.mapM function = .ok results) :
    List.Forall₂ (fun item result => function item = .ok result) items
      results := by
  induction items generalizing results with
  | nil =>
      cases mapped
      exact .nil
  | cons item rest inductionHypothesis =>
      rw [List.mapM_cons] at mapped
      cases computed : function item with
      | error error =>
          rw [computed] at mapped
          cases mapped
      | ok result =>
          rw [computed] at mapped
          cases continued : rest.mapM function with
          | error error =>
              change (rest.mapM function >>= _) = _ at mapped
              rw [continued] at mapped
              cases mapped
          | ok others =>
              change (rest.mapM function >>= _) = _ at mapped
              rw [continued] at mapped
              cases mapped
              exact .cons computed (inductionHypothesis continued)

/-- Every item has its result at the same place. -/
theorem getElem?_of_mapM (mapped : items.mapM function = .ok results)
    {index : Nat} {item : Item} (isItem : items[index]? = some item) :
    ∃ result,
      results[index]? = some result ∧ function item = .ok result := by
  have related := forall₂_of_mapM mapped
  clear mapped
  induction related generalizing index with
  | nil => simp at isItem
  | cons computed _ inductionHypothesis =>
      cases index with
      | zero =>
          cases isItem
          exact ⟨_, rfl, computed⟩
      | succ index => exact inductionHypothesis isItem

/-! ## Results before the first failure -/

variable {Found : Type} {produce : Item → Except Error Found}

/-- The results of the items before the first one which fails. -/
def beforeFailure (produce : Item → Except Error Found) :
    List Item → List Found
  | [] => []
  | item :: rest =>
      match produce item with
      | .ok result => result :: beforeFailure produce rest
      | .error _ => []

/-- The result of an item which has one. -/
def success (produce : Item → Except Error Found) (item : Item) :
    Option Found :=
  (produce item).toOption

theorem beforeFailure_cons_of_ok {item : Item} {result : Found}
    (produced : produce item = .ok result) (rest : List Item) :
    beforeFailure produce (item :: rest) =
      result :: beforeFailure produce rest := by
  rw [beforeFailure, produced]

theorem beforeFailure_cons_of_error {item : Item} {error : Error}
    (failed : produce item = .error error) (rest : List Item) :
    beforeFailure produce (item :: rest) = [] := by
  rw [beforeFailure, failed]

/-- The failure costs exactly the results which come after it. -/
theorem beforeFailure_eq_filterMap_iff (items : List Item) :
    beforeFailure produce items = items.filterMap (success produce) ↔
      items.Pairwise fun earlier later =>
        success produce later ≠ none → success produce earlier ≠ none := by
  induction items with
  | nil => exact iff_of_true rfl .nil
  | cons item rest inductionHypothesis =>
      rw [List.pairwise_cons]
      cases produced : produce item with
      | ok result =>
          have succeeds : success produce item = some result := by
            rw [success, produced]
            rfl
          rw [beforeFailure_cons_of_ok produced,
            List.filterMap_cons_some succeeds, List.cons_inj_right,
            inductionHypothesis]
          simp [succeeds]
      | error error =>
          have fails : success produce item = none := by
            rw [success, produced]
            rfl
          rw [beforeFailure_cons_of_error produced,
            List.filterMap_cons_none fails, eq_comm,
            List.filterMap_eq_nil_iff]
          simp only [fails, ne_eq, not_true_eq_false, imp_false, not_not]
          constructor
          · intro allFail
            refine ⟨allFail, List.pairwise_of_forall_mem_list ?_⟩
            intro earlier _ later member succeeds
            exact absurd (allFail later member) succeeds
          · exact And.left

/-- A map succeeds on the items when it succeeds on each of them. -/
theorem exists_mapM_iff {items : List Item} :
    (∃ results, items.mapM produce = .ok results) ↔
      ∀ item ∈ items, ∃ result, produce item = .ok result := by
  constructor
  · rintro ⟨results, mapped⟩ item member
    obtain ⟨index, isItem⟩ := List.mem_iff_getElem?.mp member
    obtain ⟨result, -, produced⟩ := getElem?_of_mapM mapped isItem
    exact ⟨result, produced⟩
  · intro succeeds
    induction items with
    | nil => exact ⟨[], rfl⟩
    | cons item rest inductionHypothesis =>
        rw [List.forall_mem_cons] at succeeds
        obtain ⟨⟨result, produced⟩, later⟩ := succeeds
        obtain ⟨results, mapped⟩ := inductionHypothesis later
        refine ⟨result :: results, ?_⟩
        rw [List.mapM_cons, produced]
        change (rest.mapM produce >>= _) = _
        rw [mapped]
        rfl

/-- Its results are those of the items. -/
theorem eq_filterMap_of_mapM {items : List Item} {results : List Found}
    (mapped : items.mapM produce = .ok results) :
    results = items.filterMap (success produce) := by
  have related := forall₂_of_mapM mapped
  clear mapped
  induction related with
  | nil => rfl
  | @cons item result rest others produced _ inductionHypothesis =>
      have succeeds : success produce item = some result := by
        rw [success, produced]
        rfl
      rw [List.filterMap_cons_some succeeds, inductionHypothesis]

end AeroRisk.Library.FallibleFilter
