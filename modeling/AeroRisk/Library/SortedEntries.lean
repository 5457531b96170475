import Mathlib.Data.List.Basic
import Mathlib.Data.List.Dedup
import Mathlib.Data.List.Induction
import Mathlib.Data.List.Nodup
import Mathlib.Order.Lattice

/-!
# Maps as sorted lists of entries

A finite map over ordered keys is the list of its entries in increasing order
of the keys.  `upsert` binds a key, which replaces the entry of a key that is
there already.
-/

namespace AeroRisk.Library.SortedEntries

universe u v

variable {Key : Type u}
variable {Value : Type v}
variable [LinearOrder Key]

/-- The keys increase strictly along the list. -/
def Sorted (entries : List (Key × Value)) : Prop :=
  (entries.map Prod.fst).Pairwise (· < ·)

/-- Bind a key to a value. -/
def upsert (key : Key) (value : Value) :
    List (Key × Value) → List (Key × Value)
  | [] => [(key, value)]
  | (first, bound) :: rest =>
      if key < first then
        (key, value) :: (first, bound) :: rest
      else if first < key then
        (first, bound) :: upsert key value rest
      else
        (key, value) :: rest

section Laws

variable {key : Key}
variable {value old : Value}
variable {lower upper entries : List (Key × Value)}

/-- Entries with smaller keys stay in front. -/
theorem upsert_append
    (below : ∀ entry ∈ lower, entry.1 < key) :
    upsert key value (lower ++ entries) =
      lower ++ upsert key value entries := by
  induction lower with
  | nil => rfl
  | cons first rest inductionHypothesis =>
      have smaller := below first List.mem_cons_self
      have kept := inductionHypothesis fun entry member =>
        below entry (List.mem_cons_of_mem _ member)
      rw [List.cons_append, upsert, if_neg (lt_asymm smaller),
        if_pos smaller, kept, List.cons_append]

/-- A key below all others is bound in front. -/
theorem upsert_of_lt
    (above : ∀ entry ∈ upper, key < entry.1) :
    upsert key value upper = (key, value) :: upper := by
  cases upper with
  | nil => rfl
  | cons first rest =>
      rw [upsert, if_pos (above first List.mem_cons_self)]

/-- The entry of the first key is replaced. -/
theorem upsert_cons_self :
    upsert key value ((key, old) :: upper) = (key, value) :: upper := by
  rw [upsert, if_neg (lt_irrefl key), if_neg (lt_irrefl key)]

/-- In a sorted list the entry of a key keeps its place. -/
theorem Sorted.upsert_replace
    (sorted : Sorted (lower ++ (key, old) :: upper)) :
    upsert key value (lower ++ (key, old) :: upper) =
      lower ++ (key, value) :: upper := by
  rw [Sorted, List.map_append, List.pairwise_append] at sorted
  have below : ∀ entry ∈ lower, entry.1 < key := fun entry member =>
    sorted.2.2 entry.1 (List.mem_map_of_mem member) key
      List.mem_cons_self
  rw [upsert_append below, upsert_cons_self]

/-- A new key comes between the smaller and the greater ones. -/
theorem upsert_between
    (below : ∀ entry ∈ lower, entry.1 < key)
    (above : ∀ entry ∈ upper, key < entry.1) :
    upsert key value (lower ++ upper) = lower ++ (key, value) :: upper := by
  rw [upsert_append below, upsert_of_lt above]

theorem mem_keys_upsert {other : Key} :
    other ∈ (upsert key value entries).map Prod.fst ↔
      other = key ∨ other ∈ entries.map Prod.fst := by
  induction entries with
  | nil => simp [upsert]
  | cons first rest inductionHypothesis =>
      rw [upsert]
      split_ifs with smaller greater
      · simp
      · simp only [List.map_cons, List.mem_cons, inductionHypothesis]
        tauto
      · have same : key = first.1 :=
          le_antisymm (not_lt.1 greater) (not_lt.1 smaller)
        simp [same]

theorem Sorted.upsert (sorted : Sorted entries) :
    Sorted (upsert key value entries) := by
  induction entries with
  | nil => exact List.pairwise_singleton _ _
  | cons first rest inductionHypothesis =>
      rw [Sorted, List.map_cons, List.pairwise_cons] at sorted
      rcases sorted with ⟨least, restSorted⟩
      rw [SortedEntries.upsert, Sorted]
      split_ifs with smaller greater
      · simp only [List.map_cons, List.pairwise_cons]
        refine ⟨?_, least, restSorted⟩
        intro other member
        rcases List.mem_cons.1 member with rfl | inRest
        · exact smaller
        · exact smaller.trans (least other inRest)
      · simp only [List.map_cons, List.pairwise_cons]
        refine ⟨?_, inductionHypothesis restSorted⟩
        intro other member
        rcases mem_keys_upsert.1 member with rfl | inRest
        · exact greater
        · exact least other inRest
      · have same : key = first.1 :=
          le_antisymm (not_lt.1 greater) (not_lt.1 smaller)
        simp only [List.map_cons, List.pairwise_cons]
        exact ⟨same ▸ least, restSorted⟩

theorem mem_upsert_self : (key, value) ∈ upsert key value entries := by
  induction entries with
  | nil => exact List.mem_cons_self
  | cons first rest inductionHypothesis =>
      rw [upsert]
      split_ifs
      · exact List.mem_cons_self
      · exact List.mem_cons_of_mem _ inductionHypothesis
      · exact List.mem_cons_self

theorem mem_upsert_of_ne {other : Key} {found : Value}
    (different : other ≠ key) :
    (other, found) ∈ upsert key value entries ↔
      (other, found) ∈ entries := by
  induction entries with
  | nil => simp [upsert, different]
  | cons first rest inductionHypothesis =>
      rw [upsert]
      split_ifs with smaller greater
      · rw [List.mem_cons, Prod.mk.injEq]
        exact or_iff_right fun both => different both.1
      · simp only [List.mem_cons, inductionHypothesis]
      · have same : key = first.1 :=
          le_antisymm (not_lt.1 greater) (not_lt.1 smaller)
        have notFirst : (other, found) ≠ first := fun isFirst =>
          different ((congrArg Prod.fst isFirst).trans same.symm)
        simp [different, notFirst]

/-- A sorted list binds a key to one value only. -/
theorem Sorted.value_unique {other : Value} (sorted : Sorted entries)
    (member : (key, value) ∈ entries)
    (otherMember : (key, other) ∈ entries) : value = other := by
  induction entries with
  | nil => cases member
  | cons first rest inductionHypothesis =>
      rw [Sorted, List.map_cons, List.pairwise_cons] at sorted
      rcases sorted with ⟨least, restSorted⟩
      rcases List.mem_cons.1 member with rfl | inRest
      · rcases List.mem_cons.1 otherMember with same | otherInRest
        · exact (congrArg Prod.snd same).symm
        · exact absurd (least key (List.mem_map_of_mem otherInRest))
            (lt_irrefl key)
      · rcases List.mem_cons.1 otherMember with rfl | otherInRest
        · exact absurd (least key (List.mem_map_of_mem inRest))
            (lt_irrefl key)
        · exact inductionHypothesis restSorted inRest otherInRest

/-- The bound key has the new value, and no other key changes. -/
theorem mem_upsert (sorted : Sorted entries) {other : Key} {found : Value} :
    (other, found) ∈ upsert key value entries ↔
      if other = key then found = value else (other, found) ∈ entries := by
  split_ifs with same
  · subst same
    constructor
    · intro member
      exact sorted.upsert.value_unique member mem_upsert_self
    · rintro rfl
      exact mem_upsert_self
  · exact mem_upsert_of_ne same

/-! ## Lists of bindings -/

/-- Bind the keys of a list of bindings one after the other. -/
def upsertAll
    (bindings : List (Key × Value))
    (entries : List (Key × Value)) :
    List (Key × Value) :=
  bindings.foldl (fun bound binding => upsert binding.1 binding.2 bound)
    entries

/-- The value of the last binding of a key. -/
def lastBinding (bindings : List (Key × Value)) (key : Key) :
    Option Value :=
  (bindings.reverse.find? fun binding => binding.1 = key).map Prod.snd

variable {bindings : List (Key × Value)}

theorem upsertAll_concat (binding : Key × Value) :
    upsertAll (bindings ++ [binding]) entries =
      upsert binding.1 binding.2 (upsertAll bindings entries) := by
  simp [upsertAll]

theorem lastBinding_concat (binding : Key × Value) (key : Key) :
    lastBinding (bindings ++ [binding]) key =
      if key = binding.1 then some binding.2
      else lastBinding bindings key := by
  rw [lastBinding, List.reverse_append, List.reverse_singleton,
    List.singleton_append, List.find?_cons]
  by_cases same : key = binding.1
  · simp [same]
  · simp [lastBinding, same, Ne.symm same]

theorem sorted_upsertAll : Sorted (upsertAll bindings []) := by
  induction bindings using List.reverseRecOn with
  | nil => exact List.Pairwise.nil
  | append_singleton earlier binding inductionHypothesis =>
      rw [upsertAll_concat]
      exact inductionHypothesis.upsert

/-- The list built binds a key to the value of its last binding. -/
theorem mem_upsertAll :
    (key, value) ∈ upsertAll bindings [] ↔
      lastBinding bindings key = some value := by
  induction bindings using List.reverseRecOn with
  | nil => simp [upsertAll, lastBinding]
  | append_singleton earlier binding inductionHypothesis =>
      rw [upsertAll_concat, lastBinding_concat, mem_upsert sorted_upsertAll]
      split_ifs
      · rw [Option.some_inj]
        exact eq_comm
      · exact inductionHypothesis

theorem mem_keys_upsertAll :
    key ∈ (upsertAll bindings []).map Prod.fst ↔
      key ∈ bindings.map Prod.fst := by
  induction bindings using List.reverseRecOn with
  | nil => rfl
  | append_singleton earlier binding inductionHypothesis =>
      rw [upsertAll_concat, mem_keys_upsert, inductionHypothesis,
        List.map_append, List.mem_append, List.map_singleton,
        List.mem_singleton, or_comm]

/-- The list built has one entry for each key bound. -/
theorem length_upsertAll :
    (upsertAll bindings []).length = (bindings.map Prod.fst).dedup.length := by
  have distinct : ((upsertAll bindings []).map Prod.fst).Nodup :=
    sorted_upsertAll.imp ne_of_lt
  have samePermutation :
      ((upsertAll bindings []).map Prod.fst).Perm
        (bindings.map Prod.fst).dedup := by
    rw [List.perm_ext_iff_of_nodup distinct (List.nodup_dedup _)]
    intro key
    rw [mem_keys_upsertAll, List.mem_dedup]
  rw [← samePermutation.length_eq, List.length_map]

end Laws

end AeroRisk.Library.SortedEntries
