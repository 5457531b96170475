import Mathlib.Data.List.Nodup

/-!
# First-in first-out queues and arrival orders

An arrival log lists elements in the order in which they arrived.  A queue
keeps arrival order when it is a sublist of the log.  Without duplicates the
order relation of a log is asymmetric, so an element which arrived before the
front of such a queue cannot be queued behind it.
-/

namespace AeroRisk.Library.FifoQueue

universe u

variable {Element : Type u}

/-- `first` stands before `second` in the log. -/
def Precedes (log : List Element) (first second : Element) : Prop :=
  List.Sublist [first, second] log

/-- The order within a queue is an order within every log it is taken from. -/
theorem Precedes.of_sublist {queue log : List Element}
    {first second : Element} (kept : queue.Sublist log)
    (precedes : Precedes queue first second) :
    Precedes log first second :=
  List.Sublist.trans precedes kept

theorem precedes_of_mem_tail {front later : Element} {others : List Element}
    (member : later ∈ others) : Precedes (front :: others) front later :=
  List.Sublist.cons_cons front (List.singleton_sublist.mpr member)

theorem Precedes.mem {log : List Element} {first second : Element}
    (precedes : Precedes log first second) : first ∈ log ∧ second ∈ log :=
  ⟨List.Sublist.subset precedes (by simp),
    List.Sublist.subset precedes (by simp)⟩

theorem precedes_cons {log : List Element} {head first second : Element} :
    Precedes (head :: log) first second ↔
      Precedes log first second ∨ first = head ∧ second ∈ log := by
  constructor
  · intro precedes
    cases precedes with
    | cons _ inTail => exact Or.inl inTail
    | cons_cons _ inTail =>
        exact Or.inr ⟨rfl, List.singleton_sublist.mp inTail⟩
  · rintro (inTail | ⟨rfl, member⟩)
    · exact List.Sublist.cons _ inTail
    · exact precedes_of_mem_tail member

theorem Precedes.asymm {log : List Element} (nodup : log.Nodup)
    {first second : Element} (precedes : Precedes log first second) :
    ¬ Precedes log second first := by
  induction log with
  | nil => cases precedes
  | cons head rest inductionHypothesis =>
      obtain ⟨headFresh, restNodup⟩ := List.nodup_cons.mp nodup
      intro reversed
      rcases precedes_cons.mp precedes with inRest | ⟨rfl, secondMember⟩
      · rcases precedes_cons.mp reversed with
          reversedInRest | ⟨rfl, -⟩
        · exact inductionHypothesis restNodup inRest reversedInRest
        · exact headFresh inRest.mem.2
      · rcases precedes_cons.mp reversed with
          reversedInRest | ⟨rfl, firstMember⟩
        · exact headFresh reversedInRest.mem.2
        · exact headFresh firstMember

/-- Nobody who arrived before the front of a queue waits in the queue. -/
theorem not_precedes_front {log others : List Element} {front : Element}
    (nodup : log.Nodup) (kept : (front :: others).Sublist log)
    {waiting : Element} (member : waiting ∈ front :: others) :
    ¬ Precedes log waiting front := by
  intro precedes
  rcases List.mem_cons.mp member with rfl | inOthers
  · exact precedes.asymm nodup precedes
  · exact
      precedes.asymm nodup
        ((precedes_of_mem_tail inOthers).of_sublist kept)

/--
Removing the first element with a property keeps exactly the elements without
it, in their order, when no other element has it.
-/
theorem eraseP_eq_filter {queue : List Element} {chosen : Element → Bool}
    (nodup : queue.Nodup)
    (unique :
      ∀ first ∈ queue, ∀ second ∈ queue,
        chosen first → chosen second → first = second) :
    queue.eraseP chosen = queue.filter fun element => ¬ chosen element := by
  induction queue with
  | nil => rfl
  | cons head rest inductionHypothesis =>
      obtain ⟨headFresh, restNodup⟩ := List.nodup_cons.mp nodup
      by_cases headChosen : chosen head
      · have restKept : ∀ element ∈ rest, decide (¬ chosen element) := by
          intro element member
          apply decide_eq_true
          intro isChosen
          have same :=
            unique element (List.mem_cons_of_mem _ member) head
              List.mem_cons_self isChosen headChosen
          exact headFresh (same ▸ member)
        rw [List.eraseP_cons_of_pos headChosen,
          List.filter_cons_of_neg (by simpa using headChosen),
          List.filter_eq_self.mpr restKept]
      · have tail :=
          inductionHypothesis restNodup
            (fun first firstMember second secondMember =>
              unique first (List.mem_cons_of_mem _ firstMember) second
                (List.mem_cons_of_mem _ secondMember))
        rw [List.eraseP_cons_of_neg headChosen, tail,
          List.filter_cons_of_pos (by simpa using headChosen)]

/-- Removing the only element with a property removes nothing else. -/
theorem mem_eraseP_iff {queue : List Element} {chosen : Element → Bool}
    (nodup : queue.Nodup)
    (unique :
      ∀ first ∈ queue, ∀ second ∈ queue,
        chosen first → chosen second → first = second)
    (element : Element) :
    element ∈ queue.eraseP chosen ↔
      element ∈ queue ∧ ¬ chosen element := by
  rw [eraseP_eq_filter nodup unique, List.mem_filter, decide_eq_true_iff]

end AeroRisk.Library.FifoQueue
