import AeroRisk.Library.KeyedStates
import Mathlib.Data.List.Induction
import Mathlib.Data.List.TakeWhile

/-!
# Sliding windows over a log

A window holds the latest entries of a log.  Now and then the entries at its
front are dropped as long as they are stale.  Along a log whose older entries
become stale first, this leaves exactly the entries which are not stale, as
long as what was stale once stays so.

The second part is about components with a window for every key.
-/

namespace AeroRisk.Library.SlidingWindow

universe u

variable {Entry : Type u}
variable {stale later : Entry → Prop}
variable {log window : List Entry}

/-- Of two entries of the log the older one becomes stale first. -/
def Ageing (stale : Entry → Prop) (log : List Entry) : Prop :=
  log.Pairwise fun older newer => stale newer → stale older

/-- The window is the log without some stale entries at its front. -/
def Covers (stale : Entry → Prop) (log window : List Entry) : Prop :=
  ∃ dropped, log = dropped ++ window ∧ ∀ entry ∈ dropped, stale entry

theorem covers_self (stale : Entry → Prop) (log : List Entry) :
    Covers stale log log :=
  ⟨[], rfl, fun _ member => absurd member List.not_mem_nil⟩

namespace Covers

/-- What covers a log still does when more entries are stale. -/
theorem mono (covers : Covers stale log window)
    (stays : ∀ entry ∈ log, stale entry → later entry) :
    Covers later log window := by
  rcases covers with ⟨dropped, rfl, isStale⟩
  refine ⟨dropped, rfl, fun entry member => ?_⟩
  exact stays entry (List.mem_append_left _ member) (isStale entry member)

/-- The entries of the window are entries of the log. -/
theorem subset (covers : Covers stale log window) : window ⊆ log := by
  rcases covers with ⟨dropped, rfl, -⟩
  exact List.subset_append_right dropped window

/-- A new entry is appended to the log and to the window. -/
theorem concat (covers : Covers stale log window) (entry : Entry) :
    Covers stale (log ++ [entry]) (window ++ [entry]) := by
  rcases covers with ⟨dropped, rfl, isStale⟩
  exact ⟨dropped, List.append_assoc dropped window [entry], isStale⟩

variable [DecidablePred stale]

/-- Stale entries are dropped at the front of the window. -/
theorem evict (covers : Covers stale log window) :
    Covers stale log (window.dropWhile fun entry => stale entry) := by
  rcases covers with ⟨dropped, rfl, isStale⟩
  refine
    ⟨dropped ++ window.takeWhile fun entry => stale entry, ?_, ?_⟩
  · rw [List.append_assoc, List.takeWhile_append_dropWhile]
  · intro entry member
    rcases List.mem_append.mp member with before | front
    · exact isStale entry before
    · simpa using List.mem_takeWhile_imp front

end Covers

variable [DecidablePred stale]

/-- In a log which ages the stale entries are those at the front. -/
theorem dropWhile_eq_filter (ageing : Ageing stale log) :
    (log.dropWhile fun entry => stale entry) =
      log.filter fun entry => ¬ stale entry := by
  induction log with
  | nil => rfl
  | cons entry rest inductionHypothesis =>
      rcases List.pairwise_cons.mp ageing with ⟨aged, restAgeing⟩
      by_cases isStale : stale entry
      · simp [isStale, inductionHypothesis restAgeing]
      · have fresh : ∀ newer ∈ entry :: rest, ¬ stale newer := by
          rw [List.forall_mem_cons]
          exact ⟨isStale, fun newer member => mt (aged newer member) isStale⟩
        rw [List.dropWhile_cons_of_neg (by simpa using isStale),
          List.filter_eq_self.mpr (by simpa using fresh)]

/-- What the eviction leaves of the window is what is not stale in the log. -/
theorem Covers.dropWhile_eq_filter (covers : Covers stale log window)
    (ageing : Ageing stale log) :
    (window.dropWhile fun entry => stale entry) =
      log.filter fun entry => ¬ stale entry := by
  rcases covers with ⟨dropped, rfl, isStale⟩
  have noneLeft :
      (dropped.filter fun entry => ¬ stale entry) = [] := by
    rw [List.filter_eq_nil_iff]
    simpa using isStale
  rw [List.filter_append, noneLeft, List.nil_append]
  exact SlidingWindow.dropWhile_eq_filter (List.pairwise_append.mp ageing).2.1

/-! ## Windows of keyed components -/

section Keyed

open AeroRisk.Library.LabelledRun

universe v w x

variable {Key : Type v} {Label : Type w} {Output : Type x}
variable [DecidableEq Key]
variable (key : Label → Key) {entry : Label → Entry}
variable {observe : List Entry → Label → List Entry × Output}

/-- The entries of the accepted labels of a key. -/
def logOf (entry : Label → Entry) (accepted : Label → Prop)
    [DecidablePred accepted] (chosen : Key) (labels : List Label) :
    List Entry :=
  (labels.filter fun label => key label = chosen ∧ accepted label).map entry

theorem logOf_concat (accepted : Label → Prop) [DecidablePred accepted]
    (chosen : Key) (labels : List Label) (label : Label) :
    logOf key entry accepted chosen (labels ++ [label]) =
      if key label = chosen ∧ accepted label then
        logOf key entry accepted chosen labels ++ [entry label]
      else
        logOf key entry accepted chosen labels := by
  rw [logOf, List.filter_append, List.map_append]
  by_cases isLogged : key label = chosen ∧ accepted label
  · rw [if_pos isLogged, List.filter_cons_of_pos (by simpa using isLogged)]
    rfl
  · rw [if_neg isLogged, List.filter_cons_of_neg (by simpa using isLogged)]
    exact List.append_nil _

theorem mem_logOf {accepted : Label → Prop} [DecidablePred accepted]
    {chosen : Key} {labels : List Label} {old : Entry}
    (member : old ∈ logOf key entry accepted chosen labels) :
    ∃ label ∈ labels, entry label = old := by
  rcases List.mem_map.mp member with ⟨label, isChosen, isEntry⟩
  exact ⟨label, List.mem_of_mem_filter isChosen, isEntry⟩

/--
The rule for windows from which every accepted label evicts what is stale for
it: in a run whose labels are in order the window of a key covers the log of
the key, as any label sees it which comes after the run.
-/
theorem covers_run
    {accepted : Label → Prop} [DecidablePred accepted]
    {stale : Label → Entry → Prop} [∀ label, DecidablePred (stale label)]
    {before : Label → Label → Prop}
    (onward :
      ∀ earlier label, before earlier label →
        ∀ old, stale earlier old → stale label old)
    {labels : List Label}
    (observed :
      ∀ label ∈ labels, ∀ window,
        (∀ old ∈ window, ∃ earlier ∈ labels, entry earlier = old) →
          (observe window label).1 =
            if accepted label then
              (window.dropWhile fun old => stale label old) ++ [entry label]
            else
              window)
    (ordered : labels.Pairwise before)
    {bound : Label} (last : ∀ label ∈ labels, before label bound)
    (chosen : Key) :
    Covers (stale bound) (logOf key entry accepted chosen labels)
      (run (KeyedStates.next key observe) (fun _ => []) labels chosen) := by
  induction labels using List.reverseRecOn generalizing bound with
  | nil => exact covers_self (stale bound) []
  | append_singleton labels label inductionHypothesis =>
      have isLast : before label bound := last label (by simp)
      have split := List.pairwise_append.mp ordered
      have sofar :
          Covers (stale label) (logOf key entry accepted chosen labels)
            (run (KeyedStates.next key observe) (fun _ => []) labels
              chosen) := by
        apply inductionHypothesis _ split.1
        · exact fun earlier member => split.2.2 earlier member label (by simp)
        · intro earlier member window known
          apply observed earlier (List.mem_append_left _ member)
          intro old isOld
          rcases known old isOld with ⟨source, isSource, isEntry⟩
          exact ⟨source, List.mem_append_left _ isSource, isEntry⟩
      have later := sofar.mono fun old _ => onward label bound isLast old
      rw [logOf_concat, run_append, run_cons, run_nil, KeyedStates.next]
      by_cases sameKey : key label = chosen
      · subst sameKey
        have known :
            ∀ old ∈ run (KeyedStates.next key observe) (fun _ => []) labels
                (key label),
              ∃ earlier ∈ labels ++ [label], entry earlier = old := by
          intro old isOld
          rcases mem_logOf key (sofar.subset isOld) with
            ⟨source, isSource, isEntry⟩
          exact ⟨source, List.mem_append_left _ isSource, isEntry⟩
        rw [Function.update_self, observed label (by simp) _ known]
        by_cases isAccepted : accepted label
        · rw [if_pos ⟨rfl, isAccepted⟩, if_pos isAccepted]
          apply Covers.concat
          exact sofar.evict.mono fun old _ => onward label bound isLast old
        · rw [if_neg (fun both => isAccepted both.2), if_neg isAccepted]
          exact later
      · rw [Function.update_of_ne (Ne.symm sameKey),
          if_neg (fun both => sameKey both.1)]
        exact later

end Keyed

end AeroRisk.Library.SlidingWindow
