import AeroRisk.Library.LabelledRun
import Mathlib.Logic.Function.Basic

/-!
# Components with a state for every key

A label names a key, and its step reads and writes the state of this key only.
What the steps of one key return is then what they return when they run alone.
-/

namespace AeroRisk.Library.KeyedStates

open AeroRisk.Library.LabelledRun

universe u v w x

variable
    {Key : Type u} {State : Type v} {Label : Type w} {Output : Type x}
    [DecidableEq Key]
    (key : Label → Key) (step : State → Label → State × Output)

/-- The states of all keys after a label. -/
def next (states : Key → State) (label : Label) : Key → State :=
  Function.update states (key label) (step (states (key label)) label).1

/-- What a label returns. -/
def emit (states : Key → State) (label : Label) : Output :=
  (step (states (key label)) label).2

/-- The labels of one key return what they return without the other ones. -/
theorem outputsOf_key (chosen : Key) (start : Key → State)
    (labels : List Label) :
    outputsOf (next key step) (emit key step)
        (fun label => key label = chosen) start labels =
      outputs (next key step) (emit key step) start
        (labels.filter fun label => key label = chosen) := by
  have sameOutput :
      ∀ (states others : Key → State) (label : Label),
        states chosen = others chosen → key label = chosen →
          emit key step states label = emit key step others label := by
    rintro states others label same rfl
    rw [emit, emit, same]
  have moved :
      ∀ (states others : Key → State) (label : Label),
        states chosen = others chosen → key label = chosen →
          next key step states label chosen =
            next key step others label chosen := by
    rintro states others label same rfl
    rw [next, next, Function.update_self, Function.update_self, same]
  have unmoved :
      ∀ (states others : Key → State) (label : Label),
        states chosen = others chosen → ¬ key label = chosen →
          next key step states label chosen = others chosen := by
    intro states others label same different
    rw [next, Function.update_of_ne (Ne.symm different), same]
  exact
    outputsOf_eq_outputs_filter sameOutput moved unmoved
      (Eq.refl (start chosen)) labels

/--
Labels which are the only ones of their key in a run return what they return
without the other labels of the run.
-/
theorem outputsOf_of_separate {visible : Label → Prop}
    [DecidablePred visible] {chosen : Key} (start : Key → State)
    {labels : List Label}
    (separate : ∀ label ∈ labels, visible label ↔ key label = chosen) :
    outputsOf (next key step) (emit key step) visible start labels =
      outputs (next key step) (emit key step) start
        (labels.filter fun label => visible label) := by
  have sameFilter :
      (labels.filter fun label => visible label) =
        labels.filter fun label => key label = chosen := by
    apply List.filter_congr
    intro label member
    exact decide_eq_decide.mpr (separate label member)
  rw [sameFilter, ← outputsOf_key]
  exact outputsOf_congr start separate

end AeroRisk.Library.KeyedStates
