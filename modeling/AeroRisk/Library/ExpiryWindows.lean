import Mathlib.Data.List.Induction

/-!
# Windows of an expiring counter

A counter which expires a fixed duration after its first event splits a
sequence of events into windows: an event which finds no counter starts the
next one.  The windows are not those of a sliding interval, so events close to
each other may fall into two windows; they never fall into three.
-/

namespace AeroRisk.Library.ExpiryWindows

/-- The first and the last event of a window, and their number. -/
structure Window where
  first : Nat
  last : Nat
  count : Nat
deriving DecidableEq, Repr

/-- The windows after a further event, the latest one first. -/
def record (duration : Nat) (windows : List Window) (now : Nat) :
    List Window :=
  match windows with
  | [] => [{ first := now, last := now, count := 1 }]
  | window :: older =>
      if now ≤ window.first + duration then
        { window with last := now, count := window.count + 1 } :: older
      else
        { first := now, last := now, count := 1 } :: window :: older

/-- The windows of a sequence of events, the latest one first. -/
def windows (duration : Nat) (times : List Nat) : List Window :=
  times.foldl (record duration) []

variable {duration : Nat} {times : List Nat}

@[simp]
theorem windows_nil : windows duration [] = [] :=
  rfl

@[simp]
theorem windows_concat (times : List Nat) (now : Nat) :
    windows duration (times ++ [now]) =
      record duration (windows duration times) now := by
  rw [windows, List.foldl_append]
  rfl

/-- What every event keeps of the windows, all windows have. -/
theorem forall_windows {property : Window → Prop} (times : List Nat)
    (starts :
      ∀ now ∈ times, property { first := now, last := now, count := 1 })
    (goesOn :
      ∀ window, ∀ now ∈ times, property window →
        now ≤ window.first + duration →
          property { window with last := now, count := window.count + 1 }) :
    ∀ window ∈ windows duration times, property window := by
  induction times using List.reverseRecOn with
  | nil => simp
  | append_singleton times now inductionHypothesis =>
      have before :=
        inductionHypothesis
          (fun time member => starts time (List.mem_append_left _ member))
          (fun window time member =>
            goesOn window time (List.mem_append_left _ member))
      have member : now ∈ times ++ [now] := by simp
      rw [windows_concat]
      cases found : windows duration times with
      | nil => simpa [record] using starts now member
      | cons window older =>
          rw [found, List.forall_mem_cons] at before
          rw [record]
          split
          · next running =>
              rw [List.forall_mem_cons]
              exact ⟨goesOn window now member before.1 running, before.2⟩
          · rw [List.forall_mem_cons, List.forall_mem_cons]
            exact ⟨starts now member, before⟩

/-- A window has an event, and it ends when the counter expires. -/
theorem count_pos_and_last_le :
    ∀ window ∈ windows duration times,
      0 < window.count ∧ window.last ≤ window.first + duration := by
  apply forall_windows
  · intro now member
    exact ⟨Nat.one_pos, Nat.le_add_right now duration⟩
  · intro window now member before running
    exact ⟨Nat.succ_pos _, running⟩

/-- A window starts with one of the events. -/
theorem first_mem :
    ∀ window ∈ windows duration times, window.first ∈ times :=
  forall_windows times (fun _ member => member)
    fun _ _ _ before _ => before

/-- A window starts after the counters of the older ones expired. -/
theorem separated :
    (windows duration times).Pairwise fun newer older =>
      older.first + duration < newer.first := by
  induction times using List.reverseRecOn with
  | nil => exact List.Pairwise.nil
  | append_singleton times now inductionHypothesis =>
      rw [windows_concat]
      cases found : windows duration times with
      | nil => exact List.pairwise_singleton _ _
      | cons window older =>
          rw [found] at inductionHypothesis
          have others := List.pairwise_cons.mp inductionHypothesis
          rw [record]
          split
          · exact List.pairwise_cons.mpr others
          · next expired =>
              rw [List.pairwise_cons]
              refine ⟨?_, inductionHypothesis⟩
              intro other member
              have started : window.first + duration < now :=
                Nat.not_le.mp expired
              rcases List.mem_cons.mp member with rfl | isOlder
              · exact started
              · calc
                  other.first + duration < window.first :=
                    others.1 other isOlder
                  _ ≤ window.first + duration := Nat.le_add_right _ _
                  _ < now := started

/-- The latest window holds the last events, the others those before them. -/
theorem exists_split {window : Window} {older : List Window}
    (latest : windows duration times = window :: older) :
    ∃ before current,
      times = before ++ (current ++ [window.last]) ∧
        windows duration before = older ∧
        (current ++ [window.last]).length = window.count := by
  induction times using List.reverseRecOn generalizing window older with
  | nil => cases latest
  | append_singleton times now inductionHypothesis =>
      rw [windows_concat] at latest
      cases found : windows duration times with
      | nil =>
          rw [found] at latest
          cases latest
          exact ⟨times, [], rfl, found, rfl⟩
      | cons previous others =>
          rw [found, record] at latest
          split at latest
          · cases latest
            obtain ⟨before, current, split, sameOlder, sameCount⟩ :=
              inductionHypothesis found
            refine ⟨before, current ++ [previous.last], ?_, sameOlder, ?_⟩
            · rw [split, List.append_assoc]
            · rw [List.length_append, sameCount]
              rfl
          · cases latest
            exact ⟨times, [], rfl, found, rfl⟩

/-- What stands at or after a place of a sorted list is not smaller. -/
theorem le_of_later {earlier recent before after : List Nat}
    {first second : Nat} (sorted : times.Pairwise (· ≤ ·))
    (firstSplit : times = earlier ++ first :: recent)
    (secondSplit : times = before ++ second :: after)
    (later : after.length ≤ recent.length) : first ≤ second := by
  rw [firstSplit] at secondSplit sorted
  rcases List.append_eq_append_iff.mp secondSplit with
    ⟨between, -, rest⟩ | ⟨between, -, rest⟩
  · cases between with
    | nil =>
        cases rest
        exact Nat.le_refl first
    | cons head between =>
        rw [List.cons_append, List.cons.injEq] at rest
        have followers := (List.pairwise_append.mp sorted).2.1
        apply (List.pairwise_cons.mp followers).1
        rw [rest.2]
        simp
  · have lengths := congrArg List.length rest
    have nothing : between = [] := by
      rw [← List.length_eq_zero_iff]
      simp only [List.length_cons, List.length_append] at lengths
      omega
    subst nothing
    cases rest
    exact Nat.le_refl first

/--
When the latest window is too short for the last events of a sorted sequence,
the window before it reaches up to the first of them.
-/
theorem le_last_of_straddling {earlier recent : List Nat} {first : Nat}
    {window previous : Window} {older : List Window}
    (sorted : times.Pairwise (· ≤ ·))
    (split : times = earlier ++ first :: recent)
    (latest : windows duration times = window :: previous :: older)
    (short : window.count ≤ recent.length) : first ≤ previous.last := by
  obtain ⟨before, current, isAll, sameOlder, sameCount⟩ :=
    exists_split latest
  obtain ⟨stillBefore, middle, isBefore, -, -⟩ := exists_split sameOlder
  have previousSplit :
      times =
        (stillBefore ++ middle) ++
          previous.last :: (current ++ [window.last]) := by
    rw [isAll, isBefore]
    simp
  exact le_of_later sorted split previousSplit (sameCount ▸ short)

end AeroRisk.Library.ExpiryWindows
