import AeroRisk.Disruptor.Producers

/-!
# Which numbers `Next` claims

A claim is a successful CAS on the cursor, so a call of `Next` makes at most
one.  Whatever the interleaving, the claims are the numbers up to the cursor,
each made once and in order.
-/

namespace AeroRisk.Disruptor.System

open AeroRisk.Library

variable {Event : Type}

/-- The numbers claimed so far, by any producer. -/
def claimed (system : System Event) : List Int :=
  system.claims.map Prod.snd

/-- The numbers which a producer claimed, the earliest first. -/
def claimedBy (system : System Event) (producer : Nat) : List Int :=
  (system.claims.filter fun claim => claim.1 = producer).map Prod.snd

/-- Claims are unique and gap-free, and those of a producer increase. -/
structure UniqueClaims (system : System Event) : Prop where
  distinct : system.claimed.Nodup
  gapFree :
    ∀ sequence,
      sequence ∈ system.claimed ↔
        0 ≤ sequence ∧ sequence ≤ system.ring.cursor
  increasing : ∀ producer, (system.claimedBy producer).Pairwise (· < ·)

variable {payload : Int → Event} {zero : Event} {system : System Event}

theorem Sound.uniqueClaims (sound : system.Sound payload zero) :
    system.UniqueClaims where
  distinct := sound.exact.issued_sorted.imp Int.ne_of_lt
  gapFree := sound.exact.mem_issued_iff
  increasing := sound.exact.issued_sorted_of_holder

/-- Claims are unique and gap-free in every state of every run. -/
theorem claims_unique (payload : Int → Event) (zero : Event)
    {size : Int64} (fits : size.toInt ≤ 2 ^ 62) (schedule : List Nat) :
    (LabelledRun.run (produce payload) (initial zero fits)
      schedule).UniqueClaims :=
  ((Sound.initial fits).run schedule).uniqueClaims

theorem claims_unique_sample :
    (LabelledRun.run (produce id) (initial 0 twoFits)
      [0, 1, 1, 0, 0, 0]).UniqueClaims :=
  claims_unique id 0 twoFits [0, 1, 1, 0, 0, 0]

/-- Two producers load the same cursor; the one which loses claims next. -/
example :
    (LabelledRun.run (produce id) (initial 0 twoFits)
      [0, 1, 1, 0, 0, 0]).claims = [(1, 0), (0, 1)] := by
  decide

end AeroRisk.Disruptor.System
