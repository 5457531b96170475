import Mathlib.Algebra.BigOperators.Group.Multiset.Basic
import Mathlib.Algebra.BigOperators.Group.List.Basic
import Mathlib.Data.Finmap

/-!
# Totals over finite maps

The total of a map is the sum of its values.  Inserting and erasing a key
change the total by what the key had before.
-/

namespace AeroRisk.Library.MapTotal

universe u v

variable {Key : Type u} {Money : Type v} [AddCommGroup Money]

/-- The sum of the values of a map. -/
def total (amounts : Finmap fun _ : Key => Money) : Money :=
  (amounts.entries.map Sigma.snd).sum

@[simp]
theorem total_empty : total (∅ : Finmap fun _ : Key => Money) = 0 :=
  rfl

variable [DecidableEq Key] (amounts : Finmap fun _ : Key => Money) (key : Key)

/-- The value of a key, which is zero for an absent key. -/
def valueAt : Money :=
  (amounts.lookup key).getD 0

variable {amounts key}

theorem total_insert_of_notMem (absent : key ∉ amounts) (amount : Money) :
    total (amounts.insert key amount) = amount + total amounts := by
  rw [total, total, Finmap.entries_insert_of_notMem absent, Multiset.map_cons,
    Multiset.sum_cons]

variable (amounts key)

@[simp]
theorem total_erase :
    total (amounts.erase key) = total amounts - valueAt amounts key := by
  cases found : amounts.lookup key with
  | none =>
      have unchanged : amounts.erase key = amounts := by
        apply Finmap.ext_lookup
        intro other
        by_cases same : other = key
        · rw [same, Finmap.lookup_erase, found]
        · exact Finmap.lookup_erase_ne same
      rw [unchanged, valueAt, found, Option.getD_none, sub_zero]
  | some amount =>
      have restored : (amounts.erase key).insert key amount = amounts := by
        apply Finmap.ext_lookup
        intro other
        by_cases same : other = key
        · rw [same, Finmap.lookup_insert, found]
        · rw [Finmap.lookup_insert_of_ne _ same, Finmap.lookup_erase_ne same]
      have split :
          total ((amounts.erase key).insert key amount) =
            amount + total (amounts.erase key) :=
        total_insert_of_notMem Finmap.notMem_erase_self amount
      rw [restored] at split
      rw [valueAt, found, Option.getD_some, split, add_sub_cancel_left]

@[simp]
theorem total_insert (amount : Money) :
    total (amounts.insert key amount) =
      total amounts - valueAt amounts key + amount := by
  have replaced :
      amounts.insert key amount = (amounts.erase key).insert key amount := by
    apply Finmap.ext_lookup
    intro other
    by_cases same : other = key
    · rw [same, Finmap.lookup_insert, Finmap.lookup_insert]
    · rw [Finmap.lookup_insert_of_ne _ same, Finmap.lookup_insert_of_ne _ same,
        Finmap.lookup_erase_ne same]
  rw [replaced, total_insert_of_notMem Finmap.notMem_erase_self, total_erase,
    add_comm]

end AeroRisk.Library.MapTotal
